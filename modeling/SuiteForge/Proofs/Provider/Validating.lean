import SuiteForge.Proofs.Provider.Asking
import SuiteForge.Proofs.Text.Trimming

/-!
# What validation tells of a provider

The problems that a generator reports are about its key and its provider. A client needs an address
as well, so without problems there is a client just when the address is one of the web, and the
provider is asked just when there is a client.
-/

namespace SuiteForge

/-! ### Addresses -/

namespace Provider

variable {p : Provider} {baseUrl : Option String}

/-- The address in use is one of the web. -/
def Accepts (p : Provider) (baseUrl : Option String) : Prop :=
  ∃ scheme, Web.checkAddress (p.base baseUrl).toList = .ok scheme ∧
    (scheme = "http" ∨ scheme = "https")

theorem endpoint_ok_iff : (∃ address, p.endpoint baseUrl = .ok address) ↔ p.Accepts baseUrl := by
  unfold endpoint Accepts
  dsimp only
  cases Web.checkAddress (p.base baseUrl).toList with
  | error fault => simp
  | ok scheme => by_cases hweb : scheme = "http" ∨ scheme = "https" <;> simp [hweb]

theorem accepts_defaultBase (h : p.base baseUrl = p.defaultBase) : p.Accepts baseUrl := by
  -- each provider's own address is checked as it is written
  have hcheck : (Web.checkAddress p.defaultBase.toList).toOption = some "https" := by
    cases p <;> decide +kernel
  unfold Accepts
  rw [h]
  cases hscheme : Web.checkAddress p.defaultBase.toList with
  | error fault => simp [hscheme, Except.toOption] at hcheck
  | ok scheme =>
    rw [hscheme] at hcheck
    cases hcheck
    exact ⟨"https", rfl, Or.inr rfl⟩

theorem base_of_blank (h : ∀ b ∈ baseUrl, ∀ c ∈ b.toList, Text.isBlank c = true) :
    p.base baseUrl = p.defaultBase := by
  cases baseUrl with
  | none => rfl
  | some b =>
    have htrim := Text.trim_of_blank (h b rfl)
    simp [base, htrim]

end Provider

namespace AiGenerator

variable {g : AiGenerator} {f : Path} {context : List (String × String)} {o : AiOptions}
  {s : State} {client : Client}

/-! ### Problems and clients -/

theorem problems_eq_nil_iff : g.problems = [] ↔
    g.hasKey = true ∧ ∃ p, Provider.ofText g.settings.ai.provider = .ok p := by
  unfold problems
  cases g.hasKey <;> cases Provider.ofText g.settings.ai.provider <;> simp

theorem client_ok_iff : g.client = .ok client ↔
    g.hasKey = true ∧ Client.ofSettings g.settings.ai = .ok client := by
  unfold AiGenerator.client
  cases g.hasKey <;> simp

/-- The address of the settings is one of the web for the provider of the settings. -/
def AddressAccepted (g : AiGenerator) : Prop :=
  ∀ p, Provider.ofText g.settings.ai.provider = .ok p → p.Accepts g.settings.ai.baseUrl

theorem exists_client_iff :
    (∃ client, g.client = .ok client) ↔ g.problems = [] ∧ g.AddressAccepted := by
  have hsettled : (∃ client, g.client = .ok client) ↔
      g.hasKey = true ∧ ∃ client, Client.ofSettings g.settings.ai = .ok client := by
    simp only [client_ok_iff, exists_and_left]
  rw [hsettled, Client.ofSettings_ok_iff, problems_eq_nil_iff, AddressAccepted]
  -- without a provider there is neither a client nor an address to look at
  cases hprovider : Provider.ofText g.settings.ai.provider with
  | error e => simp
  | ok p => simp [Provider.endpoint_ok_iff]

theorem run_of_client_error {e : Error} (f : Path) (context : List (String × String))
    (o : AiOptions) (s : State) (h : g.client = .error e) : g.run f context o s = (.error e, s) := by
  have hplan : g.plan f context o s = .error e := by
    unfold plan
    rw [h]
    rfl
  rw [run, hplan]

/-! ### Asking -/

/-- Nothing but the settings may keep a generator from asking about a source: it can be read and
declares a class, and its test file may be written. -/
structure Open (g : AiGenerator) (f : Path) (o : AiOptions) (s : State) (text cls : String) :
    Prop where
  read : s.disk.readText g.cwd f = .ok text
  declares : Php.className? text = some cls
  free : s.log.ensureFree s.disk g.cwd (g.destination o cls) o.force = .ok ()

theorem Open.ready {text cls : String} (h : Open g f o s text cls) (hclient : g.client = .ok client) :
    Ready g f o s client text cls where
  key := (client_ok_iff.mp hclient).1
  settled := (client_ok_iff.mp hclient).2
  read := h.read
  declares := h.declares
  free := h.free

/-- What the settings let a generator do with a source that is open to it. -/
structure Admitted (g : AiGenerator) (f : Path) (context : List (String × String)) (o : AiOptions)
    (s : State) (text : String) : Prop where
  /-- With a client one request for the source is given to the line, and nothing else is. -/
  asked : ∀ client, g.client = .ok client →
    (g.run f context o s).2.line = (s.line.post (g.asks context o client text)).2
  /-- Without one the run ends before a request, and nothing changes. -/
  stopped : ∀ e, g.client = .error e → g.run f context o s = (.error e, s)
  /-- So on a line that carries what it is given, a request is sent just when there is a client. -/
  sent_iff : s.line.web = false →
    ((∃ r, (g.run f context o s).2.line.sent = s.line.sent ++ [r]) ↔ ∃ client, g.client = .ok client)

theorem Open.admitted {text cls : String} (context : List (String × String))
    (h : Open g f o s text cls) : Admitted g f context o s text := by
  constructor
  case asked =>
    intro client hclient
    exact (h.ready hclient).line_run
  case stopped =>
    intro e he
    exact run_of_client_error f context o s he
  case sent_iff =>
    intro hline
    cases hclient : g.client with
    | error e => simp [run_of_client_error f context o s hclient]
    | ok client =>
      rw [(h.ready hclient).line_run, Line.sent_post (Line.carries_of_not_web hline _)]
      simp

/-- What validation tells of the settings of a provider. -/
structure Validated (g : AiGenerator) : Prop where
  /-- A problem is reported for a key that is blank and for a provider that is unknown. -/
  problems_iff : g.problems = [] ↔
    (∃ c ∈ g.settings.ai.apiKey.toList, Text.isBlank c = false) ∧
      ∃ p, Provider.ofText g.settings.ai.provider = .ok p
  /-- Without problems there is a client just when the address is one of the web, -/
  client_iff : (∃ client, g.client = .ok client) ↔ g.problems = [] ∧ g.AddressAccepted
  /-- so the lack of one is missed just when its address is another one, -/
  missed_iff : g.problems = [] → ((¬ ∃ client, g.client = .ok client) ↔
    ∃ p, Provider.ofText g.settings.ai.provider = .ok p ∧ ¬ p.Accepts g.settings.ai.baseUrl)
  /-- and never when the settings leave the address to the provider. -/
  exact_of_blank : (∀ b ∈ g.settings.ai.baseUrl, ∀ c ∈ b.toList, Text.isBlank c = true) →
    ((∃ client, g.client = .ok client) ↔ g.problems = [])
  admitted : ∀ f context o s text cls, Open g f o s text cls → Admitted g f context o s text

/-- Validation is exact but for the address, which it does not look at. -/
theorem validation_misses_address_only (g : AiGenerator) : Validated g := by
  have hmissed : ¬ g.AddressAccepted ↔ ∃ p, Provider.ofText g.settings.ai.provider = .ok p ∧
      ¬ p.Accepts g.settings.ai.baseUrl := by
    simp [AddressAccepted]
  constructor
  case problems_iff =>
    rw [problems_eq_nil_iff]
    simp [hasKey]
  case client_iff => exact exists_client_iff
  case missed_iff =>
    intro hproblems
    rw [exists_client_iff, ← hmissed]
    simp [hproblems]
  case exact_of_blank =>
    intro hblank
    have haccepted : g.AddressAccepted := by
      intro p _
      exact Provider.accepts_defaultBase (Provider.base_of_blank hblank)
    rw [exists_client_iff]
    exact and_iff_left haccepted
  case admitted =>
    intro f context o s text cls hopen
    exact hopen.admitted context

def withoutWeb : AiGenerator where
  settings := { ai := { apiKey := "k", baseUrl := some "not a url" } }
  root := ⟨"."⟩
  cwd := []

/-- No problem is reported, but there is no client, and a source that is open costs no request. -/
theorem validation_passes_withoutWeb :
    withoutWeb.problems = [] ∧ (¬ ∃ client, withoutWeb.client = .ok client) ∧
      (∃ text cls, Open withoutWeb ⟨"Foo.php"⟩ {} fencedAnswer text cls) ∧
      (withoutWeb.run ⟨"Foo.php"⟩ [] {} fencedAnswer).2.line.sent = [] := by
  have hnone : withoutWeb.client.toOption.isNone = true := by decide +kernel
  refine ⟨by decide +kernel, ?_, ?_, List.length_eq_zero_iff.mp (by decide +kernel)⟩
  · rintro ⟨client, hclient⟩
    rw [hclient] at hnone
    cases hnone
  · exact ⟨_, "Foo", rfl, by decide +kernel, rfl⟩

end AiGenerator
end SuiteForge
