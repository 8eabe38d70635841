import SuiteForge.Proofs.Php.Introspection
import SuiteForge.Proofs.Provider.Prompt
import SuiteForge.Proofs.WriteLog
import SuiteForge.Provider.Generator

/-!
# Asking the provider

What is settled before the provider is asked, what it is asked, and what is done with the reply. A
source for which something is not settled costs no request and changes nothing; for any other one a
single request is sent, and its reply decides whether a file is written.
-/

namespace SuiteForge

/-! ### Requests -/

namespace Client

/-- A request has one message, and the user says the prompt in it. -/
theorem messages_request (c : Client) (prompt : String) (o : CompletionOptions) :
    (c.request prompt o).body.member? "messages" =
      some (.array [.record [("content", .text prompt), ("role", .text "user")]]) := by
  unfold request
  cases c.provider with
  | openAi => rfl
  | anthropic => rfl

/-- A reply brings code: it is a success with a text, which is not blank without its fences. -/
def Brings (c : Client) (reply : Reply) (code : String) : Prop :=
  ∃ status body answer, reply = .answer status body ∧ 200 ≤ status ∧ status < 300 ∧
    Answer.content c.provider body = .ok (some answer) ∧ code = CodeFence.code answer ∧ code ≠ ""

theorem meaning_ok_some_iff {c : Client} {reply : Reply} {answer : String} :
    c.meaning reply = .ok (some answer) ↔ ∃ status body, reply = .answer status body ∧
      200 ≤ status ∧ status < 300 ∧ Answer.content c.provider body = .ok (some answer) := by
  constructor
  · intro h
    cases reply with
    | lost reason => cases h
    | answer status body =>
      rw [meaning] at h
      split at h
      · rename_i hstatus
        split at h
        · rename_i text hcontent
          cases h
          exact ⟨status, body, rfl, hstatus.1, hstatus.2, hcontent⟩
        · cases h
      · cases h
  · rintro ⟨status, body, rfl, hlow, hhigh, hcontent⟩
    simp only [meaning, if_pos (And.intro hlow hhigh), hcontent]

theorem brings_iff {c : Client} {reply : Reply} {code : String} :
    c.Brings reply code ↔ ∃ answer, c.meaning reply = .ok (some answer) ∧
      code = CodeFence.code answer ∧ code ≠ "" := by
  simp only [Brings, meaning_ok_some_iff]
  constructor
  · rintro ⟨status, body, answer, hreply, hlow, hhigh, hcontent, hcode, hne⟩
    exact ⟨answer, ⟨status, body, hreply, hlow, hhigh, hcontent⟩, hcode, hne⟩
  · rintro ⟨answer, ⟨status, body, hreply, hlow, hhigh, hcontent⟩, hcode, hne⟩
    exact ⟨status, body, answer, hreply, hlow, hhigh, hcontent, hcode, hne⟩

theorem ofSettings_ok_iff {settings : AiSettings} :
    (∃ c, ofSettings settings = .ok c) ↔ ∃ p, Provider.ofText settings.provider = .ok p ∧
      ∃ endpoint, p.endpoint settings.baseUrl = .ok endpoint := by
  unfold ofSettings
  cases Provider.ofText settings.provider with
  | error e => simp [bind, Except.bind]
  | ok p =>
    cases hendpoint : p.endpoint settings.baseUrl with
    | error e => simp [bind, Except.bind, hendpoint]
    | ok endpoint => simp [bind, Except.bind, pure, Except.pure, hendpoint]

theorem provider_of_ofSettings {settings : AiSettings} {c : Client}
    (h : ofSettings settings = .ok c) : Provider.ofText settings.provider = .ok c.provider := by
  unfold ofSettings at h
  cases hprovider : Provider.ofText settings.provider with
  | error e =>
    rw [hprovider] at h
    cases h
  | ok p =>
    rw [hprovider] at h
    cases hendpoint : p.endpoint settings.baseUrl with
    | error e => simp [bind, Except.bind, hendpoint] at h
    | ok endpoint =>
      simp only [bind, Except.bind, pure, Except.pure, hendpoint] at h
      cases h
      rfl

end Client

/-- A line that is not over the web carries every request. -/
theorem Line.carries_of_not_web {line : Line} (h : line.web = false) (r : Request) :
    line.carries r = true := by
  simp [carries, h]

theorem Line.sent_post {line : Line} {r : Request} (h : line.carries r = true) :
    (line.post r).2.sent = line.sent ++ [r] := by
  simp [post, h]

namespace AiGenerator

open Disk (Widens)
open WriteLog (Fits Wrote)

variable {g : AiGenerator} {f : Path} {context : List (String × String)} {o : AiOptions}
  {s : State} {client : Client} {text cls answer : String} {p : Plan} {force : Bool}

/-! ### Before a request -/

def destination (g : AiGenerator) (o : AiOptions) (cls : String) : Path :=
  testFilePath (g.directory o.testType) cls g.settings.generation.extension

/-- What keeps a generator from asking the provider about a source. -/
inductive Barred (g : AiGenerator) (f : Path) (o : AiOptions) (s : State) : Prop where
  | blankKey (h : ∀ c ∈ g.settings.ai.apiKey.toList, Text.isBlank c = true)
  | unknownProvider {e : Error} (h : Provider.ofText g.settings.ai.provider = .error e)
  | rejectedAddress {provider : Provider} {e : Error}
      (hprovider : Provider.ofText g.settings.ai.provider = .ok provider)
      (h : provider.endpoint g.settings.ai.baseUrl = .error e)
  | unreadable {cause : Disk.Cause} (h : s.disk.readText g.cwd f = .error cause)
  | noClass {text : String} (hread : s.disk.readText g.cwd f = .ok text)
      (h : Php.className? text = none)
  | taken {text cls : String} (hread : s.disk.readText g.cwd f = .ok text)
      (hclass : Php.className? text = some cls)
      (h : s.log.contains (g.destination o cls) = true ∨
        s.disk.isThere g.cwd (g.destination o cls) = true ∧ o.force = false)

/-- Everything that is settled before the provider is asked. -/
structure Ready (g : AiGenerator) (f : Path) (o : AiOptions) (s : State) (client : Client)
    (text cls : String) : Prop where
  key : g.hasKey = true
  settled : Client.ofSettings g.settings.ai = .ok client
  read : s.disk.readText g.cwd f = .ok text
  declares : Php.className? text = some cls
  free : s.log.ensureFree s.disk g.cwd (g.destination o cls) o.force = .ok ()

theorem hasKey_eq_false_iff :
    g.hasKey = false ↔ ∀ c ∈ g.settings.ai.apiKey.toList, Text.isBlank c = true := by
  simp [hasKey]

theorem Ready.not_barred (h : Ready g f o s client text cls) : ¬ Barred g f o s := by
  intro hbarred
  have hsettled := Client.ofSettings_ok_iff.mp ⟨client, h.settled⟩
  obtain ⟨provider, hprovider, endpoint, hendpoint⟩ := hsettled
  cases hbarred with
  | blankKey hkey =>
    have hblank := hasKey_eq_false_iff.mpr hkey
    rw [h.key] at hblank
    cases hblank
  | unknownProvider hunknown => rw [hprovider] at hunknown; cases hunknown
  | rejectedAddress hother hrejected =>
    rw [hprovider] at hother
    cases hother
    rw [hendpoint] at hrejected
    cases hrejected
  | unreadable hunreadable => rw [h.read] at hunreadable; cases hunreadable
  | noClass hread hnone =>
    rw [h.read] at hread
    cases hread
    rw [h.declares] at hnone
    cases hnone
  | taken hread hclass htaken =>
    rw [h.read] at hread
    cases hread
    rw [h.declares] at hclass
    cases hclass
    obtain ⟨hnew, hfree⟩ := WriteLog.ensureFree_ok_iff.mp h.free
    rcases htaken with hlogged | ⟨hthere, hforce⟩
    · rw [hnew] at hlogged
      cases hlogged
    · rcases hfree with hforced | habsent
      · rw [hforce] at hforced
        cases hforced
      · rw [hthere] at habsent
        cases habsent

theorem barred_or_ready (g : AiGenerator) (f : Path) (o : AiOptions) (s : State) :
    Barred g f o s ∨ ∃ client text cls, Ready g f o s client text cls := by
  cases hkey : g.hasKey with
  | false => exact Or.inl (.blankKey (hasKey_eq_false_iff.mp hkey))
  | true =>
    cases hprovider : Provider.ofText g.settings.ai.provider with
    | error e => exact Or.inl (.unknownProvider hprovider)
    | ok provider =>
      cases hendpoint : provider.endpoint g.settings.ai.baseUrl with
      | error e => exact Or.inl (.rejectedAddress hprovider hendpoint)
      | ok endpoint =>
        obtain ⟨client, hsettled⟩ :=
          Client.ofSettings_ok_iff.mpr ⟨provider, hprovider, endpoint, hendpoint⟩
        cases hread : s.disk.readText g.cwd f with
        | error cause => exact Or.inl (.unreadable hread)
        | ok text =>
          cases hclass : Php.className? text with
          | none => exact Or.inl (.noClass hread hclass)
          | some cls =>
            cases hfree : s.log.ensureFree s.disk g.cwd (g.destination o cls) o.force with
            | ok _ => exact Or.inr ⟨client, text, cls, hkey, hsettled, hread, hclass, hfree⟩
            | error e =>
              have htaken := WriteLog.ensureFree_error_iff.mp hfree
              exact Or.inl (.taken hread hclass htaken.2)

/-- What a generator plans when everything is settled. -/
def planned (g : AiGenerator) (context : List (String × String)) (o : AiOptions)
    (client : Client) (text cls : String) : Plan where
  client
  destination := g.destination o cls
  prompt := Prompt.withContext text context o.prompt

/-- A request is planned just when everything is settled. -/
theorem plan_ok_some_iff : g.plan f context o s = .ok (some p) ↔
    ∃ client text cls, Ready g f o s client text cls ∧
      p = g.planned context o client text cls := by
  constructor
  · intro h
    unfold plan AiGenerator.client at h
    cases hkey : g.hasKey with
    | false => simp [hkey, bind, Except.bind] at h
    | true =>
      cases hsettled : Client.ofSettings g.settings.ai with
      | error e => simp [hkey, hsettled, bind, Except.bind] at h
      | ok client =>
        cases hread : Php.Source.read s.disk g.cwd f with
        | error e => simp [hkey, hsettled, hread, bind, Except.bind] at h
        | ok source =>
          obtain ⟨text, htext, rfl⟩ := Php.Source.read_ok_iff.mp hread
          simp only [hkey, if_true, hsettled, hread, bind, Except.bind, pure, Except.pure] at h
          split at h
          · cases h
          · rename_i cls hclass
            split at h
            · cases h
            · rename_i hfree
              cases h
              exact ⟨client, text, cls, ⟨hkey, hsettled, htext, hclass, hfree⟩, rfl⟩
  · rintro ⟨client, text, cls, h, rfl⟩
    have hread := Php.Source.read_ok_iff.mpr ⟨text, h.read, rfl⟩
    have hclass : (Php.Source.ofText f text).class? = some cls := h.declares
    have hfree := h.free
    unfold destination at hfree
    simp only [plan, AiGenerator.client, h.key, if_true, h.settled, hread, bind, Except.bind, pure,
      Except.pure, hclass, hfree]
    rfl

theorem run_of_barred (context : List (String × String)) (h : Barred g f o s) :
    (g.run f context o s).2 = s ∧
      ((g.run f context o s).1 = .ok false ∨ ∃ e, (g.run f context o s).1 = .error e) := by
  unfold run
  cases hplan : g.plan f context o s with
  | error e => exact ⟨rfl, Or.inr ⟨e, rfl⟩⟩
  | ok planned =>
    cases planned with
    | none => exact ⟨rfl, Or.inl rfl⟩
    | some p =>
      -- a plan with a request would mean that everything is settled
      obtain ⟨client, text, cls, hready, -⟩ := plan_ok_some_iff.mp hplan
      exact absurd h hready.not_barred

/-! ### With a reply -/

theorem line_place (g : AiGenerator) (p : Plan) (answer : String) (force : Bool) (s : State) :
    (g.place p answer force s).2.line = s.line := by
  simp only [place]
  split
  · rfl
  · split <;> rfl

/-- The code of an answer is put in its place just when there is some and the write goes through. -/
theorem place_true_iff : (g.place p answer force s).1 = .ok true ↔
    CodeFence.code answer ≠ "" ∧ ∃ log' d', s.log.write s.disk g.cwd p.destination
      (CodeFence.code answer) force = (.ok log', d') := by
  unfold place
  by_cases hcode : CodeFence.code answer = ""
  · simp [hcode]
  · simp only [hcode, if_false]
    split
    · rename_i log disk hwrite
      simp [hcode, hwrite]
    · rename_i hwrite
      simp [hwrite]
    · rename_i hwrite
      simp [hwrite]

/-- The code of an answer is written to its destination, or directories are made at most. -/
theorem place_cases (g : AiGenerator) (p : Plan) (answer : String) (force : Bool) (s : State) :
    ((g.place p answer force s).1 ≠ .ok true ∧ (g.place p answer force s).2.log = s.log ∧
        Widens s.disk (g.place p answer force s).2.disk) ∨
      ∃ place, (g.place p answer force s).1 = .ok true ∧
        Wrote s.log s.disk g.cwd p.destination (CodeFence.code answer) force place
          (g.place p answer force s).2.log (g.place p answer force s).2.disk := by
  simp only [place]
  split
  · exact Or.inl ⟨by simp, rfl, .refl _⟩
  · split
    · rename_i log disk hwrite
      obtain ⟨place, hwrote⟩ := WriteLog.wrote_of_write_ok hwrite
      exact Or.inr ⟨place, rfl, hwrote⟩
    · rename_i hwrite
      exact Or.inl ⟨by simp, rfl, WriteLog.widens_of_write_error hwrite⟩
    · rename_i hwrite
      exact Or.inl ⟨by simp, rfl, WriteLog.widens_of_write_error hwrite⟩

def asks (g : AiGenerator) (context : List (String × String)) (o : AiOptions) (client : Client)
    (text : String) : Request :=
  client.request (Prompt.withContext text context o.prompt) (.ofSettings g.settings.ai)

def replied (g : AiGenerator) (context : List (String × String)) (o : AiOptions)
    (client : Client) (text : String) (s : State) : State :=
  { s with line := (s.line.post (g.asks context o client text)).2 }

/-- A run in which everything is settled goes on with the meaning of the reply. -/
theorem run_of_ready (h : Ready g f o s client text cls) : g.run f context o s =
    match client.meaning (s.line.post (g.asks context o client text)).1 with
    | .error e => (.error e, g.replied context o client text s)
    | .ok none => (.ok false, g.replied context o client text s)
    | .ok (some answer) => g.place (g.planned context o client text cls) answer o.force
        (g.replied context o client text s) := by
  have hplan : g.plan f context o s = .ok (some (g.planned context o client text cls)) :=
    plan_ok_some_iff.mpr ⟨client, text, cls, h, rfl⟩
  rw [run, hplan]
  rfl

/-- What comes of a run in which everything is settled. -/
structure Asked (g : AiGenerator) (f : Path) (context : List (String × String)) (o : AiOptions)
    (s : State) (client : Client) (text cls : String) : Prop where
  ready : Ready g f o s client text cls
  /-- The request has one message, in which the user asks for tests of the source. -/
  message : ∃ prompt, Prompt.Embeds text context o.prompt prompt ∧
    (g.asks context o client text).body.member? "messages" =
      some (.array [.record [("content", .text prompt), ("role", .text "user")]])
  /-- It is given to the line once, and nothing else is. -/
  once : (g.run f context o s).2.line = (s.line.post (g.asks context o client text)).2
  sent : s.line.carries (g.asks context o client text) = true →
    (g.run f context o s).2.line.sent = s.line.sent ++ [g.asks context o client text]
  /-- Only a line over the web may refuse it. -/
  carried : s.line.web = false → s.line.carries (g.asks context o client text) = true
  /-- The run succeeds just when the reply brings code that the disk takes. -/
  succeeds_iff : (g.run f context o s).1 = .ok true ↔
    ∃ code, client.Brings (s.line.post (g.asks context o client text)).1 code ∧
      Fits s.disk g.cwd (g.destination o cls) code
  /-- Then the destination holds that code and is recorded. -/
  success : (g.run f context o s).1 = .ok true →
    (g.run f context o s).2.log.paths = g.destination o cls :: s.log.paths ∧
      ∃ code place, client.Brings (s.line.post (g.asks context o client text)).1 code ∧
        (g.run f context o s).2.disk.resolve g.cwd (g.destination o cls) =
          .ok (.entry place (.file code.toUTF8))
  /-- Otherwise no file and no record changes. -/
  failure : (g.run f context o s).1 ≠ .ok true →
    ((g.run f context o s).1 = .ok false ∨ ∃ e, (g.run f context o s).1 = .error e) ∧
      (g.run f context o s).2.log = s.log ∧
      ∀ l c, (g.run f context o s).2.disk.entry? l = some (.file c) ↔
        s.disk.entry? l = some (.file c)

theorem Ready.line_run (h : Ready g f o s client text cls) :
    (g.run f context o s).2.line = (s.line.post (g.asks context o client text)).2 := by
  rw [run_of_ready h]
  cases client.meaning (s.line.post (g.asks context o client text)).1 with
  | error e => rfl
  | ok completion =>
    cases completion with
    | none => rfl
    | some answer => exact line_place g _ answer o.force _

/-- Either the reply brings code, which is written, or directories are made at most. -/
theorem Ready.run_cases (h : Ready g f o s client text cls) :
    ((g.run f context o s).1 ≠ .ok true ∧ (g.run f context o s).2.log = s.log ∧
        Widens s.disk (g.run f context o s).2.disk) ∨
      ∃ code place, (g.run f context o s).1 = .ok true ∧
        client.Brings (s.line.post (g.asks context o client text)).1 code ∧
        Wrote s.log s.disk g.cwd (g.destination o cls) code o.force place
          (g.run f context o s).2.log (g.run f context o s).2.disk := by
  rw [run_of_ready h]
  cases hmeaning : client.meaning (s.line.post (g.asks context o client text)).1 with
  | error e => exact Or.inl ⟨by simp, rfl, .refl _⟩
  | ok completion =>
    cases completion with
    | none => exact Or.inl ⟨by simp, rfl, .refl _⟩
    | some answer =>
      dsimp only
      have hplace := g.place_cases (g.planned context o client text cls) answer o.force
        (g.replied context o client text s)
      have hcode (htrue : (g.place (g.planned context o client text cls) answer o.force
          (g.replied context o client text s)).1 = .ok true) : CodeFence.code answer ≠ "" :=
        (place_true_iff.mp htrue).1
      -- what is placed is named, so that nobody tries to compute it
      generalize g.place (g.planned context o client text cls) answer o.force
        (g.replied context o client text s) = placed at hplace hcode ⊢
      rcases hplace with hfailed | ⟨place, htrue, hwrote⟩
      · exact Or.inl hfailed
      · have hbrings := Client.brings_iff.mpr ⟨answer, hmeaning, rfl, hcode htrue⟩
        exact Or.inr ⟨CodeFence.code answer, place, htrue, hbrings, hwrote⟩

theorem Ready.run_true_iff (h : Ready g f o s client text cls) :
    (g.run f context o s).1 = .ok true ↔
      ∃ code, client.Brings (s.line.post (g.asks context o client text)).1 code ∧
        Fits s.disk g.cwd (g.destination o cls) code := by
  simp only [Client.brings_iff]
  rw [run_of_ready h]
  cases client.meaning (s.line.post (g.asks context o client text)).1 with
  | error e => simp
  | ok completion =>
    cases completion with
    | none => simp
    | some answer =>
      dsimp only
      rw [place_true_iff, WriteLog.write_ok_iff]
      constructor
      · rintro ⟨hcode, -, hfits⟩
        exact ⟨CodeFence.code answer, ⟨answer, rfl, rfl, hcode⟩, hfits⟩
      · rintro ⟨code, ⟨answer', hanswer, rfl, hcode⟩, hfits⟩
        cases hanswer
        exact ⟨hcode, h.free, hfits⟩

theorem false_or_error {result : Except Error Bool} (h : result ≠ .ok true) :
    result = .ok false ∨ ∃ e, result = .error e := by
  cases result with
  | error e => exact Or.inr ⟨e, rfl⟩
  | ok written =>
    cases written with
    | false => exact Or.inl rfl
    | true => exact absurd rfl h

theorem Ready.asked (h : Ready g f o s client text cls) :
    Asked g f context o s client text cls := by
  constructor
  case ready => exact h
  case message => exact ⟨_, Prompt.embeds_withContext _ _ _, client.messages_request _ _⟩
  case once => exact h.line_run
  case sent =>
    intro hcarries
    rw [h.line_run, Line.sent_post hcarries]
  case carried =>
    intro hline
    exact Line.carries_of_not_web hline _
  case succeeds_iff => exact h.run_true_iff
  case success =>
    intro htrue
    rcases h.run_cases with ⟨hfailed, -⟩ | ⟨code, place, -, hbrings, hwrote⟩
    · exact absurd htrue hfailed
    · exact ⟨hwrote.log_eq, code, place, hbrings, hwrote.resolve_eq⟩
  case failure =>
    intro hfalse
    rcases h.run_cases with ⟨-, hlog, hwidens⟩ | ⟨code, place, htrue, -⟩
    · exact ⟨false_or_error hfalse, hlog, fun l c => hwidens.made.file_iff c⟩
    · exact absurd htrue hfalse

/-- A run costs a request only when everything is settled before, and then one; it writes a file
only when the reply brings code. -/
theorem one_request_when_settled (g : AiGenerator) (f : Path) (context : List (String × String))
    (o : AiOptions) (s : State) :
    (Barred g f o s →
      (g.run f context o s).2 = s ∧
        ((g.run f context o s).1 = .ok false ∨ ∃ e, (g.run f context o s).1 = .error e)) ∧
      (¬ Barred g f o s → ∃ client text cls, Asked g f context o s client text cls) := by
  constructor
  · intro hbarred
    exact run_of_barred context hbarred
  · intro hnot
    rcases barred_or_ready g f o s with hbarred | ⟨client, text, cls, hready⟩
    · exact absurd hbarred hnot
    · exact ⟨client, text, cls, hready.asked⟩

/-- A class without tests, and a provider that puts a fence around its code. -/
def fencedAnswer : State where
  log := {}
  disk := ⟨[(["Foo.php"], .file "<?php class Foo \x7b\x7d".toUTF8)]⟩
  line := { replies := [.answer 200
    "\x7b\"choices\": [\x7b\"message\": \x7b\"content\": \"```php\\n<?php\\n```\"\x7d\x7d]\x7d"] }

def withKey : AiGenerator where
  settings := { ai := { apiKey := "k" } }
  root := ⟨"."⟩
  cwd := []

theorem one_request_when_settled_fenced :
    (withKey.run ⟨"Foo.php"⟩ [] {} fencedAnswer).1 = .ok true ∧
      ¬ Barred withKey ⟨"Foo.php"⟩ {} fencedAnswer ∧
      ∃ client text cls, Asked withKey ⟨"Foo.php"⟩ [] {} fencedAnswer client text cls := by
  have htrue : (withKey.run ⟨"Foo.php"⟩ [] {} fencedAnswer).1 = .ok true := by
    have hwritten : (withKey.run ⟨"Foo.php"⟩ [] {} fencedAnswer).1.toOption = some true := by
      decide +kernel
    generalize (withKey.run ⟨"Foo.php"⟩ [] {} fencedAnswer).1 = result at hwritten ⊢
    cases result with
    | error e => cases hwritten
    | ok written => cases hwritten; rfl
  have hsettled := one_request_when_settled withKey ⟨"Foo.php"⟩ [] {} fencedAnswer
  have hnot : ¬ Barred withKey ⟨"Foo.php"⟩ {} fencedAnswer := by
    intro hbarred
    rcases (hsettled.1 hbarred).2 with hfalse | ⟨e, herror⟩
    · rw [htrue] at hfalse
      cases hfalse
    · rw [htrue] at herror
      cases herror
  exact ⟨htrue, hnot, hsettled.2 hnot⟩

end AiGenerator
end SuiteForge
