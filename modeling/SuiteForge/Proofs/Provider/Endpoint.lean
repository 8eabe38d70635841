import SuiteForge.Proofs.Provider.Asking
import SuiteForge.Proofs.Text.Trimming
import SuiteForge.Proofs.Web.Extending
import SuiteForge.Proofs.Web.Target

/-!
# Where requests go

The path of a provider is put behind the address in use. It is the end of the path of every request
unless the address has a query or a fragment, which the path of the provider then becomes a part
of.
-/

namespace SuiteForge

open Text

variable {p : Provider} {baseUrl : Option String} {settings : AiSettings} {c : Client}

/-! ### Addresses in use -/

namespace Provider

theorem endpoint_eq_ok_iff {address : String} : p.endpoint baseUrl = .ok address ↔
    Web.IsHttp (p.base baseUrl).toList ∧
      address = String.ofList (withoutSlashes (p.base baseUrl).toList) ++ "/" ++ p.path := by
  unfold endpoint Web.IsHttp
  dsimp only
  cases Web.checkAddress (p.base baseUrl).toList with
  | error fault => simp
  | ok scheme => by_cases hweb : scheme = "http" ∨ scheme = "https" <;> simp [hweb, eq_comm]

theorem base_some (b : String) : p.base (some b) =
    if trim b.toList = [] then p.defaultBase else String.ofList (trim b.toList) := by
  by_cases hblank : trim b.toList = []
  · simp [base, hblank]
  · have hne : String.ofList (trim b.toList) ≠ "" := by
      intro hempty
      exact hblank (by simpa using congrArg String.toList hempty)
    rw [if_neg hblank]
    unfold base
    rw [Option.map_some]
    split
    · rename_i heq
      exact absurd (Option.some.inj heq) hne
    · rename_i heq
      exact (Option.some.inj heq).symm
    · rename_i heq
      cases heq

theorem base_of_trimmed {b : String} (htrimmed : Trimmed b.toList) (hne : b ≠ "") :
    p.base (some b) = b := by
  have hchars : b.toList ≠ [] := by simpa using hne
  rw [base_some, htrimmed.trim_eq, if_neg hchars, String.ofList_toList]

/-- The address in use is trimmed and not empty. -/
theorem trimmed_base (p : Provider) (baseUrl : Option String) :
    Trimmed (p.base baseUrl).toList ∧ (p.base baseUrl).toList ≠ [] := by
  have hdefault : Trimmed p.defaultBase.toList ∧ p.defaultBase.toList ≠ [] := by
    rw [← trim_eq_iff]
    cases p with
    | openAi => decide
    | anthropic => decide
  cases baseUrl with
  | none => exact hdefault
  | some b =>
    rw [base_some]
    split_ifs with hblank
    · exact hdefault
    · rw [String.toList_ofList]
      exact ⟨trimmed_trim b.toList, hblank⟩

/-- A slash behind the address in use, with white space around both, is put behind it. -/
theorem base_slashed (p : Provider) {b front back : String} (hb : p.base baseUrl = b)
    (hfront : ∀ c ∈ front.toList, isBlank c = true)
    (hback : ∀ c ∈ back.toList, isBlank c = true) :
    (p.base (some (front ++ b ++ "/" ++ back))).toList = b.toList ++ ['/'] := by
  obtain ⟨htrimmed, hne⟩ := trimmed_base p baseUrl
  rw [hb] at htrimmed hne
  have hslashed : Trimmed (b.toList ++ ['/']) := by
    constructor
    · intro c hc
      rw [List.head?_append_of_ne_nil _ hne] at hc
      exact htrimmed.head c hc
    · intro c hc
      rw [List.getLast?_concat] at hc
      obtain rfl : '/' = c := Option.some.inj hc
      decide
  have htrim : trim (front ++ b ++ "/" ++ back).toList = b.toList ++ ['/'] :=
    calc
      trim (front ++ b ++ "/" ++ back).toList
      _ = trim (front.toList ++ ((b.toList ++ ['/']) ++ back.toList)) := by simp
      _ = trim (b.toList ++ ['/']) := trim_around hfront hback _
      _ = b.toList ++ ['/'] := hslashed.trim_eq
  rw [base_some, htrim, if_neg (List.append_ne_nil_of_left_ne_nil hne ['/']), String.toList_ofList]

/-! ### Slashes at the end -/

theorem exists_withoutSlashes (s : List Char) :
    ∃ slashes, (∀ c ∈ slashes, c = '/') ∧ s = withoutSlashes s ++ slashes := by
  refine ⟨s.rtakeWhile (· = '/'), ?_, List.rdropWhile_append_rtakeWhile.symm⟩
  intro c hc
  simpa using List.mem_rtakeWhile_imp hc

theorem withoutSlashes_append_slash (s : List Char) :
    withoutSlashes (s ++ ['/']) = withoutSlashes s := by
  simp [withoutSlashes]

/-- The path of a provider has no query, nothing that is passed over and only plain pieces. -/
theorem path_plain (p : Provider) : (∀ c ∈ p.path.toList, Web.isEdge c = false) ∧
    (∀ c ∈ p.path.toList, Web.opensQuery c = false) ∧
    (∀ piece ∈ splitOn '/' p.path.toList, Web.isPlain piece = true) ∧ '\\' ∉ p.path.toList := by
  have hchars : p.path.toList.all (fun c => !Web.isEdge c && !Web.opensQuery c && c != '\\') =
      true := by
    cases p with
    | openAi => decide
    | anthropic => decide
  have hpieces : (splitOn '/' p.path.toList).all Web.isPlain = true := by
    cases p with
    | openAi => decide +kernel
    | anthropic => decide +kernel
  simp only [List.all_eq_true, Bool.and_eq_true, Bool.not_eq_true', bne_iff_ne] at hchars
  refine ⟨fun c hc => (hchars c hc).1.1, fun c hc => (hchars c hc).1.2,
    List.all_eq_true.mp hpieces, fun hc => ?_⟩
  exact (hchars _ hc).2 rfl

end Provider

/-! ### Requests -/

namespace Client

/-- A client has what the settings say, and the address where its requests go. -/
theorem ofSettings_eq_ok_iff : ofSettings settings = .ok c ↔
    Provider.ofText settings.provider = .ok c.provider ∧
      c.provider.endpoint settings.baseUrl = .ok c.endpoint ∧
      c.model = settings.model ∧ c.apiKey = settings.apiKey := by
  constructor
  · intro h
    have hprovider := provider_of_ofSettings h
    unfold ofSettings at h
    rw [hprovider] at h
    cases hendpoint : c.provider.endpoint settings.baseUrl with
    | error e =>
      simp only [bind, Except.bind, hendpoint] at h
      cases h
    | ok endpoint =>
      simp only [bind, Except.bind, pure, Except.pure, hendpoint, Except.ok.injEq] at h
      rw [← h]
      exact ⟨hprovider, rfl, rfl, rfl⟩
  · rintro ⟨hprovider, hendpoint, hmodel, hkey⟩
    unfold ofSettings
    rw [hprovider]
    simp only [bind, Except.bind, pure, Except.pure, hendpoint, ← hmodel, ← hkey]

theorem ofSettings_of_isHttp {p : Provider} (hprovider : Provider.ofText settings.provider = .ok p)
    (hhttp : Web.IsHttp (p.base settings.baseUrl).toList) : ofSettings settings = .ok {
      provider := p
      model := settings.model
      apiKey := settings.apiKey
      endpoint := String.ofList (Provider.withoutSlashes (p.base settings.baseUrl).toList) ++ "/" ++
        p.path } :=
  ofSettings_eq_ok_iff.mpr ⟨hprovider, Provider.endpoint_eq_ok_iff.mpr ⟨hhttp, rfl⟩, rfl, rfl⟩

/-- What becomes of the address in use when the path of the provider is put behind it. -/
structure Reaches (settings : AiSettings) (c : Client) (base : String) : Prop where
  /-- The address in use is the one of the settings, if that is trimmed and not empty. -/
  own : ∀ b, settings.baseUrl = some b → Trimmed b.toList → b ≠ "" → base = b
  /-- Every request goes to one address. -/
  url : ∀ prompt o, (c.request prompt o).url = c.endpoint
  /-- It is an address of the web, -/
  http_iff : Web.IsHttp c.endpoint.toList ↔ ¬ Web.RunsOut base.toList
  /-- and has the host of the address in use, unless that runs out. -/
  host : ¬ Web.RunsOut base.toList → ∃ q behind, Web.parts? base.toList = some q ∧
    Web.parts? c.endpoint.toList = some { q with behind }
  /-- Its path ends with the path of the provider unless the address in use has a query or a
  fragment, and then if the path in front of it does. -/
  path_iff : (∃ q ∈ Web.parts? c.endpoint.toList, c.provider.path.toList <:+ q.path) ↔
    (∀ d ∈ base.toList, Web.opensQuery d = false) ∨
      ∃ q ∈ Web.parts? base.toList, c.provider.path.toList <:+ q.path
  /-- Without a query or a fragment the path of the provider is asked for, with dots followed. -/
  target : (∀ d ∈ base.toList, Web.opensQuery d = false) →
    '/' :: c.provider.path.toList <:+ Web.requestTarget c.endpoint.toList
  /-- Another slash, and white space around it, make no difference unless the address runs out. -/
  slash_iff : ∀ front back : String, (∀ d ∈ front.toList, isBlank d = true) →
    (∀ d ∈ back.toList, isBlank d = true) →
    (ofSettings { settings with baseUrl := some (front ++ base ++ "/" ++ back) } = .ok c ↔
      ¬ Web.RunsOut base.toList)

/-- Requests reach the path of the provider at the host of the address in use, but for a query or a
fragment in the address, which takes the path in, and a control character right behind the host. -/
theorem endpoint_reaches (h : ofSettings settings = .ok c) :
    Reaches settings c (c.provider.base settings.baseUrl) := by
  obtain ⟨hprovider, hendpoint, hmodel, hkey⟩ := ofSettings_eq_ok_iff.mp h
  obtain ⟨hhttp, haddress⟩ := Provider.endpoint_eq_ok_iff.mp hendpoint
  obtain ⟨htrimmed, hne⟩ := Provider.trimmed_base c.provider settings.baseUrl
  generalize hbase : c.provider.base settings.baseUrl = base at *
  obtain ⟨slashes, hslashes, hsplit⟩ := Provider.exists_withoutSlashes base.toList
  have hlast := List.getLast?_eq_some_getLast hne
  obtain ⟨q, r, hopens⟩ :=
    Web.exists_opens hhttp hlast (Web.isKept_of_not_isBlank (htrimmed.last _ hlast))
  obtain ⟨behind, hbehind, hfront⟩ := Web.Opens.of_append_slashes (hsplit ▸ hopens) hslashes
  obtain ⟨hgraphic, hpath, hplain, hslash⟩ := Provider.path_plain c.provider
  have hchars : c.endpoint.toList =
      Provider.withoutSlashes base.toList ++ '/' :: c.provider.path.toList := by
    rw [haddress]
    simp
  have hparts : Web.parts? c.endpoint.toList =
      some { r with behind := behind ++ '/' :: c.provider.path.toList } := by
    rw [hchars]
    exact Web.parts?_append_slash hfront hgraphic
  constructor
  case own =>
    intro b hb hbtrimmed hbne
    rw [← hbase, hb, Provider.base_of_trimmed hbtrimmed hbne]
  case url =>
    intro prompt o
    unfold request
    cases c.provider with
    | openAi => rfl
    | anthropic => rfl
  case http_iff => exact hopens.isHttp_iff hparts
  case host =>
    intro hnot
    refine ⟨q, behind ++ '/' :: c.provider.path.toList, hopens.parts, ?_⟩
    rw [hparts, hopens.scheme, hopens.authority hnot]
  case path_iff =>
    have hsuffix := hopens.suffix_beforeQuery_iff hslashes hbehind hpath
    simp only [hparts, hopens.parts, Option.mem_def, Option.some.injEq, exists_eq_left']
    exact hsuffix
  case target =>
    intro hnone
    exact Web.suffix_requestTarget hparts rfl (hopens.not_opensQuery_append hbehind hnone hpath)
      hplain hslash
  case slash_iff =>
    intro front back hfrontBlank hbackBlank
    have hslashed := Provider.base_slashed c.provider hbase hfrontBlank hbackBlank
    have hhttpSlashed : Web.IsHttp (base.toList ++ ['/']) ↔ ¬ Web.RunsOut base.toList :=
      hopens.isHttp_iff (Web.parts?_append_slash hopens.spells (by simp))
    rw [ofSettings_eq_ok_iff, Provider.endpoint_eq_ok_iff, hslashed, hhttpSlashed,
      Provider.withoutSlashes_append_slash]
    constructor
    · rintro ⟨-, ⟨hnot, -⟩, -⟩
      exact hnot
    · intro hnot
      exact ⟨hprovider, ⟨hnot, haddress⟩, hmodel, hkey⟩

def withCredentials : AiSettings where
  provider := "Anthropic"
  apiKey := "k"
  baseUrl := some " http:\\user:pa@ss@[::1]:8080/api/../v1// "

theorem endpoint_reaches_withCredentials :
    ∃ c, ofSettings withCredentials = .ok c ∧
      c.endpoint = "http:\\user:pa@ss@[::1]:8080/api/../v1/v1/messages" ∧
      ¬ Web.RunsOut (c.provider.base withCredentials.baseUrl).toList ∧
      Reaches withCredentials c (c.provider.base withCredentials.baseUrl) := by
  have h : ofSettings withCredentials = .ok _ := ofSettings_of_isHttp rfl (by decide +kernel)
  refine ⟨_, h, by decide +kernel, ?_, endpoint_reaches h⟩
  rintro ⟨⟨d, hd, hedge⟩, -⟩
  obtain rfl : '/' = d := Option.some.inj hd
  exact absurd hedge (by decide)

def withQuery : AiSettings where
  apiKey := "k"
  baseUrl := some "http://localhost/?a=1"

def withControl : AiSettings where
  apiKey := "k"
  baseUrl := some "http://localhost\x01"

/-- Two addresses are accepted and lead astray: behind a query the path of the provider is not in
the path, and behind a control character it does not make an address. -/
theorem endpoint_strays :
    (∃ c, ofSettings withQuery = .ok c ∧
      c.endpoint = "http://localhost/?a=1/v1/chat/completions" ∧
      ¬ ∃ q ∈ Web.parts? c.endpoint.toList, c.provider.path.toList <:+ q.path) ∧
    ∃ c, ofSettings withControl = .ok c ∧
      c.endpoint = "http://localhost\x01/v1/chat/completions" ∧
      ¬ Web.IsHttp c.endpoint.toList ∧
      ofSettings { withControl with baseUrl := some "http://localhost\x01/" } ≠ .ok c := by
  constructor
  · have h : ofSettings withQuery = .ok _ := ofSettings_of_isHttp rfl (by decide +kernel)
    exact ⟨_, h, by decide +kernel, by decide +kernel⟩
  · have h : ofSettings withControl = .ok _ := ofSettings_of_isHttp rfl (by decide +kernel)
    refine ⟨_, h, by decide +kernel, by decide +kernel, ?_⟩
    intro hslashed
    have hrefused : ¬ Web.IsHttp "http://localhost\x01/".toList := by decide +kernel
    exact hrefused (Provider.endpoint_eq_ok_iff.mp (ofSettings_eq_ok_iff.mp hslashed).2.1).1

end Client

end SuiteForge
