import SuiteForge.Proofs.Settings.Reading
import SuiteForge.Settings.Load

/-!
# Settings in layers

Settings are laid over each other key by key: the defaults, the document of one file, and the
environment.
-/

namespace SuiteForge.Settings

open Binary64 (AtLeast)
open Toml (Value)

variable {d : Disk} {cwd : Location} {env env' : Environment} {root : Path} {asked : Option Path}
  {document document' : Value} {s s' : Settings}

/-! ### What a key has -/

/-- A key has what the environment lays over it, or else what the document gives it, or else its
default. -/
structure Layered (env : Environment) (document : Value) (s : Settings) : Prop where
  value_eq : ∀ k : Key, k.value s =
    ((k.overridden? env).or ((k.find? document).bind k.read?)).getD k.default
  /-- Whatever the document has under a key can be read. -/
  readable : ∀ (k : Key) v, k.find? document = some v → (k.read? v).isSome

theorem layered_override (h : readSection fields {} document = some s) :
    Layered env document (s.override env) := by
  constructor
  case value_eq =>
    intro k
    have hsettled := k.settled h
    rw [k.value_override]
    cases k.overridden? env with
    | some a => rfl
    | none =>
      cases hfound : k.find? document with
      | none =>
        rw [hfound] at hsettled
        exact hsettled
      | some v =>
        rw [hfound] at hsettled
        have hread : k.read? v = some (k.value s) := hsettled
        simp [hread]
  case readable =>
    intro k v hfound
    have hsettled := k.settled h
    rw [hfound] at hsettled
    have hread : k.read? v = some (k.value s) := hsettled
    rw [hread]
    rfl

/-! ### The file that is read -/

def projectFile (root : Path) : Path := root.join ⟨"test-accelerator.toml"⟩

def userFile? (env : Environment) : Option Path :=
  (userDirectory? env).map fun dir => (dir.join ⟨"test-accelerator"⟩).join ⟨"config.toml"⟩

/-- The file that is asked for, or else the project's file if there is one, or else the user's. -/
def chosen? (d : Disk) (cwd : Location) (env : Environment) (root : Path) :
    Option Path → Option Path
  | some p => some p
  | none =>
    if d.isFile cwd (projectFile root) then some (projectFile root)
    else (userFile? env).filter (d.isFile cwd)

theorem find?_candidates : (candidates env root).find? (d.isFile cwd) =
    chosen? d cwd env root none := by
  have hcandidates : candidates env root = projectFile root :: (userFile? env).toList := rfl
  rw [hcandidates, List.find?_cons, chosen?]
  cases d.isFile cwd (projectFile root) with
  | true => rfl
  | false =>
    cases userFile? env with
    | none => rfl
    | some p => cases hthere : d.isFile cwd p <;> simp [hthere, Option.filter]

theorem load_eq : load d cwd env root asked =
    match chosen? d cwd env root asked with
    | some p => (ofFile d cwd p).map (·.override env)
    | none => .ok (override {} env) := by
  unfold load base
  cases asked with
  | some p => rfl
  | none =>
    rw [find?_candidates]
    cases chosen? d cwd env root none <;> rfl

theorem load_of_chosen {p : Path} (h : chosen? d cwd env root asked = some p) :
    load d cwd env root asked = (ofFile d cwd p).map (·.override env) := by
  rw [load_eq, h]

theorem ofDocument?_eq_some_iff {text : String} : ofDocument? text = some s ↔
    ∃ members, Toml.parse? text.toList = some members ∧
      readSection fields {} (.table members) = some s := by
  rw [ofDocument?, Option.bind_eq_some_iff]

/-- There is nothing to read where no file is. -/
theorem exists_readText_error {p : Path} (h : d.isFile cwd p = false) :
    ∃ cause, d.readText cwd p = .error cause := by
  unfold Disk.isFile Disk.at? at h
  unfold Disk.readText Disk.read
  cases hresolve : d.resolve cwd p with
  | error cause => exact ⟨cause, rfl⟩
  | ok target =>
    rw [hresolve] at h
    cases target with
    | free place slash => exact ⟨.missing, rfl⟩
    | entry place e =>
      cases e with
      | directory => exact ⟨.isDirectory, rfl⟩
      | file content => cases h

/-- What loading comes to. -/
structure Loads (d : Disk) (cwd : Location) (root : Path) (asked : Option Path)
    (env : Environment) : Prop where
  /-- Without a file there is nothing but the environment over the defaults. -/
  defaults : chosen? d cwd env root asked = none →
    ∃ s, load d cwd env root asked = .ok s ∧ Layered env (.table []) s
  decoded : ∀ p text, chosen? d cwd env root asked = some p → d.readText cwd p = .ok text →
    (ofDocument? text).isSome → ∃ members s, Toml.parse? text.toList = some members ∧
      load d cwd env root asked = .ok s ∧ Layered env (.table members) s
  unreadable : ∀ p cause, chosen? d cwd env root asked = some p →
    d.readText cwd p = .error cause → load d cwd env root asked = .error (.disk p cause)
  undecodable : ∀ p text, chosen? d cwd env root asked = some p → d.readText cwd p = .ok text →
    ofDocument? text = none → ∃ message, load d cwd env root asked = .error (.configuration message)

theorem loads : Loads d cwd root asked env := by
  constructor
  case defaults =>
    intro h
    exact ⟨override {} env, by rw [load_eq, h], layered_override rfl⟩
  case decoded =>
    intro p text h hread hdecoded
    obtain ⟨s, hs⟩ := Option.isSome_iff_exists.mp hdecoded
    obtain ⟨members, hparse, hfields⟩ := ofDocument?_eq_some_iff.mp hs
    refine ⟨members, s.override env, hparse, ?_, layered_override hfields⟩
    rw [load_of_chosen h, ofFile, hread]
    simp only [ofText, hs]
    rfl
  case unreadable =>
    intro p cause h hread
    rw [load_of_chosen h, ofFile, hread]
    rfl
  case undecodable =>
    intro p text h hread hnone
    rw [load_of_chosen h, ofFile, hread]
    simp only [ofText, hnone]
    exact ⟨_, rfl⟩

/-! ### Independence -/

/-- What may change while a key keeps its value. -/
structure Independent (k : Key) : Prop where
  /-- All but its own variable and its own place in the document. -/
  value_congr : ∀ {env env' document document' s s'}, Layered env document s →
    Layered env' document' s' → k.assigned? env = k.assigned? env' →
    k.find? document = k.find? document' → k.value s = k.value s'
  otherVariable : ∀ {env document s s'} x text,
    (∀ name, k.envName? = some name → x ≠ "TEST_ACCELERATOR_" ++ name) →
    Layered env document s → Layered (env ++ [(x, text)]) document s' → k.value s' = k.value s
  otherKey : ∀ {env document s s'} k' v, k' ≠ k →
    Layered env document s → Layered env (give k'.place v document) s' → k.value s' = k.value s
  /-- Its variable is its own. -/
  eq_of_envName : ∀ k' name, k.envName? = some name → k'.envName? = some name → k' = k

theorem independent (k : Key) : Independent k := by
  -- all of it comes from this: a key is a function of its variable and its place
  have hcongr {env env' document document' s s'} (h : Layered env document s)
      (h' : Layered env' document' s') (henv : k.assigned? env = k.assigned? env')
      (hdocument : k.find? document = k.find? document') : k.value s = k.value s' := by
    rw [h.value_eq, h'.value_eq, Key.overridden?, Key.overridden?, henv, hdocument]
  constructor
  case value_congr => exact hcongr
  case otherVariable =>
    intro env document s s' x text hother h h'
    exact hcongr h' h (Key.assigned?_append hother) rfl
  case otherKey =>
    intro env document s s' k' v hne h h'
    refine hcongr h' h rfl ?_
    exact follow_give (fun hprefix => hne (Key.eq_of_place_prefix hprefix))
      (fun hprefix => hne (Key.eq_of_place_prefix hprefix).symm) document
  case eq_of_envName =>
    intro k' name hname hname'
    exact (Key.eq_of_envName? hname hname').symm

-- a negative threshold leaves the one of the document, any text decides a switch
example : (ofDocument? "[coverage]\nthreshold = 70\nxml_reports = true\n").map (fun s =>
    let s := s.override [("TEST_ACCELERATOR_COVERAGE_THRESHOLD", "-1"),
      ("TEST_ACCELERATOR_XML_REPORTS", "no")]
    (s.coverage.threshold, s.coverage.xmlReports)) = some (70, false) := by
  decide +kernel

end SuiteForge.Settings
