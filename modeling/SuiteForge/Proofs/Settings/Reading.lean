import SuiteForge.Proofs.Settings.Keys
import SuiteForge.Settings.Document

/-!
# What a document gives

A section that is read keeps a value for each field that it is given, and its starting value for
every other field. So each key is settled by one place of a document.
-/

namespace SuiteForge.Settings

open Toml (Value)

/-! ### One section -/

section

variable {σ α : Type} {fs : List (Field σ)} {name : String} {get : σ → α}
  {read? : Value → Option α}

/-- A step into a document, by a name among the names of a section. -/
structure Step where
  names : List String
  name : String

namespace Step

/-- The values of a section with their names. An array has them in the order of the names. -/
def members (x : Step) : Value → List (String × Value)
  | .table members => members
  | .array values => x.names.zip values
  | _ => []

/-- Where a name is there twice, the later value counts. -/
def follow (x : Step) (v : Value) : Option Value := (x.members v).reverse.lookup x.name

def into (fs : List (Field σ)) (name : String) : Step := ⟨fs.map (·.name), name⟩

end Step

/-- Whether a value is settled: by what was found, or else by what it was before. -/
def Settled (read? : Value → Option α) (found : Option Value) (old new : α) : Prop :=
  match found with
  | some v => read? v = some new
  | none => new = old

/-- Of the fields of a section, the one of this name sets a value, and no other field does. -/
structure Sets (fs : List (Field σ)) (name : String) (get : σ → α)
    (read? : Value → Option α) : Prop where
  named : ∃ f ∈ fs, f.name = name
  own : ∀ f ∈ fs, f.name = name → ∀ v s s', f.read v s = some s' → read? v = some (get s')
  others : ∀ f ∈ fs, f.name ≠ name → ∀ v s s', f.read v s = some s' → get s' = get s

theorem forall_read_iff {β : Type} {value? : Value → Option β} {put : σ → β → σ}
    {P : Value → σ → σ → Prop} :
    (∀ v s s', (value? v).map (put s) = some s' → P v s s') ↔
      ∀ v s b, value? v = some b → P v s (put s b) := by
  constructor
  · intro h v s b hb
    exact h v s _ (by rw [hb]; rfl)
  · intro h v s s' hread
    obtain ⟨b, hb, rfl⟩ := Option.map_eq_some_iff.mp hread
    exact h v s b hb

/-- Members are read one after the other, and the last one of a name settles its value. -/
theorem settled_of_foldlM {ι : Type} {step : σ → ι → Option σ} {member : ι → String × Value}
    {is : List ι} {s s' : σ}
    (hown : ∀ i ∈ is, (member i).1 = name → ∀ s s', step s i = some s' →
      read? (member i).2 = some (get s'))
    (hothers : ∀ i ∈ is, (member i).1 ≠ name → ∀ s s', step s i = some s' → get s' = get s)
    (h : is.foldlM step s = some s') :
    Settled read? ((is.map member).reverse.lookup name) (get s) (get s') := by
  -- from the end, since it is the last member of a name that counts
  induction is using List.reverseRecOn generalizing s' with
  | nil => cases h; rfl
  | append_singleton is i ih =>
    rw [List.foldlM_append] at h
    obtain ⟨before, hbefore, hlast⟩ := Option.bind_eq_some_iff.mp h
    replace hlast : step before i = some s' := by simpa using hlast
    have hrest := ih (fun j hj => hown j (List.mem_append_left _ hj))
      (fun j hj => hothers j (List.mem_append_left _ hj)) hbefore
    have hi : i ∈ is ++ [i] := List.mem_append_right _ (List.mem_singleton_self i)
    rw [List.map_append, List.map_singleton, List.reverse_append, List.reverse_singleton,
      List.singleton_append, ← Prod.mk.eta (p := member i), List.lookup_cons]
    by_cases hname : (member i).1 = name
    · simp only [hname, beq_self_eq_true]
      exact hown i hi hname before s' hlast
    · have hne : (name == (member i).1) = false := by simpa using Ne.symm hname
      rw [hne, hothers i hi hname before s' hlast]
      exact hrest

def readMember (fs : List (Field σ)) (s : σ) (m : String × Value) : Option σ :=
  match fs.find? (·.name = m.1) with
  | some f => f.read m.2 s
  | none => some s

theorem readMember_cases {m : String × Value} {s s' : σ} (h : readMember fs s m = some s') :
    (∃ f ∈ fs, f.name = m.1 ∧ f.read m.2 s = some s') ∨
      ((∀ f ∈ fs, f.name ≠ m.1) ∧ s' = s) := by
  unfold readMember at h
  split at h
  case h_1 f hf =>
    exact .inl ⟨f, List.mem_of_find?_eq_some hf, by simpa using List.find?_some hf, h⟩
  case h_2 hnone =>
    exact .inr ⟨by simpa using hnone, (Option.some.inj h).symm⟩

theorem Sets.settled (h : Sets fs name get read?) {v : Value} {s s' : σ}
    (hread : readSection fs s v = some s') :
    Settled read? ((Step.into fs name).follow v) (get s) (get s') := by
  cases v with
  | table members =>
    have hfold : members.foldlM (readMember fs) s = some s' := hread
    have hsettled : Settled read? ((members.map id).reverse.lookup name) (get s) (get s') := by
      refine settled_of_foldlM ?_ ?_ hfold
      · intro m _ hname s s' hstep
        obtain ⟨f, hf, hsame, hread⟩ | ⟨hnone, -⟩ := readMember_cases hstep
        · exact h.own f hf (hsame.trans hname) _ _ _ hread
        · obtain ⟨f, hf, hsame⟩ := h.named
          exact absurd (hsame.trans hname.symm) (hnone f hf)
      · intro m _ hname s s' hstep
        obtain ⟨f, hf, hsame, hread⟩ | ⟨-, rfl⟩ := readMember_cases hstep
        · exact h.others f hf (fun heq => hname (hsame.symm.trans heq)) _ _ _ hread
        · rfl
    rwa [List.map_id] at hsettled
  | array values =>
    have hsettled : Settled read?
        (((fs.zip values).map fun p => (p.1.name, p.2)).reverse.lookup name)
        (get s) (get s') :=
      settled_of_foldlM
        (fun p hp hname s s' => h.own p.1 (List.of_mem_zip hp).1 hname p.2 s s')
        (fun p hp hname s s' => h.others p.1 (List.of_mem_zip hp).1 hname p.2 s s') hread
    rw [Step.follow, Step.into, Step.members, List.zip_map_left]
    exact hsettled
  | moment text => cases hread; rfl
  | _ => cases hread

/-! ### A section in a section -/

def follow (path : List Step) (document : Value) : Option Value :=
  path.foldlM (fun v x => x.follow v) document

theorem Sets.settled_at (h : Sets fs name get read?) {v : Value} {s s' : σ}
    (hread : readSection fs s v = some s') :
    Settled read? (follow [.into fs name] v) (get s) (get s') := by
  have hfollow : follow [.into fs name] v = (Step.into fs name).follow v := by
    simp [Settings.follow]
  rw [hfollow]
  exact h.settled hread

theorem Sets.settled_inside {τ : Type} {inner : List (Field τ)} {sub : σ → τ} {get : τ → α}
    {start : τ} (h : Sets fs name sub (readSection inner start)) {key : String}
    (hinner : Sets inner key get read?) {v : Value} {s s' : σ}
    (hread : readSection fs s v = some s') (hstart : sub s = start) :
    Settled read? (follow [.into fs name, .into inner key] v) (get start) (get (sub s')) := by
  have hsettled := h.settled hread
  cases hfound : (Step.into fs name).follow v with
  | none =>
    -- a section that is not given is left as it was, and so is all that is in it
    have hfollow : follow [.into fs name, .into inner key] v = none := by
      simp [Settings.follow, hfound]
    rw [hfound] at hsettled
    rw [hfollow]
    exact congrArg get (hsettled.trans hstart)
  | some u =>
    have hfollow : follow [.into fs name, .into inner key] v =
        (Step.into inner key).follow u := by simp [Settings.follow, hfound]
    rw [hfound] at hsettled
    rw [hfollow]
    exact hinner.settled hsettled

end

/-! ### Giving one more value -/

/-- The document with one more value, where the way to it leads through tables. -/
def give : List Step → Value → Value → Value
  | [], v, _ => v
  | x :: path, v, .table members =>
    .table (members ++
      [(x.name, give path v ((x.follow (.table members)).getD (.table [])))])
  | _ :: _, _, document => document

theorem follow_table_append (x : Step) (members : List (String × Value)) (key : String)
    (v : Value) : x.follow (.table (members ++ [(key, v)])) =
      if x.name = key then some v else x.follow (.table members) := by
  have hlast : (members ++ [(key, v)]).reverse.lookup x.name =
      if x.name = key then some v else members.reverse.lookup x.name := by
    rw [List.reverse_append, List.reverse_singleton, List.singleton_append, List.lookup_cons]
    by_cases h : x.name = key
    · simp [h]
    · have hne : (x.name == key) = false := by simpa using h
      rw [hne, if_neg h]
  exact hlast

theorem follow_empty {path : List Step} (h : path ≠ []) : follow path (.table []) = none := by
  cases path with
  | nil => exact absurd rfl h
  | cons x path => rfl

/-- A value on another way is not met. -/
theorem follow_give {path other : List Step} {v : Value}
    (h : ¬ other.map (·.name) <+: path.map (·.name))
    (h' : ¬ path.map (·.name) <+: other.map (·.name)) (document : Value) :
    follow path (give other v document) = follow path document := by
  induction other generalizing path document with
  | nil => exact absurd List.nil_prefix h
  | cons y other ih =>
    cases path with
    | nil => exact absurd List.nil_prefix h'
    | cons x path =>
      cases document with
      | table members =>
        have hstep (v : Value) : follow (x :: path) (.table (members ++ [(y.name, v)])) =
            if x.name = y.name then follow path v else follow (x :: path) (.table members) := by
          simp only [follow, List.foldlM_cons, follow_table_append]
          split <;> rfl
        rw [give, hstep]
        split
        case isTrue hsame =>
          -- the ways part further on; there may have been no member to follow before
          have hpath : path ≠ [] := by
            rintro rfl
            exact h' (by simp [hsame, List.cons_prefix_cons])
          have hfound : y.follow (.table members) = x.follow (.table members) := by
            simp only [Step.follow, Step.members, hsame]
          rw [ih (by simpa [hsame, List.cons_prefix_cons] using h)
            (by simpa [hsame, List.cons_prefix_cons] using h'), hfound]
          simp only [follow, List.foldlM_cons]
          cases x.follow (.table members) with
          | none => exact follow_empty hpath
          | some u => rfl
        case isFalse => rfl
      | _ => rfl

/-! ### All keys -/

namespace Key

/-- The way to a key in a document. -/
def place : Key → List Step
  | provider => [.into fields "ai", .into aiFields "provider"]
  | apiKey => [.into fields "ai", .into aiFields "api_key"]
  | model => [.into fields "ai", .into aiFields "model"]
  | maxTokens => [.into fields "ai", .into aiFields "max_tokens"]
  | temperature => [.into fields "ai", .into aiFields "temperature"]
  | baseUrl => [.into fields "ai", .into aiFields "base_url"]
  | timeoutSeconds => [.into fields "ai", .into aiFields "timeout_secs"]
  | testPaths => [.into fields "test_paths"]
  | ignoreDirectories => [.into fields "ignore_directories"]
  | excludePatterns => [.into fields "generation", .into generationFields "exclude_patterns"]
  | extension => [.into fields "generation", .into generationFields "extension"]
  | slowThreshold => [.into fields "benchmark", .into benchmarkFields "slow_threshold"]
  | memoryThreshold => [.into fields "benchmark", .into benchmarkFields "memory_threshold"]
  | coverageThreshold => [.into fields "coverage", .into coverageFields "threshold"]
  | htmlReports => [.into fields "coverage", .into coverageFields "html_reports"]
  | xmlReports => [.into fields "coverage", .into coverageFields "xml_reports"]
  | cloverReports => [.into fields "coverage", .into coverageFields "clover_reports"]
  | unitTest => [.into fields "templates", .into templateFields "unit_test"]
  | modelTest => [.into fields "templates", .into templateFields "model_test"]
  | controllerTest => [.into fields "templates", .into templateFields "controller_test"]
  | outputDirectory => [.into fields "reports", .into reportFields "output_directory"]
  | binary => [.into fields "runner", .into runnerFields "binary"]
  | args => [.into fields "runner", .into runnerFields "args"]
  | notificationsEnabled => [.into fields "notifications", .into notificationFields "enabled"]
  | channels => [.into fields "notifications", .into notificationFields "channels"]
  | level => [.into fields "logging", .into loggingFields "level"]

def read? : (k : Key) → Value → Option k.Content
  | provider, v | apiKey, v | model, v | extension, v | binary, v | level, v => asString? v
  | maxTokens, v => asNat? (Nat.pow 2 32) v
  | timeoutSeconds, v => asNat? (Nat.pow 2 64) v
  | temperature, v | slowThreshold, v | memoryThreshold, v | coverageThreshold, v => asNumber? v
  | htmlReports, v | xmlReports, v | cloverReports, v | notificationsEnabled, v => asBool? v
  | testPaths, v | ignoreDirectories, v | excludePatterns, v | args, v | channels, v =>
    asStrings? v
  | baseUrl, v => (asString? v).map some
  | unitTest, v | modelTest, v | controllerTest, v => (asString? v).map (some ⟨·⟩)
  | outputDirectory, v => (asString? v).map (⟨·⟩)

def find? (k : Key) (document : Value) : Option Value :=
  follow k.place document

end Key

/-- The fields that are sections of their own. -/
theorem sets_sections :
    Sets fields "ai" (·.ai) (readSection aiFields {}) ∧
    Sets fields "generation" (·.generation) (readSection generationFields {}) ∧
    Sets fields "benchmark" (·.benchmark) (readSection benchmarkFields {}) ∧
    Sets fields "coverage" (·.coverage) (readSection coverageFields {}) ∧
    Sets fields "templates" (·.templates) (readSection templateFields {}) ∧
    Sets fields "reports" (·.reports) (readSection reportFields {}) ∧
    Sets fields "runner" (·.runner) (readSection runnerFields {}) ∧
    Sets fields "notifications" (·.notifications) (readSection notificationFields {}) ∧
    Sets fields "logging" (·.logging) (readSection loggingFields {}) := by
  refine ⟨?_, ?_, ?_, ?_, ?_, ?_, ?_, ?_, ?_⟩ <;> constructor
  all_goals simp only [fields, List.exists_mem_cons_iff, List.forall_mem_cons, List.not_mem_nil,
    forall_read_iff, String.reduceEq, ne_eq, not_true, not_false_iff, false_imp_iff, implies_true,
    imp_self, and_self, true_or, or_true]

namespace Key

/-- The field of a key is the only one of its section that sets its value. -/
def IsSet : Key → Prop
  | provider => Sets aiFields "provider" (·.provider) (read? provider)
  | apiKey => Sets aiFields "api_key" (·.apiKey) (read? apiKey)
  | model => Sets aiFields "model" (·.model) (read? model)
  | maxTokens => Sets aiFields "max_tokens" (·.maxTokens) (read? maxTokens)
  | temperature => Sets aiFields "temperature" (·.temperature) (read? temperature)
  | baseUrl => Sets aiFields "base_url" (·.baseUrl) (read? baseUrl)
  | timeoutSeconds => Sets aiFields "timeout_secs" (·.timeoutSeconds) (read? timeoutSeconds)
  | testPaths => Sets fields "test_paths" (·.testPaths) (read? testPaths)
  | ignoreDirectories =>
    Sets fields "ignore_directories" (·.ignoreDirectories) (read? ignoreDirectories)
  | excludePatterns =>
    Sets generationFields "exclude_patterns" (·.excludePatterns) (read? excludePatterns)
  | extension => Sets generationFields "extension" (·.extension) (read? extension)
  | slowThreshold => Sets benchmarkFields "slow_threshold" (·.slowThreshold) (read? slowThreshold)
  | memoryThreshold =>
    Sets benchmarkFields "memory_threshold" (·.memoryThreshold) (read? memoryThreshold)
  | coverageThreshold => Sets coverageFields "threshold" (·.threshold) (read? coverageThreshold)
  | htmlReports => Sets coverageFields "html_reports" (·.htmlReports) (read? htmlReports)
  | xmlReports => Sets coverageFields "xml_reports" (·.xmlReports) (read? xmlReports)
  | cloverReports => Sets coverageFields "clover_reports" (·.cloverReports) (read? cloverReports)
  | unitTest => Sets templateFields "unit_test" (·.unitTest) (read? unitTest)
  | modelTest => Sets templateFields "model_test" (·.modelTest) (read? modelTest)
  | controllerTest =>
    Sets templateFields "controller_test" (·.controllerTest) (read? controllerTest)
  | outputDirectory =>
    Sets reportFields "output_directory" (·.outputDirectory) (read? outputDirectory)
  | binary => Sets runnerFields "binary" (·.binary) (read? binary)
  | args => Sets runnerFields "args" (·.args) (read? args)
  | notificationsEnabled =>
    Sets notificationFields "enabled" (·.enabled) (read? notificationsEnabled)
  | channels => Sets notificationFields "channels" (·.channels) (read? channels)
  | level => Sets loggingFields "level" (·.level) (read? level)

theorem isSet (k : Key) : k.IsSet := by
  cases k <;> constructor
  all_goals simp +contextual only [read?, fields, aiFields, generationFields, benchmarkFields,
    coverageFields, templateFields, reportFields, runnerFields, notificationFields, loggingFields,
    List.exists_mem_cons_iff, List.forall_mem_cons, List.not_mem_nil, forall_read_iff,
    String.reduceEq, ne_eq, not_true, not_false_iff, false_imp_iff, implies_true, and_self,
    true_or, or_true, Option.map_some]

theorem settled {document : Value} {s : Settings} (h : readSection fields {} document = some s)
    (k : Key) : Settled k.read? (k.find? document) k.default (k.value s) := by
  obtain ⟨hai, hgeneration, hbenchmark, hcoverage, htemplates, hreports, hrunner, hnotifications,
    hlogging⟩ := sets_sections
  have hset := k.isSet
  cases k with
  | provider | apiKey | model | maxTokens | temperature | baseUrl | timeoutSeconds =>
    exact hai.settled_inside hset h rfl
  | testPaths | ignoreDirectories => exact hset.settled_at h
  | excludePatterns | extension => exact hgeneration.settled_inside hset h rfl
  | slowThreshold | memoryThreshold => exact hbenchmark.settled_inside hset h rfl
  | coverageThreshold | htmlReports | xmlReports | cloverReports =>
    exact hcoverage.settled_inside hset h rfl
  | unitTest | modelTest | controllerTest => exact htemplates.settled_inside hset h rfl
  | outputDirectory => exact hreports.settled_inside hset h rfl
  | binary | args => exact hrunner.settled_inside hset h rfl
  | notificationsEnabled | channels => exact hnotifications.settled_inside hset h rfl
  | level => exact hlogging.settled_inside hset h rfl

/-- No key is on the way to another one. -/
theorem eq_of_place_prefix {k k' : Key}
    (h : k.place.map (·.name) <+: k'.place.map (·.name)) : k = k' := by
  cases k <;> cases k' <;> first | rfl | simp [place, Step.into, List.cons_prefix_cons] at h

end Key

end SuiteForge.Settings
