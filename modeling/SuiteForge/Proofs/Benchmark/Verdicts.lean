import SuiteForge.Benchmark.Measuring
import SuiteForge.Benchmark.Report
import SuiteForge.Proofs.Number.Order

/-!
# The verdicts of a benchmark

Lists, recommendations and report tell the same: a test is listed when it is above its limit, a
recommendation is given for each list that is not empty, and the report counts what it lists.
-/

namespace SuiteForge.Benchmark

open Binary64 (Exceeds)
open Runner (Harness Outcome)

variable {ts slow heavy : List Test} {measured : Test → Binary64} {limit : Binary64}

/-! ### Tests above a limit -/

/-- The tests that an outcome tells of; there are none if the run has failed. -/
def testsOf : Outcome → List Test
  | .ok output => ofOutput output
  | .error _ => []

theorem measure_eq (cwd : Location) (h : Harness) :
    measure cwd h = (testsOf (h.run cwd verboseFlags).1, (h.run cwd verboseFlags).2) := by
  unfold measure testsOf
  split
  · rename_i hrun
    rw [hrun]
  · rename_i hrun
    rw [hrun]

/-- A list holds just the tests above a limit, in their order and as often as they are there. -/
structure Above (measured : Test → Binary64) (limit : Binary64) (all listed : List Test) :
    Prop where
  ordered : listed.Sublist all
  counted : ∀ t, Exceeds (measured t) limit → listed.count t = all.count t
  only : ∀ t ∈ listed, Exceeds (measured t) limit

theorem above_filter (measured : Test → Binary64) (limit : Binary64) (ts : List Test) :
    Above measured limit ts (ts.filter fun t => limit.less (measured t)) where
  ordered := List.filter_sublist
  counted _ ht := List.count_filter (Binary64.less_iff.mpr ht)
  only _ ht := Binary64.less_iff.mp (List.mem_filter.mp ht).2

/-! ### Recommendations -/

/-- A recommendation of a kind is there just when there are tests for it. It names them in order and
says how many they are. -/
structure Advises (kind : String) (wording : Nat → String) (ts : List Test)
    (rs : List Recommendation) : Prop where
  present : (∃ r ∈ rs, r.kind = kind) ↔ ts ≠ []
  names : ∀ r ∈ rs, r.kind = kind → r.tests = ts.map (·.name)
  states : ∀ r ∈ rs, r.kind = kind → r.message = wording ts.length

/-- That all is well is said just when there is nothing else to say, and alone. -/
structure Approves (slow heavy : List Test) (rs : List Recommendation) : Prop where
  present : (∃ r ∈ rs, r.kind = "success") ↔ slow = [] ∧ heavy = []
  alone : ∀ r ∈ rs, r.kind = "success" → rs = [r]

theorem mem_recommend_iff {r : Recommendation} : r ∈ recommend slow heavy ↔
    slow ≠ [] ∧ r = .speedUp (slow.map (·.name)) ∨
      heavy ≠ [] ∧ r = .saveMemory (heavy.map (·.name)) ∨
      slow = [] ∧ heavy = [] ∧ r = .allWell := by
  unfold recommend
  cases slow <;> cases heavy <;> simp

def ofSlow (n : Nat) : String := s!"Consider optimizing {n} slow tests"

def ofHeavy (n : Nat) : String := s!"Consider optimizing {n} memory-intensive tests"

theorem message_speedUp (names : List String) :
    (Recommendation.speedUp names).message = ofSlow names.length := rfl

theorem message_saveMemory (names : List String) :
    (Recommendation.saveMemory names).message = ofHeavy names.length := rfl

theorem Advises.of_iff {kind : String} {wording : Nat → String} {rs : List Recommendation}
    {advice : Recommendation}
    (h : ∀ r, r ∈ rs ∧ r.kind = kind ↔ ts ≠ [] ∧ r = advice)
    (hnames : advice.tests = ts.map (·.name))
    (hstates : advice.message = wording ts.length) : Advises kind wording ts rs := by
  constructor
  · constructor
    · rintro ⟨r, hr, hkind⟩
      exact ((h r).mp ⟨hr, hkind⟩).1
    · intro hne
      exact ⟨advice, (h advice).mpr ⟨hne, rfl⟩⟩
  · intro r hr hkind
    obtain ⟨-, rfl⟩ := (h r).mp ⟨hr, hkind⟩
    exact hnames
  · intro r hr hkind
    obtain ⟨-, rfl⟩ := (h r).mp ⟨hr, hkind⟩
    exact hstates

theorem advises_speedUp (slow heavy : List Test) :
    Advises "performance" ofSlow slow (recommend slow heavy) := by
  have hkind (r : Recommendation) : r ∈ recommend slow heavy ∧ r.kind = "performance" ↔
      slow ≠ [] ∧ r = .speedUp (slow.map (·.name)) := by
    rw [mem_recommend_iff]
    cases r <;> simp [Recommendation.kind]
  exact .of_iff hkind rfl (by rw [message_speedUp, List.length_map])

theorem advises_saveMemory (slow heavy : List Test) :
    Advises "memory" ofHeavy heavy (recommend slow heavy) := by
  have hkind (r : Recommendation) : r ∈ recommend slow heavy ∧ r.kind = "memory" ↔
      heavy ≠ [] ∧ r = .saveMemory (heavy.map (·.name)) := by
    rw [mem_recommend_iff]
    cases r <;> simp [Recommendation.kind]
  exact .of_iff hkind rfl (by rw [message_saveMemory, List.length_map])

theorem approves_recommend (slow heavy : List Test) :
    Approves slow heavy (recommend slow heavy) := by
  have hsuccess (r : Recommendation) : r ∈ recommend slow heavy ∧ r.kind = "success" ↔
      slow = [] ∧ heavy = [] ∧ r = .allWell := by
    rw [mem_recommend_iff]
    cases r <;> simp [Recommendation.kind]
  constructor
  · constructor
    · rintro ⟨r, hr, hkind⟩
      obtain ⟨hslow, hheavy, -⟩ := (hsuccess r).mp ⟨hr, hkind⟩
      exact ⟨hslow, hheavy⟩
    · rintro ⟨hslow, hheavy⟩
      exact ⟨.allWell, (hsuccess _).mpr ⟨hslow, hheavy, rfl⟩⟩
  · intro r hr hkind
    obtain ⟨rfl, rfl, rfl⟩ := (hsuccess r).mp ⟨hr, hkind⟩
    rfl

/-! ### Reports -/

/-- A report lists things under one name, and its summary counts them under another. -/
def Counts (report : Json) (count list : String) (things : List Json) : Prop :=
  report.member? list = some (.array things) ∧
    (report.member? "summary").bind (Json.member? count) = some (.ofNat things.length)

theorem counts_slow (r : Report) :
    Counts r.json "slow_tests_count" "slow_tests" (r.analysis.slow.map Test.json) := by
  constructor
  · rfl
  · rw [List.length_map]
    rfl

theorem counts_heavy (r : Report) :
    Counts r.json "memory_issues_count" "memory_issues" (r.analysis.heavy.map Test.json) := by
  constructor
  · rfl
  · rw [List.length_map]
    rfl

/-! ### Verdicts -/

/-- What an analysis says of the tests of an outcome. -/
structure Agrees (l : Limits) (ts : List Test) (a : Analysis) : Prop where
  slow : Above (·.time) l.time ts a.slow
  heavy : Above (·.memory) l.memory ts a.heavy
  speedUp : Advises "performance" ofSlow a.slow a.recommendations
  saveMemory : Advises "memory" ofHeavy a.heavy a.recommendations
  approves : Approves a.slow a.heavy a.recommendations
  countsSlow : ∀ madeAt, Counts (Report.json ⟨a, madeAt⟩) "slow_tests_count" "slow_tests"
    (a.slow.map Test.json)
  countsHeavy : ∀ madeAt, Counts (Report.json ⟨a, madeAt⟩) "memory_issues_count" "memory_issues"
    (a.heavy.map Test.json)

theorem agrees_ofTests (l : Limits) (ts : List Test) : Agrees l ts (.ofTests ts l) where
  slow := above_filter _ _ ts
  heavy := above_filter _ _ ts
  speedUp := advises_speedUp _ _
  saveMemory := advises_saveMemory _ _
  approves := approves_recommend _ _
  countsSlow _ := counts_slow _
  countsHeavy _ := counts_heavy _

end SuiteForge.Benchmark
