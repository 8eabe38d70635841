import SuiteForge.Proofs.Benchmark.Verdicts
import SuiteForge.Proofs.Cli.Acts
import SuiteForge.Proofs.Disk.Changing

/-!
# The status of a benchmark

A benchmark tells the same in all it gives: lists, recommendations, report, and the status of the
command.
-/

namespace SuiteForge.Cli

open Benchmark (Agrees Limits Report testsOf verboseFlags)

variable {w : Workbench} {r : BenchmarkRequest} {c : Session}

def outcomeOf (w : Workbench) (s : Workbench.State) : Runner.Outcome :=
  (s.harness.run w.cwd verboseFlags).1

theorem benchmark_fst (w : Workbench) (time memory : Option Binary64) (s : Workbench.State) :
    (w.benchmark time memory s).1 =
      .ofTests (testsOf (outcomeOf w s)) (.ofSettings w.settings.benchmark time memory) := by
  simp only [Workbench.benchmark, Workbench.withHarness, Benchmark.analyze, Benchmark.measure_eq]
  rfl

theorem slowTests_fst (w : Workbench) (s : Workbench.State) : (w.slowTests s).1 =
    Benchmark.slowTests w.settings.benchmark.slowThreshold (testsOf (outcomeOf w s)) := by
  simp only [Workbench.slowTests, Workbench.withHarness, Benchmark.measureSlow,
    Benchmark.measure_eq]
  rfl

theorem heavyTests_fst (w : Workbench) (s : Workbench.State) : (w.heavyTests s).1 =
    Benchmark.heavyTests w.settings.benchmark.memoryThreshold (testsOf (outcomeOf w s)) := by
  simp only [Workbench.heavyTests, Workbench.withHarness, Benchmark.measureHeavy,
    Benchmark.measure_eq]
  rfl

/-! ### The report that is asked for -/

def BenchmarkRequest.directory (r : BenchmarkRequest) (w : Workbench) : Path :=
  match r.output with
  | some o => w.root.join o
  | none => w.coverage.reportsDirectory

def Written (w : Workbench) (r : BenchmarkRequest) (report : Report) (d d' : Disk) : Prop :=
  report.write d w.cwd (r.directory w) = (.ok ((r.directory w).join ⟨Report.fileName⟩), d')

theorem read_of_write {report : Report} {d d' : Disk} {cwd : Location} {dir file : Path}
    (h : report.write d cwd dir = (.ok file, d')) :
    file = dir.join ⟨Report.fileName⟩ ∧ d'.read cwd file = .ok report.text.toUTF8 := by
  unfold Report.write at h
  split at h
  · cases h
  · dsimp only at h
    split at h
    · cases h
    · rename_i hwrite
      cases h
      exact ⟨rfl, Disk.read_of_write hwrite⟩

theorem benchmarkReport_apply (w : Workbench) (a : Benchmark.Analysis) (now : String)
    (r : BenchmarkRequest) (c : Session) :
    ((benchmarkReport w a now r c).1 = true ↔ (r.report = true → ∃ d',
        Written w r ⟨a, now⟩ c.state.harness.disk d')) ∧
      ∀ d', r.report = true → Written w r ⟨a, now⟩ c.state.harness.disk d' →
        (benchmarkReport w a now r c).2.state.harness.disk = d' := by
  unfold benchmarkReport
  cases hreport : r.report with
  | false => simp
  | true =>
    have hwork (dir : Path) : w.writeReport ⟨a, now⟩ dir c.state =
        ((Report.write ⟨a, now⟩ c.state.harness.disk w.cwd dir).1,
          { c.state with harness.disk :=
            (Report.write ⟨a, now⟩ c.state.harness.disk w.cwd dir).2 }) := rfl
    unfold Written
    cases hwrite : Report.write ⟨a, now⟩ c.state.harness.disk w.cwd (r.directory w) with
    | mk result d =>
      cases result with
      | ok file =>
        obtain ⟨rfl, -⟩ := read_of_write hwrite
        cases houtput : r.output <;> simp only [BenchmarkRequest.directory, houtput] at hwrite <;>
          simp [hwork, hwrite]
      | error e =>
        cases houtput : r.output <;> simp only [BenchmarkRequest.directory, houtput] at hwrite <;>
          simp [hwork, hwrite]

/-! ### Agreement -/

/-- What a workbench finds out from a run. The limits are those that are given, or else those of the
settings. -/
structure Analysed (w : Workbench) (time memory : Option Binary64) (s : Workbench.State) :
    Prop where
  agrees : Agrees
    { time := time.getD w.settings.benchmark.slowThreshold
      memory := memory.getD w.settings.benchmark.memoryThreshold }
    (testsOf (outcomeOf w s)) (w.benchmark time memory s).1
  /-- The lists that are asked for alone are those of an analysis of the same outcome. -/
  slowTests : ∀ s', outcomeOf w s' = outcomeOf w s →
    (w.slowTests s').1 = (w.benchmark none none s).1.slow
  heavyTests : ∀ s', outcomeOf w s' = outcomeOf w s →
    (w.heavyTests s').1 = (w.benchmark none none s).1.heavy

theorem analysed (w : Workbench) (time memory : Option Binary64) (s : Workbench.State) :
    Analysed w time memory s := by
  constructor
  case agrees =>
    rw [benchmark_fst]
    exact Benchmark.agrees_ofTests _ _
  case slowTests =>
    intro s' hsame
    rw [slowTests_fst, hsame, benchmark_fst]
    rfl
  case heavyTests =>
    intro s' hsame
    rw [heavyTests_fst, hsame, benchmark_fst]
    rfl

/-- What the command line makes of an analysis, with the disk that the run has left. -/
structure Concluded (w : Workbench) (r : BenchmarkRequest) (a : Benchmark.Analysis) (now : String)
    (d : Disk) (f : Finished) : Prop where
  status : f.status = 0 ∨ f.status = 1
  status_iff : f.status = 0 ↔ (a.slow = [] ∧ a.heavy = []) ∧
    (r.report = true → ∃ d', Written w r ⟨a, now⟩ d d')
  /-- A report that can be written is there in the end. -/
  reported : r.report = true → ∀ d', Written w r ⟨a, now⟩ d d' →
    f.disk.read w.cwd ((r.directory w).join ⟨Report.fileName⟩) =
      .ok (Report.text ⟨a, now⟩).toUTF8

theorem hasIssues_eq_false_iff (a : Benchmark.Analysis) :
    a.hasIssues = false ↔ a.slow = [] ∧ a.heavy = [] := by
  simp [Benchmark.Analysis.hasIssues]

/-- The report is tried after the analysis, and the status is taken from both. -/
theorem benchmark_apply (w : Workbench) (now : String) (r : BenchmarkRequest) (c : Session)
    {a : Benchmark.Analysis} (ha : a = (w.benchmark r.slow r.memory c.state).1) :
    ∃ c', c'.state = (w.benchmark r.slow r.memory c.state).2 ∧
      (benchmark w now r c).1 =
        (if a.hasIssues || !(benchmarkReport w a now r c').1 then 1 else 0) ∧
      (benchmark w now r c).2.state = (benchmarkReport w a now r c').2.state := by
  subst ha
  exact ⟨_, rfl, rfl, rfl⟩

theorem concluded (w : Workbench) (r : BenchmarkRequest) (source : Runner.Source) (now : String)
    (d : Disk) (line : Line) {s : Workbench.State} {f : Finished}
    (hs : s = { harness := { source, disk := d }, line })
    (hf : f = carryOut w source now (.benchmark r) d line) :
    Concluded w r (w.benchmark r.slow r.memory s).1 now
      (w.benchmark r.slow r.memory s).2.harness.disk f := by
  have hstatus : f.status = (benchmark w now r { state := s }).1 := by rw [hf, hs]; rfl
  have hdisk : f.disk = (benchmark w now r { state := s }).2.state.harness.disk := by
    rw [hf, hs]
    rfl
  generalize ha : (w.benchmark r.slow r.memory s).1 = a
  -- from here on only the disk and the line of the session after the analysis count
  obtain ⟨c, hc, hexit, hstate⟩ := benchmark_apply w now r { state := s } ha.symm
  obtain ⟨hreported, hleft⟩ := benchmarkReport_apply w a now r c
  rw [hc] at hreported hleft
  constructor
  case status =>
    rw [hstatus, hexit]
    split <;> simp
  case status_iff =>
    rw [hstatus, hexit, ← hasIssues_eq_false_iff, ← hreported]
    cases a.hasIssues <;> cases (benchmarkReport w a now r c).1 <;> simp
  case reported =>
    intro hreport d' hwritten
    rw [hdisk, hstate, hleft d' hreport hwritten]
    exact (read_of_write hwritten).2

/-- A benchmark tells the same in lists, recommendations and report, and by its status. -/
theorem benchmark_verdicts_agree (w : Workbench) (r : BenchmarkRequest) :
    (∀ s, Analysed w r.slow r.memory s) ∧
      ∀ source now d line, Concluded w r
        (w.benchmark r.slow r.memory { harness := { source, disk := d }, line }).1 now
        (w.benchmark r.slow r.memory { harness := { source, disk := d }, line }).2.harness.disk
        (carryOut w source now (.benchmark r) d line) := by
  constructor
  · intro s
    exact analysed w r.slow r.memory s
  · intro source now d line
    exact concluded w r source now d line rfl rfl

end SuiteForge.Cli
