import SuiteForge.Benchmark.Measuring
import SuiteForge.Benchmark.Report
import SuiteForge.Coverage.Analysis
import SuiteForge.Provider.Generator

/-!
Everything that can be done with a project, in one place.

A workbench holds what stays the same for a project; its state is what has been written so far, the
line to the provider, and the harness with the disk. Tests from templates and tests from a provider
are recorded apart.
-/

namespace SuiteForge

structure Workbench where
  settings : Settings
  root : Path
  cwd : Location
  generator : Generator
  ai : AiGenerator
  coverage : Coverage.Analyzer

namespace Workbench

structure State where
  harness : Runner.Harness
  written : WriteLog := {}
  aiWritten : WriteLog := {}
  line : Line

/-- Sets up a project; templates are read here. -/
def create (settings : Settings) (root : Path) (cwd : Location) (d : Disk) : Workbench where
  settings
  root
  cwd
  generator := .create settings root cwd d
  ai := { settings, root, cwd }
  coverage := .ofSettings settings root cwd

/-! ### Generating -/

def withTemplates (act : Generator.State → Bool × Generator.State) (s : State) : Bool × State :=
  let (ok, g) := act ⟨s.written, s.harness.disk⟩
  (ok, { s with written := g.log, harness := { s.harness with disk := g.disk } })

def generate (w : Workbench) (path : Path) (o : GenerateOptions) : State → Bool × State :=
  withTemplates (w.generator.runPath path o)

def generateAs (w : Workbench) (kind : Php.Kind) (path : Path) (force : Bool) :
    State → Bool × State :=
  withTemplates (w.generator.run path (some kind) force)

/-- Has the tests of a source written by the provider. -/
def generateWithAi (w : Workbench) (path : Path) (context : List (String × String))
    (o : AiOptions) (s : State) : Except Error Bool × State :=
  let (result, a) := w.ai.run path context o ⟨s.aiWritten, s.harness.disk, s.line⟩
  (result, { s with
    aiWritten := a.log
    harness := { s.harness with disk := a.disk }
    line := a.line })

/-- The test files written so far, in order. -/
def generatedFiles (s : State) : List Path := Path.sort (s.written.sorted ++ s.aiWritten.sorted)

def connects (w : Workbench) (s : State) : Bool × State :=
  let (ok, line) := w.ai.probe s.line
  (ok, { s with line })

/-! ### Running the tests -/

def withHarness (act : Runner.Harness → α × Runner.Harness) (s : State) : α × State :=
  let (result, harness) := act s.harness
  (result, { s with harness })

def judgeCoverage (w : Workbench) (threshold : Option Binary64) :
    State → Coverage.Verdict × State :=
  withHarness (w.coverage.judge threshold)

def coverageStats (w : Workbench) : State → Coverage.Stats × State :=
  withHarness w.coverage.stats

def coverageReport (w : Workbench) (f : Coverage.Format) (location : Option Path) :
    State → Bool × State :=
  withHarness (w.coverage.report f location)

def configuredReports (w : Workbench) (dir : Option Path) :
    State → List (Coverage.Format × Bool) × State :=
  withHarness (w.coverage.configuredReports dir)

/-- Analyses a run with the limits of the settings, or others where they are given. -/
def benchmark (w : Workbench) (time memory : Option Binary64) :
    State → Benchmark.Analysis × State :=
  withHarness (Benchmark.analyze (.ofSettings w.settings.benchmark time memory) w.cwd)

def slowTests (w : Workbench) : State → List Benchmark.Test × State :=
  withHarness (Benchmark.measureSlow w.settings.benchmark w.cwd)

def heavyTests (w : Workbench) : State → List Benchmark.Test × State :=
  withHarness (Benchmark.measureHeavy w.settings.benchmark w.cwd)

def writeReport (w : Workbench) (r : Benchmark.Report) (dir : Path) (s : State) :
    Except Error Path × State :=
  let (result, disk) := r.write s.harness.disk w.cwd dir
  (result, { s with harness := { s.harness with disk } })

end Workbench

end SuiteForge
