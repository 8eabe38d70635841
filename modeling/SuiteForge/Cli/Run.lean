import SuiteForge.Cli.Arguments
import SuiteForge.Cli.Console
import SuiteForge.Settings.Load
import SuiteForge.Workbench

/-!
Carrying out a command line.

What is printed is collected in two streams. The status is `0` when all went well, `1` when it did
not, and `2` when the command line is not understood.
-/

namespace SuiteForge.Cli

/-- What a command line finds: a disk, a working directory, an environment, a line to the provider,
and the time. -/
structure World where
  disk : Disk
  cwd : Location
  env : Environment
  line : Line
  now : String

/-- The state of a command with what it has printed. -/
structure Session where
  state : Workbench.State
  out : String := ""
  err : String := ""

abbrev Act := StateM Session

/-- Prints a line. -/
def say (s : String) : Act Unit := modify fun c => { c with out := c.out ++ s ++ "\n" }

def sayAll (lines : List String) : Act Unit :=
  modify fun c => { c with out := c.out ++ String.join (lines.map (· ++ "\n")) }

/-- Prints a failure where failures go. -/
def complain (s : String) : Act Unit := modify fun c => { c with err := c.err ++ "❌ " ++ s ++ "\n" }

def complainAll (lines : List String) : Act Unit :=
  modify fun c => { c with err := c.err ++ String.join (lines.map ("❌ " ++ · ++ "\n")) }

/-- Lets something work on the state of the workbench. -/
def work (act : Workbench.State → α × Workbench.State) : Act α := fun c =>
  let (result, state) := act c.state
  (result, { c with state })

/-! ### Generating -/

/-- Writes tests from templates. With a model asked for, a name leads to a file inside a directory,
and a directory without a name gets model tests for all its sources. -/
def generateBasic (w : Workbench) (path : Path) (r : GenerateRequest) : Act Bool := do
  say "📝 Using basic test generation..."
  let o : GenerateOptions := { force := r.force, testType := r.testType }
  match r.model with
  | none => work (w.generate path o)
  | some name =>
    let d := (← get).state.harness.disk
    let path :=
      if d.isDirectory w.cwd path && name ≠ "" then
        path.join ⟨s!"{name}.{w.settings.generation.extension}"⟩
      else path
    -- the path may be a directory still, with no name or with one that leads to a directory
    if d.isDirectory w.cwd path then work (w.generate path { o with testType := some .model })
    else work (w.generateAs .model path r.force)

/-- Has tests written by the provider; nothing is the result when it cannot even be asked. -/
def generateAi (w : Workbench) (path : Path) (r : GenerateRequest) : Act (Option Bool) := do
  say "🤖 Using AI to generate test cases..."
  let problems := w.ai.problems
  if !problems.isEmpty then
    complainAll problems
    return none
  if !(← work w.connects) then
    complain "Failed to connect to AI service"
    return none
  say "✅ AI connection successful"
  if !(← get).state.harness.disk.isFile w.cwd path then
    complain ("AI generation needs a single source file: " ++ path.text)
    return none
  let o : AiOptions := { force := r.force, testType := r.testType, prompt := r.prompt }
  match ← work (w.generateWithAi path r.context o) with
  | .ok ok => return some ok
  | .error e =>
    complain e.message
    return none

/-- What is said at the end of a generation that went well. -/
def generatedLines (root : Path) (files : List Path) : List String :=
  ["✅ Tests generated successfully!",
    "📁 Check your tests directory for the generated files."] ++
  files.map (fun f => "   • " ++ pathText root f) ++
  ["",
    "Next steps:",
    "• Run tests: composer test",
    "• Check coverage: test-accelerator coverage",
    "• Analyze performance: test-accelerator benchmark"]

def generate (w : Workbench) (r : GenerateRequest) : Act Nat := do
  let path := w.root.join (r.path.getD ⟨"app"⟩)
  say ("🚀 Generating tests for: " ++ path.text)
  let result ← if r.ai then generateAi w path r else some <$> generateBasic w path r
  match result with
  | none => return 1
  | some false =>
    complain "Failed to generate tests"
    say "💡 Try using --force to overwrite existing files"
    return 1
  | some true =>
    sayAll (generatedLines w.root (Workbench.generatedFiles (← get).state))
    return 0

/-! ### Coverage -/

def CoverageRequest.formats (r : CoverageRequest) : List Coverage.Format :=
  (if r.html then [.html] else []) ++ (if r.xml then [.xml] else []) ++
    (if r.clover then [.clover] else [])

/-- Has reports written one after the other; all of them have to go well. -/
def writeReports (w : Workbench) (output : Option Path) : List Coverage.Format → Act Bool
  | [] => return true
  | f :: fs => do
    say ("Generating " ++ f.title ++ " report...")
    let ok ← work (w.coverageReport f (output.map f.locationIn))
    if ok then say ("✅ " ++ f.title ++ " report generated")
    else complain ("Failed to generate " ++ f.title ++ " report")
    let rest ← writeReports w output fs
    return ok && rest

def coverageReports (w : Workbench) (r : CoverageRequest) : Act Unit := do
  if r.formats.isEmpty then return ()
  say ""
  say "📄 Generating reports..."
  let output := r.output.map w.root.join
  if ← writeReports w output r.formats then
    say ("📁 Reports saved to: " ++ pathText w.root (output.getD w.coverage.reportsDirectory))

def coverage (w : Workbench) (r : CoverageRequest) : Act Nat := do
  say "📊 Analyzing test coverage..."
  let verdict ← work (w.judgeCoverage r.threshold)
  sayAll (coverageLines verdict)
  coverageReports w r
  say ""
  if verdict.passed then
    say "✅ Coverage analysis completed successfully!"
    return 0
  else
    complain ("Coverage below threshold of " ++ shortText verdict.threshold ++ "%")
    say "💡 Consider adding more tests or improving existing ones"
    return 1

/-! ### Benchmarks -/

/-- Writes the report if it is asked for, and tells whether it is there. -/
def benchmarkReport (w : Workbench) (a : Benchmark.Analysis) (now : String)
    (r : BenchmarkRequest) : Act Bool := do
  if !r.report then return true
  say ""
  say "📄 Generating performance report..."
  let dir := match r.output with
    | some o => w.root.join o
    | none => w.coverage.reportsDirectory
  match ← work (w.writeReport ⟨a, now⟩ dir) with
  | .ok file =>
    say ("✅ Performance report saved to: " ++ pathText w.root file)
    return true
  | .error e =>
    complain ("Failed to write performance report: " ++ e.message)
    return false

def benchmark (w : Workbench) (now : String) (r : BenchmarkRequest) : Act Nat := do
  say "⚡ Running performance benchmark..."
  let a ← work (w.benchmark r.slow r.memory)
  sayAll (benchmarkLines a)
  let reported ← benchmarkReport w a now r
  say ""
  say "✅ Performance analysis completed!"
  return if a.hasIssues || !reported then 1 else 0

/-! ### A command line -/

structure Finished where
  status : Nat
  out : String := ""
  err : String := ""
  disk : Disk
  line : Line

/-- Carries out a request on a workbench whose tests are run by `source`. -/
def carryOut (w : Workbench) (source : Runner.Source) (now : String) (r : Request) (d : Disk)
    (line : Line) : Finished :=
  let act := match r with
    | .generate r => generate w r
    | .coverage r => coverage w r
    | .benchmark r => benchmark w now r
  let (status, c) := act.run { state := { harness := { source, disk := d }, line } }
  { status, out := c.out, err := c.err, disk := c.state.harness.disk, line := c.state.line }

def versionText : String := "test-accelerator 0.1.0\n"

/-- Carries out a command line. The settings are read first, then the root is looked for. -/
def run (world : World) (args : List String) : Finished :=
  let stopped (status : Nat) (out err : String) : Finished :=
    { status, out, err, disk := world.disk, line := world.line }
  match Arguments.ofList args with
  | .error .misuse => stopped 2 "" ""
  | .error .help => stopped 0 "" ""
  | .error .version => stopped 0 versionText ""
  | .ok a =>
    match Settings.load world.disk world.cwd world.env a.root a.config with
    | .error e => stopped 1 "" ("❌ " ++ e.message ++ "\n")
    | .ok settings =>
      if world.disk.isDirectory world.cwd a.root then
        let w := Workbench.create settings a.root world.cwd world.disk
        carryOut w (.command (.ofSettings settings.runner a.root)) world.now a.request world.disk
          world.line
      else stopped 1 "" ("❌ Project root not found: " ++ a.root.text ++ "\n")

end SuiteForge.Cli
