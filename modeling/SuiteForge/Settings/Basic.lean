import SuiteForge.Number.Decimal
import SuiteForge.Path
import SuiteForge.Text.Blank

/-!
The settings of a run, with their defaults.
-/

namespace SuiteForge

structure AiSettings where
  provider : String := "openai"
  apiKey : String := ""
  model : String := "gpt-4"
  maxTokens : Nat := 4000
  temperature : Binary64 := .ofScaled false 7 (-1)
  /-- Stands in for the provider's own address. -/
  baseUrl : Option String := none
  timeoutSeconds : Nat := 60

structure GenerationSettings where
  /-- Patterns of file names that a directory run leaves out. -/
  excludePatterns : List String := ["*Test.php", "*Trait.php", "Abstract*"]
  /-- The extension of sources and tests alike. -/
  extension : String := "php"

structure BenchmarkSettings where
  /-- In milliseconds. -/
  slowThreshold : Binary64 := 1000
  /-- In kilobytes. -/
  memoryThreshold : Binary64 := 1024

structure CoverageSettings where
  threshold : Binary64 := 80
  htmlReports : Bool := true
  xmlReports : Bool := false
  cloverReports : Bool := false

/-- Files that replace the built-in templates. -/
structure TemplateSettings where
  unitTest : Option Path := none
  modelTest : Option Path := none
  controllerTest : Option Path := none

structure ReportSettings where
  outputDirectory : Path := ⟨"storage/app/laravel-test-accelerator"⟩

structure RunnerSettings where
  binary : String := "vendor/bin/pest"
  /-- Come before the flags of every run. -/
  args : List String := []

structure NotificationSettings where
  enabled : Bool := false
  channels : List String := ["mail"]

structure LoggingSettings where
  level : String := "warn"

structure Settings where
  ai : AiSettings := {}
  testPaths : List String := ["tests/Unit", "tests/Feature", "tests/Integration"]
  ignoreDirectories : List String :=
    ["vendor", "node_modules", "storage", "bootstrap/cache", "public", "resources/views"]
  generation : GenerationSettings := {}
  benchmark : BenchmarkSettings := {}
  coverage : CoverageSettings := {}
  templates : TemplateSettings := {}
  reports : ReportSettings := {}
  runner : RunnerSettings := {}
  notifications : NotificationSettings := {}
  logging : LoggingSettings := {}

namespace Settings

/-- Where unit tests go: the first test path. -/
def unitDirectory (s : Settings) (root : Path) : Path :=
  root.join ⟨s.testPaths.head?.getD "tests/Unit"⟩

/-- Where feature tests go: the second test path, or the first if there is no second. -/
def featureDirectory (s : Settings) (root : Path) : Path :=
  match s.testPaths with
  | _ :: second :: _ => root.join ⟨second⟩
  | _ => s.unitDirectory root

def reportsDirectory (s : Settings) (root : Path) : Path :=
  root.join s.reports.outputDirectory

/-- What the log shows: a request in the environment comes before the debug switch, and that
before the settings. -/
def logFilter (s : Settings) (debug : Bool) (requested : Option String) : String :=
  match requested with
  | some r => if r.toList.all Text.isBlank then fallback else r
  | none => fallback
where
  fallback : String := if debug then "debug" else s.logging.level

end Settings

end SuiteForge
