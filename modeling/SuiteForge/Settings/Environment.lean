import SuiteForge.Settings.Basic
import SuiteForge.Text.Ascii

/-!
Settings from environment variables.

A variable overrides one field. A threshold is overridden only by a number that is not negative; a
switch is on for a few words and off for every other text.
-/

namespace SuiteForge

/-- Environment variables; when a name is there twice, the later value counts. -/
abbrev Environment := List (String × String)

namespace Environment

def get? (env : Environment) (name : String) : Option String := env.reverse.lookup name

end Environment

namespace Settings

def switchedOn (text : String) : Bool :=
  ["1", "true", "yes", "on"].contains
    (String.ofList ((Text.trim text.toList).map Text.lower))

/-- The number that a text gives for a threshold, if it gives one that is not negative. -/
def thresholdOf? (text : String) : Option Binary64 :=
  (Binary64.ofText? (Text.trim text.toList)).filter fun x => Binary64.zero.atMost x

/-- The value of a variable whose name starts with the tool's. -/
def fromEnv? (env : Environment) (name : String) : Option String :=
  env.get? ("TEST_ACCELERATOR_" ++ name)

/-- The text of a variable, or what was there. -/
def overrideText (env : Environment) (name : String) (old : String) : String :=
  (fromEnv? env name).getD old

def overrideSwitch (env : Environment) (name : String) (old : Bool) : Bool :=
  ((fromEnv? env name).map switchedOn).getD old

def overrideThreshold (env : Environment) (name : String) (old : Binary64) : Binary64 :=
  ((fromEnv? env name).bind thresholdOf?).getD old

def override (s : Settings) (env : Environment) : Settings :=
  { s with
    ai := { s.ai with
      provider := overrideText env "AI_PROVIDER" s.ai.provider
      apiKey := overrideText env "AI_API_KEY" s.ai.apiKey
      model := overrideText env "AI_MODEL" s.ai.model
      baseUrl := fromEnv? env "AI_BASE_URL" <|> s.ai.baseUrl }
    runner := { s.runner with binary := overrideText env "RUNNER" s.runner.binary }
    logging := { s.logging with level := overrideText env "LOG_LEVEL" s.logging.level }
    benchmark := { s.benchmark with
      slowThreshold := overrideThreshold env "SLOW_THRESHOLD" s.benchmark.slowThreshold
      memoryThreshold := overrideThreshold env "MEMORY_THRESHOLD" s.benchmark.memoryThreshold }
    coverage := { s.coverage with
      threshold := overrideThreshold env "COVERAGE_THRESHOLD" s.coverage.threshold
      htmlReports := overrideSwitch env "HTML_REPORTS" s.coverage.htmlReports
      xmlReports := overrideSwitch env "XML_REPORTS" s.coverage.xmlReports
      cloverReports := overrideSwitch env "CLOVER_REPORTS" s.coverage.cloverReports }
    notifications := { s.notifications with
      enabled := overrideSwitch env "NOTIFICATIONS" s.notifications.enabled } }

end Settings

end SuiteForge
