import SuiteForge.Proofs.Association
import SuiteForge.Proofs.Number.Order
import SuiteForge.Settings.Environment

/-!
# Settings one by one

Settings are known by what is kept under each of their keys. The environment lays its values over
them key by key, each variable over one key.
-/

namespace SuiteForge.Settings

open Binary64 (AtLeast)

/-- A key for each single setting, in whatever section it is. -/
inductive Key where
  | provider
  | apiKey
  | model
  | maxTokens
  | temperature
  | baseUrl
  | timeoutSeconds
  | testPaths
  | ignoreDirectories
  | excludePatterns
  | extension
  | slowThreshold
  | memoryThreshold
  | coverageThreshold
  | htmlReports
  | xmlReports
  | cloverReports
  | unitTest
  | modelTest
  | controllerTest
  | outputDirectory
  | binary
  | args
  | notificationsEnabled
  | channels
  | level

namespace Key

@[reducible]
def Content : Key → Type
  | provider | apiKey | model | extension | binary | level => String
  | maxTokens | timeoutSeconds => Nat
  | temperature | slowThreshold | memoryThreshold | coverageThreshold => Binary64
  | htmlReports | xmlReports | cloverReports | notificationsEnabled => Bool
  | testPaths | ignoreDirectories | excludePatterns | args | channels => List String
  | baseUrl => Option String
  | unitTest | modelTest | controllerTest => Option Path
  | outputDirectory => Path

def value : (k : Key) → Settings → k.Content
  | provider, s => s.ai.provider
  | apiKey, s => s.ai.apiKey
  | model, s => s.ai.model
  | maxTokens, s => s.ai.maxTokens
  | temperature, s => s.ai.temperature
  | baseUrl, s => s.ai.baseUrl
  | timeoutSeconds, s => s.ai.timeoutSeconds
  | testPaths, s => s.testPaths
  | ignoreDirectories, s => s.ignoreDirectories
  | excludePatterns, s => s.generation.excludePatterns
  | extension, s => s.generation.extension
  | slowThreshold, s => s.benchmark.slowThreshold
  | memoryThreshold, s => s.benchmark.memoryThreshold
  | coverageThreshold, s => s.coverage.threshold
  | htmlReports, s => s.coverage.htmlReports
  | xmlReports, s => s.coverage.xmlReports
  | cloverReports, s => s.coverage.cloverReports
  | unitTest, s => s.templates.unitTest
  | modelTest, s => s.templates.modelTest
  | controllerTest, s => s.templates.controllerTest
  | outputDirectory, s => s.reports.outputDirectory
  | binary, s => s.runner.binary
  | args, s => s.runner.args
  | notificationsEnabled, s => s.notifications.enabled
  | channels, s => s.notifications.channels
  | level, s => s.logging.level

def default (k : Key) : k.Content := k.value {}

end Key

/-- There is nothing in settings but what their keys keep. -/
theorem ext_keys {s t : Settings} (h : ∀ k : Key, k.value s = k.value t) : s = t := by
  obtain ⟨⟨⟩, _, _, ⟨⟩, ⟨⟩, ⟨⟩, ⟨⟩, ⟨⟩, ⟨⟩, ⟨⟩, ⟨⟩⟩ := s
  obtain ⟨⟨⟩, _, _, ⟨⟩, ⟨⟩, ⟨⟩, ⟨⟩, ⟨⟩, ⟨⟩, ⟨⟩, ⟨⟩⟩ := t
  simp only [Settings.mk.injEq, AiSettings.mk.injEq, GenerationSettings.mk.injEq,
    BenchmarkSettings.mk.injEq, CoverageSettings.mk.injEq, TemplateSettings.mk.injEq,
    ReportSettings.mk.injEq, RunnerSettings.mk.injEq, NotificationSettings.mk.injEq,
    LoggingSettings.mk.injEq]
  exact ⟨⟨h .provider, h .apiKey, h .model, h .maxTokens, h .temperature, h .baseUrl,
      h .timeoutSeconds⟩,
    h .testPaths, h .ignoreDirectories,
    ⟨h .excludePatterns, h .extension⟩,
    ⟨h .slowThreshold, h .memoryThreshold⟩,
    ⟨h .coverageThreshold, h .htmlReports, h .xmlReports, h .cloverReports⟩,
    ⟨h .unitTest, h .modelTest, h .controllerTest⟩,
    h .outputDirectory,
    ⟨h .binary, h .args⟩,
    ⟨h .notificationsEnabled, h .channels⟩,
    h .level⟩

/-! ### Variables -/

namespace Key

/-- The variable that is laid over a key, without the start that all names share. -/
def envName? : Key → Option String
  | provider => some "AI_PROVIDER"
  | apiKey => some "AI_API_KEY"
  | model => some "AI_MODEL"
  | baseUrl => some "AI_BASE_URL"
  | binary => some "RUNNER"
  | level => some "LOG_LEVEL"
  | slowThreshold => some "SLOW_THRESHOLD"
  | memoryThreshold => some "MEMORY_THRESHOLD"
  | coverageThreshold => some "COVERAGE_THRESHOLD"
  | htmlReports => some "HTML_REPORTS"
  | xmlReports => some "XML_REPORTS"
  | cloverReports => some "CLOVER_REPORTS"
  | notificationsEnabled => some "NOTIFICATIONS"
  | _ => none

def ofText? : (k : Key) → String → Option k.Content
  | provider, text | apiKey, text | model, text | binary, text | level, text => some text
  | baseUrl, text => some (some text)
  | slowThreshold, text | memoryThreshold, text | coverageThreshold, text => thresholdOf? text
  | htmlReports, text | xmlReports, text | cloverReports, text | notificationsEnabled, text =>
    some (switchedOn text)
  | _, _ => none

/-- The text of the variable that is laid over a key. Of several texts the last one counts. -/
def assigned? (k : Key) (env : Environment) : Option String :=
  k.envName?.bind fun name =>
    (env.filter (·.1 = "TEST_ACCELERATOR_" ++ name)).getLast?.map Prod.snd

/-- What the environment lays over a key. -/
def overridden? (k : Key) (env : Environment) : Option k.Content :=
  (k.assigned? env).bind k.ofText?

theorem assigned?_eq {k : Key} {name : String} (h : k.envName? = some name) (env : Environment) :
    k.assigned? env = fromEnv? env name := by
  rw [assigned?, h, Option.bind_some]
  exact (lookup_reverse env _).symm

theorem assigned?_append {k : Key} {env : Environment} {x text : String}
    (h : ∀ name, k.envName? = some name → x ≠ "TEST_ACCELERATOR_" ++ name) :
    k.assigned? (env ++ [(x, text)]) = k.assigned? env := by
  rw [assigned?, assigned?]
  cases hname : k.envName? with
  | none => rfl
  | some name =>
    have hother : [(x, text)].filter (·.1 = "TEST_ACCELERATOR_" ++ name) = [] := by
      simpa using h name hname
    rw [Option.bind_some, Option.bind_some, List.filter_append, hother, List.append_nil]

theorem value_override (k : Key) (s : Settings) (env : Environment) :
    k.value (s.override env) = (k.overridden? env).getD (k.value s) := by
  cases hname : k.envName? with
  | none =>
    have hnot : k.overridden? env = none := by rw [overridden?, assigned?, hname]; rfl
    rw [hnot]
    -- a key without a variable is not touched
    cases k <;> first | rfl | cases hname
  | some name =>
    have hlaid : k.overridden? env = (fromEnv? env name).bind k.ofText? := by
      rw [overridden?, assigned?_eq hname]
    rw [hlaid]
    cases k <;> cases hname <;> simp only [value, override, overrideText, overrideSwitch,
      overrideThreshold] <;> cases fromEnv? env _ <;> rfl

/-- A variable is laid over one key alone. -/
theorem eq_of_envName? {k k' : Key} {name : String} (h : k.envName? = some name)
    (h' : k'.envName? = some name) : k = k' := by
  cases k <;> cases h <;> cases k' <;> first | rfl | simp [envName?] at h'

end Key

/-- A threshold is overridden by the numbers that are not negative. -/
theorem thresholdOf?_eq_some_iff {text : String} {x : Binary64} :
    thresholdOf? text = some x ↔
      Binary64.ofText? (Text.trim text.toList) = some x ∧ AtLeast x .zero := by
  rw [thresholdOf?, Option.filter_eq_some_iff, Binary64.atMost_iff]

theorem override_override (s : Settings) (env : Environment) :
    (s.override env).override env = s.override env := by
  refine ext_keys fun k => ?_
  rw [k.value_override (s.override env), k.value_override s]
  cases k.overridden? env <;> rfl

end SuiteForge.Settings
