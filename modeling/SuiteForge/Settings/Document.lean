import SuiteForge.Settings.Basic
import SuiteForge.Toml.Parser

/-!
Settings from a TOML document.

A section is a list of fields, each with a name and a reader. A table gives fields by name, an
array gives them by position, and a date gives none; names that are no field are skipped. A field
whose value has the wrong type makes the whole document unreadable.
-/

namespace SuiteForge.Settings

open Toml (Value)

/-- A named field of a section: it reads a value into the section. -/
structure Field (σ : Type) where
  name : String
  read : Value → σ → Option σ

/-- Reads a section over a starting value. -/
def readSection (fields : List (Field σ)) (start : σ) : Value → Option σ
  | .table members =>
    members.foldlM (fun s (name, v) =>
      match fields.find? (·.name = name) with
      | some field => field.read v s
      | none => some s) start
  | .array values =>
    (fields.zip values).foldlM (fun s (field, v) => field.read v s) start
  | .moment _ => some start
  | _ => none

/-! ### Values of one type -/

def asString? : Value → Option String
  | .string s => some s
  | _ => none

def asBool? : Value → Option Bool
  | .boolean b => some b
  | _ => none

/-- An integer that is not negative and below a limit. -/
def asNat? (limit : Nat) : Value → Option Nat
  | .integer n => if 0 ≤ n ∧ n.toNat < limit then some n.toNat else none
  | _ => none

/-- A number; integers count as numbers. -/
def asNumber? : Value → Option Binary64
  | .float x => some x
  | .integer n => some (.ofInt n)
  | _ => none

def asStrings? : Value → Option (List String)
  | .array vs => vs.mapM asString?
  | _ => none

/-! ### Sections -/

def aiFields : List (Field AiSettings) := [
  ⟨"provider", fun v s => (asString? v).map ({ s with provider := · })⟩,
  ⟨"api_key", fun v s => (asString? v).map ({ s with apiKey := · })⟩,
  ⟨"model", fun v s => (asString? v).map ({ s with model := · })⟩,
  ⟨"max_tokens", fun v s => (asNat? (Nat.pow 2 32) v).map ({ s with maxTokens := · })⟩,
  ⟨"temperature", fun v s => (asNumber? v).map ({ s with temperature := · })⟩,
  ⟨"base_url", fun v s => (asString? v).map ({ s with baseUrl := some · })⟩,
  ⟨"timeout_secs", fun v s => (asNat? (Nat.pow 2 64) v).map ({ s with timeoutSeconds := · })⟩]

def generationFields : List (Field GenerationSettings) := [
  ⟨"exclude_patterns", fun v s => (asStrings? v).map ({ s with excludePatterns := · })⟩,
  ⟨"extension", fun v s => (asString? v).map ({ s with extension := · })⟩]

def benchmarkFields : List (Field BenchmarkSettings) := [
  ⟨"slow_threshold", fun v s => (asNumber? v).map ({ s with slowThreshold := · })⟩,
  ⟨"memory_threshold", fun v s => (asNumber? v).map ({ s with memoryThreshold := · })⟩]

def coverageFields : List (Field CoverageSettings) := [
  ⟨"threshold", fun v s => (asNumber? v).map ({ s with threshold := · })⟩,
  ⟨"html_reports", fun v s => (asBool? v).map ({ s with htmlReports := · })⟩,
  ⟨"xml_reports", fun v s => (asBool? v).map ({ s with xmlReports := · })⟩,
  ⟨"clover_reports", fun v s => (asBool? v).map ({ s with cloverReports := · })⟩]

def templateFields : List (Field TemplateSettings) := [
  ⟨"unit_test", fun v s => (asString? v).map ({ s with unitTest := some ⟨·⟩ })⟩,
  ⟨"model_test", fun v s => (asString? v).map ({ s with modelTest := some ⟨·⟩ })⟩,
  ⟨"controller_test", fun v s => (asString? v).map ({ s with controllerTest := some ⟨·⟩ })⟩]

def reportFields : List (Field ReportSettings) := [
  ⟨"output_directory", fun v s => (asString? v).map ({ s with outputDirectory := ⟨·⟩ })⟩]

def runnerFields : List (Field RunnerSettings) := [
  ⟨"binary", fun v s => (asString? v).map ({ s with binary := · })⟩,
  ⟨"args", fun v s => (asStrings? v).map ({ s with args := · })⟩]

def notificationFields : List (Field NotificationSettings) := [
  ⟨"enabled", fun v s => (asBool? v).map ({ s with enabled := · })⟩,
  ⟨"channels", fun v s => (asStrings? v).map ({ s with channels := · })⟩]

def loggingFields : List (Field LoggingSettings) := [
  ⟨"level", fun v s => (asString? v).map ({ s with level := · })⟩]

def fields : List (Field Settings) := [
  ⟨"ai", fun v s => (readSection aiFields {} v).map ({ s with ai := · })⟩,
  ⟨"test_paths", fun v s => (asStrings? v).map ({ s with testPaths := · })⟩,
  ⟨"ignore_directories", fun v s => (asStrings? v).map ({ s with ignoreDirectories := · })⟩,
  ⟨"generation", fun v s => (readSection generationFields {} v).map ({ s with generation := · })⟩,
  ⟨"benchmark", fun v s => (readSection benchmarkFields {} v).map ({ s with benchmark := · })⟩,
  ⟨"coverage", fun v s => (readSection coverageFields {} v).map ({ s with coverage := · })⟩,
  ⟨"templates", fun v s => (readSection templateFields {} v).map ({ s with templates := · })⟩,
  ⟨"reports", fun v s => (readSection reportFields {} v).map ({ s with reports := · })⟩,
  ⟨"runner", fun v s => (readSection runnerFields {} v).map ({ s with runner := · })⟩,
  ⟨"notifications",
    fun v s => (readSection notificationFields {} v).map ({ s with notifications := · })⟩,
  ⟨"logging", fun v s => (readSection loggingFields {} v).map ({ s with logging := · })⟩]

/-- The settings that a document gives, over the defaults. -/
def ofDocument? (text : String) : Option Settings :=
  (Toml.parse? text.toList).bind fun members => readSection fields {} (.table members)

end SuiteForge.Settings
