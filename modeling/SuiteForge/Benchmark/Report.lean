import SuiteForge.Benchmark.Analysis
import SuiteForge.Disk.Basic
import SuiteForge.Error
import SuiteForge.Json.Printer
import SuiteForge.Timestamp

/-!
The report of a benchmark: a JSON document with a summary, the tests in question, the
recommendations and the time it was made at.
-/

namespace SuiteForge.Benchmark

def Verdict.text : Verdict → String
  | .pass => "pass"
  | .fail => "fail"

def Test.json (t : Test) : Json := .record [
  ("name", .text t.name),
  ("status", .text t.verdict.text),
  ("time", .ofBinary64 t.time),
  ("memory", .ofBinary64 t.memory)]

def Recommendation.json (r : Recommendation) : Json := .record [
  ("type", .text r.kind),
  ("message", .text r.message),
  ("tests", .array (r.tests.map Json.text))]

/-- An analysis with the text of the time it was made at. -/
structure Report where
  analysis : Analysis
  madeAt : String

namespace Report

def summary (a : Analysis) : Json := .record [
  ("total_tests", .ofNat a.count),
  ("slow_tests_count", .ofNat a.slow.length),
  ("memory_issues_count", .ofNat a.heavy.length),
  ("average_time", .ofBinary64 a.averageTime),
  ("total_time", .ofBinary64 a.totalTime)]

def json (r : Report) : Json := .record [
  ("summary", summary r.analysis),
  ("slow_tests", .array (r.analysis.slow.map Test.json)),
  ("memory_issues", .array (r.analysis.heavy.map Test.json)),
  ("recommendations", .array (r.analysis.recommendations.map Recommendation.json)),
  ("generated_at", .text r.madeAt)]

def text (r : Report) : String := String.ofList (r.json.pretty 0)

def fileName : String := "performance-report.json"

/-- Writes the report into a directory, which is made if it is not there. -/
def write (r : Report) (d : Disk) (cwd : Location) (dir : Path) : Except Error Path × Disk :=
  match d.makeDirectories cwd dir with
  | (.error cause, d) => (.error (.disk dir cause), d)
  | (.ok (), d) =>
    let file := dir.join ⟨fileName⟩
    match d.write cwd file r.text.toUTF8 with
    | .error cause => (.error (.disk file cause), d)
    | .ok d => (.ok file, d)

end Report

end SuiteForge.Benchmark
