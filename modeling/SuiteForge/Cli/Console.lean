import SuiteForge.Benchmark.Analysis
import SuiteForge.Console.Amount
import SuiteForge.Console.Shortened
import SuiteForge.Console.Table
import SuiteForge.Coverage.Analysis

/-!
How coverage and benchmarks are shown on the console, line by line.
-/

namespace SuiteForge.Cli

open Console

def amountText (places : Nat) (x : Binary64) : String := String.ofList (amount places x)

def shortText (x : Binary64) : String := String.ofList (short x)

/-- The most characters of a file name and of a test name in a table. -/
def fileWidth : Nat := 50

def testWidth : Nat := 40

/-- A path as seen from the root. -/
def pathText (root p : Path) : String := ((p.behind? root).getD p).text

/-! ### Coverage -/

def statusText : Coverage.Status → String
  | .good => "✅ Good"
  | .low => "⚠️ Low"

def coverageTable (rows : List Coverage.Row) : Table where
  headers := ["File", "Coverage %", "Status"]
  rows := rows.map fun r => [
    String.ofList (shortenStart fileWidth r.file.toList),
    amountText 1 r.percent ++ "%",
    statusText r.status]

def coverageLines (v : Coverage.Verdict) : List String :=
  let files :=
    if v.figures.rows.isEmpty then []
    else ["📁 File Coverage:", (coverageTable v.figures.rows).text]
  "" :: files ++ [
    "",
    "📈 Overall Coverage: " ++ amountText 1 v.figures.total ++ "%",
    "🎯 Threshold: " ++ shortText v.threshold ++ "%",
    "📊 Status: " ++ if v.passed then "✅ Passed" else "❌ Failed"]

/-! ### Benchmarks -/

def testTable (headers : List String) (numbers : Benchmark.Test → List Binary64)
    (ts : List Benchmark.Test) : Table where
  headers
  rows := ts.map fun t =>
    String.ofList (shortenEnd testWidth t.name.toList) :: (numbers t).map (amountText 2)

def slowTable (ts : List Benchmark.Test) : Table :=
  testTable ["Test Name", "Time (ms)", "Memory (KB)"] (fun t => [t.time, t.memory]) ts

def heavyTable (ts : List Benchmark.Test) : Table :=
  testTable ["Test Name", "Memory (KB)", "Time (ms)"] (fun t => [t.memory, t.time]) ts

/-- How many tests a recommendation names; the others are counted. -/
def namedTests : Nat := 3

def recommendationLines (r : Benchmark.Recommendation) : List String :=
  let mark := if r = .allWell then "✅" else "⚠️"
  let more := r.tests.length - namedTests
  (mark ++ " " ++ r.message) :: (r.tests.take namedTests).map ("   • " ++ ·) ++
    if more = 0 then [] else [s!"   • ... and {more} more"]

/-- A table under a title, unless there is nothing in it. -/
def titled (title : String) (t : Table) : List String :=
  if t.isEmpty then [] else ["", title, t.text]

def benchmarkLines (a : Benchmark.Analysis) : List String :=
  ["",
    "📊 Performance Summary:",
    s!"Total Tests: {a.count}",
    "Average Time: " ++ amountText 2 a.averageTime ++ "ms",
    "Total Time: " ++ amountText 2 a.totalTime ++ "ms",
    s!"Slow Tests: {a.slow.length}",
    s!"Memory Issues: {a.heavy.length}"] ++
  titled "🐌 Slow Tests:" (slowTable a.slow) ++
  titled "💾 Memory Issues:" (heavyTable a.heavy) ++
  if a.recommendations.isEmpty then []
  else "" :: "💡 Recommendations:" :: a.recommendations.flatMap recommendationLines

end SuiteForge.Cli
