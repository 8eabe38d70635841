import SuiteForge.Benchmark.Basic

/-!
Which tests are slow or heavy, and what to do about it.
-/

namespace SuiteForge.Benchmark

/-- Limits in milliseconds and kilobytes; a test at a limit is within it. -/
structure Limits where
  time : Binary64
  memory : Binary64

def slowTests (limit : Binary64) (ts : List Test) : List Test := ts.filter (limit.less ·.time)

def heavyTests (limit : Binary64) (ts : List Test) : List Test := ts.filter (limit.less ·.memory)

/-! ### Recommendations -/

inductive Recommendation where
  | speedUp (names : List String)
  | saveMemory (names : List String)
  | allWell
  deriving DecidableEq

namespace Recommendation

def kind : Recommendation → String
  | .speedUp _ => "performance"
  | .saveMemory _ => "memory"
  | .allWell => "success"

def message : Recommendation → String
  | .speedUp names => s!"Consider optimizing {names.length} slow tests"
  | .saveMemory names => s!"Consider optimizing {names.length} memory-intensive tests"
  | .allWell => "All tests are performing well!"

def tests : Recommendation → List String
  | .speedUp names => names
  | .saveMemory names => names
  | .allWell => []

end Recommendation

/-- A recommendation for each list that is not empty, or else that all is well. -/
def recommend (slow heavy : List Test) : List Recommendation :=
  let advice :=
    (if slow.isEmpty then [] else [Recommendation.speedUp (slow.map (·.name))]) ++
      (if heavy.isEmpty then [] else [Recommendation.saveMemory (heavy.map (·.name))])
  if advice.isEmpty then [.allWell] else advice

/-! ### Analysis -/

structure Analysis where
  count : Nat
  slow : List Test
  heavy : List Test
  totalTime : Binary64
  averageTime : Binary64
  recommendations : List Recommendation

/-- The sum from the left. It starts from negative zero, which changes no other number, so the sum
of nothing is negative zero. -/
def sumOfTimes (ts : List Test) : Binary64 :=
  ts.foldl (fun sum t => sum + t.time) .negativeZero

def meanTime (ts : List Test) : Binary64 :=
  if ts.isEmpty then .zero else (sumOfTimes ts).divide ts.length

def Analysis.ofTests (ts : List Test) (l : Limits) : Analysis :=
  let slow := slowTests l.time ts
  let heavy := heavyTests l.memory ts
  { count := ts.length
    slow
    heavy
    totalTime := sumOfTimes ts
    averageTime := meanTime ts
    recommendations := recommend slow heavy }

def Analysis.hasIssues (a : Analysis) : Bool := !a.slow.isEmpty || !a.heavy.isEmpty

end SuiteForge.Benchmark
