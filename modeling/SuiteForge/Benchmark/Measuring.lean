import SuiteForge.Benchmark.Analysis
import SuiteForge.Runner.Harness

/-!
Measuring times and memory: running the tests and reading what they print. A run that fails has no
tests.
-/

namespace SuiteForge.Benchmark

open Runner (Harness)

/-- The flags that make the runner print every test. -/
def verboseFlags : List String := ["--verbose", "--coverage-text"]

def measure (cwd : Location) (h : Harness) : List Test × Harness :=
  match h.run cwd verboseFlags with
  | (.ok output, h) => (ofOutput output, h)
  | (.error _, h) => ([], h)

/-- The limits of the settings, or others where they are given. -/
def Limits.ofSettings (s : BenchmarkSettings) (time memory : Option Binary64) : Limits where
  time := time.getD s.slowThreshold
  memory := memory.getD s.memoryThreshold

def analyze (l : Limits) (cwd : Location) (h : Harness) : Analysis × Harness :=
  let (ts, h) := measure cwd h
  (.ofTests ts l, h)

def measureSlow (s : BenchmarkSettings) (cwd : Location) (h : Harness) : List Test × Harness :=
  let (ts, h) := measure cwd h
  (slowTests s.slowThreshold ts, h)

def measureHeavy (s : BenchmarkSettings) (cwd : Location) (h : Harness) : List Test × Harness :=
  let (ts, h) := measure cwd h
  (heavyTests s.memoryThreshold ts, h)

end SuiteForge.Benchmark
