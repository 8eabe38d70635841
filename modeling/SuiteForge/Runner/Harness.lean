import SuiteForge.Runner.Command

/-!
Running the tests of a project, and what comes of it.

Either a command is run, or the outcomes are known beforehand: each run takes the next one, and the
last one is repeated.
-/

namespace SuiteForge.Runner

/-- The output of a run, or why there is none. -/
abbrev Outcome := Except Error String

inductive Source where
  | command (c : Command)
  | script (outcomes : List Outcome)

/-- A source of outcomes, the flags of every run so far, and the disk that runs change. -/
structure Harness where
  source : Source
  disk : Disk
  asked : List (List String) := []

namespace Harness

/-- The outcomes after one of them was used; the last one stays. -/
def rest : List Outcome → List Outcome
  | [] => []
  | [o] => [o]
  | _ :: os => os

def run (h : Harness) (cwd : Location) (flags : List String) : Outcome × Harness :=
  let asked := h.asked ++ [flags]
  match h.source with
  | .command c =>
    let (outcome, disk) := c.run flags h.disk cwd
    (outcome, { h with disk, asked })
  | .script outcomes =>
    (outcomes.head?.getD (.error (.runnerInvocationFailed "no reply")),
      { h with source := .script (rest outcomes), asked })

end Harness

end SuiteForge.Runner
