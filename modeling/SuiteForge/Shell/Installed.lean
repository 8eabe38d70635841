import SuiteForge.Shell.Filter

/-!
The programs of the system by their names and paths.
-/

namespace SuiteForge.Shell

namespace Program

def named : List (String × (Invocation → Answer)) := [
  ("cat", cat), ("head", head), ("tail", tail), ("ls", ls), ("mkdir", mkdir), ("touch", touch),
  ("rm", rm), ("rmdir", rmdir), ("cp", copy false), ("mv", copy true), ("tee", tee), ("seq", seq),
  ("basename", basename), ("dirname", dirname), ("test", test), ("[", bracket),
  ("printf", printf), ("echo", fun i => i.answers (Printing.programEcho i.args)),
  ("true", (·.ends 0)), ("false", (·.ends 1)), ("sleep", (·.ends 0)), ("chmod", (·.ends 0))] ++
  Filter.named

def directories : List String := ["/usr/local/bin/", "/usr/bin/", "/bin/"]

/-- The name of a program that a path leads to. -/
def nameAt? (path : String) : Option String :=
  let names := directories.filterMap fun d =>
    (Text.after? d.toList path.toList).map String.ofList
  names.find? fun n => n = "sh" || (named.lookup n).isSome

end Program

end SuiteForge.Shell
