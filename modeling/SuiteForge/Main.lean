import SuiteForge.Cli.Run
import Std.Data.HashSet
import Std.Time.DateTime.Timestamp

/-!
The command line on the files of this machine.

The directories that a command may touch are read first, the command is carried out on them as they
were read, and what has changed is written back. There is no line to a provider: every request is
lost. The tests are run by the library's own shell.
-/

namespace SuiteForge.Local

/-- How deep directories are read. -/
def depthLimit : Nat := 64

def locationOf (path : String) : Location := (Path.mk path).pieces.filter (· ≠ "")

def pathOf (l : Location) : String := "/" ++ "/".intercalate l

/-- What is below a directory; what cannot be read is left out. -/
def readTree : Nat → Location → IO (List (Location × Entry))
  | 0, _ => return []
  | fuel + 1, here => do
    let dir ← IO.FS.realPath (pathOf here)
    let mut found := []
    for e in ← dir.readDir do
      let place := here ++ [e.fileName]
      if ← e.path.isDir then
        found := found ++ (place, Entry.directory) :: (← readTree fuel place)
      else
        try
          found := found ++ [(place, Entry.file (← IO.FS.readBinFile e.path))]
        catch _ => pure ()
    return found

/-- The directories above a place and the place itself. -/
def above (l : Location) : List (Location × Entry) :=
  (List.range l.length).map fun n => (l.take (n + 1), .directory)

def readPlace (path : String) : IO (List (Location × Entry)) := do
  try
    let real ← IO.FS.realPath path
    let here := locationOf real.toString
    if ← real.isDir then return above here ++ (← readTree depthLimit here)
    else return above here.dropLast ++ [(here, .file (← IO.FS.readBinFile real))]
  catch _ => return []

/-- Several places, each entry once. -/
def readPlaces (paths : List String) : IO Disk := do
  let mut seen : Std.HashSet Location := {}
  let mut entries : Array (Location × Entry) := #[]
  for path in paths do
    for (l, e) in ← readPlace path do
      if !seen.contains l then
        seen := seen.insert l
        entries := entries.push (l, e)
  return ⟨entries.toList⟩

/-- The variables that settings are read from. -/
def variableNames : List String :=
  ["HOME", "XDG_CONFIG_HOME"] ++ (["AI_PROVIDER", "AI_API_KEY", "AI_MODEL", "AI_BASE_URL",
    "RUNNER", "LOG_LEVEL", "SLOW_THRESHOLD", "MEMORY_THRESHOLD", "COVERAGE_THRESHOLD",
    "HTML_REPORTS", "XML_REPORTS", "CLOVER_REPORTS", "NOTIFICATIONS"]).map
    ("TEST_ACCELERATOR_" ++ ·)

def readEnvironment : IO Environment := do
  let found ← variableNames.mapM fun name => return (name, ← IO.getEnv name)
  return found.filterMap fun (name, value) => value.map (name, ·)

/-- The places that a command line is about, besides the working directory. -/
def placesOf (args : List String) (env : Environment) : List String :=
  let asked := match Cli.Arguments.ofList args with
    | .ok a => a.root.text :: (a.config.map (·.text)).toList
    | .error _ => []
  asked ++ ((Settings.userDirectory? env).map (·.text)).toList

def writeChanges (before after : Disk) : IO Unit := do
  for (names, _, change) in Disk.changes before after [] do
    let path := pathOf names
    match change with
    | .made => IO.FS.createDirAll path
    | .written content => IO.FS.writeBinFile path content
    | .gone => IO.FS.removeDirAll path <|> IO.FS.removeFile path

/-- The time now, as reports show it. -/
def currentTime : IO String := do
  let now ← Std.Time.Timestamp.now
  let nanoseconds := now.toNanosecondsSinceUnixEpoch.val
  let t : Timestamp := {
    seconds := nanoseconds.fdiv 1000000000
    nanoseconds := (nanoseconds.fmod 1000000000).toNat }
  return t.text

end SuiteForge.Local

open SuiteForge in
def main (args : List String) : IO UInt32 := do
  let env ← Local.readEnvironment
  let cwd ← IO.FS.realPath (← IO.currentDir)
  let disk ← Local.readPlaces (cwd.toString :: Local.placesOf args env)
  let world : Cli.World := {
    disk
    cwd := Local.locationOf cwd.toString
    env
    line := { replies := [], web := true }
    now := ← Local.currentTime }
  let finished := Cli.run world args
  Local.writeChanges disk finished.disk
  (← IO.getStdout).putStr finished.out
  (← IO.getStderr).putStr finished.err
  return finished.status.toUInt32
