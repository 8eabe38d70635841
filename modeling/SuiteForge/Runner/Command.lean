import SuiteForge.Error
import SuiteForge.Settings.Basic
import SuiteForge.Shell.Run

/-!
The command that runs the tests of a project.

A program given by a relative path with a directory in it belongs to the project and is looked for
below its root; a bare name is one of the system's programs. The command runs in the root, and the
path of its program is followed from there.
-/

namespace SuiteForge.Runner

/-- The path of a program: below the root when it is relative and has a directory in it. -/
def programPath (binary : String) (root : Path) : Path :=
  let p : Path := ⟨binary⟩
  if !p.isAbsolute && 1 < p.components.length then root.join p else p

/-- What a path to a program leads to: one of the system's programs, or an entry of the disk. -/
inductive Program where
  | ofSystem (name : String)
  | onDisk (place : Location) (e : Entry)
  deriving DecidableEq

def Program.find (p : Path) (d : Disk) (place : Location) : Except Disk.Cause Program :=
  if p.text.toList.contains '/' then
    match Shell.Program.nameAt? p.text with
    | some name => .ok (.ofSystem name)
    | none =>
      match d.resolve place p with
      | .ok (.entry l e) => .ok (.onDisk l e)
      | .ok (.free ..) => .error .missing
      | .error cause => .error cause
  else if p.text = "." ∨ p.text = ".." then .error .permission
  else if Disk.nameLimit < p.text.utf8ByteSize then .error .nameTooLong
  else if p.text = "sh" ∨ (Shell.Program.named.lookup p.text).isSome then .ok (.ofSystem p.text)
  else .error .missing

structure Command where
  program : Path
  args : List String
  root : Path

namespace Command

def ofSettings (s : RunnerSettings) (root : Path) : Command where
  program := programPath s.binary root
  args := s.args
  root

/-- No text with a character that ends texts of the system can be handed over. -/
def hasEndedText (c : Command) (flags : List String) : Bool :=
  (c.program.text :: c.root.text :: (c.args ++ flags)).any (·.toList.contains '\x00')

/-- The directory that a command runs in. -/
def enter (c : Command) (d : Disk) (cwd : Location) : Except Disk.Cause Location :=
  match d.resolve cwd c.root with
  | .ok (.entry place .directory) => .ok place
  | .ok (.entry _ (.file _)) => .error .notDirectory
  | .ok (.free ..) => .error .missing
  | .error cause => .error cause

/-- The directory that a command runs in, and the program that it finds from there. -/
def find (c : Command) (d : Disk) (cwd : Location) : Except Disk.Cause (Location × Program) := do
  let place ← c.enter d cwd
  -- the program is looked for once the directory has been entered
  let program ← Program.find c.program d place
  return (place, program)

/-- Starts the command and waits for its end. Files of a project cannot be run themselves. -/
def start (c : Command) (flags : List String) (d : Disk) (cwd : Location) :
    Except Disk.Cause Shell.Process := do
  if c.hasEndedText flags then throw .endedArgument
  match ← c.find d cwd with
  | (place, .ofSystem name) =>
    return Shell.Process.run name c.program.text (c.args ++ flags) d place
  | (_, .onDisk ..) => throw .permission

def signalNames : List String := [
  "SIGHUP", "SIGINT", "SIGQUIT", "SIGILL", "SIGTRAP", "SIGABRT", "SIGBUS", "SIGFPE", "SIGKILL",
  "SIGUSR1", "SIGSEGV", "SIGUSR2", "SIGPIPE", "SIGALRM", "SIGTERM"]

def endingText : Shell.Ending → String
  | .exited status => s!"exit status: {status}"
  | .signalled signal =>
    match signalNames[signal - 1]? with
    | some name => s!"signal: {signal} ({name})"
    | none => s!"signal: {signal}"

/-- The output of a run, or why there is none. -/
def run (c : Command) (flags : List String) (d : Disk) (cwd : Location) :
    Except Error String × Disk :=
  match c.start flags d cwd with
  | .error cause => (.error (.runnerInvocationFailed s!"{c.program.text}: {cause.message}"), d)
  | .ok p =>
    if p.ending = .exited 0 then (.ok (Text.ofBytes p.out), p.disk)
    else
      let complaint := String.ofList (Text.trim (Text.ofBytes p.err).toList)
      (.error (.runnerInvocationFailed
        s!"{c.program.text} exited with {endingText p.ending}: {complaint}"), p.disk)

end Command

end SuiteForge.Runner
