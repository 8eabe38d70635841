import SuiteForge.Disk.Basic
import SuiteForge.Error

/-!
Writing test files.

A test file that is there is only replaced on demand, and no path is written twice in a run, not
even on demand.
-/

namespace SuiteForge

/-- The test file of a class in a directory. -/
def testFilePath (dir : Path) (cls extension : String) : Path :=
  dir.join ⟨s!"{cls}Test.{extension}"⟩

/-- The paths that have been written, newest first. -/
structure WriteLog where
  paths : List Path := []

namespace WriteLog

/-- The path has been written, under whichever spelling. -/
def contains (log : WriteLog) (p : Path) : Bool := log.paths.any p.same

def sorted (log : WriteLog) : List Path := Path.sort log.paths

/-- A path may be written: not yet in this run, and only on demand where something is. -/
def ensureFree (log : WriteLog) (d : Disk) (cwd : Location) (p : Path) (force : Bool) :
    Except Error Unit :=
  if log.contains p then .error (.destinationExists p)
  else if d.isThere cwd p && !force then .error (.destinationExists p)
  else .ok ()

def makeParent (d : Disk) (cwd : Location) (p : Path) : Except Error Unit × Disk :=
  match p.parent? with
  | none => (.ok (), d)
  | some dir =>
    if dir.text = "" then (.ok (), d)
    else match d.makeDirectories cwd dir with
      | (.ok (), d) => (.ok (), d)
      | (.error cause, d) => (.error (.disk dir cause), d)

/-- Writes a test file and records its path. Directories made on the way stay when the write
fails. -/
def write (log : WriteLog) (d : Disk) (cwd : Location) (p : Path) (content : String)
    (force : Bool) : Except Error WriteLog × Disk :=
  match log.ensureFree d cwd p force with
  | .error e => (.error e, d)
  | .ok () =>
    -- the look at the path comes before the directories on its way are made
    match makeParent d cwd p with
    | (.error e, d) => (.error e, d)
    | (.ok (), d) =>
      match d.write cwd p content.toUTF8 with
      | .error cause => (.error (.disk p cause), d)
      | .ok d => (.ok ⟨p :: log.paths⟩, d)

end WriteLog

end SuiteForge
