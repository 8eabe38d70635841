import SuiteForge.Disk.Basic
import SuiteForge.Error
import SuiteForge.Settings.Document
import SuiteForge.Settings.Environment

/-!
Where settings come from: a file that is asked for, else the project's own file, else the user's,
else the defaults. The environment is laid over whichever it was.
-/

namespace SuiteForge.Settings

/-- The settings of a document; why one is unreadable is not kept. -/
def ofText (text : String) : Except Error Settings :=
  match ofDocument? text with
  | some s => .ok s
  | none => .error (.configuration "TOML parse error")

def ofFile (d : Disk) (cwd : Location) (p : Path) : Except Error Settings :=
  match d.readText cwd p with
  | .error cause => .error (.disk p cause)
  | .ok text =>
    match ofText text with
    | .ok s => .ok s
    | .error e => .error (.configuration s!"{p.text}: {e.message}")

def userDirectory? (env : Environment) : Option Path :=
  let configured := ((env.get? "XDG_CONFIG_HOME").map Path.mk).filter Path.isAbsolute
  configured <|> ((env.get? "HOME").filter (· ≠ "")).map fun home => Path.join ⟨home⟩ ⟨".config"⟩

/-- The files that are looked for when none is asked for. -/
def candidates (env : Environment) (root : Path) : List Path :=
  root.join ⟨"test-accelerator.toml"⟩ ::
    ((userDirectory? env).map fun dir =>
      (dir.join ⟨"test-accelerator"⟩).join ⟨"config.toml"⟩).toList

/-- The settings below the environment. -/
def base (d : Disk) (cwd : Location) (env : Environment) (root : Path) (asked : Option Path) :
    Except Error Settings :=
  match asked with
  | some p => ofFile d cwd p
  | none =>
    match (candidates env root).find? (d.isFile cwd) with
    | some p => ofFile d cwd p
    | none => .ok {}

def load (d : Disk) (cwd : Location) (env : Environment) (root : Path) (asked : Option Path) :
    Except Error Settings :=
  (base d cwd env root asked).map (·.override env)

end SuiteForge.Settings
