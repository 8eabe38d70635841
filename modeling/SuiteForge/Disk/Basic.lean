import SuiteForge.Disk.Cause
import SuiteForge.Path

/-!
A disk: files and directories under one root.

A location is the list of names that leads from the root to an entry. A path is followed from a
working directory one piece at a time; every piece but the last has to be a directory that is
there. Operations that change the disk give the disk afterwards even when they fail, since
directories made on the way stay.
-/

namespace SuiteForge

/-- The names from the root down to an entry. -/
abbrev Location := List String

/-- Contents are the same when their bytes are. -/
instance decidableEqContent : DecidableEq ByteArray := ByteArray.instDecidableEq

inductive Entry where
  | file (content : ByteArray)
  | directory
  deriving DecidableEq

/-- The entries below the root, in the order they were made. -/
structure Disk where
  entries : List (Location × Entry)

namespace Disk

def empty : Disk := ⟨[]⟩

/-- What is at a location; the root is always a directory. -/
def entry? (d : Disk) (l : Location) : Option Entry :=
  if l = [] then some .directory else d.entries.lookup l

def put (l : Location) (e : Entry) (d : Disk) : Disk := ⟨go d.entries⟩
where
  go : List (Location × Entry) → List (Location × Entry)
    | [] => [(l, e)]
    | (k, v) :: rest => if k = l then (l, e) :: rest else (k, v) :: go rest

def names (d : Disk) (l : Location) : List String :=
  let inside := d.entries.filterMap fun (k, _) =>
    if k ≠ [] ∧ k.dropLast = l then k.getLast? else none
  inside.mergeSort fun a b => !(b < a)

/-! ### Following paths -/

/-- The longest name, and the longest path, in bytes. -/
def nameLimit : Nat := 255

def pathLimit : Nat := 4095

/-- Where a path leads: to an entry, or to a free place in a directory. A path to a free place may
end in a slash. -/
inductive Target where
  | entry (place : Location) (e : Entry)
  | free (place : Location) (slash : Bool)

/-- Follows pieces of a path from a location. -/
def follow (d : Disk) : Location → List String → Except Cause Target
  | here, [] =>
    match d.entry? here with
    | some e => .ok (.entry here e)
    | none => .error .missing
  | here, piece :: rest =>
    match d.entry? here with
    | none => .error .missing
    | some (.file _) => .error .notDirectory
    | some .directory =>
      if piece = "" ∨ piece = "." then follow d here rest
      else if piece = ".." then follow d here.dropLast rest
      else if nameLimit < piece.utf8ByteSize then .error .nameTooLong
      else if (d.entry? (here ++ [piece])).isSome then follow d (here ++ [piece]) rest
      else if rest.all (· = "") then .ok (.free (here ++ [piece]) (rest ≠ []))
      else .error .missing

/-- Where a path leads from a working directory. -/
def resolve (d : Disk) (cwd : Location) (p : Path) : Except Cause Target :=
  if p.text = "" then .error .missing
  else if pathLimit < p.text.utf8ByteSize then .error .nameTooLong
  else if p.text.toList.contains '\x00' then .error .endedPath
  else d.follow (if p.isAbsolute then [] else cwd) p.pieces

/-! ### Looking -/

def at? (d : Disk) (cwd : Location) (p : Path) : Option Entry :=
  match d.resolve cwd p with
  | .ok (.entry _ e) => some e
  | _ => none

def isThere (d : Disk) (cwd : Location) (p : Path) : Bool := (d.at? cwd p).isSome

def isDirectory (d : Disk) (cwd : Location) (p : Path) : Bool := d.at? cwd p = some .directory

def isFile (d : Disk) (cwd : Location) (p : Path) : Bool :=
  match d.at? cwd p with
  | some (.file _) => true
  | _ => false

def read (d : Disk) (cwd : Location) (p : Path) : Except Cause ByteArray :=
  match d.resolve cwd p with
  | .ok (.entry _ (.file content)) => .ok content
  | .ok (.entry _ .directory) => .error .isDirectory
  | .ok (.free ..) => .error .missing
  | .error cause => .error cause

/-- The content of a file that holds text. -/
def readText (d : Disk) (cwd : Location) (p : Path) : Except Cause String := do
  match String.fromUTF8? (← d.read cwd p) with
  | some s => .ok s
  | none => .error .notText

/-! ### Changing -/

/-- Makes one directory in a directory that is there. -/
def makeDirectory (d : Disk) (cwd : Location) (p : Path) : Except Cause Disk :=
  match d.resolve cwd p with
  | .ok (.free place _) => .ok (d.put place .directory)
  | .ok (.entry ..) => .error .occupied
  | .error cause => .error cause

/-- Makes a directory and the ones above it that are missing, at most `fuel` levels. -/
def makeDirectoriesFrom (cwd : Location) : Nat → Path → Disk → Except Cause Unit × Disk
  | 0, _, d => (.error .emptyTree, d)
  | fuel + 1, p, d =>
    if p.components = [] then (.ok (), d)
    else match d.makeDirectory cwd p with
      | .ok d => (.ok (), d)
      | .error cause =>
        -- any other failure is not helped by a directory above
        if cause = .missing then
          match p.parent? with
          | none => (.error .emptyTree, d)
          | some up =>
            match makeDirectoriesFrom cwd fuel up d with
            | (.error cause, d) => (.error cause, d)
            | (.ok (), d) =>
              match d.makeDirectory cwd p with
              | .ok d => (.ok (), d)
              | .error cause =>
                -- a path with `..` in it may be there now that the ones above are
                if d.isDirectory cwd p then (.ok (), d) else (.error cause, d)
        else if d.isDirectory cwd p then (.ok (), d)
        else (.error cause, d)

/-- Makes a directory and the ones above it that are missing. -/
def makeDirectories (d : Disk) (cwd : Location) (p : Path) : Except Cause Unit × Disk :=
  makeDirectoriesFrom cwd (p.pieces.length + 1) p d

/-- Writes a file, replacing what it held. The write is all or nothing. -/
def write (d : Disk) (cwd : Location) (p : Path) (content : ByteArray) : Except Cause Disk :=
  match d.resolve cwd p with
  | .ok (.entry place (.file _)) => .ok (d.put place (.file content))
  | .ok (.entry _ .directory) => .error .isDirectory
  | .ok (.free place slash) =>
    if slash then .error .isDirectory else .ok (d.put place (.file content))
  | .error cause => .error cause

/-- Takes away a file or a directory with all it holds. -/
def remove (d : Disk) (l : Location) : Disk :=
  ⟨d.entries.filter fun (k, _) => !l.isPrefixOf k⟩

/-! ### Comparing -/

inductive Change where
  | written (content : ByteArray)
  | made
  | gone
  deriving DecidableEq

/-- What is new, different or gone below a directory, by the names from there on. -/
def changes (before after : Disk) (l : Location) : List (List String × Entry × Change) :=
  let below := fun (k : Location) => l.isPrefixOf k && l ≠ k
  let now := after.entries.filterMap fun (k, e) =>
    if below k ∧ before.entry? k ≠ some e then
      some (k.drop l.length, e, match e with
        | .file content => .written content
        | .directory => .made)
    else none
  let lost := before.entries.filterMap fun (k, e) =>
    if below k ∧ (after.entry? k).isNone then some (k.drop l.length, e, Change.gone) else none
  now ++ lost

end Disk

end SuiteForge
