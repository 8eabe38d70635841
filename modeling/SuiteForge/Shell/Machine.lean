import SuiteForge.Shell.Installed
import SuiteForge.Shell.Pattern
import SuiteForge.Shell.Reader
import SuiteForge.Text.Blank
import SuiteForge.Text.Lossy

/-!
The state of a running script: its variables, where its descriptors lead, and the disk.

What is written to a buffer is kept there; what is read from one is taken away from its front. A
pipe is a buffer that one command fills and the next one empties.
-/

namespace SuiteForge.Shell

open Printing (Bytes bytesOf)

/-- Where a descriptor leads. -/
inductive Channel where
  | buffer (index : Nat)
  | file (place : Location)
  | nowhere

structure Machine where
  disk : Disk
  cwd : Location
  name : List Char
  arguments : List (List Char) := []
  bindings : List (List Char × List Char) := []
  functions : List (List Char × Command) := []
  channels : List (Nat × Channel)
  buffers : Array Bytes
  status : Nat := 0
  /-- A command that fails ends the script. -/
  strict : Bool := false
  /-- The status of what runs now is looked at, so a failure ends nothing. -/
  tested : Bool := false
  /-- What is still to be run when the script ends. -/
  atExit : List Char := []

/-- Why a script does not go on. -/
inductive Halt where
  | exit
  | returned
  | broken (levels : Nat)
  | continued (levels : Nat)
  | killed (signal : Nat)

abbrev Run := ExceptT Halt (StateM Machine)

namespace Run

def finish (status : Nat) : Run Unit := modify ({ · with status })

/-! ### Channels -/

def newBuffer (content : Bytes) : Run Nat := do
  let index := (← get).buffers.size
  modify fun m => { m with buffers := m.buffers.push content }
  return index

def bufferContent (index : Nat) : Run Bytes := return (← get).buffers.getD index []

/-- Writes to a descriptor; one that leads nowhere takes everything. -/
def write (fd : Nat) (bytes : Bytes) : Run Unit := do
  match (← get).channels.lookup fd with
  | some (.buffer index) =>
    modify fun m => { m with buffers := m.buffers.modify index (· ++ bytes) }
  | some (.file place) =>
    modify fun m =>
      match m.disk.entry? place with
      | some (.file content) =>
        { m with disk := m.disk.put place (.file (content ++ bytes.toByteArray)) }
      | _ => m
  | _ => return ()

def input : Run Bytes := do
  match (← get).channels.lookup 0 with
  | some (.buffer index) => bufferContent index
  | _ => return []

def setInput (bytes : Bytes) : Run Unit := do
  match (← get).channels.lookup 0 with
  | some (.buffer index) =>
    modify fun m => { m with buffers := m.buffers.modify index fun _ => bytes }
  | _ => return ()

def complain (line : Nat) (text : String) : Run Unit := do
  let m ← get
  write 2 (bytesOf (m.name ++ (s!": {line}: {text}\n").toList))

/-! ### Variables -/

/-- The number of the process; scripts only use it to end themselves. -/
def processNumber : List Char := ['1']

/-- The value of a variable, an argument or a sign. -/
def value? (name : List Char) : Run (Option (List Char)) := do
  let m ← get
  match name with
  | ['#'] => return some (Nat.toDigits 10 m.arguments.length)
  | ['?'] => return some (Nat.toDigits 10 m.status)
  | ['$'] => return some processNumber
  | ['!'] => return some []
  | ['-'] => return some []
  | ['0'] => return some m.name
  | ['@'] => return some (Printing.joined m.arguments)
  | ['*'] => return some (Printing.joined m.arguments)
  | c :: _ =>
    if Text.isDigit c then return m.arguments[Decimal.digitsValue 0 name - 1]?
    else return m.bindings.lookup name
  | [] => return none

def assign (name value : List Char) : Run Unit := modify fun m =>
  { m with bindings := (name, value) :: m.bindings.filter (·.1 ≠ name) }

def unassign (name : List Char) : Run Unit := modify fun m =>
  { m with bindings := m.bindings.filter (·.1 ≠ name) }

/-- The characters between fields. -/
def separators : Run (List Char) :=
  return ((← get).bindings.lookup "IFS".toList).getD [' ', '\t', '\n']

end Run

/-! ### Fields -/

/-- A piece of an expanded word: characters that may be cut into fields or not, the end of a field,
or the sign that there is nothing although something was quoted. -/
inductive Segment where
  | chars (s : List Marked) (cut : Bool)
  | next
  | nothing

/-- Fields as they are put together: those that are complete, last first, and the current one, with
its characters last first. -/
structure Fields where
  complete : List (List Marked) := []
  current : List Marked := []
  present : Bool := false

namespace Fields

def close (f : Fields) : Fields := { complete := f.current.reverse :: f.complete }

/-- Closes the current field if there is one. -/
def closeIfAny (f : Fields) : Fields := if f.present then f.close else f

/-- Adds a character that may end a field. -/
def addCut (separators : List Char) (f : Fields) (c : Marked) : Fields :=
  if separators.contains c.1 then
    if Text.isBlank c.1 then f.closeIfAny else f.close
  else { f with current := c :: f.current, present := true }

def add (separators : List Char) (f : Fields) : Segment → Fields
  | .chars s true => s.foldl (addCut separators) f
  | .chars s false => { f with current := s.reverse ++ f.current, present := true }
  | .next => f.close
  | .nothing => if f.current.isEmpty then { f with present := false } else f

def ofSegments (separators : List Char) (ss : List Segment) : List (List Marked) :=
  ((ss.foldl (add separators) {}).closeIfAny).complete.reverse

def textOf (ss : List Segment) : List Marked :=
  ss.flatMap fun
    | .chars s _ => s
    | .next => [(' ', true)]
    | .nothing => []

/-! ### Paths from patterns -/

/-- The parts of a pattern between slashes. -/
def pathParts : List Marked → List (List Marked)
  | [] => [[]]
  | c :: cs =>
    if c.1 = '/' then [] :: pathParts cs
    else match pathParts cs with
      | [] => [[c]]
      | p :: ps => (c :: p) :: ps

/-- The paths that fit a pattern, each behind what is already there of it. -/
def pathsFrom (d : Disk) (cwd : Location) (shown : List Char) :
    List (List Marked) → List (List Char)
  | [] => if d.isThere cwd ⟨String.ofList shown⟩ then [shown] else []
  | part :: parts =>
    let ending := if parts.isEmpty then [] else ['/']
    if Pattern.isActive part then
      let here : Path := if shown.isEmpty then ⟨"."⟩ else ⟨String.ofList shown⟩
      let hidden := part.head?.map Prod.fst = some '.'
      match d.resolve cwd here with
      | .ok (.entry place .directory) =>
        (d.names place).flatMap fun name =>
          let s := name.toList
          if (hidden || s.head? ≠ some '.') && Pattern.fits part s then
            pathsFrom d cwd (shown ++ s ++ ending) parts
          else []
      | _ => []
    else pathsFrom d cwd (shown ++ Pattern.plain part ++ ending) parts

/-- The paths that a field stands for, or its own text if it is no pattern or fits nothing. -/
def paths (d : Disk) (cwd : Location) (field : List Marked) : List (List Char) :=
  if Pattern.isActive field then
    match pathsFrom d cwd [] (pathParts field) with
    | [] => [Pattern.plain field]
    | found => found
  else [Pattern.plain field]

end Fields

end SuiteForge.Shell
