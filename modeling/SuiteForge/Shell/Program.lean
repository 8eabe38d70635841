import SuiteForge.Shell.Condition
import SuiteForge.Shell.Printing

/-!
The programs that every system has, as far as scripts around a test runner use them.

A program gets its arguments, its input and the disk, and answers with a status, what it writes,
what it leaves of its input, and the disk afterwards.
-/

namespace SuiteForge.Shell

open Printing (Bytes bytesOf)

structure Invocation where
  name : String
  args : List (List Char)
  input : Bytes
  disk : Disk
  cwd : Location

structure Answer where
  disk : Disk
  status : Nat := 0
  out : Bytes := []
  err : Bytes := []
  /-- What is left of the input. -/
  unread : Bytes := []

def textBytes (s : String) : Bytes := s.toUTF8.toList

/-- The answer of a program that has written something and left its input alone. -/
def Invocation.answers (i : Invocation) (out : Bytes) : Answer :=
  { disk := i.disk, out, unread := i.input }

/-- The same with a status and nothing written. -/
def Invocation.ends (i : Invocation) (status : Nat) : Answer :=
  { disk := i.disk, status, unread := i.input }

/-- A complaint on a line of its own. -/
def Invocation.complaint (i : Invocation) (s : String) : Bytes :=
  textBytes (i.name ++ ": " ++ s ++ "\n")

namespace Program

def pathOf (arg : List Char) : Path := ⟨String.ofList arg⟩

def causeText : Disk.Cause → String
  | .system code => Disk.Cause.systemText code
  | other => other.message

def isOption (arg : List Char) : Bool :=
  match arg with
  | '-' :: _ :: _ => true
  | _ => false

/-- The letters of all options, and the other arguments. -/
def options (args : List (List Char)) : List Char × List (List Char) :=
  ((args.filter isOption).flatMap (·.drop 1), args.filter (!isOption ·))

/-- Does something to each argument in turn; a complaint makes the status one. -/
def eachPath (i : Invocation) (args : List (List Char))
    (act : Disk → Path → Except String (Bytes × Disk)) : Answer :=
  args.foldl (fun a arg =>
    match act a.disk (pathOf arg) with
    | .ok (out, disk) => { a with out := a.out ++ out, disk }
    | .error e => { a with err := a.err ++ i.complaint e, status := 1 }) (i.answers [])

/-! ### Reading -/

/-- The content of each argument one behind the other, a dash standing for the input. -/
def contents (i : Invocation) (args : List (List Char)) : Answer :=
  if args.isEmpty then { disk := i.disk, out := i.input }
  else args.foldl (fun a arg =>
    if arg = ['-'] then { a with out := a.out ++ a.unread, unread := [] }
    else match a.disk.read i.cwd (pathOf arg) with
      | .ok content => { a with out := a.out ++ content.toList }
      | .error cause =>
        { a with
          err := a.err ++ i.complaint (String.ofList arg ++ ": " ++ causeText cause)
          status := 1 }) (i.answers [])

def cat (i : Invocation) : Answer := contents i (options i.args).2

/-- The lines of bytes, each with its line feed. -/
def byteLines : Bytes → List Bytes
  | [] => []
  | b :: bs =>
    if b = 10 then [b] :: byteLines bs
    else match byteLines bs with
      | [] => [[b]]
      | l :: ls => (b :: l) :: ls

/-- The number that goes with `-n`, with the sign in front of it, and the other arguments. -/
def lineCount : List (List Char) → Option (List Char) × List (List Char)
  | ['-', 'n'] :: n :: args => (some n, args)
  | ('-' :: 'n' :: n) :: args => (some n, args)
  | ('-' :: d :: n) :: args =>
    if Text.isDigit d then (some (d :: n), args) else (none, ('-' :: d :: n) :: args)
  | args => (none, args)

def head (i : Invocation) : Answer :=
  let (count, args) := lineCount i.args
  let n := (Arithmetic.numberOf (count.getD ['1', '0'])).toNat
  let a := contents i args
  { a with out := ((byteLines a.out).take n).flatten }

def tail (i : Invocation) : Answer :=
  let (count, args) := lineCount i.args
  let a := contents i args
  let ls := byteLines a.out
  let kept := match count with
    | some ('+' :: n) => ls.drop ((Arithmetic.numberOf n).toNat - 1)
    | other => ls.drop (ls.length - (Arithmetic.numberOf (other.getD ['1', '0'])).toNat)
  { a with out := kept.flatten }

/-! ### The disk -/

/-- The names that a listing shows: those that start with a dot only when asked for. -/
def shownNames (letters : List Char) (names : List String) : List String :=
  let hidden (n : String) : Bool := n.toList.head? = some '.'
  if letters.contains 'a' then "." :: ".." :: names
  else if letters.contains 'A' then names
  else names.filter (!hidden ·)

def nameLines (names : List String) : Bytes := textBytes (String.join (names.map (· ++ "\n")))

/-- Lists files first, then directories, each under its name when there are several arguments. -/
def ls (i : Invocation) : Answer :=
  let (letters, args) := options i.args
  let args := args.mergeSort fun a b => !(String.ofList b < String.ofList a)
  let args := if args.isEmpty then [['.']] else args
  let found := args.map fun arg => (arg, i.disk.resolve i.cwd (pathOf arg))
  let missing := found.filterMap fun (arg, target) =>
    match target with
    | .ok (.entry ..) => none
    | .ok (.free ..) => some (arg, Disk.Cause.missing)
    | .error cause => some (arg, cause)
  let files := found.filterMap fun (arg, target) =>
    match target with
    | .ok (.entry _ (.file _)) => some (String.ofList arg)
    | _ => none
  let directories := found.filterMap fun (arg, target) =>
    match target with
    | .ok (.entry place .directory) => some (arg, place)
    | _ => none
  let listing := directories.map fun (arg, place) =>
    let names := nameLines (shownNames letters (i.disk.names place))
    if found.length = 1 then names else bytesOf (arg ++ [':', '\n']) ++ names
  let blocks := (if files.isEmpty then [] else [nameLines files]) ++ listing
  { disk := i.disk
    unread := i.input
    out := List.intercalate [10] blocks
    err := missing.flatMap fun (arg, cause) => i.complaint
      ("cannot access \x27" ++ String.ofList arg ++ "\x27: " ++ causeText cause)
    status := if missing.isEmpty then 0 else 2 }

def mkdir (i : Invocation) : Answer :=
  let (letters, args) := options i.args
  eachPath i args fun d p =>
    let result := if letters.contains 'p' then
        match d.makeDirectories i.cwd p with
        | (.ok (), d) => .ok d
        | (.error cause, _) => .error cause
      else d.makeDirectory i.cwd p
    match result with
    | .ok d => .ok ([], d)
    | .error cause =>
      .error ("cannot create directory \x27" ++ p.text ++ "\x27: " ++ causeText cause)

def touch (i : Invocation) : Answer :=
  eachPath i (options i.args).2 fun d p =>
    if d.isThere i.cwd p then .ok ([], d)
    else match d.write i.cwd p .empty with
      | .ok d => .ok ([], d)
      | .error cause => .error ("cannot touch \x27" ++ p.text ++ "\x27: " ++ causeText cause)

def rm (i : Invocation) : Answer :=
  let (letters, args) := options i.args
  let tree := letters.contains 'r' || letters.contains 'R'
  eachPath i args fun d p =>
    let refused (cause : Disk.Cause) : Except String (Bytes × Disk) :=
      .error ("cannot remove \x27" ++ p.text ++ "\x27: " ++ causeText cause)
    match d.resolve i.cwd p with
    | .ok (.entry place (.file _)) => .ok ([], d.remove place)
    | .ok (.entry place .directory) =>
      if tree then .ok ([], d.remove place) else refused .isDirectory
    | .ok (.free ..) => if letters.contains 'f' then .ok ([], d) else refused .missing
    | .error cause =>
      if letters.contains 'f' ∧ cause = .missing then .ok ([], d) else refused cause

def rmdir (i : Invocation) : Answer :=
  eachPath i (options i.args).2 fun d p =>
    let refused (cause : Disk.Cause) : Except String (Bytes × Disk) :=
      .error ("failed to remove \x27" ++ p.text ++ "\x27: " ++ causeText cause)
    match d.resolve i.cwd p with
    | .ok (.entry place .directory) =>
      if (d.names place).isEmpty then .ok ([], d.remove place) else refused (.system 39)
    | .ok (.entry _ (.file _)) => refused .notDirectory
    | .ok (.free ..) => refused .missing
    | .error cause => refused cause

/-- The path of a copy: inside the target when that is a directory. -/
def copyPath (d : Disk) (cwd : Location) (source target : Path) : Path :=
  if d.isDirectory cwd target then
    match source.fileName? with
    | some name => target.join ⟨name⟩
    | none => target
  else target

/-- Copies files; a move takes the sources away. -/
def copy (moves : Bool) (i : Invocation) : Answer :=
  let args := (options i.args).2
  let target := pathOf (args.getLast?.getD [])
  eachPath i args.dropLast fun d p =>
    match d.resolve i.cwd p with
    | .ok (.entry place (.file content)) =>
      match d.write i.cwd (copyPath d i.cwd p target) content with
      | .ok d => .ok ([], if moves then d.remove place else d)
      | .error cause =>
        .error ("cannot create regular file \x27" ++ target.text ++ "\x27: " ++ causeText cause)
    | .ok (.entry _ .directory) =>
      .error ("-r not specified; omitting directory \x27" ++ p.text ++ "\x27")
    | .ok (.free ..) =>
      .error ("cannot stat \x27" ++ p.text ++ "\x27: " ++ causeText .missing)
    | .error cause => .error ("cannot stat \x27" ++ p.text ++ "\x27: " ++ causeText cause)

/-- Writes the input to the output and into files. -/
def tee (i : Invocation) : Answer :=
  let (letters, args) := options i.args
  let a := eachPath i args fun d p =>
    let before := match d.read i.cwd p with
      | .ok content => if letters.contains 'a' then content.toList else []
      | .error _ => []
    match d.write i.cwd p (before ++ i.input).toByteArray with
    | .ok d => .ok ([], d)
    | .error cause => .error (p.text ++ ": " ++ causeText cause)
  { a with out := i.input, unread := [] }

/-! ### Other programs -/

def seq (i : Invocation) : Answer :=
  let upTo (first last : Int) : Bytes :=
    textBytes (String.join
      ((List.range (last - first + 1).toNat).map fun n : Nat => toString (first + n) ++ "\n"))
  match i.args.map Arithmetic.numberOf with
  | [last] => i.answers (upTo 1 last)
  | [first, last] => i.answers (upTo first last)
  | _ => i.ends 1

def basename (i : Invocation) : Answer :=
  match i.args with
  | arg :: rest =>
    let name := ((pathOf arg).fileName?.getD (String.ofList arg)).toList
    let ending := rest.head?.getD []
    let kept := if ending.isSuffixOf name ∧ ending ≠ name then
      name.take (name.length - ending.length) else name
    i.answers (bytesOf (kept ++ ['\n']))
  | [] => i.ends 1

def dirname (i : Invocation) : Answer :=
  match i.args with
  | arg :: _ =>
    let up := match (pathOf arg).parent? with
      | some p => if p.text = "" then "." else p.text
      | none => if (pathOf arg).isAbsolute then "/" else "."
    i.answers (textBytes (up ++ "\n"))
  | [] => i.ends 1

/-- Whether a condition holds, as a status; a malformed one has a status of its own. -/
def test (i : Invocation) : Answer :=
  match Condition.holds? ⟨i.disk, i.cwd⟩ i.args with
  | some true => i.ends 0
  | some false => i.ends 1
  | none => i.ends 2

/-- The same in brackets: the last argument closes them. -/
def bracket (i : Invocation) : Answer :=
  if i.args.getLast? = some [']'] then test { i with args := i.args.dropLast } else i.ends 2

def printf (i : Invocation) : Answer :=
  match i.args with
  | ['-', '-'] :: format :: args => i.answers (Printing.printf format args)
  | format :: args => i.answers (Printing.printf format args)
  | [] => i.ends 1

end Program

end SuiteForge.Shell
