import SuiteForge.Disk.Basic
import SuiteForge.Shell.Arithmetic

/-!
The conditions of `test`: about texts, numbers and what is on the disk.
-/

namespace SuiteForge.Shell.Condition

open Arithmetic (numberOf)

/-- Where conditions about paths are looked up. -/
structure Place where
  disk : Disk
  cwd : Location

def Place.size (p : Place) (path : Path) : Nat :=
  match p.disk.at? p.cwd path with
  | some (.file content) => content.size
  | _ => 0

def unary (p : Place) (op : String) (s : List Char) : Option Bool :=
  let path : Path := ⟨String.ofList s⟩
  match op with
  | "-n" => some !s.isEmpty
  | "-z" => some s.isEmpty
  | "-f" => some (p.disk.isFile p.cwd path)
  | "-d" => some (p.disk.isDirectory p.cwd path)
  | "-e" => some (p.disk.isThere p.cwd path)
  | "-r" => some (p.disk.isThere p.cwd path)
  | "-w" => some (p.disk.isThere p.cwd path)
  | "-x" => some (p.disk.isDirectory p.cwd path)
  | "-s" => some (p.disk.isDirectory p.cwd path || 0 < p.size path)
  | "-t" => some false
  | "-L" => some false
  | "-h" => some false
  | _ => none

def binary (op : String) (a b : List Char) : Option Bool :=
  match op with
  | "=" => some (a = b)
  | "==" => some (a = b)
  | "!=" => some (a ≠ b)
  | "-eq" => some (numberOf a = numberOf b)
  | "-ne" => some (numberOf a ≠ numberOf b)
  | "-lt" => some (numberOf a < numberOf b)
  | "-le" => some (numberOf a ≤ numberOf b)
  | "-gt" => some (numberOf b < numberOf a)
  | "-ge" => some (numberOf b ≤ numberOf a)
  | _ => none

def isSign (w : List Char) (s : String) : Bool := String.ofList w = s

mutual

/-- Conditions with `-o` between them. -/
def anyOf (p : Place) : Nat → List (List Char) → Option (Bool × List (List Char))
  | 0, _ => none
  | fuel + 1, ws => do
    let (a, rest) ← allOf p fuel ws
    match rest with
    | w :: more =>
      if isSign w "-o" then
        let (b, rest) ← anyOf p fuel more
        return (a || b, rest)
      else return (a, rest)
    | [] => return (a, [])

/-- Conditions with `-a` between them. -/
def allOf (p : Place) : Nat → List (List Char) → Option (Bool × List (List Char))
  | 0, _ => none
  | fuel + 1, ws => do
    let (a, rest) ← one p fuel ws
    match rest with
    | w :: more =>
      if isSign w "-a" then
        let (b, rest) ← allOf p fuel more
        return (a && b, rest)
      else return (a, rest)
    | [] => return (a, [])

/-- One condition; a text alone is true when it is not empty. -/
def one (p : Place) : Nat → List (List Char) → Option (Bool × List (List Char))
  | 0, _ => none
  | _, [] => none
  | fuel + 1, a :: rest =>
    let alone := some (!a.isEmpty, rest)
    let withOne := match rest with
      | b :: more => (unary p (String.ofList a) b).map (·, more)
      | [] => none
    let grouped :=
      if isSign a "!" ∧ !rest.isEmpty then (one p fuel rest).map fun (b, rest) => (!b, rest)
      else if isSign a "(" then
        match anyOf p fuel rest with
        | some (b, close :: rest) => if isSign close ")" then some (b, rest) else none
        | _ => none
      else withOne <|> alone
    match rest with
    | op :: b :: more =>
      match binary (String.ofList op) a b with
      | some found => some (found, more)
      | none => grouped
    | _ => grouped

end

/-- Whether a condition holds; no condition does not hold, and a malformed one is neither. -/
def holds? (p : Place) (ws : List (List Char)) : Option Bool :=
  match ws with
  | [] => some false
  | ws =>
    match anyOf p (4 * ws.length + 8) ws with
    | some (b, []) => some b
    | _ => none

end SuiteForge.Shell.Condition
