import SuiteForge.Number.Shortest

/-!
JSON documents.

A number is kept as it is written. A string may hold half of a surrogate pair, which is JSON but
no text; such a string is `none`.
-/

namespace SuiteForge

inductive Json where
  | null
  | bool (value : Bool)
  | number (lexeme : List Char)
  | string (text : Option String)
  | array (elements : List Json)
  | object (members : List (Option String × Json))

namespace Json

def text (s : String) : Json := .string (some s)

def ofNat (n : Nat) : Json := .number (Nat.toDigits 10 n)

/-- A finite number in its compact form; JSON has no other numbers, so the rest become null. -/
def ofBinary64 (x : Binary64) : Json :=
  match x.compact? with
  | some s => .number s
  | none => .null

/-- An object whose names are texts. -/
def record (members : List (String × Json)) : Json :=
  .object (members.map fun (name, value) => (some name, value))

/-- The member of an object under a name. -/
def member? (name : String) : Json → Option Json
  | .object members => members.lookup (some name)
  | _ => none

/-- A list of which every element has to be readable. -/
def list? (element : Json → Option α) : Json → Option (List α)
  | .array vs => vs.mapM element
  | _ => none

end Json

end SuiteForge
