/-!
Patterns of the shell: a star stands for any text, a question mark for any character, brackets for
one of several characters. Quoted characters stand for themselves.
-/

namespace SuiteForge.Shell

/-- A character and whether it was quoted. -/
abbrev Marked := Char × Bool

namespace Pattern

/-- A quoted text, which stands for itself. -/
def literal (s : List Char) : List Marked := s.map (·, true)

def plain (p : List Marked) : List Char := p.map Prod.fst

/-- Some character is not quoted and has a meaning of its own. -/
def isActive (p : List Marked) : Bool :=
  p.any fun (c, quoted) => !quoted && (c = '*' || c = '?' || c = '[')

/-- The items between brackets, up to the bracket that closes them. -/
def bracketItems (first : Bool) : List Marked → Option (List Char × List Marked)
  | [] => none
  | (c, quoted) :: p =>
    if c = ']' ∧ !quoted ∧ !first then some ([], p)
    else (bracketItems false p).map fun (items, rest) => (c :: items, rest)

/-- A character is one of the items; a dash between two items stands for all between them. -/
def isItem (c : Char) : List Char → Bool
  | [] => false
  | a :: '-' :: b :: items => (a ≤ c && c ≤ b) || isItem c items
  | a :: items => a = c || isItem c items

/-- The set in brackets: whether it is turned around, its items, and what follows. -/
def bracket? (p : List Marked) : Option (Bool × List Char × List Marked) :=
  match p with
  | ('!', false) :: p => (bracketItems true p).map fun (items, rest) => (true, items, rest)
  | p => (bracketItems true p).map fun (items, rest) => (false, items, rest)

/-- A text fits a pattern. `fuel` bounds the length of both together. -/
def fitsFrom : Nat → List Marked → List Char → Bool
  | 0, _, _ => false
  | _, [], s => s.isEmpty
  | fuel + 1, (c, quoted) :: p, s =>
    if quoted then
      match s with
      | d :: s => c = d && fitsFrom fuel p s
      | [] => false
    else if c = '*' then
      fitsFrom fuel p s || match s with
        | _ :: s => fitsFrom fuel ((c, quoted) :: p) s
        | [] => false
    else match s with
      | [] => false
      | d :: s =>
        if c = '?' then fitsFrom fuel p s
        else if c = '[' then
          match bracket? p with
          | some (turned, items, rest) => (isItem d items != turned) && fitsFrom fuel rest s
          | none => c = d && fitsFrom fuel p s
        else c = d && fitsFrom fuel p s

def fits (p : List Marked) (s : List Char) : Bool := fitsFrom (p.length + s.length + 1) p s

/-! ### Cutting -/

/-- The lengths from `0` to that of a text, the least first. -/
def lengths (s : List Char) : List Nat := List.range (s.length + 1)

/-- The text without a start that fits. -/
def cutFront (most : Bool) (p : List Marked) (s : List Char) : List Char :=
  let order := if most then (lengths s).reverse else lengths s
  match order.find? fun n => fits p (s.take n) with
  | some n => s.drop n
  | none => s

/-- The text without an end that fits. -/
def cutBack (most : Bool) (p : List Marked) (s : List Char) : List Char :=
  let order := if most then lengths s else (lengths s).reverse
  match order.find? fun n => fits p (s.drop n) with
  | some n => s.take n
  | none => s

end Pattern

end SuiteForge.Shell
