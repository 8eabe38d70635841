import SuiteForge.Number.Decimal

/-!
Whole-number expressions of the shell.

Operators bind in the usual order; comparisons give one or zero, and a name stands for the number
that its variable holds.
-/

namespace SuiteForge.Shell.Arithmetic

open Text

inductive Token where
  | number (n : Int)
  | sign (s : String)
  deriving DecidableEq

/-- The signs of two characters. -/
def pairs : List String := ["==", "!=", "<=", ">=", "&&", "||", "<<", ">>"]

/-- The tokens of an expression; `value` gives the numbers of variables. -/
def tokens (value : List Char → Int) : Nat → List Char → List Token
  | 0, _ => []
  | _, [] => []
  | fuel + 1, c :: s =>
    if " \t\n".toList.contains c then tokens value fuel s
    else if isDigit c then
      let ds := c :: s.takeWhile isDigit
      .number (Decimal.digitsValue 0 ds) :: tokens value fuel (s.dropWhile isDigit)
    else if isWordChar c then
      .number (value (c :: s.takeWhile isWordChar)) :: tokens value fuel (s.dropWhile isWordChar)
    else if pairs.contains (String.ofList (c :: s.take 1)) then
      .sign (String.ofList (c :: s.take 1)) :: tokens value fuel (s.drop 1)
    else .sign (String.ofList [c]) :: tokens value fuel s

/-- The levels of binary operators, the loosest first. -/
def levels : List (List String) := [
  ["||"], ["&&"], ["|"], ["^"], ["&"], ["==", "!="], ["<", ">", "<=", ">="], ["<<", ">>"],
  ["+", "-"], ["*", "/", "%"]]

def truth (b : Bool) : Int := if b then 1 else 0

/-- The result of an operator; division by zero has none. -/
def apply (op : String) (a b : Int) : Option Int :=
  match op with
  | "||" => some (truth (a ≠ 0 || b ≠ 0))
  | "&&" => some (truth (a ≠ 0 && b ≠ 0))
  | "|" => some (Int.ofNat (a.toNat ||| b.toNat))
  | "^" => some (Int.ofNat (a.toNat ^^^ b.toNat))
  | "&" => some (Int.ofNat (a.toNat &&& b.toNat))
  | "==" => some (truth (a = b))
  | "!=" => some (truth (a ≠ b))
  | "<" => some (truth (a < b))
  | ">" => some (truth (b < a))
  | "<=" => some (truth (a ≤ b))
  | ">=" => some (truth (b ≤ a))
  | "<<" => some (a * Nat.pow 2 b.toNat)
  | ">>" => some (a.fdiv (Nat.pow 2 b.toNat))
  | "+" => some (a + b)
  | "-" => some (a - b)
  | "*" => some (a * b)
  | "/" => if b = 0 then none else some (a.tdiv b)
  | "%" => if b = 0 then none else some (a.tmod b)
  | _ => none

mutual

/-- An operand: a number, an expression in parentheses, or an operand with a sign. -/
def operand : Nat → List Token → Option (Int × List Token)
  | 0, _ => none
  | fuel + 1, ts =>
    match ts with
    | .number n :: ts => some (n, ts)
    | .sign "(" :: ts =>
      match expression fuel levels ts with
      | some (n, .sign ")" :: ts) => some (n, ts)
      | _ => none
    | .sign "-" :: ts => (operand fuel ts).map fun (n, ts) => (-n, ts)
    | .sign "+" :: ts => operand fuel ts
    | .sign "!" :: ts => (operand fuel ts).map fun (n, ts) => (truth (n = 0), ts)
    | .sign "~" :: ts => (operand fuel ts).map fun (n, ts) => (-n - 1, ts)
    | _ => none

/-- An expression of the given levels. -/
def expression : Nat → List (List String) → List Token → Option (Int × List Token)
  | 0, _, _ => none
  | fuel + 1, [], ts => operand fuel ts
  | fuel + 1, ops :: tighter, ts =>
    match expression fuel tighter ts with
    | none => none
    | some (n, ts) => operations fuel ops tighter n ts

/-- The operators of one level with their right sides, from the left. -/
def operations : Nat → List String → List (List String) → Int → List Token →
    Option (Int × List Token)
  | 0, _, _, _, _ => none
  | fuel + 1, ops, tighter, n, ts =>
    match ts with
    | .sign op :: rest =>
      if ops.contains op then
        match expression fuel tighter rest with
        | none => none
        | some (m, rest) =>
          match apply op n m with
          | none => none
          | some n => operations fuel ops tighter n rest
      else some (n, ts)
    | _ => some (n, ts)

end

/-- The value of an expression; an empty one is zero. -/
def value? (numbers : List Char → Int) (s : List Char) : Option Int :=
  match tokens numbers (s.length + 1) s with
  | [] => some 0
  | ts =>
    match expression (16 * (ts.length + 2)) levels ts with
    | some (n, []) => some n
    | _ => none

/-- The number that a text holds, zero if it holds none. -/
def numberOf (s : List Char) : Int :=
  let s := s.dropWhile (" \t\n".toList.contains ·)
  let (negative, ds) := match s with
    | '-' :: ds => (true, ds)
    | ds => (false, ds)
  let n : Int := Decimal.digitsValue 0 (ds.takeWhile isDigit)
  if negative then -n else n

end SuiteForge.Shell.Arithmetic
