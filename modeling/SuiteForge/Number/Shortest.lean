import SuiteForge.Number.Decimal

/-!
The shortest decimal text of a binary64 number, and its fixed-places text.

Of the decimals that read back as the number, those with the fewest digits are considered, and of
those the nearest to the number is taken. Two layouts write the digits down: `plain` never uses an
exponent, `compact` uses one for very large and very small numbers. They also differ where the
number lies in the middle between two decimals: `plain` goes up, `compact` to the even digit.
-/

namespace SuiteForge

namespace Binary64

/-- A decimal `digits * 10^exponent`. -/
structure Digits where
  digits : Nat
  exponent : Int
  deriving DecidableEq

/-- What is taken of two decimals that are equally near. -/
inductive Tie where
  | up
  | even
  deriving DecidableEq

/-- The lower of two neighbours is the one to take; `rest / den` is what the number is above it. -/
def Tie.takesLower (t : Tie) (lower rest den : Nat) : Bool :=
  2 * rest < den || (2 * rest = den && t = .even && lower % 2 = 0)

/-- Moves trailing zeros of the digits into the exponent; `fuel` bounds how many. -/
def Digits.strip : Nat → Digits → Digits
  | 0, d => d
  | fuel + 1, d =>
    if d.digits ≠ 0 ∧ d.digits % 10 = 0 then strip fuel ⟨d.digits / 10, d.exponent + 1⟩ else d

/-- A rank's value divided by `10^exponent`, as a fraction. -/
def onGrid (rank : Nat) (exponent : Int) : Nat × Nat :=
  if 0 ≤ exponent then (unitsOf rank, unitsPerOne * Nat.pow 10 exponent.toNat)
  else (unitsOf rank * Nat.pow 10 exponent.natAbs, unitsPerOne)

/-- The decimal reads back as the rank. -/
def readsBack (rank : Nat) (d : Digits) : Bool :=
  match ofScaled false d.digits d.exponent with
  | .finite _ r _ => r = rank
  | _ => false

/-- The better of the two grid points around the value that read back. -/
def atExponent? (t : Tie) (rank : Nat) (exponent : Int) : Option Digits :=
  let (num, den) := onGrid rank exponent
  let below : Digits := ⟨num / den, exponent⟩
  let above : Digits := ⟨num / den + 1, exponent⟩
  match readsBack rank below, readsBack rank above with
  | true, true => some (if t.takesLower (num / den) (num % den) den then below else above)
  | true, false => some below
  | false, true => some above
  | false, false => none

/-- The exponent of ten of the leading digit. -/
def leadingExponent (rank : Nat) : Int :=
  let whole := unitsOf rank / unitsPerOne
  if whole ≠ 0 then ((Nat.toDigits 10 whole).length : Int) - 1
  else
    let scaled := unitsOf rank * Nat.pow 10 400 / unitsPerOne
    ((Nat.toDigits 10 scaled).length : Int) - 401

/-- Tries `count` grids, each ten times finer than the one before. -/
def search (t : Tie) (rank : Nat) : Nat → Int → Option Digits
  | 0, _ => none
  | count + 1, exponent =>
    match atExponent? t rank exponent with
    | some d => some d
    | none => search t rank count (exponent - 1)

/-- The exact decimal value. -/
def exactDigits (rank : Nat) : Digits := ⟨unitsOf rank * Nat.pow 5 1074, -1074⟩

/-- The shortest digits of a rank; seventeen always suffice. -/
def shortest (t : Tie) (rank : Nat) : Digits :=
  if rank = 0 then ⟨0, 0⟩
  else match search t rank 17 (leadingExponent rank) with
    | some d => d.strip 17
    | none => exactDigits rank

/-! ### Layouts -/

/-- Digits with a point at `exponent`, in full. -/
def Digits.positional (d : Digits) : List Char :=
  let ds := Nat.toDigits 10 d.digits
  if 0 ≤ d.exponent then ds ++ List.replicate d.exponent.toNat '0'
  else
    let places := d.exponent.natAbs
    if places < ds.length then ds.take (ds.length - places) ++ '.' :: ds.drop (ds.length - places)
    else '0' :: '.' :: (List.replicate (places - ds.length) '0' ++ ds)

def signText (negative : Bool) : List Char := if negative then ['-'] else []

/-- The shortest text without an exponent. -/
def plain : Binary64 → List Char
  | .nan => "NaN".toList
  | .infinite negative => signText negative ++ "inf".toList
  | .finite negative rank _ => signText negative ++ (shortest .up rank).positional

/-- The shortest text with a point or an exponent; an exponent is used when the leading digit's
is below `-5` or at least `16`. -/
def Digits.compact (d : Digits) : List Char :=
  let ds := Nat.toDigits 10 d.digits
  let leading := d.exponent + ds.length - 1
  if d.digits = 0 then "0.0".toList
  else if -5 ≤ leading ∧ leading < 16 then
    if 0 ≤ d.exponent then d.positional ++ ".0".toList else d.positional
  else
    let mantissa := match ds with
      | [] => []
      | [a] => [a]
      | a :: rest => a :: '.' :: rest
    let mark := if 0 ≤ leading then "e+".toList else "e-".toList
    mantissa ++ mark ++ Nat.toDigits 10 leading.natAbs

def compact? : Binary64 → Option (List Char)
  | .finite negative rank _ => some (signText negative ++ (shortest .even rank).compact)
  | _ => none

/-- The magnitude with exactly `places` digits after the point, a tie to the even digit. -/
def fixedMagnitude (places rank : Nat) : List Char :=
  let n := roundQuotient (unitsOf rank * Nat.pow 10 places) unitsPerOne
  let ds := Nat.toDigits 10 n
  if places = 0 then ds
  else
    let ds := List.replicate (places + 1 - ds.length) '0' ++ ds
    ds.take (ds.length - places) ++ '.' :: ds.drop (ds.length - places)

def fixed (places : Nat) : Binary64 → List Char
  | .nan => "NaN".toList
  | .infinite negative => signText negative ++ "inf".toList
  | .finite negative rank _ => signText negative ++ fixedMagnitude places rank

end Binary64

end SuiteForge
