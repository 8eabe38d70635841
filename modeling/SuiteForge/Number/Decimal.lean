import SuiteForge.Number.Binary64
import SuiteForge.Text.Ascii
import SuiteForge.Text.Scan

/-!
Decimal numerals: an optional sign, digits with an optional point, an optional exponent.

A numeral stands for `digits * 10^exponent` exactly, and is read as the nearest binary64 number.
-/

namespace SuiteForge

namespace Decimal

/-- The value of a row of ASCII digits, continuing from `start`. -/
def digitsValue (start : Nat) : List Char → Nat
  | [] => start
  | c :: cs => digitsValue (start * 10 + (c.toNat - 48)) cs

def digitRun (s : List Char) : List Char × List Char :=
  (s.takeWhile Text.isDigit, s.dropWhile Text.isDigit)

end Decimal

namespace Binary64

/-- The number nearest to `digits * 10^exponent`. An exponent out of every range is cut short, so
the powers stay small. -/
def ofScaled (negative : Bool) (digits : Nat) (exponent : Int) : Binary64 :=
  let length := (Nat.toDigits 10 digits).length
  if digits = 0 then ofRank negative 0
  else if exponent + length > 400 then .infinite negative
  else if exponent + length < -400 then ofRank negative 0
  else if 0 ≤ exponent then ofRatio negative (digits * Nat.pow 10 exponent.toNat) 1
  else ofRatio negative digits (Nat.pow 10 exponent.natAbs)

/-- Reads an exponent such as `e-7`; an absent one is `0`. -/
def exponent? : List Char → Option Int
  | [] => some 0
  | c :: cs =>
    if Text.lower c = 'e' then
      let (negative, ds) := match cs with
        | '-' :: ds => (true, ds)
        | '+' :: ds => (false, ds)
        | ds => (false, ds)
      if ds ≠ [] ∧ ds.all Text.isDigit then
        let value : Int := Decimal.digitsValue 0 ds
        some (if negative then -value else value)
      else none
    else none

/-- Reads digits with an optional point and exponent; there has to be a digit. -/
def ofUnsigned? (negative : Bool) (s : List Char) : Option Binary64 :=
  let (whole, rest) := Decimal.digitRun s
  let (fraction, rest) := match rest with
    | '.' :: more => Decimal.digitRun more
    | _ => ([], rest)
  if whole = [] ∧ fraction = [] then none
  else (exponent? rest).map fun e =>
    ofScaled negative (Decimal.digitsValue 0 (whole ++ fraction)) (e - fraction.length)

/-- Reads a numeral, or the name of infinity or of what is not a number, in any case. -/
def ofText? (s : List Char) : Option Binary64 :=
  let (negative, body) := match s with
    | '-' :: body => (true, body)
    | '+' :: body => (false, body)
    | body => (false, body)
  match String.ofList (body.map Text.lower) with
  | "inf" => some (.infinite negative)
  | "infinity" => some (.infinite negative)
  | "nan" => some .nan
  | _ => ofUnsigned? negative body

end Binary64

end SuiteForge
