import SuiteForge.Number.Decimal
import SuiteForge.Text.DecimalDigit

/-!
Figures with a unit, such as `12.5%`, inside a text.

A figure is a row of decimal digits of any script, an optional point with digits behind it, and the
unit right after that. The leftmost figure counts; only ASCII digits make it a number.
-/

namespace SuiteForge.Figure

open Text

/-- Digits with an optional point and more digits. A point without a digit behind it is left. -/
def numeralAt : Recogniser (List Char) := fun s =>
  let whole := s.takeWhile isDecimalDigit
  let rest := s.dropWhile isDecimalDigit
  if whole = [] then none
  else match rest with
    | '.' :: more =>
      let fraction := more.takeWhile isDecimalDigit
      if fraction = [] then some (whole, rest)
      else some (whole ++ '.' :: fraction, more.dropWhile isDecimalDigit)
    | _ => some (whole, rest)

/-- A numeral with the unit right behind it. -/
def at? (unit : List Char) : Recogniser (List Char) := fun s =>
  (numeralAt s).bind fun (numeral, rest) => (after? unit rest).map (numeral, ·)

/-- The value of the leftmost figure with the unit. -/
def first? (unit : String) (s : List Char) : Option Binary64 :=
  (firstMatch (at? unit.toList) s).bind Binary64.ofText?

end SuiteForge.Figure
