import SuiteForge.Number.Shortest
import SuiteForge.Text.Scan

/-!
Numbers as they are shown: with a fixed number of places and commas between the thousands, or as
short as they can be.
-/

namespace SuiteForge.Console

/-- Puts a comma before every third character from the end, but not at the start. -/
def groupThousands : List Char → List Char
  | [] => []
  | [c] => [c]
  | c :: cs =>
    if cs.length % 3 = 0 then c :: ',' :: groupThousands cs else c :: groupThousands cs

/-- The number is below zero and does not look like zero at these places. -/
def showsSign (x : Binary64) (magnitude : List Char) : Bool :=
  x.less .zero && magnitude.any fun c => c ≠ '0' && c ≠ '.'

def amount (places : Nat) (x : Binary64) : List Char :=
  let magnitude := x.abs.fixed places
  let sign := if showsSign x magnitude then ['-'] else []
  match Text.splitOnce ['.'] magnitude with
  | some (whole, fraction) => sign ++ groupThousands whole ++ '.' :: fraction
  | none => sign ++ groupThousands magnitude

/-- A number without places when it is whole, else in full. -/
def short (x : Binary64) : List Char := if x.isWhole then x.fixed 0 else x.plain

end SuiteForge.Console
