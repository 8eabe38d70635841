import SuiteForge.Text.Blank
import SuiteForge.Text.Scan

/-!
Code fences around what a provider wrote.

Opening fences are dropped wherever they stand, with the white space behind them; a closing fence
is dropped at the end of the text.
-/

namespace SuiteForge.CodeFence

open Text

/-- An opening fence and the white space behind it. -/
def openingAt : Recogniser (List Char) := fun s =>
  (after? "```php".toList s).map fun rest => ([], rest.dropWhile isBlank)

/-- A closing fence with nothing but white space behind it. -/
def closingAt : Recogniser (List Char) := fun s =>
  match after? "```".toList s with
  | some rest => if rest.all isBlank then some ([], []) else none
  | none => none

def stripped (s : List Char) : List Char :=
  trim (replaceFirst closingAt (replaceMatches openingAt s))

def code (answer : String) : String := String.ofList (stripped answer.toList)

end SuiteForge.CodeFence
