import SuiteForge.Number.Figure
import SuiteForge.Text.Blank

/-!
Coverage figures in the output of a test runner.

A line with a bar is a row: a file, then a cell with a percentage. A line with the words of the
total sets it, to zero if no percentage is there; the last such line counts.
-/

namespace SuiteForge.Coverage

open Text

inductive Status where
  | good
  | low
  deriving DecidableEq

/-- From here on the coverage of a file is good, whatever the threshold of a run is. -/
def goodFrom : Binary64 := 80

def Status.ofPercent (x : Binary64) : Status := if goodFrom.atMost x then .good else .low

/-- The coverage of a file in percent. -/
structure Row where
  file : String
  percent : Binary64
  deriving DecidableEq

def Row.status (r : Row) : Status := .ofPercent r.percent

structure Figures where
  total : Binary64 := .zero
  rows : List Row := []
  deriving DecidableEq

/-! ### Reading -/

/-- The leftmost percentage of a text. -/
def percentage? (s : List Char) : Option Binary64 := Figure.first? "%" s

/-- The row that a line gives: the percentage has to be in the second cell. -/
def rowOf? (line : List Char) : Option Row :=
  match splitOn '|' line with
  | file :: cell :: _ => (percentage? cell).map fun x => ⟨String.ofList (trim file), x⟩
  | _ => none

def totalMark : List Char := "Total Coverage:".toList

def totalOf? (line : List Char) : Option Binary64 :=
  if contains totalMark line then some ((percentage? line).getD .zero) else none

def Figures.ofOutput (output : String) : Figures :=
  let ls := lines output.toList
  { total := ((ls.filterMap totalOf?).getLast?).getD .zero
    rows := ls.filterMap rowOf? }

end SuiteForge.Coverage
