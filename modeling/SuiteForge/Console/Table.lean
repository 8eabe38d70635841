import SuiteForge.Text.DisplayWidth

/-!
Tables with borders of plus signs, dashes and bars.

Every row has as many cells as the longest of all; a missing cell is empty. Cells are padded to the
width of their column, by any measure of a cell; on a terminal it is the columns that the cell takes
there.
-/

namespace SuiteForge.Console

open Text

structure Table where
  headers : List String
  rows : List (List String) := []

namespace Table

def isEmpty (t : Table) : Bool := t.rows.isEmpty

def width (cell : String) : Nat := displayWidth cell.toList

/-- Column by column the greater of two widths. -/
def widen : List Nat → List Nat → List Nat
  | [], ws => ws
  | vs, [] => vs
  | v :: vs, w :: ws => max v w :: widen vs ws

def widths (t : Table) (measure : String → Nat := width) : List Nat :=
  (t.headers :: t.rows).foldl (fun ws row => widen ws (row.map measure)) []

def border (ws : List Nat) : List Char :=
  ws.flatMap (fun w => '+' :: List.replicate (w + 2) '-') ++ ['+']

/-- A cell between bars and blanks, filled up to a width. -/
def cellText (w : Nat) (cell : String) (measure : String → Nat := width) : List Char :=
  '|' :: ' ' :: (cell.toList ++ List.replicate (w - measure cell) ' ' ++ [' '])

def line (ws : List Nat) (cells : List String) (measure : String → Nat := width) : List Char :=
  match ws, cells with
  | [], _ => ['|']
  | w :: ws, [] => cellText w "" measure ++ line ws [] measure
  | w :: ws, c :: cs => cellText w c measure ++ line ws cs measure

def linesOf (t : Table) (measure : String → Nat := width) : List (List Char) :=
  let ws := t.widths measure
  [border ws, line ws t.headers measure, border ws] ++ t.rows.map (line ws · measure) ++ [border ws]

def text (t : Table) (measure : String → Nat := width) : String :=
  "\n".intercalate ((t.linesOf measure).map String.ofList)

end Table

end SuiteForge.Console
