import Mathlib.Data.List.Forall2
import Mathlib.Order.Bounds.Basic
import SuiteForge.Proofs.Console.Table
import SuiteForge.Proofs.Text.Lines

/-!
# Columns of a table

However long its rows are, a table is a rectangle: it has as many columns as its longest row has
cells, each column is as wide as the widest of its cells, and every line has a cell for each column,
with blanks up to the width of that column. The borders have a dash for each place of a column and
for the blanks at its sides. This is so for any measure of cells by which an empty text fits into
the columns that lack a cell.
-/

namespace SuiteForge.Console.Table

open Text (IsLine)

variable {measure : String → Nat} {vs ws : List Nat} {rows done : List (List String)}
  {row cells : List String} {t : Table}

/-! ### Widths -/

theorem getElem?_widen (vs ws : List Nat) (i : Nat) :
    (widen vs ws)[i]? = Option.merge max vs[i]? ws[i]? := by
  induction vs generalizing ws i with
  | nil => simp [widen]
  | cons v vs ih =>
    cases ws with
    | nil => simp [widen]
    | cons w ws =>
      cases i with
      | zero => simp [widen]
      | succ i => simp [widen, ih]

/-- How many cells the rows have. -/
def lengths (rows : List (List String)) : Set Nat := {n | ∃ row ∈ rows, row.length = n}

/-- How wide the cells of a column are. -/
def cellWidths (measure : String → Nat) (rows : List (List String)) (i : Nat) : Set Nat :=
  {n | ∃ row ∈ rows, ∃ c, row[i]? = some c ∧ measure c = n}

theorem lengths_singleton (row : List String) : lengths [row] = {row.length} := by
  ext n
  simp [lengths, eq_comm]

theorem lengths_append (rows done : List (List String)) :
    lengths (rows ++ done) = lengths rows ∪ lengths done := by
  ext n
  simp [lengths, or_and_right, exists_or]

theorem cellWidths_singleton {i : Nat} {c : String} (hc : row[i]? = some c) :
    cellWidths measure [row] i = {measure c} := by
  ext n
  simp [cellWidths, hc, eq_comm]

theorem cellWidths_append (rows done : List (List String)) (i : Nat) :
    cellWidths measure (rows ++ done) i = cellWidths measure rows i ∪ cellWidths measure done i := by
  ext n
  simp [cellWidths, or_and_right, exists_or]

/-- There is a column for each cell of the longest row, as wide as the widest of its cells. -/
structure Measured (measure : String → Nat) (rows : List (List String)) (ws : List Nat) :
    Prop where
  columns : IsGreatest (lengths rows) ws.length
  width : ∀ i w : Nat, ws[i]? = some w → IsGreatest (cellWidths measure rows i) w

theorem Measured.cellWidths_of_none {i : Nat} (h : Measured measure rows ws) (hi : ws[i]? = none) :
    cellWidths measure rows i = ∅ := by
  rw [Set.eq_empty_iff_forall_notMem]
  rintro n ⟨row, hrow, c, hc, -⟩
  obtain ⟨hlt, -⟩ := List.getElem?_eq_some_iff.mp hc
  have hle : row.length ≤ ws.length := h.columns.2 ⟨row, hrow, rfl⟩
  have hbeyond : ws.length ≤ i := List.getElem?_eq_none_iff.mp hi
  omega

theorem measured_singleton (measure : String → Nat) (row : List String) :
    Measured measure [row] (row.map measure) := by
  constructor
  · rw [lengths_singleton, List.length_map]
    exact isGreatest_singleton
  · intro i w hw
    rw [List.getElem?_map, Option.map_eq_some_iff] at hw
    obtain ⟨c, hc, rfl⟩ := hw
    rw [cellWidths_singleton hc]
    exact isGreatest_singleton

/-- One more row widens the columns as far as its cells need. -/
theorem Measured.widen (h : Measured measure done ws) (row : List String) :
    Measured measure (done ++ [row]) (Table.widen ws (row.map measure)) := by
  have hrow := measured_singleton measure row
  constructor
  · rw [length_widen, lengths_append]
    exact h.columns.union hrow.columns
  · intro i w hw
    rw [getElem?_widen] at hw
    rw [cellWidths_append]
    cases hv : ws[i]? with
    | none =>
      rw [hv, Option.merge_none_left] at hw
      rw [h.cellWidths_of_none hv, Set.empty_union]
      exact hrow.width i w hw
    | some v =>
      cases hc : (row.map measure)[i]? with
      | none =>
        rw [hv, hc, Option.merge_none_right] at hw
        rw [hrow.cellWidths_of_none hc, Set.union_empty]
        exact h.width i w (hv.trans hw)
      | some n =>
        rw [hv, hc, Option.merge_some_some] at hw
        cases hw
        exact (h.width i v hv).union (hrow.width i n hc)

theorem Measured.foldl (h : Measured measure done ws) (rows : List (List String)) :
    Measured measure (done ++ rows)
      (rows.foldl (fun ws row => Table.widen ws (row.map measure)) ws) := by
  induction rows generalizing done ws with
  | nil => simpa using h
  | cons row rows ih =>
    have hstep := ih (h.widen row)
    rwa [List.append_assoc, List.singleton_append] at hstep

theorem measured_widths (t : Table) (measure : String → Nat) :
    Measured measure (t.headers :: t.rows) (t.widths measure) :=
  (measured_singleton measure t.headers).foldl t.rows

/-! ### Borders -/

/-- A border has a plus before each column and a plus at its end. For a column it has as many dashes
as that is wide, and two more. -/
inductive Bordered : List Nat → List Char → Prop where
  | corner : Bordered [] ['+']
  | column {w : Nat} {ws : List Nat} {s : List Char} (hrest : Bordered ws s) :
      Bordered (w :: ws) ('+' :: (List.replicate (w + 2) '-' ++ s))

theorem bordered_border (ws : List Nat) : Bordered ws (border ws) := by
  induction ws with
  | nil => exact .corner
  | cons w ws ih =>
    have hborder : border (w :: ws) = '+' :: (List.replicate (w + 2) '-' ++ border ws) := by
      simp [border]
    rw [hborder]
    exact .column ih

/-! ### Cells -/

/-- A line of a table. Each cell of its row is there, and with the blanks behind it takes what its
column has. Where the row has no more cells there are empty ones, and an empty text that is not
wider than the column takes that as well. -/
inductive Lined (measure : String → Nat) : List Nat → List String → List Char → Prop where
  | bar : Lined measure [] [] ['|']
  | cell {w blanks : Nat} {ws : List Nat} {c : String} {cells : List String} {s : List Char}
      (hfill : measure c + blanks = w) (hrest : Lined measure ws cells s) :
      Lined measure (w :: ws) (c :: cells)
        ('|' :: ' ' :: (c.toList ++ List.replicate blanks ' ' ++ ' ' :: s))
  | missing {w blanks : Nat} {ws : List Nat} {s : List Char}
      (hfill : measure "" ≤ w → measure "" + blanks = w) (hrest : Lined measure ws [] s) :
      Lined measure (w :: ws) [] ('|' :: ' ' :: (List.replicate blanks ' ' ++ ' ' :: s))

theorem lined_line (hlength : cells.length ≤ ws.length)
    (hfit : ∀ (i w : Nat) (c : String), ws[i]? = some w → cells[i]? = some c → measure c ≤ w) :
    Lined measure ws cells (line ws cells measure) := by
  induction ws generalizing cells with
  | nil =>
    obtain rfl : cells = [] := List.length_eq_zero_iff.mp (Nat.le_zero.mp hlength)
    exact .bar
  | cons w ws ih =>
    cases cells with
    | nil =>
      have hrest : Lined measure ws [] (line ws [] measure) := ih (Nat.zero_le _) (by simp)
      have hline : line (w :: ws) [] measure = '|' :: ' ' ::
          (List.replicate (w - measure "") ' ' ++ ' ' :: line ws [] measure) := by
        simp [line, cellText]
      rw [hline]
      exact .missing (by omega) hrest
    | cons c cells =>
      have hc : measure c ≤ w := hfit 0 w c rfl rfl
      have hrest : Lined measure ws cells (line ws cells measure) :=
        ih (Nat.le_of_succ_le_succ hlength) fun i => hfit (i + 1)
      have hline : line (w :: ws) (c :: cells) measure = '|' :: ' ' ::
          (c.toList ++ List.replicate (w - measure c) ' ' ++ ' ' :: line ws cells measure) := by
        simp [line, cellText]
      rw [hline]
      exact .cell (by omega) hrest

/-- No cell of a row is wider than its column. -/
theorem Lined.measure_le {s : List Char} {i w : Nat} {c : String} (h : Lined measure ws cells s)
    (hw : ws[i]? = some w) (hc : cells[i]? = some c) : measure c ≤ w := by
  induction h generalizing i with
  | bar => cases hw
  | cell hfill hrest ih =>
    cases i with
    | zero =>
      cases hw
      cases hc
      omega
    | succ i => exact ih hw hc
  | missing hfill hrest ih => cases hc

/-- A row has an empty cell for each one that it lacks. -/
def filledUp (columns : Nat) (row : List String) : List String := row.rightpad columns ""

theorem filledUp_nil (n : Nat) : filledUp (n + 1) [] = "" :: filledUp n [] := rfl

theorem filledUp_cons (n : Nat) (c : String) (cells : List String) :
    filledUp (n + 1) (c :: cells) = c :: filledUp n cells := by
  simp [filledUp, List.rightpad]

theorem getElem?_filledUp {n i : Nat} (hrow : row.length ≤ i) (hn : i < n) :
    (filledUp n row)[i]? = some "" := by
  rw [filledUp, List.rightpad, List.getElem?_append_right hrow, List.getElem?_replicate,
    if_pos (by omega)]

/-- A line is that of a row without missing cells just when an empty text is not wider than the
columns of those. -/
theorem Lined.filledUp_iff {s : List Char} (h : Lined measure ws cells s) :
    Lined measure ws (filledUp ws.length cells) s ↔
      ∀ i w : Nat, cells.length ≤ i → ws[i]? = some w → measure "" ≤ w := by
  constructor
  · intro hfull i w hi hw
    obtain ⟨hlt, -⟩ := List.getElem?_eq_some_iff.mp hw
    exact hfull.measure_le hw (getElem?_filledUp hi hlt)
  · intro hfits
    induction h with
    | bar => exact .bar
    | cell hfill hrest ih =>
      rw [List.length_cons, filledUp_cons]
      refine .cell hfill (ih ?_)
      intro i w hi hw
      exact hfits (i + 1) w (Nat.succ_le_succ hi) hw
    | missing hfill hrest ih =>
      rw [List.length_cons, filledUp_nil]
      refine .cell (hfill (hfits 0 _ (Nat.le_refl 0) rfl)) (ih ?_)
      intro i w hi hw
      exact hfits (i + 1) w (Nat.zero_le _) hw

/-! ### Lines -/

theorem Bordered.isLine {s : List Char} (h : Bordered ws s) : IsLine s := by
  have hend : s.getLast? = some '+' := by
    induction h with
    | corner => rfl
    | column hrest ih => simp [List.getLast?_cons, List.getLast?_append, ih]
  have hfeed : '\n' ∉ s := by
    clear hend
    induction h with
    | corner => decide
    | column hrest ih => simp [ih]
  exact .of_last hend (by decide) hfeed

/-- A line ends with a bar, and has a line feed only where a cell has one. -/
theorem Lined.isLine {s : List Char} (h : Lined measure ws cells s)
    (hcells : ∀ c ∈ cells, '\n' ∉ c.toList) : IsLine s := by
  have hend : s.getLast? = some '|' := by
    clear hcells
    induction h with
    | bar => rfl
    | cell hfill hrest ih => simp [List.getLast?_cons, ih]
    | missing hfill hrest ih => simp [List.getLast?_cons, ih]
  have hfeed : '\n' ∉ s := by
    clear hend
    induction h with
    | bar => decide
    | cell hfill hrest ih =>
      obtain ⟨hc, hcells⟩ := List.forall_mem_cons.mp hcells
      simp [hc, ih hcells]
    | missing hfill hrest ih => simp [ih hcells]
  exact .of_last hend (by decide) hfeed

/-- An empty text is not wider than any column in which some row has no cell. -/
def EmptyFits (t : Table) (measure : String → Nat) : Prop :=
  ∀ cells ∈ t.headers :: t.rows, ∀ i w : Nat, cells.length ≤ i → (t.widths measure)[i]? = some w →
    measure "" ≤ w

/-- On a terminal an empty text takes no columns at all. -/
theorem emptyFits_width (t : Table) : EmptyFits t width := by
  intro cells _ i w _ _
  exact Nat.zero_le w

/-- A table is a rectangle of lines and columns. -/
structure Rectangular (t : Table) (measure : String → Nat) : Prop where
  /-- There is a column for each cell of the longest row, as wide as the widest of its cells. -/
  measured : Measured measure (t.headers :: t.rows) (t.widths measure)
  /-- Its lines are the headers between borders, each row, and a border. They are those of rows with
  a cell in every column just when an empty text fits. -/
  lines : ∃ rim headers rows, Text.lines (t.text measure).toList =
      [rim, headers, rim] ++ rows ++ [rim] ∧
    Bordered (t.widths measure) rim ∧
    List.Forall₂ (Lined measure (t.widths measure)) (t.headers :: t.rows) (headers :: rows) ∧
    (List.Forall₂ (Lined measure (t.widths measure))
        ((t.headers :: t.rows).map (filledUp (t.widths measure).length)) (headers :: rows) ↔
      EmptyFits t measure)
  length : (Text.lines (t.text measure).toList).length = t.rows.length + 4

theorem mem_linesOf {l : List Char} (hl : l ∈ t.linesOf measure) :
    l = border (t.widths measure) ∨
      ∃ cells ∈ t.headers :: t.rows, l = line (t.widths measure) cells measure := by
  simp only [linesOf, List.mem_append, List.mem_cons, List.mem_map, List.not_mem_nil,
    or_false] at hl
  rcases hl with ((rfl | rfl | rfl) | ⟨cells, hcells, rfl⟩) | rfl
  · exact Or.inl rfl
  · exact Or.inr ⟨_, List.mem_cons_self, rfl⟩
  · exact Or.inl rfl
  · exact Or.inr ⟨cells, List.mem_cons_of_mem _ hcells, rfl⟩
  · exact Or.inl rfl

theorem lined_of_mem (hcells : cells ∈ t.headers :: t.rows) :
    Lined measure (t.widths measure) cells (line (t.widths measure) cells measure) := by
  have hmeasured := measured_widths t measure
  apply lined_line
  · exact hmeasured.columns.2 ⟨cells, hcells, rfl⟩
  · intro i w c hw hc
    exact (hmeasured.width i w hw).2 ⟨cells, hcells, c, hc, rfl⟩

theorem lines_text (hfeeds : ∀ cells ∈ t.headers :: t.rows, ∀ c ∈ cells, '\n' ∉ c.toList) :
    Text.lines (t.text measure).toList = t.linesOf measure := by
  apply Text.lines_intercalate
  · simp [linesOf]
  · intro l hl
    rcases mem_linesOf hl with rfl | ⟨cells, hcells, rfl⟩
    · exact (bordered_border _).isLine
    · exact (lined_of_mem hcells).isLine (hfeeds cells hcells)

def ragged : Table where
  headers := ["File", "Status"]
  rows := [["a.php", "✅ Good"], ["longer/b.php", "⚠️ Low", "?"], [], ["c.php"]]

example : ragged.linesOf.map String.ofList = [
    "+--------------+---------+---+",
    "| File         | Status  |   |",
    "+--------------+---------+---+",
    "| a.php        | ✅ Good |   |",
    "| longer/b.php | ⚠️ Low  | ? |",
    "|              |         |   |",
    "| c.php        |         |   |",
    "+--------------+---------+---+"] := by
  decide +kernel

end SuiteForge.Console.Table
