import SuiteForge.Proofs.Runner.Output

/-!
# Printed coverage

A runner prints a row for each file, and the total behind the rows. Read back, the rows are the
files with their percentages, in order; and the total is the one of the last line, whatever the
texts of the files look like.
-/

namespace SuiteForge.Coverage

open Text

variable {gap : List Char}

theorem percentage?_gap (hgap : gap.any isDecimalDigit = false) (n : Numeral isDigit)
    (rest : List Char) : percentage? (gap ++ (n.text ++ '%' :: rest)) = some n.value := by
  have hfound := Figure.first?_gap Figure.endsNumeral_percent hgap n.anyScript rest
  rwa [Numeral.ascii?_anyScript, Option.map_some] at hfound

/-! ### Rows -/

/-- What a runner prints for a file: its text, the percentage, and perhaps more behind another
bar. -/
structure PrintedRow where
  file : List Char
  percent : Numeral isDigit
  more : Option (List Char)
  file_trimmed : trim file = file
  file_cell : '|' ∉ file
  file_line : '\n' ∉ file
  more_line : ∀ s ∈ more, '\n' ∉ s

namespace PrintedRow

/-- What is behind the percentage. -/
def behind (r : PrintedRow) : List Char := r.more.elim [] (" | ".toList ++ ·)

def text (r : PrintedRow) : List Char :=
  r.file ++ (" | ".toList ++ (r.percent.text ++ '%' :: r.behind))

def row (r : PrintedRow) : Row := ⟨String.ofList r.file, r.percent.value⟩

theorem notMem_text (r : PrintedRow) : '\n' ∉ r.text := by
  have hpercent : '\n' ∉ r.percent.text := Numeral.notMem_text (by decide) (by decide)
  have hbehind : '\n' ∉ r.behind := by
    unfold behind
    cases hmore : r.more with
    | none => simp
    | some s => simpa using r.more_line s hmore
  simp [text, r.file_line, hpercent, hbehind]

/-- The file is in the first cell and the percentage in the second one. -/
theorem splitOn_text (r : PrintedRow) : ∃ rest cells, splitOn '|' r.text =
    (r.file ++ [' ']) :: ([' '] ++ (r.percent.text ++ '%' :: rest)) :: cells := by
  have hpercent : '|' ∉ r.percent.text := Numeral.notMem_text (by decide) (by decide)
  have hfile : splitOn '|' (r.file ++ [' ']) = [r.file ++ [' ']] :=
    splitOn_of_notMem (by simp [r.file_cell])
  have htext : r.text =
      (r.file ++ [' ']) ++ '|' :: ([' '] ++ (r.percent.text ++ '%' :: r.behind)) := by
    simp [text]
  rw [htext, splitOn_append, hfile, behind]
  -- the second cell ends with the line, or with the blank in front of another bar
  cases r.more with
  | none =>
    refine ⟨[], [], ?_⟩
    rw [Option.elim_none, splitOn_of_notMem (by simp [hpercent])]
    rfl
  | some s =>
    refine ⟨[' '], splitOn '|' (' ' :: s), ?_⟩
    have hcell : [' '] ++ (r.percent.text ++ '%' :: (" | ".toList ++ s)) =
        ([' '] ++ (r.percent.text ++ ['%', ' '])) ++ '|' :: ' ' :: s := by simp
    rw [Option.elim_some, hcell, splitOn_append, splitOn_of_notMem (by simp [hpercent])]
    rfl

theorem rowOf?_text (r : PrintedRow) : rowOf? r.text = some r.row := by
  obtain ⟨rest, cells, hcells⟩ := r.splitOn_text
  have hpercent : percentage? ([' '] ++ (r.percent.text ++ '%' :: rest)) = some r.percent.value :=
    percentage?_gap (by decide) r.percent rest
  have hfile : trim (r.file ++ [' ']) = r.file := by
    rw [trim_concat (by decide), r.file_trimmed]
  simp only [rowOf?, hcells, hpercent, hfile, Option.map_some]
  rfl

end PrintedRow

/-! ### The total -/

def totalLine (total : Numeral isDigit) : List Char := totalMark ++ ' ' :: (total.text ++ ['%'])

variable (rows : List PrintedRow) (total : Numeral isDigit)

theorem notMem_totalLine {c : Char} (hc : c ∉ totalMark ++ [' ', '%'])
    (hdigit : isDigit c = false) (hpoint : c ≠ '.') : c ∉ totalLine total := by
  have htotal : c ∉ total.text := Numeral.notMem_text hdigit hpoint
  simp_all [totalLine]

theorem feed_notMem_totalLine : '\n' ∉ totalLine total :=
  notMem_totalLine total (by decide) (by decide) (by decide)

theorem rowOf?_totalLine : rowOf? (totalLine total) = none := by
  have hcells : '|' ∉ totalLine total :=
    notMem_totalLine total (by decide) (by decide) (by decide)
  rw [rowOf?, splitOn_of_notMem hcells]

theorem totalOf?_totalLine : totalOf? (totalLine total) = some total.value := by
  have hmark : contains totalMark (totalLine total) = true := contains_append totalMark _
  have hline : totalLine total = (totalMark ++ [' ']) ++ (total.text ++ '%' :: []) := by
    simp [totalLine]
  have hpercent : percentage? (totalLine total) = some total.value := by
    rw [hline]
    exact percentage?_gap (by decide) total []
  rw [totalOf?, if_pos hmark, hpercent, Option.getD_some]

/-! ### Reports -/

/-- A line for each file, and then the line with the total. -/
def printed (total : Numeral isDigit) : List PrintedRow → List Char
  | [] => totalLine total
  | r :: rows => r.text ++ '\n' :: printed total rows

theorem filterMap_rowOf?_printed :
    (lines (printed total rows)).filterMap rowOf? = rows.map PrintedRow.row := by
  induction rows with
  | nil =>
    rw [printed, readsLines_rowOf?.filterMap_lines_of_notMem (feed_notMem_totalLine total),
      rowOf?_totalLine]
    rfl
  | cons r rows ih =>
    rw [printed, readsLines_rowOf?.filterMap_lines_append, ih,
      readsLines_rowOf?.filterMap_lines_of_notMem r.notMem_text, r.rowOf?_text]
    rfl

/-- A file with the words of the total in its text may give a total of its own, but the last one is
that of the last line. -/
theorem getLast?_totals_printed :
    ((lines (printed total rows)).filterMap totalOf?).getLast? = some total.value := by
  induction rows with
  | nil =>
    rw [printed, readsLines_totalOf?.filterMap_lines_of_notMem (feed_notMem_totalLine total),
      totalOf?_totalLine]
    rfl
  | cons r rows ih =>
    rw [printed, readsLines_totalOf?.filterMap_lines_append, List.getLast?_append, ih,
      Option.some_or]

theorem Figures.ofOutput_feed (s : List Char) :
    ofOutput (String.ofList (s ++ ['\n'])) = ofOutput (String.ofList s) := by
  simp only [ofOutput, String.toList_ofList, readsLines_totalOf?.filterMap_lines_feed,
    readsLines_rowOf?.filterMap_lines_feed]

/-- A report is read back as it was put together, with a line feed at its end or without: the files
in their order, each with its percentage, and the total. -/
theorem report_read_back :
    Figures.ofOutput (String.ofList (printed total rows)) =
      { total := total.value, rows := rows.map PrintedRow.row } ∧
    Figures.ofOutput (String.ofList (printed total rows ++ ['\n'])) =
      { total := total.value, rows := rows.map PrintedRow.row } := by
  have hread : Figures.ofOutput (String.ofList (printed total rows)) =
      { total := total.value, rows := rows.map PrintedRow.row } := by
    rw [Figures.ofOutput, String.toList_ofList, filterMap_rowOf?_printed,
      getLast?_totals_printed, Option.getD_some]
  exact ⟨hread, (Figures.ofOutput_feed _).trans hread⟩

/-- The text of the file has percentages and the words of the total in it, and so has what is behind
its row. -/
def markedRow : PrintedRow where
  file := "7% Total Coverage: 8%".toList
  percent := ⟨['8', '5'], ['2', '5'], by decide, List.all_eq_true.mp (by decide),
    List.all_eq_true.mp (by decide)⟩
  more := some "Total Coverage: 9% | 6%".toList
  file_trimmed := rfl
  file_cell := by decide
  file_line := by decide
  more_line := by rintro s ⟨rfl⟩; decide

theorem report_read_back_marked :
    Figures.ofOutput "7% Total Coverage: 8% | 85.25% | Total Coverage: 9% | 6%\nTotal Coverage: 44%"
      = { total := .ofRatio false 44 1
          rows := [⟨"7% Total Coverage: 8%", .ofRatio false 8525 100⟩] } :=
  (report_read_back [markedRow]
    ⟨['4', '4'], [], by decide, List.all_eq_true.mp (by decide), by simp⟩).1

end SuiteForge.Coverage
