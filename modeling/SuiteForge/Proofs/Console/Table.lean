import SuiteForge.Console.Table

/-!
# Lines of a table

Where every row has a cell for each header, a line of the table shows the cells of its row: the
first one at its start, the last one at its end.
-/

namespace SuiteForge.Console.Table

variable {t : Table}

/-! ### Widths -/

theorem length_widen (vs ws : List Nat) : (widen vs ws).length = max vs.length ws.length := by
  induction vs generalizing ws with
  | nil => simp [widen]
  | cons v vs ih =>
    cases ws with
    | nil => simp [widen]
    | cons w ws => simp [widen, ih]

theorem length_foldl_widen {rows : List (List String)} {ws : List Nat}
    (h : ∀ row ∈ rows, row.length = ws.length) :
    (rows.foldl (fun ws row => widen ws (row.map width)) ws).length = ws.length := by
  induction rows generalizing ws with
  | nil => rfl
  | cons row rows ih =>
    have hrow : (widen ws (row.map width)).length = ws.length := by
      simp [length_widen, h row]
    rw [List.foldl_cons, ih, hrow]
    intro row' hrow'
    rw [hrow]
    exact h row' (List.mem_cons_of_mem _ hrow')

/-- There is a width for each header. -/
theorem length_widths (h : ∀ row ∈ t.rows, row.length = t.headers.length) :
    t.widths.length = t.headers.length := by
  have hstart : widen [] (t.headers.map width) = t.headers.map width := rfl
  rw [widths, List.foldl_cons, hstart, length_foldl_widen, List.length_map]
  simpa using h

/-! ### Lines -/

theorem line_eq_cons {ws : List Nat} {c : String} {cells : List String}
    (h : ws.length = cells.length + 1) :
    ∃ rest, line ws (c :: cells) = '|' :: ' ' :: (c.toList ++ rest) := by
  cases ws with
  | nil => cases h
  | cons w ws =>
    exact ⟨List.replicate (w - width c) ' ' ++ ' ' :: line ws cells, by simp [line, cellText]⟩

theorem line_eq_concat {ws : List Nat} {c : String} {cells : List String}
    (h : ws.length = cells.length + 1) :
    ∃ front w, line ws (cells ++ [c]) = front ++ (cellText w c ++ ['|']) := by
  induction cells generalizing ws with
  | nil =>
    match ws, h with
    | [w], _ => exact ⟨[], w, rfl⟩
  | cons cell cells ih =>
    cases ws with
    | nil => cases h
    | cons w ws =>
      obtain ⟨front, w', hline⟩ := ih (Nat.succ.inj h)
      exact ⟨cellText w cell ++ front, w', by
        rw [List.cons_append, line, hline, List.append_assoc]⟩

end SuiteForge.Console.Table
