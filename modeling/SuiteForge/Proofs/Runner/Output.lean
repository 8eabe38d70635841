import SuiteForge.Benchmark.Basic
import SuiteForge.Coverage.Basic
import SuiteForge.Proofs.Number.Figure

/-!
# Output of a runner, line by line

Tests and coverage rows are read from one line at a time, and nothing that is read from a line
reaches into a carriage return at its end. So what two outputs tell, one after the other, is what
they tell apart, and no kind of line end matters.
-/

namespace SuiteForge

open Text

variable {c : Char} {s : List Char}

/-! ### Tests -/

namespace Benchmark

theorem stopsAt_verdictAt : StopsAt ['\r'] verdictAt := by
  intro s
  rw [verdictAt, verdictAt, after?_append_cons (by decide), after?_append_cons (by decide)]
  cases after? "PASS".toList s with
  | some rest => rfl
  | none => cases after? "FAIL".toList s <;> rfl

theorem timeAt_of_blank (hs : s.dropWhile isBlank = []) : timeAt s = none := by
  simp [timeAt, hs, after?]

/-- A time does not reach over a blank behind something that is not blank. -/
theorem timeAt_append_of_end (hs : s.dropWhile isBlank ≠ []) (hc : isBlank c = true)
    (t : List Char) :
    timeAt (s ++ c :: t) = (timeAt s).map fun found => (found.1, found.2 ++ c :: t) := by
  have hne (d : Char) (hd : isBlank d = false) : c ≠ d := ne_of_isBlank hc hd
  have hms : c ∉ "ms".toList := by simp [hne 'm' (by decide), hne 's' (by decide)]
  have hfigure : StopsAt (c :: t) (Figure.at? "ms".toList) :=
    Figure.stopsAt_at? (isDecimalDigit_of_isBlank hc) (hne '.' (by decide)) hms
  have hopen : c ∉ ['('] := by simpa using hne '(' (by decide)
  have hclose : c ∉ [')'] := by simpa using hne ')' (by decide)
  unfold timeAt
  rw [takeWhile_append_of_end hs, dropWhile_append_of_end hs]
  split
  · rfl
  · simp only [Option.bind_eq_bind, after?_append_cons hopen]
    cases after? ['('] (s.dropWhile isBlank) with
    | none => rfl
    | some inside =>
      simp only [Option.map_some, Option.bind_some, hfigure inside]
      cases Figure.at? "ms".toList inside with
      | none => rfl
      | some found =>
        simp only [Option.map_some, Option.bind_some, after?_append_cons hclose]
        cases after? [')'] found.2 <;> rfl

theorem stopsAt_timeAt : StopsAt ['\r'] timeAt := by
  intro s
  by_cases hs : s.dropWhile isBlank = []
  · rw [timeAt_of_blank hs, timeAt_of_blank (dropWhile_isBlank_concat (by decide) hs)]
    rfl
  · exact timeAt_append_of_end hs (by decide) []

theorem stopsAt_nameUpTo (taken : List Char) : StopsAt ['\r'] (nameUpTo taken) := by
  intro s
  induction s generalizing taken with
  | nil =>
    have hend : timeAt [] = none := timeAt_of_blank rfl
    simp [nameUpTo, hend]
  | cons c s ih =>
    rw [List.cons_append, nameUpTo, nameUpTo, stopsAt_timeAt s]
    cases timeAt s with
    | some found => rfl
    | none => exact ih (c :: taken)

/-- Nothing but blanks is no name with a time behind it. -/
theorem nameBehind_takeWhile (s : List Char) : nameBehind (s.takeWhile isBlank) [] = none := by
  unfold nameBehind
  split
  · rfl
  · simp only [nameUpTo]
    split
    · rename_i last name before more hreverse
      have hlast : last ∈ s.takeWhile isBlank := by
        rw [← List.mem_reverse, hreverse]
        exact List.mem_cons_self
      have hblank : isBlank last = true := List.all_eq_true.mp List.all_takeWhile last hlast
      rw [timeAt_of_blank (by simp [hblank])]
      rfl
    · rfl

theorem nameBehind_return (blanks s : List Char) :
    nameBehind blanks (s ++ ['\r']) =
      (nameBehind blanks s).map fun found => (found.1, found.2 ++ ['\r']) := by
  unfold nameBehind
  split
  · rfl
  · rw [stopsAt_nameUpTo [] s]
    cases nameUpTo [] s with
    | some found => rfl
    | none =>
      simp only [Option.map_none]
      split
      · rename_i last name before more hreverse
        rw [← List.cons_append, stopsAt_timeAt]
        cases timeAt (last :: s) <;> rfl
      · rfl

theorem stopsAt_testAt : StopsAt ['\r'] testAt := by
  intro s
  unfold testAt
  rw [stopsAt_verdictAt s]
  cases verdictAt s with
  | none => rfl
  | some found =>
    obtain ⟨verdict, rest⟩ := found
    simp only [Option.map_some, Option.bind_eq_bind, Option.bind_some]
    by_cases hrest : rest.dropWhile isBlank = []
    · rw [hrest, dropWhile_isBlank_concat (by decide) hrest, nameBehind_takeWhile,
        nameBehind_takeWhile]
      rfl
    · rw [takeWhile_append_of_end hrest, dropWhile_append_of_end hrest, nameBehind_return]
      cases nameBehind (rest.takeWhile isBlank) (rest.dropWhile isBlank) <;> rfl

theorem memoryOf_return (line : List Char) : memoryOf (line ++ ['\r']) = memoryOf line := by
  rw [memoryOf, memoryOf, Figure.first?_return (by decide)]

theorem readsLines_testOf? : ReadsLines testOf? := by
  constructor
  case returned =>
    intro line
    rw [testOf?, testOf?, stopsAt_testAt.firstMatch_concat, memoryOf_return]
  case empty => rfl

end Benchmark

/-! ### Coverage -/

namespace Coverage

theorem percentage?_return (line : List Char) : percentage? (line ++ ['\r']) = percentage? line :=
  Figure.first?_return (by decide) line

theorem readsLines_rowOf? : ReadsLines rowOf? := by
  constructor
  case returned =>
    intro line
    have hcells := returned_splitOn (d := '|') (by decide) line
    unfold rowOf?
    generalize splitOn '|' (line ++ ['\r']) = pieces at hcells
    generalize splitOn '|' line = cells at hcells
    cases hcells with
    | nil => rfl
    | cons hfile hmore =>
      cases hmore with
      | nil => rfl
      | @cons piece cell _ _ hcell _ =>
        have hpercent : percentage? piece = percentage? cell := by
          rcases hcell with rfl | rfl
          · rfl
          · exact percentage?_return cell
        simp only [hfile.trim_eq, hpercent]
  case empty => rfl

theorem readsLines_totalOf? : ReadsLines totalOf? := by
  constructor
  case returned =>
    intro line
    rw [totalOf?, totalOf?, contains_concat (by decide), percentage?_return]
  case empty => rfl

theorem Figures.rows_ofOutput (output : String) :
    (ofOutput output).rows = (lines output.toList).filterMap rowOf? := rfl

theorem Figures.total_ofOutput (output : String) :
    (ofOutput output).total = ((lines output.toList).filterMap totalOf?).getLast?.getD .zero := rfl

/-- A line gives a total just when it has the words for it. -/
theorem filterMap_totalOf?_eq_nil_iff (s : List Char) :
    (lines s).filterMap totalOf? = [] ↔ (lines s).any (contains totalMark) = false := by
  rw [List.filterMap_eq_nil_iff, List.any_eq_false]
  refine forall₂_congr fun line _ => ?_
  unfold totalOf?
  split <;> simp_all

end Coverage

/-! ### Whole outputs -/

theorem toList_between (a b : String) :
    (a ++ "\n" ++ b).toList = a.toList ++ '\n' :: b.toList :=
  toList_around '\n' a b

theorem Benchmark.ofOutput_append (a b : String) :
    ofOutput (a ++ "\n" ++ b) = ofOutput a ++ ofOutput b := by
  rw [ofOutput, toList_between, readsLines_testOf?.filterMap_lines_append]
  rfl

theorem Coverage.Figures.rows_append (a b : String) :
    (ofOutput (a ++ "\n" ++ b)).rows = (ofOutput a).rows ++ (ofOutput b).rows := by
  rw [rows_ofOutput, toList_between, readsLines_rowOf?.filterMap_lines_append]
  rfl

theorem Coverage.Figures.total_append (a b : String) :
    (ofOutput (a ++ "\n" ++ b)).total =
      if (lines b.toList).any (contains totalMark) then (ofOutput b).total
      else (ofOutput a).total := by
  rw [total_ofOutput, toList_between, readsLines_totalOf?.filterMap_lines_append,
    List.getLast?_append, total_ofOutput b]
  by_cases htotals : (lines b.toList).filterMap totalOf? = []
  · have hunmarked := (filterMap_totalOf?_eq_nil_iff b.toList).mp htotals
    rw [htotals, hunmarked]
    rfl
  · have hmarked : (lines b.toList).any (contains totalMark) = true := by
      rwa [filterMap_totalOf?_eq_nil_iff, Bool.not_eq_false] at htotals
    rw [hmarked, if_pos rfl, List.getLast?_eq_some_getLast htotals, Option.some_or]

theorem Benchmark.ofOutput_withReturns (text : String) :
    ofOutput (String.ofList (withReturns text.toList)) = ofOutput text := by
  rw [ofOutput, String.toList_ofList, readsLines_testOf?.filterMap_lines_withReturns]
  rfl

theorem Coverage.Figures.ofOutput_withReturns (text : String) :
    ofOutput (String.ofList (withReturns text.toList)) = ofOutput text := by
  simp only [ofOutput, String.toList_ofList, readsLines_totalOf?.filterMap_lines_withReturns,
    readsLines_rowOf?.filterMap_lines_withReturns]

/-- What two outputs tell with a line feed between them is what they tell apart, the total of the
second one counting if it has a line for one; and carriage returns in front of line feeds make no
difference. -/
theorem output_by_lines :
    (∀ a b : String,
      Benchmark.ofOutput (a ++ "\n" ++ b) = Benchmark.ofOutput a ++ Benchmark.ofOutput b ∧
      (Coverage.Figures.ofOutput (a ++ "\n" ++ b)).rows =
        (Coverage.Figures.ofOutput a).rows ++ (Coverage.Figures.ofOutput b).rows ∧
      (Coverage.Figures.ofOutput (a ++ "\n" ++ b)).total =
        if (lines b.toList).any (contains Coverage.totalMark) then
          (Coverage.Figures.ofOutput b).total
        else (Coverage.Figures.ofOutput a).total) ∧
    ∀ text : String,
      Benchmark.ofOutput (String.ofList (withReturns text.toList)) = Benchmark.ofOutput text ∧
      Coverage.Figures.ofOutput (String.ofList (withReturns text.toList)) =
        Coverage.Figures.ofOutput text := by
  constructor
  · intro a b
    exact ⟨Benchmark.ofOutput_append a b, Coverage.Figures.rows_append a b,
      Coverage.Figures.total_append a b⟩
  · intro text
    exact ⟨Benchmark.ofOutput_withReturns text, Coverage.Figures.ofOutput_withReturns text⟩

end SuiteForge
