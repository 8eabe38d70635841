import SuiteForge.Cli.Console

/-!
# Shortened texts

A text that is too long is cut at its start just as its mirror image is cut at its end. So the two
ways of cutting keep equally many characters, and what is said of the one is read off the other.
-/

namespace SuiteForge.Console

variable {limit : Nat} {s : List Char} {cell : String}

/-! ### Cutting the end -/

theorem shortenEnd_of_le (h : s.length ≤ limit) : shortenEnd limit s = s := if_pos h

theorem shortenEnd_of_lt (h : limit < s.length) :
    shortenEnd limit s = s.take (limit - 3) ++ ellipsis :=
  if_neg (Nat.not_le.mpr h)

theorem length_shortenEnd (hlimit : 3 ≤ limit) (s : List Char) :
    (shortenEnd limit s).length = min s.length limit := by
  rcases Nat.lt_or_ge limit s.length with h | h
  · have hdots : ellipsis.length = 3 := rfl
    rw [shortenEnd_of_lt h, List.length_append, List.length_take, hdots]
    omega
  · rw [shortenEnd_of_le h, Nat.min_eq_left h]

/-- The start of a text is kept. -/
theorem exists_kept_shortenEnd (h : limit < s.length) :
    ∃ kept skipped, s = kept ++ skipped ∧ kept.length = limit - 3 ∧
      shortenEnd limit s = kept ++ "...".toList := by
  refine ⟨s.take (limit - 3), s.drop (limit - 3), ?_, ?_, shortenEnd_of_lt h⟩
  · rw [List.take_append_drop]
  · rw [List.length_take]
    omega

/-! ### Cutting the start -/

theorem shortenStart_of_le (h : s.length ≤ limit) : shortenStart limit s = s := if_pos h

theorem shortenStart_of_lt (h : limit < s.length) :
    shortenStart limit s = ellipsis ++ s.drop (s.length - (limit - 3)) :=
  if_neg (Nat.not_le.mpr h)

theorem shortenStart_eq_reverse (limit : Nat) (s : List Char) :
    shortenStart limit s = (shortenEnd limit s.reverse).reverse := by
  rcases Nat.lt_or_ge limit s.length with h | h
  · have hreverse : limit < s.reverse.length := by rwa [List.length_reverse]
    have hdots : ellipsis.reverse = ellipsis := rfl
    rw [shortenStart_of_lt h, shortenEnd_of_lt hreverse, List.reverse_append, hdots,
      List.reverse_take, List.reverse_reverse, List.length_reverse]
  · have hreverse : s.reverse.length ≤ limit := by rwa [List.length_reverse]
    rw [shortenStart_of_le h, shortenEnd_of_le hreverse, List.reverse_reverse]

theorem length_shortenStart (hlimit : 3 ≤ limit) (s : List Char) :
    (shortenStart limit s).length = min s.length limit := by
  rw [shortenStart_eq_reverse, List.length_reverse, length_shortenEnd hlimit, List.length_reverse]

/-- The end of a text is kept. -/
theorem exists_kept_shortenStart (h : limit < s.length) :
    ∃ skipped kept, s = skipped ++ kept ∧ kept.length = limit - 3 ∧
      shortenStart limit s = "...".toList ++ kept := by
  have hreverse : limit < s.reverse.length := by rwa [List.length_reverse]
  obtain ⟨kept, skipped, hs, hlength, hshown⟩ := exists_kept_shortenEnd hreverse
  refine ⟨skipped.reverse, kept.reverse, ?_, ?_, ?_⟩
  · rw [← List.reverse_append, ← hs, List.reverse_reverse]
  · rw [List.length_reverse, hlength]
  · have hdots : "...".toList.reverse = "...".toList := rfl
    rw [shortenStart_eq_reverse, hshown, List.reverse_append, hdots]

/-! ### Names in tables -/

theorem exists_of_mem_firstCells {α : Type} {rows : List α} {first : α → String}
    {rest : α → List String}
    (h : cell ∈ (rows.map fun row => first row :: rest row).filterMap List.head?) :
    ∃ row, cell = first row := by
  obtain ⟨cells, hcells, hhead⟩ := List.mem_filterMap.mp h
  obtain ⟨row, -, rfl⟩ := List.mem_map.mp hcells
  exact ⟨row, (Option.some.inj hhead).symm⟩

theorem length_fileCell {rows : List Coverage.Row}
    (h : cell ∈ (Cli.coverageTable rows).rows.filterMap List.head?) : cell.length ≤ 50 := by
  obtain ⟨row, rfl⟩ := exists_of_mem_firstCells h
  rw [String.length_ofList, length_shortenStart (by decide)]
  exact Nat.min_le_right _ _

theorem length_testCell {headers : List String} {numbers : Benchmark.Test → List Binary64}
    {tests : List Benchmark.Test}
    (h : cell ∈ (Cli.testTable headers numbers tests).rows.filterMap List.head?) :
    cell.length ≤ 40 := by
  obtain ⟨test, rfl⟩ := exists_of_mem_firstCells h
  rw [String.length_ofList, length_shortenEnd (by decide)]
  exact Nat.min_le_right _ _

/-- To cut the start of a text is to cut the end of its mirror image. A text within the limit is
left alone; of any other one as many characters are kept as the limit has beyond the dots, and so
many are always there. What is shown has the length of the text or of the limit, unless the limit
has no room for the dots: files and tests in tables have no more than 50 and 40 characters. -/
theorem shortened_mirrored :
    (∀ (limit : Nat) (s : List Char),
      shortenStart limit s = (shortenEnd limit s.reverse).reverse ∧
      (s.length ≤ limit → shortenStart limit s = s ∧ shortenEnd limit s = s) ∧
      (limit < s.length → limit - 3 ≤ s.length ∧
        (∃ skipped kept, s = skipped ++ kept ∧ kept.length = limit - 3 ∧
          shortenStart limit s = "...".toList ++ kept) ∧
        ∃ kept skipped, s = kept ++ skipped ∧ kept.length = limit - 3 ∧
          shortenEnd limit s = kept ++ "...".toList) ∧
      (3 ≤ limit → (shortenStart limit s).length = min s.length limit ∧
        (shortenEnd limit s).length = min s.length limit)) ∧
    (∀ rows, ∀ cell ∈ (Cli.coverageTable rows).rows.filterMap List.head?, cell.length ≤ 50) ∧
    ∀ headers numbers tests,
      ∀ cell ∈ (Cli.testTable headers numbers tests).rows.filterMap List.head?,
        cell.length ≤ 40 := by
  refine ⟨fun limit s => ⟨shortenStart_eq_reverse limit s, ?_, ?_, ?_⟩, ?_, ?_⟩
  · intro h
    exact ⟨shortenStart_of_le h, shortenEnd_of_le h⟩
  · intro h
    exact ⟨by omega, exists_kept_shortenStart h, exists_kept_shortenEnd h⟩
  · intro hlimit
    exact ⟨length_shortenStart hlimit s, length_shortenEnd hlimit s⟩
  · intro rows cell hcell
    exact length_fileCell hcell
  · intro headers numbers tests cell hcell
    exact length_testCell hcell

def longFile : String := "app/Http/Controllers/Admin/Reports/CheckoutController.php"

def longTest : Benchmark.Test where
  name := "CheckoutTest > it completes a very long checkout flow"
  verdict := .pass
  time := .zero
  memory := .zero

theorem shortened_mirrored_longFile :
    3 ≤ 50 ∧ 50 < longFile.toList.length ∧ (shortenStart 50 longFile.toList).length = 50 ∧
      (∃ skipped kept, longFile.toList = skipped ++ kept ∧ kept.length = 47 ∧
        shortenStart 50 longFile.toList = "...".toList ++ kept) ∧
      "User.php".toList.length ≤ 50 ∧ shortenStart 50 "User.php".toList = "User.php".toList ∧
      (∃ cell ∈ (Cli.coverageTable [⟨longFile, .zero⟩]).rows.filterMap List.head?,
        cell.length ≤ 50) ∧
      ∃ cell ∈ (Cli.slowTable [longTest]).rows.filterMap List.head?, cell.length ≤ 40 := by
  obtain ⟨hcut, hfiles, htests⟩ := shortened_mirrored
  have hlong : 50 < longFile.toList.length := by decide
  have hshort : "User.php".toList.length ≤ 50 := by decide
  obtain ⟨-, -, hparts, hlength⟩ := hcut 50 longFile.toList
  have hwhole : (shortenStart 50 longFile.toList).length = 50 := by
    rw [(hlength (by decide)).1, Nat.min_eq_right (Nat.le_of_lt hlong)]
  have hfile : String.ofList (shortenStart 50 longFile.toList) ∈
      (Cli.coverageTable [⟨longFile, .zero⟩]).rows.filterMap List.head? := List.mem_singleton_self _
  have htest : String.ofList (shortenEnd 40 longTest.name.toList) ∈
      (Cli.slowTable [longTest]).rows.filterMap List.head? := List.mem_singleton_self _
  exact ⟨by decide, hlong, hwhole, (hparts hlong).2.1, hshort,
    ((hcut 50 "User.php".toList).2.1 hshort).1, ⟨_, hfile, hfiles _ _ hfile⟩,
    ⟨_, htest, htests _ _ _ _ htest⟩⟩

end SuiteForge.Console
