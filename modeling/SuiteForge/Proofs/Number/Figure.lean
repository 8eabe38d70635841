import SuiteForge.Proofs.Number.Numeral
import SuiteForge.Proofs.Text.Lines

/-!
# Figures

A figure is a numeral with a unit right behind it. The scan for a figure finds the leftmost place of
a text where one stands, and no character that is neither of a numeral nor of the unit is reached
into.
-/

namespace SuiteForge.Figure

open Text

variable {c : Char} {unit s t rest gap text : List Char}

/-! ### Where a figure ends -/

theorem stopsAt_numeralAt (hc : isDecimalDigit c = false) (hpoint : c ≠ '.') :
    StopsAt (c :: t) numeralAt := by
  intro s
  unfold numeralAt
  simp only [takeWhile_append_cons hc, dropWhile_append_cons hc]
  generalize s.takeWhile isDecimalDigit = whole
  generalize s.dropWhile isDecimalDigit = rest
  by_cases hwhole : whole = []
  · simp [hwhole]
  simp only [if_neg hwhole]
  cases rest with
  | nil => simp [hpoint]
  | cons b more =>
    by_cases hb : b = '.'
    · subst hb
      simp only [List.cons_append, takeWhile_append_cons hc, dropWhile_append_cons hc]
      split <;> rfl
    · simp [hb]

theorem stopsAt_at? (hc : isDecimalDigit c = false) (hpoint : c ≠ '.') (hunit : c ∉ unit) :
    StopsAt (c :: t) (at? unit) := by
  intro s
  rw [at?, at?, stopsAt_numeralAt hc hpoint s]
  cases numeralAt s with
  | none => rfl
  | some found =>
    simp only [Option.map_some, Option.bind_some, after?_append_cons hunit]
    cases after? unit found.2 <;> rfl

/-- A figure on a line is not changed by a carriage return at its end. -/
theorem first?_return {unit : String} (hunit : '\r' ∉ unit.toList) (line : List Char) :
    first? unit (line ++ ['\r']) = first? unit line := by
  rw [first?, first?, (stopsAt_at? (by decide) (by decide) hunit).firstMatch_concat]

/-! ### Where a figure stands -/

theorem numeralAt_text (n : Numeral isDecimalDigit) : numeralAt n.text = some (n.text, []) := by
  have hhead : ∀ c, n.decimals.head? = some c → isDecimalDigit c = false := by
    intro c hc
    unfold Numeral.decimals at hc
    split at hc
    · cases hc
    · cases hc
      decide
  unfold numeralAt
  simp only [Numeral.text, takeWhile_run n.whole_digits hhead,
    dropWhile_run n.whole_digits hhead, if_neg n.nonempty]
  unfold Numeral.decimals
  by_cases hpoint : n.fraction = []
  · simp [hpoint]
  · have htake : n.fraction.takeWhile isDecimalDigit = n.fraction := by
      simpa using takeWhile_run n.fraction_digits (t := []) (by simp)
    have hdrop : n.fraction.dropWhile isDecimalDigit = [] := by
      simpa using dropWhile_run n.fraction_digits (t := []) (by simp)
    simp only [if_neg hpoint, htake, hdrop]

theorem exists_numeral_of_numeralAt (h : numeralAt s = some (text, rest)) :
    ∃ n : Numeral isDecimalDigit, n.text = text ∧ s = text ++ rest := by
  have hdigits (s : List Char) : ∀ c ∈ s.takeWhile isDecimalDigit, isDecimalDigit c = true :=
    List.all_eq_true.mp List.all_takeWhile
  have hparts : s = s.takeWhile isDecimalDigit ++ s.dropWhile isDecimalDigit :=
    List.takeWhile_append_dropWhile.symm
  unfold numeralAt at h
  dsimp only at h
  split at h
  · cases h
  rename_i hwhole
  split at h
  · rename_i more hmore
    rw [hmore] at hparts
    split at h
    · cases h
      exact ⟨⟨_, [], hwhole, hdigits s, by simp⟩, by simp [Numeral.text, Numeral.decimals],
        by rwa [hmore]⟩
    · rename_i hfraction
      cases h
      refine ⟨⟨_, _, hwhole, hdigits s, hdigits more⟩,
        by simp [Numeral.text, Numeral.decimals, hfraction], ?_⟩
      rw [List.append_assoc, List.cons_append, List.takeWhile_append_dropWhile]
      exact hparts
  · cases h
    exact ⟨⟨_, [], hwhole, hdigits s, by simp⟩, by simp [Numeral.text, Numeral.decimals], hparts⟩

/-- A unit begins with what can not go on with a numeral. -/
def EndsNumeral (unit : List Char) : Prop :=
  ∃ c cs, unit = c :: cs ∧ isDecimalDigit c = false ∧ c ≠ '.'

theorem endsNumeral_percent : EndsNumeral "%".toList := ⟨'%', [], rfl, by decide, by decide⟩

theorem endsNumeral_ms : EndsNumeral "ms".toList := ⟨'m', ['s'], rfl, by decide, by decide⟩

theorem endsNumeral_megabytes : EndsNumeral "MB".toList := ⟨'M', ['B'], rfl, by decide, by decide⟩

theorem at?_text (hunit : EndsNumeral unit) (n : Numeral isDecimalDigit) (rest : List Char) :
    at? unit (n.text ++ (unit ++ rest)) = some (n.text, rest) := by
  obtain ⟨c, cs, rfl, hc, hpoint⟩ := hunit
  have hnumeral : numeralAt (n.text ++ (c :: cs ++ rest)) = some (n.text, c :: cs ++ rest) := by
    have hstops := stopsAt_numeralAt (t := cs ++ rest) hc hpoint n.text
    simpa [numeralAt_text] using hstops
  have hafter : after? (c :: cs) (c :: cs ++ rest) = some rest := after?_eq_some.mpr rfl
  simp only [at?, hnumeral, Option.bind_some, hafter, Option.map_some]

theorem at?_eq_some_iff (hunit : EndsNumeral unit) : at? unit s = some (text, rest) ↔
    ∃ n : Numeral isDecimalDigit, n.text = text ∧ s = n.text ++ (unit ++ rest) := by
  constructor
  · intro h
    obtain ⟨⟨numeral, behind⟩, hnumeral, hbehind⟩ := Option.bind_eq_some_iff.mp h
    obtain ⟨rest', hafter, heq⟩ := Option.map_eq_some_iff.mp hbehind
    cases heq
    obtain ⟨n, rfl, rfl⟩ := exists_numeral_of_numeralAt hnumeral
    exact ⟨n, rfl, by rw [after?_eq_some.mp hafter]⟩
  · rintro ⟨n, rfl, rfl⟩
    exact at?_text hunit n rest

/-- A figure with the unit stands at a place of the text. -/
def StandsAt (unit s : List Char) (i : Nat) (n : Numeral isDecimalDigit) : Prop :=
  n.text ++ unit <+: s.drop i

theorem at?_of_standsAt (hunit : EndsNumeral unit) (h : StandsAt unit s i n) :
    ∃ rest, at? unit (s.drop i) = some (n.text, rest) := by
  obtain ⟨rest, hrest⟩ := h
  exact ⟨rest, by rw [← hrest, List.append_assoc, at?_text hunit]⟩

theorem standsAt_of_at? (hunit : EndsNumeral unit) (h : at? unit (s.drop i) = some (text, rest)) :
    ∃ n, n.text = text ∧ StandsAt unit s i n := by
  obtain ⟨n, htext, hdrop⟩ := (at?_eq_some_iff hunit).mp h
  exact ⟨n, htext, rest, by rw [hdrop, List.append_assoc]⟩

/-- The numeral of the leftmost figure with the unit. -/
def First (unit s : List Char) (n : Numeral isDecimalDigit) : Prop :=
  ∃ i, StandsAt unit s i n ∧ ∀ j m, StandsAt unit s j m → i ≤ j

theorem firstMatch_at?_of_first (hunit : EndsNumeral unit) (h : First unit s n) :
    firstMatch (at? unit) s = some n.text := by
  obtain ⟨i, hn, hleast⟩ := h
  obtain ⟨rest, hi⟩ := at?_of_standsAt hunit hn
  rcases firstMatch_cases (at? unit) s with ⟨j, text, rest', hj, hbefore, hfound⟩ | ⟨hnone, -⟩
  · obtain ⟨m, -, hm⟩ := standsAt_of_at? hunit hj
    obtain rfl : i = j := by
      refine Nat.le_antisymm (hleast j m hm) (Nat.not_lt.mp fun hlt => ?_)
      rw [hbefore i hlt] at hi
      cases hi
    rw [hi] at hj
    cases hj
    exact hfound
  · rw [hnone i] at hi
    cases hi

theorem exists_first_or_none (hunit : EndsNumeral unit) (s : List Char) :
    (∃ n, First unit s n) ∨
      (∀ i n, ¬ StandsAt unit s i n) ∧ firstMatch (at? unit) s = none := by
  rcases firstMatch_cases (at? unit) s with ⟨i, text, rest, hi, hbefore, -⟩ | ⟨hnone, hfound⟩
  · obtain ⟨n, -, hn⟩ := standsAt_of_at? hunit hi
    refine Or.inl ⟨n, i, hn, fun j m hm => Nat.not_lt.mp fun hlt => ?_⟩
    obtain ⟨rest', hj⟩ := at?_of_standsAt hunit hm
    rw [hbefore j hlt] at hj
    cases hj
  · refine Or.inr ⟨fun i n hn => ?_, hfound⟩
    obtain ⟨rest, hi⟩ := at?_of_standsAt hunit hn
    rw [hnone i] at hi
    cases hi

theorem firstMatch_at?_isSome_iff (hunit : EndsNumeral unit) :
    (firstMatch (at? unit) s).isSome ↔ ∃ i n, StandsAt unit s i n := by
  rcases exists_first_or_none hunit s with ⟨n, hfirst⟩ | ⟨hall, hnone⟩
  · rw [firstMatch_at?_of_first hunit hfirst]
    obtain ⟨i, hstands, -⟩ := hfirst
    exact iff_of_true rfl ⟨i, n, hstands⟩
  · rw [hnone]
    refine iff_of_false (by simp) ?_
    rintro ⟨i, n, hstands⟩
    exact hall i n hstands

/-- Without a character of the unit there is no figure. -/
theorem firstMatch_at?_of_notMem (hunit : EndsNumeral unit) (hc : c ∈ unit) (hs : c ∉ s) :
    firstMatch (at? unit) s = none := by
  rcases exists_first_or_none hunit s with ⟨n, i, hstands, -⟩ | ⟨-, hnone⟩
  · obtain ⟨rest, hrest⟩ := hstands
    have hdrop : c ∈ s.drop i := by
      rw [← hrest]
      simp [hc]
    exact absurd (List.mem_of_mem_drop hdrop) hs
  · exact hnone

/-- The leftmost figure counts, and it has no value if it is not in ASCII digits. -/
theorem first?_of_first {unit : String} (hunit : EndsNumeral unit.toList)
    (h : First unit.toList s n) : first? unit s = n.ascii?.map Numeral.value := by
  rw [first?, firstMatch_at?_of_first hunit h, Option.bind_some, Numeral.ofText?_text]

theorem first?_of_none {unit : String} (hunit : EndsNumeral unit.toList)
    (h : ∀ i n, ¬ StandsAt unit.toList s i n) : first? unit s = none := by
  rcases exists_first_or_none hunit s with ⟨n, i, hn, -⟩ | ⟨-, hfound⟩
  · exact absurd hn (h i n)
  · rw [first?, hfound, Option.bind_none]

/-- No figure begins where there are no digits. -/
theorem inert_at? (hgap : gap.any isDecimalDigit = false) : Inert (at? unit) gap := by
  rintro y z rest rfl hz
  obtain ⟨c, cs, rfl⟩ := List.exists_cons_of_ne_nil hz
  have hc : ¬ isDecimalDigit c = true := List.any_eq_false.mp hgap c (by simp)
  simp [at?, numeralAt, hc]

/-- A figure behind characters that are no digits is the leftmost one. -/
theorem first?_gap {unit : String} (hunit : EndsNumeral unit.toList)
    (hgap : gap.any isDecimalDigit = false) (n : Numeral isDecimalDigit) (rest : List Char) :
    first? unit (gap ++ (n.text ++ (unit.toList ++ rest))) = n.ascii?.map Numeral.value := by
  rw [first?, (inert_at? hgap).firstMatch_append, firstMatch_of_match (at?_text hunit n rest),
    Option.bind_some, Numeral.ofText?_text]

end SuiteForge.Figure
