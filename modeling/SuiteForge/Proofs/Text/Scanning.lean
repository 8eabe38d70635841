import SuiteForge.Text.Ascii
import SuiteForge.Text.Blank
import SuiteForge.Text.Scan

/-!
# Scanning a text piece by piece

A piece of a text in which no match begins, whatever follows it, is passed over by every scan.
Such pieces can be put together, so the matches in a text that is put together from pieces are
found without looking at the text as a whole.
-/

namespace SuiteForge.Text

variable {α : Type} {r : Recogniser α} {w x y s t rest : List Char} {a : α} {c : Char}

/-! ### What a scan finds -/

theorem after?_eq_some : after? w s = some t ↔ s = w ++ t := by
  induction w generalizing s with
  | nil => simp [after?, eq_comm]
  | cons p ps ih =>
    cases s with
    | nil => simp [after?]
    | cons c cs =>
      by_cases hc : p = c
      · simp [after?, hc, ih]
      · simp [after?, hc, Ne.symm hc]

theorem after?_isSome_iff : (after? w s).isSome = true ↔ w <+: s := by
  rw [Option.isSome_iff_exists]
  constructor
  · rintro ⟨t, ht⟩
    exact ⟨t, (after?_eq_some.mp ht).symm⟩
  · rintro ⟨t, ht⟩
    exact ⟨t, after?_eq_some.mpr ht.symm⟩

theorem word_eq_some : word w x s = some (y, t) ↔ y = x ∧ s = w ++ t := by
  rw [word, Option.map_eq_some_iff]
  constructor
  · rintro ⟨u, hu, heq⟩
    obtain ⟨rfl, rfl⟩ := Prod.mk.inj heq
    exact ⟨rfl, after?_eq_some.mp hu⟩
  · rintro ⟨rfl, hs⟩
    exact ⟨t, after?_eq_some.mpr hs, rfl⟩

/-- A text is cut around the first of a character. -/
theorem splitOnce_singleton_iff {d : Char} :
    splitOnce [d] s = some (x, y) ↔ d ∉ x ∧ s = x ++ d :: y := by
  induction s generalizing x with
  | nil => simp [splitOnce, after?]
  | cons c cs ih =>
    by_cases hc : d = c
    · subst hc
      have hafter : after? [d] (d :: cs) = some cs := after?_eq_some.mpr rfl
      cases x with
      | nil => simp [splitOnce, hafter]
      | cons b x => simp +contextual [splitOnce, hafter]
    · have hafter : after? [d] (c :: cs) = none := by simp [after?, hc]
      cases x with
      | nil => simp [splitOnce, hafter, Ne.symm hc]
      | cons b x =>
        constructor
        · intro h
          obtain ⟨⟨front, rest⟩, hfront, heq⟩ := Option.map_eq_some_iff.mp
            (by simpa only [splitOnce, hafter] using h)
          obtain ⟨⟨rfl, rfl⟩, rfl⟩ : (c = b ∧ front = x) ∧ rest = y := by simpa using heq
          obtain ⟨hx, rfl⟩ := ih.mp hfront
          exact ⟨by simp [hc, hx], rfl⟩
        · rintro ⟨hx, heq⟩
          obtain ⟨rfl, rfl⟩ : c = b ∧ cs = x ++ d :: y := by simpa using heq
          have hfront : splitOnce [d] (x ++ d :: y) = some (x, y) :=
            ih.mpr ⟨fun hmem => hx (List.mem_cons_of_mem c hmem), rfl⟩
          simp [splitOnce, hafter, hfront]

/-- A scan finds the match at the first place where there is one. -/
theorem firstMatch_cases (r : Recogniser α) (s : List Char) :
    (∃ i a rest, r (s.drop i) = some (a, rest) ∧ (∀ j < i, r (s.drop j) = none) ∧
      firstMatch r s = some a) ∨
    (∀ i, r (s.drop i) = none) ∧ firstMatch r s = none := by
  induction s with
  | nil =>
    cases hend : r [] with
    | none => exact Or.inr ⟨by simpa using hend, by simp [firstMatch, hend]⟩
    | some found => exact Or.inl ⟨0, found.1, found.2, hend, by simp, by simp [firstMatch, hend]⟩
  | cons c cs ih =>
    cases hhere : r (c :: cs) with
    | some found =>
      exact Or.inl ⟨0, found.1, found.2, hhere, by simp, by simp [firstMatch, hhere]⟩
    | none =>
      have hrest : firstMatch r (c :: cs) = firstMatch r cs := by simp [firstMatch, hhere]
      rw [hrest]
      rcases ih with ⟨i, a, rest, hmatch, hfirst, hfound⟩ | ⟨hnone, hfound⟩
      · refine Or.inl ⟨i + 1, a, rest, hmatch, fun j hj => ?_, hfound⟩
        cases j with
        | zero => exact hhere
        | succ j => exact hfirst j (Nat.lt_of_succ_lt_succ hj)
      · refine Or.inr ⟨fun i => ?_, hfound⟩
        cases i with
        | zero => exact hhere
        | succ i => exact hnone i

theorem firstMatch_some (h : firstMatch r s = some a) : ∃ t rest, r t = some (a, rest) := by
  rcases firstMatch_cases r s with ⟨i, b, rest, hmatch, -, hfound⟩ | ⟨-, hnone⟩
  · rw [hfound] at h
    cases h
    exact ⟨s.drop i, rest, hmatch⟩
  · rw [hnone] at h
    cases h

/-- Two recognisers that agree on what counts of their values find the same. -/
theorem firstMatch_map {β : Type} {r' : Recogniser β} {f : α → β}
    (h : ∀ s, (r s).map (fun found => f found.1) = (r' s).map Prod.fst) (s : List Char) :
    (firstMatch r s).map f = firstMatch r' s := by
  induction s with
  | nil =>
    rw [firstMatch, firstMatch, ← h [], Option.map_map]
    rfl
  | cons c cs ih =>
    have hhere := h (c :: cs)
    unfold firstMatch
    cases hr : r (c :: cs) with
    | none =>
      rw [hr] at hhere
      rw [Option.map_eq_none_iff.mp hhere.symm]
      exact ih
    | some found =>
      rw [hr] at hhere
      obtain ⟨found', hr', heq⟩ := Option.map_eq_some_iff.mp hhere.symm
      rw [hr']
      exact congrArg some heq.symm

theorem mem_allMatchesFrom {skip : Nat} (h : a ∈ allMatchesFrom r skip s) :
    ∃ t rest, r t = some (a, rest) := by
  induction s generalizing skip with
  | nil => simp [allMatchesFrom] at h
  | cons c cs ih =>
    cases skip with
    | succ skip => exact ih h
    | zero =>
      unfold allMatchesFrom at h
      split at h
      · rename_i b rest hmatch
        rcases List.mem_cons.mp h with rfl | h
        · exact ⟨c :: cs, rest, hmatch⟩
        · exact ih h
      · exact ih h

/-! ### Runs of characters -/

theorem takeWhile_run {p : Char → Bool} (hs : ∀ c ∈ s, p c = true)
    (ht : ∀ c, t.head? = some c → p c = false) : (s ++ t).takeWhile p = s := by
  rw [List.takeWhile_append_of_pos hs]
  cases t with
  | nil => simp
  | cons c t => simp [ht c rfl]

theorem dropWhile_run {p : Char → Bool} (hs : ∀ c ∈ s, p c = true)
    (ht : ∀ c, t.head? = some c → p c = false) : (s ++ t).dropWhile p = t := by
  rw [List.dropWhile_append_of_pos hs]
  cases t with
  | nil => simp
  | cons c t => simp [ht c rfl]

/-! ### Words -/

/-- Characters that make up an identifier. -/
structure IsWord (s : List Char) : Prop where
  nonempty : s ≠ []
  chars : ∀ c ∈ s, isWordChar c = true

theorem isWord_of_all (hs : s ≠ []) (h : s.all isWordChar = true) : IsWord s :=
  ⟨hs, List.all_eq_true.mp h⟩

theorem isWordChar_iff : isWordChar c = true ↔
    (65 ≤ c.toNat ∧ c.toNat ≤ 90 ∨ 97 ≤ c.toNat ∧ c.toNat ≤ 122) ∨
      48 ≤ c.toNat ∧ c.toNat ≤ 57 ∨ c.toNat = 95 := by
  have hle (a b : Char) : a ≤ b ↔ a.toNat ≤ b.toNat := Iff.rfl
  have hunderscore : c = '_' ↔ c.toNat = 95 := Char.toNat_inj.symm
  simp only [isWordChar, isLetter, isUpperLetter, isLowerLetter, isDigit, hunderscore, or_assoc,
    hle, Bool.or_eq_true, Bool.and_eq_true, decide_eq_true_eq, beq_iff_eq]
  rfl

theorem isBlank_of_isWordChar (h : isWordChar c = true) : isBlank c = false := by
  rw [isWordChar_iff] at h
  simp only [isBlank, Bool.or_eq_false_iff, Bool.and_eq_false_iff, decide_eq_false_iff_not,
    beq_eq_false_iff_ne]
  omega

theorem ne_of_isBlank {d : Char} (hc : isBlank c = true) (hd : isBlank d = false) : c ≠ d := by
  rintro rfl
  rw [hc] at hd
  cases hd

theorem notMem_of_isBlank (hw : w.all (!isBlank ·) = true) (hc : isBlank c = true) : c ∉ w := by
  intro hmem
  have hunblank := List.all_eq_true.mp hw c hmem
  rw [hc] at hunblank
  cases hunblank

theorem takeWhile_word (hw : ∀ c ∈ w, isWordChar c = true) (hc : isWordChar c = false)
    (s : List Char) : (w ++ c :: s).takeWhile isWordChar = w :=
  takeWhile_run hw (by simpa using hc)

theorem dropWhile_word (hw : ∀ c ∈ w, isWordChar c = true) (hc : isWordChar c = false)
    (s : List Char) : (w ++ c :: s).dropWhile isWordChar = c :: s :=
  dropWhile_run hw (by simpa using hc)

/-! ### Pieces in which nothing begins -/

/-- No match begins in a piece of a text, whatever follows. -/
def Inert (r : Recogniser α) (x : List Char) : Prop :=
  ∀ y z rest, x = y ++ z → z ≠ [] → r (z ++ rest) = none

namespace Inert

theorem nil : Inert r [] := by
  rintro y z rest h hz
  simp_all

theorem cons (hhead : ∀ rest, r (c :: (x ++ rest)) = none) (h : Inert r x) :
    Inert r (c :: x) := by
  intro y z rest heq hz
  cases y with
  | nil =>
    rw [List.nil_append] at heq
    rw [← heq]
    exact hhead rest
  | cons b y =>
    obtain ⟨-, hx⟩ := List.cons.inj heq
    exact h y z rest hx hz

theorem append (hx : Inert r x) (hy : Inert r y) : Inert r (x ++ y) := by
  intro front z rest h hz
  rcases List.append_eq_append_iff.mp h with ⟨z', rfl, rfl⟩ | ⟨z', rfl, rfl⟩
  · exact hy z' z rest rfl hz
  · by_cases hz' : z' = []
    · subst hz'
      exact hy [] y rest rfl (by simpa using hz)
    · rw [List.append_assoc]
      exact hx front z' (y ++ rest) rfl hz'

theorem flatMap {β : Type} {f : β → List Char} {l : List β} (h : ∀ b ∈ l, Inert r (f b)) :
    Inert r (l.flatMap f) := by
  induction l with
  | nil => exact nil
  | cons b l ih =>
    rw [List.flatMap_cons]
    exact (h b List.mem_cons_self).append (ih fun b' hb' => h b' (List.mem_cons_of_mem b hb'))

theorem of_cons (h : Inert r (c :: x)) : Inert r x :=
  fun y z rest heq hz => h (c :: y) z rest (by simp [heq]) hz

theorem head (h : Inert r (c :: x)) (s : List Char) : r (c :: (x ++ s)) = none :=
  h [] (c :: x) s rfl (by simp)

theorem firstMatch_append (h : Inert r x) (s : List Char) :
    firstMatch r (x ++ s) = firstMatch r s := by
  induction x with
  | nil => rfl
  | cons c x ih => rw [List.cons_append, firstMatch, h.head s, ih h.of_cons]

theorem allMatches_append (h : Inert r x) (s : List Char) :
    allMatches r (x ++ s) = allMatches r s := by
  induction x with
  | nil => rfl
  | cons c x ih =>
    rw [allMatches, List.cons_append, allMatchesFrom, h.head s]
    exact ih h.of_cons

theorem replaceMatches_append {r : Recogniser (List Char)} (h : Inert r x) (s : List Char) :
    replaceMatches r (x ++ s) = x ++ replaceMatches r s := by
  induction x with
  | nil => rfl
  | cons c x ih =>
    rw [replaceMatches, List.cons_append, replaceFrom, h.head s, List.cons_append]
    exact congrArg (c :: ·) (ih h.of_cons)

theorem replaceFirst_append {r : Recogniser (List Char)} (h : Inert r x) (s : List Char) :
    replaceFirst r (x ++ s) = x ++ replaceFirst r s := by
  induction x with
  | nil => rfl
  | cons c x ih =>
    rw [List.cons_append, replaceFirst, h.head s, List.cons_append]
    exact congrArg (c :: ·) (ih h.of_cons)

end Inert

/-! ### Matches -/

theorem firstMatch_of_match (h : r s = some (a, rest)) : firstMatch r s = some a := by
  cases s with
  | nil => rw [firstMatch, h, Option.map_some]
  | cons c s => rw [firstMatch, h]

theorem contains_append (w s : List Char) : contains w (w ++ s) = true := by
  have hword : word w [] (w ++ s) = some ([], s) := by
    rw [word, after?_eq_some.mpr rfl, Option.map_some]
  rw [contains, firstMatch_of_match hword, Option.isSome_some]

theorem allMatchesFrom_append (x s : List Char) :
    allMatchesFrom r x.length (x ++ s) = allMatches r s := by
  induction x with
  | nil => rfl
  | cons c x ih => exact ih

/-- After a match the scan goes on with what is left. -/
theorem allMatches_of_match (h : r (c :: (x ++ rest)) = some (a, rest)) :
    allMatches r (c :: (x ++ rest)) = a :: allMatches r rest := by
  have hlength : (x ++ rest).length - rest.length = x.length := by simp
  simp only [allMatches, allMatchesFrom, h, hlength, allMatchesFrom_append]

theorem replaceFrom_append {r : Recogniser (List Char)} (x s : List Char) :
    replaceFrom r x.length (x ++ s) = replaceMatches r s := by
  induction x with
  | nil => rfl
  | cons c x ih => exact ih

theorem replaceMatches_of_match {r : Recogniser (List Char)} {new : List Char}
    (h : r (c :: (x ++ rest)) = some (new, rest)) :
    replaceMatches r (c :: (x ++ rest)) = new ++ replaceMatches r rest := by
  have hlength : (x ++ rest).length - rest.length = x.length := by simp
  simp only [replaceMatches, replaceFrom, h, hlength, replaceFrom_append]

theorem replaceMatches_of_none {r : Recogniser (List Char)} (h : ∀ i, r (s.drop i) = none) :
    replaceMatches r s = s := by
  induction s with
  | nil => rfl
  | cons c s ih =>
    have hhere : r (c :: s) = none := h 0
    rw [replaceMatches, replaceFrom, hhere]
    exact congrArg (c :: ·) (ih fun i => h (i + 1))

theorem replaceFirst_of_match {r : Recogniser (List Char)} {new rest : List Char}
    (h : r s = some (new, rest)) : replaceFirst r s = new ++ rest := by
  cases s with
  | nil => rw [replaceFirst, h]
  | cons c s => rw [replaceFirst, h]

theorem replaceFirst_of_none {r : Recogniser (List Char)} (h : ∀ i, r (s.drop i) = none) :
    replaceFirst r s = s := by
  induction s with
  | nil =>
    have hend : r [] = none := h 0
    rw [replaceFirst, hend]
  | cons c s ih =>
    have hhere : r (c :: s) = none := h 0
    rw [replaceFirst, hhere]
    exact congrArg (c :: ·) (ih fun i => h (i + 1))

/-! ### Keywords -/

/-- Nothing is recognised but where a keyword stands. -/
def Begins (w : List Char) (r : Recogniser α) : Prop := ∀ s, after? w s = none → r s = none

/-- Nothing is recognised but where a keyword stands with a blank behind it. -/
def Keyed (w : List Char) (r : Recogniser α) : Prop :=
  ∀ s, (∀ b t, after? w s = some (b :: t) → isBlank b = false) → r s = none

theorem Keyed.begins (h : Keyed w r) : Begins w r := by
  intro s hs
  refine h s fun b t hbt => ?_
  rw [hs] at hbt
  cases hbt

theorem after?_drop_eq_none (h : ¬ w <:+: s) (i : Nat) : after? w (s.drop i) = none := by
  cases hafter : after? w (s.drop i) with
  | none => rfl
  | some t =>
    have hinfix : w <:+: s.drop i := ⟨[], t, by simp [after?_eq_some.mp hafter]⟩
    exact absurd (List.IsInfix.trans hinfix (List.drop_suffix i s).isInfix) h

/-- A keyword begins with one of its characters. -/
theorem inert_of_notMem (hbegins : Begins w r) (hw : w ≠ []) (h : ∀ c ∈ x, c ∉ w) :
    Inert r x := by
  rintro y z rest rfl hz
  obtain ⟨c, cs, rfl⟩ := List.exists_cons_of_ne_nil hz
  obtain ⟨p, ps, rfl⟩ := List.exists_cons_of_ne_nil hw
  have hc : p ≠ c := by
    rintro rfl
    exact h p (by simp) List.mem_cons_self
  exact hbegins _ (by simp [after?, hc])

theorem not_infix_append_left (hw : w ≠ []) (hx : ∀ c ∈ x, c ∉ w) (hs : ¬ w <:+: s) :
    ¬ w <:+: x ++ s := by
  induction x with
  | nil => exact hs
  | cons c x ih =>
    obtain ⟨hc, hx⟩ := List.forall_mem_cons.mp hx
    intro hinfix
    rcases List.infix_cons_iff.mp hinfix with hprefix | hinfix
    · obtain ⟨p, ps, rfl⟩ := List.exists_cons_of_ne_nil hw
      obtain ⟨rfl, -⟩ := List.cons_prefix_cons.mp hprefix
      exact hc List.mem_cons_self
    · exact ih hx hinfix

theorem not_infix_append_right (hw : w ≠ []) (hx : ∀ c ∈ x, c ∉ w) (hs : ¬ w <:+: s) :
    ¬ w <:+: s ++ x := by
  rw [← List.reverse_infix, List.reverse_append]
  apply not_infix_append_left
  · simpa using hw
  · simpa using hx
  · rwa [List.reverse_infix]

/-- A keyword stands nowhere in a text, and the text does not end with the start of one. -/
def clear (w : List Char) : List Char → Bool
  | [] => true
  | c :: cs => !w.isPrefixOf (c :: cs) && !(c :: cs).isPrefixOf w && clear w cs

theorem not_prefix_of_clear (h : clear w x = true) {z : List Char} (hx : x = y ++ z)
    (hz : z ≠ []) : ¬ w <+: z ∧ ¬ z <+: w := by
  induction y generalizing x with
  | nil =>
    cases x with
    | nil => exact absurd hx.symm hz
    | cons c cs =>
      obtain rfl : c :: cs = z := hx
      simp only [clear, Bool.and_eq_true, Bool.not_eq_true', ← Bool.not_eq_true,
        List.isPrefixOf_iff_prefix] at h
      exact h.1
  | cons b y ih =>
    subst hx
    simp only [clear, List.cons_append, Bool.and_eq_true] at h
    exact ih h.2 rfl

theorem inert_of_clear (hbegins : Begins w r) (h : clear w x = true) : Inert r x := by
  intro y z rest hx hz
  obtain ⟨hw, hz'⟩ := not_prefix_of_clear h hx hz
  refine hbegins _ ?_
  cases hafter : after? w (z ++ rest) with
  | none => rfl
  | some t =>
    rcases List.append_eq_append_iff.mp (after?_eq_some.mp hafter) with ⟨u, rfl, -⟩ | ⟨u, rfl, -⟩
    · exact absurd (List.prefix_append z u) hz'
    · exact absurd (List.prefix_append w u) hw

/-- A keyword has no blank behind it in a piece without blanks, and it can not go on behind a piece
that ends with none of its characters. -/
theorem inert_of_unblank (hkeyed : Keyed w r) (hblank : ∀ c ∈ x, isBlank c = false)
    (hlast : ∀ c, x.getLast? = some c → c ∉ w) : Inert r x := by
  rintro y z rest rfl hz
  refine hkeyed _ fun b t hafter => ?_
  obtain ⟨front, last, rfl⟩ : ∃ front last, z = front ++ [last] :=
    ⟨z.dropLast, z.getLast hz, (List.dropLast_concat_getLast hz).symm⟩
  have hlast := hlast last (by simp)
  rcases List.append_eq_append_iff.mp (after?_eq_some.mp hafter) with ⟨u, rfl, -⟩ | ⟨u, hu, hrest⟩
  · simp at hlast
  · cases u with
    | nil =>
      have hw : last ∈ w := by
        rw [List.append_nil] at hu
        simp [← hu]
      exact absurd hw hlast
    | cons b' u =>
      obtain ⟨rfl, -⟩ := List.cons.inj hrest
      exact hblank b (by simp [hu])

/-- The first character of a piece is neither blank nor in a keyword, and no keyword stands behind
it. -/
def closes (w : List Char) : List Char → Bool
  | [] => false
  | c :: cs => !isBlank c && !w.contains c && clear w cs

/-- Something without blanks between two pieces without keywords. -/
theorem inert_around (hkeyed : Keyed w r) {front back : List Char}
    (hfront : clear w front = true) (hx : ∀ c ∈ x, isBlank c = false)
    (hback : closes w back = true) : Inert r (front ++ (x ++ back)) := by
  cases back with
  | nil => cases hback
  | cons d back =>
    simp only [closes, Bool.and_eq_true, Bool.not_eq_true'] at hback
    obtain ⟨⟨hd, hdw⟩, hclear⟩ := hback
    have hsplit : x ++ d :: back = (x ++ [d]) ++ back := by simp
    rw [hsplit]
    refine (inert_of_clear hkeyed.begins hfront).append
      (Inert.append (inert_of_unblank hkeyed ?_ ?_) (inert_of_clear hkeyed.begins hclear))
    · intro c hc
      rcases List.mem_append.mp hc with hc | hc
      · exact hx c hc
      · rwa [List.mem_singleton.mp hc]
    · intro c hc
      obtain rfl : d = c := by simpa using hc
      simpa using hdw

end SuiteForge.Text
