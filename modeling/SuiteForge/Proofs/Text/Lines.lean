import Mathlib.Data.List.Forall2
import SuiteForge.Proofs.Text.Scanning

/-!
# Lines, and carriage returns at their ends

A text is cut at every line feed; the lines of the text are what is between, but for a carriage
return at the end of a line and an empty piece at the very end. What is gathered from the lines of a
text one by one, by something that a carriage return at the end of a line does not matter to, is
therefore gathered from the pieces, and no line break matters to it either.
-/

namespace SuiteForge.Text

variable {α β : Type} {c d : Char} {s t w piece line : List Char} {pieces ls : List (List Char)}

/-! ### Cutting at a character -/

theorem splitOn_eq (d : Char) (s : List Char) : splitOn d s = s.splitOn d := by
  induction s with
  | nil => simp [splitOn]
  | cons c cs ih =>
    rw [List.splitOn_cons_eq_if_modifyHead, ← ih]
    by_cases hc : c = d
    · simp [splitOn, hc]
    · cases hcs : splitOn d cs with
      | nil => simp [hcs, List.splitOn_ne_nil] at ih
      | cons p ps => simp [splitOn, hc, hcs]

theorem splitOn_ne_nil : splitOn d s ≠ [] := by
  rw [splitOn_eq]
  exact List.splitOn_ne_nil d s

theorem splitOn_append (d : Char) (s t : List Char) :
    splitOn d (s ++ d :: t) = splitOn d s ++ splitOn d t := by
  rw [splitOn_eq, splitOn_eq, splitOn_eq, List.splitOn_append_cons_self]

theorem splitOn_of_notMem (h : d ∉ s) : splitOn d s = [s] := by
  rw [splitOn_eq, List.splitOn_eq_singleton h]

/-- A piece has the characters of the text, without the one it was cut at. -/
theorem mem_of_mem_splitOn (h : piece ∈ splitOn d s) (hc : c ∈ piece) : c ∈ s ∧ c ≠ d := by
  induction s generalizing piece with
  | nil =>
    have hpiece : piece = [] := by simpa [splitOn] using h
    simp [hpiece] at hc
  | cons x xs ih =>
    by_cases hx : x = d
    · rcases List.mem_cons.mp (by simpa [splitOn, hx] using h) with rfl | h
      · cases hc
      · exact ⟨List.mem_cons_of_mem x (ih h hc).1, (ih h hc).2⟩
    · cases hxs : splitOn d xs with
      | nil => exact absurd hxs splitOn_ne_nil
      | cons p ps =>
        rw [hxs] at ih
        rcases List.mem_cons.mp (by simpa [splitOn, hx, hxs] using h) with rfl | h
        · rcases List.mem_cons.mp hc with rfl | hc
          · exact ⟨List.mem_cons_self, hx⟩
          · have hin := ih List.mem_cons_self hc
            exact ⟨List.mem_cons_of_mem x hin.1, hin.2⟩
        · have hin := ih (List.mem_cons_of_mem p h) hc
          exact ⟨List.mem_cons_of_mem x hin.1, hin.2⟩

/-- A character that a text is not cut at goes to the piece behind it. -/
theorem splitOn_cons_ne (hc : c ≠ d) (s : List Char) :
    ∃ p ps, splitOn d s = p :: ps ∧ splitOn d (c :: s) = (c :: p) :: ps := by
  cases hs : splitOn d s with
  | nil => exact absurd hs splitOn_ne_nil
  | cons p ps => exact ⟨p, ps, rfl, by simp [splitOn, hc, hs]⟩

theorem exists_mem_splitOn (hc : c ∈ s) (hne : c ≠ d) : ∃ piece ∈ splitOn d s, c ∈ piece := by
  induction s with
  | nil => cases hc
  | cons b s ih =>
    by_cases hb : b = d
    · subst hb
      rcases List.mem_cons.mp hc with heq | hc
      · exact absurd heq hne
      · obtain ⟨piece, hpiece, hmem⟩ := ih hc
        exact ⟨piece, by simp [splitOn, hpiece], hmem⟩
    · obtain ⟨p, ps, hs, hbs⟩ := splitOn_cons_ne hb s
      rw [hbs]
      rcases List.mem_cons.mp hc with rfl | hc
      · exact ⟨c :: p, List.mem_cons_self, List.mem_cons_self⟩
      · obtain ⟨piece, hpiece, hmem⟩ := ih hc
        rw [hs] at hpiece
        rcases List.mem_cons.mp hpiece with rfl | hpiece
        · exact ⟨b :: piece, List.mem_cons_self, List.mem_cons_of_mem b hmem⟩
        · exact ⟨piece, List.mem_cons_of_mem _ hpiece, hmem⟩

theorem toList_around (c : Char) (a b : String) :
    (a ++ String.singleton c ++ b).toList = a.toList ++ c :: b.toList := by
  simp [String.toList_append]

/-! ### Line ends -/

/-- A piece of a text is a line, or a line with a carriage return at its end. -/
def Returned (piece line : List Char) : Prop := piece = line ∨ piece = line ++ ['\r']

theorem Returned.cons (c : Char) (h : Returned piece line) : Returned (c :: piece) (c :: line) := by
  rcases h with rfl | rfl
  · exact Or.inl rfl
  · exact Or.inr rfl

theorem returned_splitOn_cons (hc : c ≠ d)
    (h : List.Forall₂ Returned (splitOn d t) (splitOn d s)) :
    List.Forall₂ Returned (splitOn d (c :: t)) (splitOn d (c :: s)) := by
  obtain ⟨p, ps, hs, hcs⟩ := splitOn_cons_ne hc s
  obtain ⟨p', ps', ht, hct⟩ := splitOn_cons_ne hc t
  rw [hs, ht] at h
  rw [hcs, hct]
  cases h with
  | cons hhead htail => exact .cons (hhead.cons c) htail

/-- A text with a carriage return in front of every line feed. -/
def withReturns (s : List Char) : List Char :=
  s.flatMap fun c => if c = '\n' then ['\r', '\n'] else [c]

theorem returned_withReturns (s : List Char) :
    List.Forall₂ Returned (splitOn '\n' (withReturns s)) (splitOn '\n' s) := by
  induction s with
  | nil => exact .cons (Or.inl rfl) .nil
  | cons c s ih =>
    by_cases hc : c = '\n'
    · subst hc
      exact .cons (Or.inr rfl) ih
    · have hcons : withReturns (c :: s) = c :: withReturns s := by simp [withReturns, hc]
      rw [hcons]
      exact returned_splitOn_cons hc ih

theorem returned_splitOn (hd : d ≠ '\r') (s : List Char) :
    List.Forall₂ Returned (splitOn d (s ++ ['\r'])) (splitOn d s) := by
  induction s with
  | nil => simp [splitOn, hd.symm, Returned]
  | cons c s ih =>
    by_cases hc : c = d
    · have hcut (s : List Char) : splitOn d (c :: s) = [] :: splitOn d s := by simp [splitOn, hc]
      rw [List.cons_append, hcut, hcut]
      exact .cons (Or.inl rfl) ih
    · rw [List.cons_append]
      exact returned_splitOn_cons hc ih

theorem lines_eq_nil_iff : lines s = [] ↔ s = [] := by
  fun_cases lines s <;> simp_all

/-- The lines of a text are its pieces, but for line ends and an empty piece at the very end. -/
theorem returned_lines (s : List Char) :
    ∃ ls, List.Forall₂ Returned (splitOn '\n' s) ls ∧ (ls = lines s ∨ ls = lines s ++ [[]]) := by
  fun_induction lines s with
  | case1 => exact ⟨[[]], .cons (Or.inl rfl) .nil, Or.inr rfl⟩
  | case2 rest ih =>
    obtain ⟨ls, hls, hlines⟩ := ih
    exact ⟨[] :: ls, .cons (Or.inl rfl) hls, hlines.imp (congrArg _) (congrArg _)⟩
  | case3 rest ih =>
    obtain ⟨ls, hls, hlines⟩ := ih
    exact ⟨[] :: ls, .cons (Or.inr rfl) hls, hlines.imp (congrArg _) (congrArg _)⟩
  | case4 c rest hc hreturn hnone ih =>
    obtain rfl := lines_eq_nil_iff.mp hnone
    have hne : c ≠ '\n' := by rintro rfl; exact hc rfl
    exact ⟨[[c]], by simp [splitOn, hne, Returned], Or.inl rfl⟩
  | case5 c rest hc hreturn l ls hsome ih =>
    have hne : c ≠ '\n' := by rintro rfl; exact hc rfl
    obtain ⟨p, ps, hrest, hcons⟩ := splitOn_cons_ne hne rest
    rw [hcons]
    rw [hrest, hsome] at ih
    -- the piece in front of the first line feed is the first line in both cases
    obtain ⟨found, hpieces, hlines⟩ := ih
    cases hpieces with
    | cons hhead htail =>
      rcases hlines with hlines | hlines
      · obtain ⟨rfl, rfl⟩ := List.cons.inj hlines
        exact ⟨_, .cons (hhead.cons c) htail, Or.inl rfl⟩
      · obtain ⟨rfl, rfl⟩ := List.cons.inj hlines
        exact ⟨_, .cons (hhead.cons c) htail, Or.inr rfl⟩

/-! ### Lines with a line feed between them -/

/-- A character that is no line break goes to the line behind it. -/
theorem lines_cons {c : Char} {l : List Char} (hc : c ≠ '\n')
    (hreturn : c = '\r' → s.head? ≠ some '\n') (hs : lines s = l :: ls) :
    lines (c :: s) = (c :: l) :: ls := by
  rw [lines, hs]
  · exact hc
  · rintro rest rfl rfl
    exact hreturn rfl rfl

theorem lines_append_feed (hs : '\n' ∉ s) (hlast : s.getLast? ≠ some '\r') (t : List Char) :
    lines (s ++ '\n' :: t) = s :: lines t := by
  induction s with
  | nil => rfl
  | cons c s ih =>
    obtain ⟨hc, htail⟩ : '\n' ≠ c ∧ '\n' ∉ s := by simpa using hs
    have hrest : lines (s ++ '\n' :: t) = s :: lines t := by
      apply ih htail
      intro hreturn
      exact hlast (by simp [List.getLast?_cons, hreturn])
    refine lines_cons (Ne.symm hc) ?_ hrest
    rintro rfl hfeed
    cases s with
    | nil => exact hlast rfl
    | cons d s => exact List.ne_of_not_mem_cons htail (Option.some.inj hfeed).symm

theorem lines_of_notMem (hs : '\n' ∉ s) (hne : s ≠ []) : lines s = [s] := by
  induction s with
  | nil => exact absurd rfl hne
  | cons c s ih =>
    obtain ⟨hc, htail⟩ : '\n' ≠ c ∧ '\n' ∉ s := by simpa using hs
    cases s with
    | nil => simp [lines, Ne.symm hc]
    | cons d s =>
      refine lines_cons (Ne.symm hc) ?_ (ih htail (List.cons_ne_nil d s))
      intro _ hfeed
      exact List.ne_of_not_mem_cons htail (Option.some.inj hfeed).symm

/-- A text that can stand as a line of its own. -/
structure IsLine (s : List Char) : Prop where
  feed : '\n' ∉ s
  last : s.getLast? ≠ some '\r'
  nonempty : s ≠ []

theorem IsLine.of_last {c : Char} (hend : s.getLast? = some c) (hc : c ≠ '\r')
    (hfeed : '\n' ∉ s) : IsLine s where
  feed := hfeed
  last := by simp [hend, hc]
  nonempty := by
    rintro rfl
    cases hend

theorem lines_intercalate (hne : ls ≠ []) (hls : ∀ l ∈ ls, IsLine l) :
    lines ("\n".intercalate (ls.map String.ofList)).toList = ls := by
  induction ls with
  | nil => exact absurd rfl hne
  | cons l ls ih =>
    obtain ⟨hl, hls⟩ := List.forall_mem_cons.mp hls
    cases ls with
    | nil => simpa using lines_of_notMem hl.feed hl.nonempty
    | cons m ls =>
      have htext : ("\n".intercalate ((l :: m :: ls).map String.ofList)).toList =
          l ++ '\n' :: ("\n".intercalate ((m :: ls).map String.ofList)).toList := by
        simp [String.intercalate_cons_cons]
      rw [htext, lines_append_feed hl.feed hl.last, ih (List.cons_ne_nil m ls) hls]

/-! ### What is gathered from lines -/

/-- A line is read the same with a carriage return at its end, and nothing is read from an empty
one. -/
structure ReadsLines (f : List Char → Option β) : Prop where
  returned : ∀ line, f (line ++ ['\r']) = f line
  empty : f [] = none

namespace ReadsLines

variable {f : List Char → Option β}

theorem filterMap_eq (hf : ReadsLines f) (h : List.Forall₂ Returned pieces ls) :
    pieces.filterMap f = ls.filterMap f := by
  induction h with
  | nil => rfl
  | @cons piece line pieces ls hhead htail ih =>
    have hline : f piece = f line := by
      rcases hhead with rfl | rfl
      · rfl
      · exact hf.returned line
    rw [List.filterMap_cons, List.filterMap_cons, hline, ih]

theorem filterMap_lines (hf : ReadsLines f) (s : List Char) :
    (lines s).filterMap f = (splitOn '\n' s).filterMap f := by
  obtain ⟨ls, hpieces, rfl | rfl⟩ := returned_lines s
  · exact (hf.filterMap_eq hpieces).symm
  · rw [hf.filterMap_eq hpieces, List.filterMap_append]
    simp [hf.empty]

theorem filterMap_lines_of_notMem (hf : ReadsLines f) (hs : '\n' ∉ s) :
    (lines s).filterMap f = (f s).toList := by
  rw [hf.filterMap_lines, splitOn_of_notMem hs]
  cases hline : f s <;> simp [hline]

/-- A line feed between two texts parts what is read from them. -/
theorem filterMap_lines_append (hf : ReadsLines f) (s t : List Char) :
    (lines (s ++ '\n' :: t)).filterMap f = (lines s).filterMap f ++ (lines t).filterMap f := by
  rw [hf.filterMap_lines, hf.filterMap_lines, hf.filterMap_lines, splitOn_append,
    List.filterMap_append]

/-- A line feed at the very end opens no line. -/
theorem filterMap_lines_feed (hf : ReadsLines f) (s : List Char) :
    (lines (s ++ ['\n'])).filterMap f = (lines s).filterMap f := by
  rw [hf.filterMap_lines_append, lines, List.filterMap_nil, List.append_nil]

/-- What ends the lines of a text makes no difference. -/
theorem filterMap_lines_withReturns (hf : ReadsLines f) (s : List Char) :
    (lines (withReturns s)).filterMap f = (lines s).filterMap f := by
  rw [hf.filterMap_lines, hf.filterMap_lines, hf.filterMap_eq (returned_withReturns s)]

end ReadsLines

/-! ### Recognisers at the end of a line -/

/-- What is recognised neither begins in `t` nor goes on into it. -/
def StopsAt (t : List Char) (r : Recogniser α) : Prop :=
  ∀ s, r (s ++ t) = (r s).map fun found => (found.1, found.2 ++ t)

theorem StopsAt.firstMatch_concat {r : Recogniser α} (h : StopsAt [c] r) (s : List Char) :
    firstMatch r (s ++ [c]) = firstMatch r s := by
  induction s with
  | nil =>
    have hend : r [c] = (r []).map fun found => (found.1, found.2 ++ [c]) := h []
    cases hnil : r [] with
    | none => simp [firstMatch, hend, hnil]
    | some found => simp [firstMatch, hend, hnil]
  | cons b s ih =>
    have hhere := h (b :: s)
    rw [List.cons_append] at hhere
    rw [List.cons_append, firstMatch, hhere, firstMatch, ih]
    cases r (b :: s) <;> rfl

/-- A character that matches stop at parts the scan for the first match. -/
theorem StopsAt.firstMatch_append {r : Recogniser α} (h : StopsAt (c :: t) r) (s : List Char) :
    firstMatch r (s ++ c :: t) = (firstMatch r s).or (firstMatch r t) := by
  induction s with
  | nil =>
    have hend : r (c :: t) = (r []).map fun found => (found.1, found.2 ++ c :: t) := h []
    simp only [List.nil_append, firstMatch, hend]
    cases r [] <;> rfl
  | cons b s ih =>
    have hhere := h (b :: s)
    rw [List.cons_append] at hhere
    rw [List.cons_append, firstMatch, hhere, firstMatch, ih]
    cases r (b :: s) <;> rfl

theorem StopsAt.allMatchesFrom_append {r : Recogniser α} (h : StopsAt (c :: t) r)
    (hnil : r [] = none) {skip : Nat} (hskip : skip ≤ s.length) :
    allMatchesFrom r skip (s ++ c :: t) = allMatchesFrom r skip s ++ allMatches r t := by
  induction s generalizing skip with
  | nil =>
    obtain rfl : skip = 0 := Nat.le_zero.mp hskip
    have hend : r (c :: t) = none := by simpa [hnil] using h []
    simp only [List.nil_append, allMatchesFrom, hend, allMatches]
  | cons b s ih =>
    cases skip with
    | succ skip => exact ih (Nat.le_of_succ_le_succ hskip)
    | zero =>
      have hhere := h (b :: s)
      rw [List.cons_append] at hhere
      rw [List.cons_append, allMatchesFrom, hhere, allMatchesFrom]
      cases r (b :: s) with
      | none => exact ih (Nat.zero_le _)
      | some found =>
        -- a match covers as many characters as it did without the text behind it
        have hlength : (s ++ c :: t).length - (found.2 ++ c :: t).length =
            s.length - found.2.length := by
          rw [List.length_append, List.length_append, Nat.add_sub_add_right]
        simp only [Option.map_some, hlength, ih (Nat.sub_le _ _), List.cons_append]

/-- A character that matches stop at parts the scan for all matches, which goes on behind it in
step. -/
theorem StopsAt.allMatches_append {r : Recogniser α} (h : StopsAt (c :: t) r)
    (hnil : r [] = none) (s : List Char) :
    allMatches r (s ++ c :: t) = allMatches r s ++ allMatches r t :=
  h.allMatchesFrom_append hnil (Nat.zero_le _)

/-- A word does not reach beyond a character that is not in it. -/
theorem after?_append_cons (hc : c ∉ w) (s t : List Char) :
    after? w (s ++ c :: t) = (after? w s).map (· ++ c :: t) := by
  induction w generalizing s with
  | nil => rfl
  | cons a w ih =>
    obtain ⟨ha, hw⟩ : c ≠ a ∧ c ∉ w := by simpa using hc
    cases s with
    | nil => simp [after?, Ne.symm ha]
    | cons b s =>
      by_cases hb : a = b
      · simpa [after?, hb] using ih hw s
      · simp [after?, hb]

/-- A keyword that is not in a text is not completed across a character that it has not. -/
theorem inert_concat {r : Recogniser α} (hbegins : Begins w r) (hw : w ≠ []) (hc : c ∉ w)
    (hs : ¬ w <:+: s) : Inert r (s ++ [c]) := by
  induction s with
  | nil => exact inert_of_notMem hbegins hw (List.forall_mem_singleton.mpr hc)
  | cons b s ih =>
    refine .cons (fun rest => hbegins _ ?_) (ih fun hinfix => hs (List.infix_cons hinfix))
    have hnone : after? w (b :: s) = none := after?_drop_eq_none hs 0
    calc
      after? w (b :: (s ++ [c] ++ rest)) = after? w ((b :: s) ++ c :: rest) := by simp
      _ = (after? w (b :: s)).map (· ++ c :: rest) := after?_append_cons hc (b :: s) rest
      _ = none := by rw [hnone, Option.map_none]

/-- What is recognised behind a word stops where the word and the rest do. -/
theorem stopsAt_after {r : Recogniser α} (hc : c ∉ w) (hr : StopsAt (c :: t) r) :
    StopsAt (c :: t) fun s => (after? w s).bind r := by
  intro s
  simp only [after?_append_cons hc]
  cases after? w s with
  | none => rfl
  | some rest => exact hr rest

theorem stopsAt_word (hc : c ∉ w) (new : List Char) : StopsAt (c :: t) (word w new) := by
  intro s
  rw [word, word, after?_append_cons hc]
  cases after? w s <;> rfl

theorem contains_concat (hc : c ∉ w) (s : List Char) : contains w (s ++ [c]) = contains w s := by
  rw [contains, contains, (stopsAt_word hc []).firstMatch_concat]

theorem takeWhile_append_cons {p : Char → Bool} (hc : p c = false) (s t : List Char) :
    (s ++ c :: t).takeWhile p = s.takeWhile p := by
  induction s with
  | nil => simp [hc]
  | cons b s ih => by_cases hb : p b <;> simp [hb, ih]

theorem dropWhile_append_cons {p : Char → Bool} (hc : p c = false) (s t : List Char) :
    (s ++ c :: t).dropWhile p = s.dropWhile p ++ c :: t := by
  induction s with
  | nil => simp [hc]
  | cons b s ih => by_cases hb : p b <;> simp [hb, ih]

/-- What stands behind the end of a run of characters is not looked at. -/
theorem takeWhile_append_of_end {p : Char → Bool} (h : s.dropWhile p ≠ []) (t : List Char) :
    (s ++ t).takeWhile p = s.takeWhile p := by
  induction s with
  | nil => exact absurd rfl h
  | cons b s ih =>
    by_cases hb : p b
    · rw [List.dropWhile_cons_of_pos hb] at h
      rw [List.cons_append, List.takeWhile_cons_of_pos hb, List.takeWhile_cons_of_pos hb, ih h]
    · simp [hb]

theorem dropWhile_append_of_end {p : Char → Bool} (h : s.dropWhile p ≠ []) (t : List Char) :
    (s ++ t).dropWhile p = s.dropWhile p ++ t := by
  rw [List.dropWhile_append, if_neg (by simpa using h)]

/-- Blanks stay blanks with one more behind them. -/
theorem dropWhile_isBlank_concat (hc : isBlank c = true) (h : s.dropWhile isBlank = []) :
    (s ++ [c]).dropWhile isBlank = [] := by
  rw [List.dropWhile_append, if_pos (by simp [h])]
  simp [hc]

/-! ### Trimming -/

theorem trim_concat (hc : isBlank c = true) (s : List Char) : trim (s ++ [c]) = trim s := by
  by_cases hs : s.dropWhile isBlank = []
  · rw [trim, trim, trimStart, trimStart, hs, dropWhile_isBlank_concat hc hs]
  · rw [trim, trim, trimStart, trimStart, dropWhile_append_of_end hs, trimEnd, trimEnd,
      List.reverse_append, List.reverse_singleton, List.singleton_append,
      List.dropWhile_cons_of_pos hc]

theorem Returned.trim_eq (h : Returned piece line) : trim piece = trim line := by
  rcases h with rfl | rfl
  · rfl
  · exact trim_concat (by decide) line

/-- A text that neither begins nor ends with a blank is its own trimmed form. -/
theorem trim_eq_self (hhead : ∀ c, s.head? = some c → isBlank c = false)
    (hlast : ∀ c, s.getLast? = some c → isBlank c = false) : trim s = s := by
  have hstart : trimStart s = s := dropWhile_run (s := []) (by simp) hhead
  have hend : s.reverse.dropWhile isBlank = s.reverse :=
    dropWhile_run (s := []) (by simp) (by simpa using hlast)
  rw [trim, hstart, trimEnd, hend, List.reverse_reverse]

end SuiteForge.Text
