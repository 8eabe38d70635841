import SuiteForge.Naming
import SuiteForge.Proofs.Text.Scanning

/-!
# The characters of derived names

Names that are derived from identifiers have nothing but identifier characters in them, apart from
the delimiter that is put between words.
-/

namespace SuiteForge

variable {s w x : List Char} {c d : Char} {P : Char → Prop}

/-! ### Case -/

namespace Text

theorem toNat_lt_of_isWordChar (h : isWordChar c = true) : c.toNat < 0x80 := by
  rw [isWordChar_iff] at h
  omega

/-- What holds of each ASCII character can be decided. -/
theorem of_ascii {P : Char → Prop} (h : ∀ n < 0x80, P (Char.ofNat n)) (hc : c.toNat < 0x80) :
    P c := by
  have hchar := h c.toNat hc
  rwa [Char.ofNat_toNat] at hchar

theorem isWordChar_upper (h : isWordChar c = true) : isWordChar (upper c) = true :=
  of_ascii (P := fun c => isWordChar c = true → isWordChar (upper c) = true) (by decide)
    (toNat_lt_of_isWordChar h) h

theorem isWordChar_lower (h : isWordChar c = true) : isWordChar (lower c) = true :=
  of_ascii (P := fun c => isWordChar c = true → isWordChar (lower c) = true) (by decide)
    (toNat_lt_of_isWordChar h) h

theorem forall_upperFirst (hupper : ∀ c, P c → P (upper c)) (hs : ∀ c ∈ s, P c) :
    ∀ c ∈ upperFirst s, P c := by
  cases s with
  | nil => exact hs
  | cons b s =>
    intro c hc
    rcases List.mem_cons.mp hc with rfl | hc
    · exact hupper b (hs b List.mem_cons_self)
    · exact hs c (List.mem_cons_of_mem b hc)

theorem lower_upper (h : isWordChar c = true) : lower (upper c) = lower c :=
  of_ascii (P := fun c => lower (upper c) = lower c) (by decide) (toNat_lt_of_isWordChar h)

theorem lower_lower (h : isWordChar c = true) : lower (lower c) = lower c :=
  of_ascii (P := fun c => lower (lower c) = lower c) (by decide) (toNat_lt_of_isWordChar h)

/-- ASCII characters are lower-cased one by one. -/
theorem lowercase_of_ascii (hs : ∀ c ∈ s, c.toNat < 0x80) : lowercase s = s.map lower := by
  suffices hafter : ∀ before, Lowercase.after before s = s.map lower from hafter []
  induction s with
  | nil => exact fun before => rfl
  | cons b s ih =>
    intro before
    have hb := hs b List.mem_cons_self
    have hsigma : b ≠ 'Σ' := by
      rintro rfl
      exact absurd hb (by decide)
    simp only [Lowercase.after, if_neg hsigma, Lowercase.ofChar, if_pos hb, List.map_cons,
      List.cons_append, List.nil_append]
    exact congrArg (lower b :: ·) (ih (fun c hc => hs c (List.mem_cons_of_mem b hc)) (b :: before))

theorem forall_lowercase (hascii : ∀ c, P c → c.toNat < 0x80) (hlower : ∀ c, P c → P (lower c))
    (hs : ∀ c ∈ s, P c) : ∀ c ∈ lowercase s, P c := by
  rw [lowercase_of_ascii fun c hc => hascii c (hs c hc)]
  intro c hc
  obtain ⟨b, hb, rfl⟩ := List.mem_map.mp hc
  exact hlower b (hs b hb)

/-! ### Pieces -/

theorem mem_of_mem_words (hw : w ∈ words s) (hc : c ∈ w) : c ∈ s := by
  fun_induction words s generalizing w with
  | case1 => cases hw
  | case2 b rest hb ih => exact List.mem_cons_of_mem b (ih hw hc)
  | case3 b hb =>
    obtain rfl := List.mem_singleton.mp hw
    exact hc
  | case4 b d rest hb hd ih =>
    rcases List.mem_cons.mp hw with rfl | hw
    · exact List.mem_cons.mpr (Or.inl (List.mem_singleton.mp hc))
    · exact List.mem_cons_of_mem b (ih hw hc)
  | case5 b hb d rest hd hnil ih =>
    rw [hnil] at hw
    obtain rfl := List.mem_singleton.mp hw
    exact List.mem_cons.mpr (Or.inl (List.mem_singleton.mp hc))
  | case6 b hb d rest hd w₀ ws hcons ih =>
    rw [hcons] at hw ih
    rcases List.mem_cons.mp hw with rfl | hw
    · rcases List.mem_cons.mp hc with rfl | hc
      · exact List.mem_cons_self
      · exact List.mem_cons_of_mem b (ih List.mem_cons_self hc)
    · exact List.mem_cons_of_mem b (ih (List.mem_cons_of_mem w₀ hw) hc)

/-- Without blanks there is one word. -/
theorem words_of_unblank (hne : s ≠ []) (hs : ∀ c ∈ s, isBlank c = false) : words s = [s] := by
  induction s with
  | nil => exact absurd rfl hne
  | cons c s ih =>
    have hc := hs c List.mem_cons_self
    cases s with
    | nil => simp [words, hc]
    | cons d s =>
      have hd := hs d (List.mem_cons_of_mem c List.mem_cons_self)
      have hrest := ih (by simp) fun b hb => hs b (List.mem_cons_of_mem c hb)
      rw [words, hrest]
      simp [hc, hd]

/-- Erasing words leaves the other characters in their order. -/
theorem replaceFrom_sublist (w : List Char) (skip : Nat) (s : List Char) :
    (replaceFrom (word w []) skip s).Sublist s := by
  induction s generalizing skip with
  | nil => simp [replaceFrom]
  | cons c s ih =>
    cases skip with
    | succ skip => exact (ih skip).cons c
    | zero =>
      unfold replaceFrom
      split
      · rename_i new rest hmatch
        obtain ⟨rfl, -⟩ := word_eq_some.mp hmatch
        exact (ih _).cons c
      · exact (ih 0).cons_cons c

theorem eraseAll_sublist (w s : List Char) : (eraseAll w s).Sublist s := replaceFrom_sublist w 0 s

theorem eraseFirst_append (w s : List Char) : eraseFirst w (w ++ s) = s :=
  replaceFirst_of_match (word_eq_some.mpr ⟨rfl, rfl⟩)

theorem eraseFirst_sublist (w s : List Char) : (eraseFirst w s).Sublist s := by
  by_cases hfront : w <+: s
  · obtain ⟨t, rfl⟩ := hfront
    rw [eraseFirst_append]
    exact List.sublist_append_right w t
  · have hnone : word w [] s = none := by
      rw [word, Option.map_eq_none_iff, ← Option.not_isSome_iff_eq_none, after?_isSome_iff]
      exact hfront
    rw [eraseFirst]
    cases s with
    | nil => simp [replaceFirst, hnone]
    | cons c s =>
      rw [replaceFirst, hnone]
      exact (eraseFirst_sublist w s).cons_cons c

theorem eraseLast_sublist (w s : List Char) : (eraseLast w s).Sublist s := by
  rw [eraseLast, ← List.reverse_sublist, List.reverse_reverse]
  exact eraseFirst_sublist w.reverse s.reverse

theorem eraseLast_append (w s : List Char) : eraseLast w (s ++ w) = s := by
  rw [eraseLast, List.reverse_append, eraseFirst_append, List.reverse_reverse]

end Text

/-! ### Derived names -/

namespace Naming

open Text

theorem forall_delimitCapitals (hd : P d) (hs : ∀ c ∈ s, P c) : ∀ c ∈ delimitCapitals d s, P c := by
  induction s with
  | nil => exact hs
  | cons b s ih =>
    have hb := hs b List.mem_cons_self
    have hrest := ih fun c hc => hs c (List.mem_cons_of_mem b hc)
    unfold delimitCapitals
    split
    · intro c hc
      rcases List.mem_cons.mp hc with rfl | hc
      · exact hd
      · rcases List.mem_cons.mp hc with rfl | hc
        · exact hb
        · exact hrest c hc
    · intro c hc
      rcases List.mem_cons.mp hc with rfl | hc
      · exact hb
      · exact hrest c hc

theorem forall_delimited (hascii : ∀ c, P c → c.toNat < 0x80) (hupper : ∀ c, P c → P (upper c))
    (hlower : ∀ c, P c → P (lower c)) (hd : P d) (hs : ∀ c ∈ s, P c) :
    ∀ c ∈ delimited d s, P c := by
  have hjoined : ∀ c ∈ (words s).flatMap upperFirst, P c := by
    intro c hc
    obtain ⟨w, hw, hc⟩ := List.mem_flatMap.mp hc
    exact forall_upperFirst hupper (fun c hc => hs c (mem_of_mem_words hw hc)) c hc
  unfold delimited
  split
  · simp
  · rename_i b cs heq
    rw [heq] at hjoined
    refine forall_lowercase hascii hlower fun c hc => ?_
    rcases List.mem_cons.mp hc with rfl | hc
    · exact hjoined c List.mem_cons_self
    · exact forall_delimitCapitals hd (fun c hc => hjoined c (List.mem_cons_of_mem b hc)) c hc

/-- An identifier is delimited by a delimiter before every capital but the first, all in lower
case. -/
theorem delimited_cons (hd : d.toNat < 0x80) (hs : ∀ b ∈ c :: s, isWordChar b = true) :
    delimited d (c :: s) = (c :: delimitCapitals d s).map lower := by
  have hwords : words (c :: s) = [c :: s] :=
    words_of_unblank (by simp) fun b hb => isBlank_of_isWordChar (hs b hb)
  obtain ⟨hc, hs⟩ := List.forall_mem_cons.mp hs
  have hascii : ∀ b ∈ upper c :: delimitCapitals d s, b.toNat < 0x80 := by
    refine List.forall_mem_cons.mpr ⟨toNat_lt_of_isWordChar (isWordChar_upper hc), ?_⟩
    exact forall_delimitCapitals (P := fun b => b.toNat < 0x80) hd fun b hb =>
      toNat_lt_of_isWordChar (hs b hb)
  have hdelimited : delimited d (c :: s) = lowercase (upper c :: delimitCapitals d s) := by
    simp [delimited, hwords, upperFirst]
  rw [hdelimited, lowercase_of_ascii hascii, List.map_cons, List.map_cons, lower_upper hc]

theorem snakeCase_toList {m : String} (hchars : m.toList = c :: s)
    (hm : ∀ b ∈ m.toList, isWordChar b = true) :
    (snakeCase m).toList = (c :: delimitCapitals '_' s).map lower := by
  rw [hchars] at hm
  rw [snakeCase, String.toList_ofList, hchars, delimited_cons (by decide) hm]

theorem snakeCase_chars {m : String} (hm : ∀ c ∈ m.toList, isWordChar c = true) :
    ∀ c ∈ (snakeCase m).toList, isWordChar c = true := by
  rw [snakeCase, String.toList_ofList]
  exact forall_delimited (fun _ => toNat_lt_of_isWordChar) (fun _ => isWordChar_upper)
    (fun _ => isWordChar_lower) (by decide) hm

/-- What is left of an identifier without its case and its underscores. -/
def stem (s : List Char) : List Char := (s.map lower).filter (· ≠ '_')

theorem stem_cons (c : Char) (s : List Char) :
    stem (c :: s) = if lower c = '_' then stem s else lower c :: stem s := by
  by_cases hc : lower c = '_' <;> simp [stem, hc]

theorem stem_of_plain (hs : ∀ c ∈ s, isWordChar c = true) (hplain : '_' ∉ s) :
    stem s = s.map lower := by
  rw [stem, List.filter_eq_self]
  intro b hb
  obtain ⟨c, hc, rfl⟩ := List.mem_map.mp hb
  have hlower : lower c = '_' → c = '_' :=
    of_ascii (P := fun c => lower c = '_' → c = '_') (by decide) (toNat_lt_of_isWordChar (hs c hc))
  exact decide_eq_true fun heq => hplain (hlower heq ▸ hc)

theorem stem_append (s x : List Char) : stem (s ++ x) = stem s ++ stem x := by
  simp [stem]

theorem stem_delimitCapitals (s : List Char) : stem (delimitCapitals '_' s) = stem s := by
  have hunderscore : lower '_' = '_' := by decide
  induction s with
  | nil => rfl
  | cons c s ih =>
    unfold delimitCapitals
    split
    · rw [stem_cons, if_pos hunderscore, stem_cons, ih, ← stem_cons]
    · rw [stem_cons, ih, ← stem_cons]

theorem stem_map_lower (hs : ∀ c ∈ s, isWordChar c = true) : stem (s.map lower) = stem s := by
  rw [stem, stem, List.map_map]
  exact congrArg _ (List.map_congr_left fun c hc => lower_lower (hs c hc))

/-- Names that have the same form with underscores differ in case and underscores only. -/
theorem stem_snakeCase {m : String} (hm : ∀ c ∈ m.toList, isWordChar c = true) :
    stem (snakeCase m).toList = stem m.toList := by
  cases hchars : m.toList with
  | nil =>
    rw [snakeCase, hchars]
    rfl
  | cons c s =>
    rw [snakeCase_toList hchars hm]
    rw [hchars] at hm
    obtain ⟨hc, hs⟩ := List.forall_mem_cons.mp hm
    rw [stem_map_lower, stem_cons, stem_delimitCapitals, ← stem_cons]
    exact List.forall_mem_cons.mpr ⟨hc,
      forall_delimitCapitals (P := fun b => isWordChar b = true) (by decide) hs⟩

theorem kebabCase_chars {m : String} (hm : ∀ c ∈ m.toList, isWordChar c = true) :
    ∀ c ∈ (kebabCase m).toList, isWordChar c = true ∨ c = '-' := by
  rw [kebabCase, String.toList_ofList]
  refine forall_delimited ?_ ?_ ?_ (Or.inr rfl) fun c hc => Or.inl (hm c hc)
  · rintro c (hc | rfl)
    · exact toNat_lt_of_isWordChar hc
    · decide
  · rintro c (hc | rfl)
    · exact Or.inl (isWordChar_upper hc)
    · decide
  · rintro c (hc | rfl)
    · exact Or.inl (isWordChar_lower hc)
    · decide

theorem mem_of_mem_parts (hw : w ∈ parts s) (hc : c ∈ w) : c ∈ s := by
  fun_induction parts s generalizing w with
  | case1 =>
    obtain rfl := List.mem_singleton.mp hw
    exact hc
  | case2 b s hb ih =>
    rcases List.mem_cons.mp hw with rfl | hw
    · cases hc
    · exact List.mem_cons_of_mem b (ih hw hc)
  | case3 b s hb hnil ih =>
    obtain rfl := List.mem_singleton.mp hw
    exact List.mem_cons.mpr (Or.inl (List.mem_singleton.mp hc))
  | case4 b s hb p ps hcons ih =>
    rw [hcons] at ih
    rcases List.mem_cons.mp hw with rfl | hw
    · rcases List.mem_cons.mp hc with rfl | hc
      · exact List.mem_cons_self
      · exact List.mem_cons_of_mem b (ih List.mem_cons_self hc)
    · exact List.mem_cons_of_mem b (ih (List.mem_cons_of_mem p hw) hc)

theorem relatedModel_chars {m : String} (hm : ∀ c ∈ m.toList, isWordChar c = true) :
    ∀ c ∈ (relatedModel m).toList, isWordChar c = true := by
  intro c hc
  rw [relatedModel, String.toList_ofList, studly] at hc
  obtain ⟨w, hw, hc⟩ := List.mem_flatMap.mp hc
  have hchars : ∀ c ∈ w, isWordChar c = true := fun c hc => hm c
    (((eraseAll_sublist _ _).trans (eraseAll_sublist _ _)).subset (mem_of_mem_parts hw hc))
  exact forall_upperFirst (P := fun c => isWordChar c = true) (fun _ => isWordChar_upper) hchars
    c hc

theorem accessorAttribute_chars {m : String} (hm : ∀ c ∈ m.toList, isWordChar c = true) :
    ∀ c ∈ (accessorAttribute m).toList, isWordChar c = true := by
  refine snakeCase_chars fun c hc => hm c ?_
  rw [String.toList_ofList] at hc
  exact ((eraseLast_sublist _ _).trans (eraseFirst_sublist _ _)).subset hc

end Naming

end SuiteForge
