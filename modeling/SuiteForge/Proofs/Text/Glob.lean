import SuiteForge.Text.Glob

/-!
# Words in wildcard patterns

A pattern that is a word with a wildcard before or behind it fits the texts that end or begin with
the word.
-/

namespace SuiteForge.Text.Glob

variable {w s t : List Char} {ts : List GlobToken}

theorem mem_suffixes_iff : t ∈ suffixes s ↔ t <:+ s := by
  induction s with
  | nil => simp [suffixes]
  | cons c cs ih => rw [suffixes, List.mem_cons, List.suffix_cons_iff, ih]

theorem fits_word_append :
    fits (w.map .char ++ ts) s = true ↔ ∃ rest, s = w ++ rest ∧ fits ts rest = true := by
  induction w generalizing s with
  | nil => simp
  | cons a w ih =>
    cases s with
    | nil => simp [fits]
    | cons c cs =>
      have haccepts : accepts (.char a) c = true ↔ c = a := decide_eq_true_iff
      rw [List.map_cons, List.cons_append, fits, Bool.and_eq_true, haccepts, ih]
      · constructor
        · rintro ⟨rfl, rest, rfl, hrest⟩
          exact ⟨rest, rfl, hrest⟩
        · rintro ⟨rest, heq, hrest⟩
          obtain ⟨rfl, rfl⟩ := List.cons.inj heq
          exact ⟨rfl, rest, rfl, hrest⟩
      · rintro ⟨⟩
      · rintro ⟨⟩

theorem fits_word : fits (w.map .char) s = true ↔ s = w := by
  have happend : fits (w.map .char ++ []) s = true ↔ ∃ rest, s = w ++ rest ∧ fits [] rest = true :=
    fits_word_append
  simpa [fits] using happend

theorem fits_anyRun : fits (.anyRun :: ts) s = true ↔ ∃ t, t <:+ s ∧ fits ts t = true := by
  simp [fits, mem_suffixes_iff]

/-- A wildcard before a word fits what ends with the word. -/
theorem fits_anyRun_word : fits (.anyRun :: w.map .char) s = true ↔ w <:+ s := by
  rw [fits_anyRun]
  constructor
  · rintro ⟨t, hsuffix, hfits⟩
    exact fits_word.mp hfits ▸ hsuffix
  · intro hsuffix
    exact ⟨w, hsuffix, fits_word.mpr rfl⟩

/-- A wildcard behind a word fits what begins with the word. -/
theorem fits_word_anyRun : fits (w.map .char ++ [.anyRun]) s = true ↔ w <+: s := by
  rw [fits_word_append]
  constructor
  · rintro ⟨rest, rfl, -⟩
    exact List.prefix_append w rest
  · rintro ⟨rest, rfl⟩
    exact ⟨rest, rfl, fits_anyRun.mpr ⟨[], List.nil_suffix, rfl⟩⟩

end SuiteForge.Text.Glob
