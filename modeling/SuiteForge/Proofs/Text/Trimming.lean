import Mathlib.Data.List.DropRight
import SuiteForge.Proofs.Text.Lines

/-!
# Trimming

Trimming takes the white space off both ends of a text and nothing else, so every text is its
trimmed form with white space around it, and what is trimmed is all that counts of such a text.
-/

namespace SuiteForge.Text

variable {c : Char} {s front back : List Char}

/-- Neither the first character of a text nor the last one is white space. -/
structure Trimmed (s : List Char) : Prop where
  head : ∀ c, s.head? = some c → isBlank c = false
  last : ∀ c, s.getLast? = some c → isBlank c = false

theorem Trimmed.trim_eq (h : Trimmed s) : trim s = s := trim_eq_self h.head h.last

theorem trimmed_of_unblank (h : ∀ c ∈ s, isBlank c = false) : Trimmed s where
  head c hc := h c (List.mem_of_mem_head? hc)
  last c hc := h c (List.mem_of_getLast? hc)

/-! ### White space at the ends -/

theorem trim_of_blank (h : ∀ c ∈ s, isBlank c = true) : trim s = [] := by
  have hstart : trimStart s = [] := List.dropWhile_eq_nil_iff.mpr h
  rw [trim, hstart]
  rfl

theorem trim_blank_append (hfront : ∀ c ∈ front, isBlank c = true) (s : List Char) :
    trim (front ++ s) = trim s := by
  rw [trim, trim, trimStart, List.dropWhile_append_of_pos hfront, trimStart]

theorem trim_append_blank (hback : ∀ c ∈ back, isBlank c = true) (s : List Char) :
    trim (s ++ back) = trim s := by
  induction back generalizing s with
  | nil => rw [List.append_nil]
  | cons c back ih =>
    obtain ⟨hc, hback⟩ := List.forall_mem_cons.mp hback
    calc
      trim (s ++ c :: back) = trim ((s ++ [c]) ++ back) := by simp
      _ = trim (s ++ [c]) := ih hback (s ++ [c])
      _ = trim s := trim_concat hc s

theorem trim_around (hfront : ∀ c ∈ front, isBlank c = true)
    (hback : ∀ c ∈ back, isBlank c = true) (s : List Char) :
    trim (front ++ (s ++ back)) = trim s := by
  rw [trim_blank_append hfront, trim_append_blank hback]

/-! ### Trimmed forms -/

/-- A text is its trimmed form with white space around it. -/
theorem exists_around_trim (s : List Char) :
    ∃ front back, (∀ c ∈ front, isBlank c = true) ∧ (∀ c ∈ back, isBlank c = true) ∧
      s = front ++ (trim s ++ back) := by
  refine ⟨s.takeWhile isBlank, (trimStart s).rtakeWhile isBlank, ?_, ?_, ?_⟩
  · exact List.all_eq_true.mp List.all_takeWhile
  · intro c hc
    exact List.mem_rtakeWhile_imp hc
  · have hend : trim s ++ (trimStart s).rtakeWhile isBlank = trimStart s :=
      List.rdropWhile_append_rtakeWhile
    rw [hend]
    exact List.takeWhile_append_dropWhile.symm

theorem trimmed_trim (s : List Char) : Trimmed (trim s) := by
  constructor
  · intro c hc
    -- what is left of the text begins as it did when only its front was trimmed
    obtain ⟨back, hback⟩ : trim s <+: trimStart s := List.rdropWhile_prefix isBlank (trimStart s)
    have hhead : (s.dropWhile isBlank).head? = some c := by
      change (trimStart s).head? = some c
      rw [← hback, List.head?_append, hc, Option.some_or]
    have hnot := List.head?_dropWhile_not isBlank s
    rw [hhead] at hnot
    simpa using hnot
  · intro c hc
    have hne : trim s ≠ [] := by
      rintro hnil
      rw [hnil] at hc
      cases hc
    obtain rfl : (trim s).getLast hne = c := by
      rw [List.getLast?_eq_some_getLast hne] at hc
      exact Option.some.inj hc
    rw [← Bool.not_eq_true]
    exact List.rdropWhile_last_not isBlank (trimStart s) hne

theorem trim_eq_iff : trim s = s ↔ Trimmed s := by
  constructor
  · intro h
    rw [← h]
    exact trimmed_trim s
  · intro h
    exact h.trim_eq

theorem mem_of_mem_trim (h : c ∈ trim s) : c ∈ s := by
  obtain ⟨front, back, -, -, hs⟩ := exists_around_trim s
  rw [hs]
  simp [h]

end SuiteForge.Text
