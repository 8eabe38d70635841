import SuiteForge.Proofs.Naming

/-!
# Texts in lower case

A text is settled when it has no white space and each of its characters is its own lower case.
Lower-casing settles every text without white space and leaves a settled one as it is. That rests on
the table of runs: no run leads to a character that has a lower case of its own, and none leads to
white space.
-/

namespace SuiteForge.Text

variable {b c : Char} {s : List Char}

/-- Only ASCII letters have a capital. -/
theorem ascii_or_upper_eq (c : Char) : c.toNat < 0x80 ∨ upper c = c := by
  by_cases hletter : isLowerLetter c = true
  · simp only [isLowerLetter, Bool.and_eq_true, decide_eq_true_eq] at hletter
    exact Or.inl (Nat.lt_of_le_of_lt hletter.2 (by decide))
  · exact Or.inr (by simp [upper, hletter])

/-- A character that is its own lower case, and no white space. -/
structure Settled (c : Char) : Prop where
  unblank : isBlank c = false
  small : lowercase [c] = [c]

instance : Decidable (Settled c) :=
  decidable_of_iff (isBlank c = false ∧ lowercase [c] = [c])
    ⟨fun h => ⟨h.1, h.2⟩, fun h => ⟨h.unblank, h.small⟩⟩

namespace Lowercase

/-! ### Runs -/

namespace CaseRun

variable {r q : CaseRun} {n : Nat}

/-- Where a run leads to from `n`. -/
def target (r : CaseRun) (n : Nat) : Nat := Int.toNat (n + r.shift)

/-- From nowhere does a run lead into another one. -/
def misses (r q : CaseRun) : Bool :=
  Nat.blt (r.target r.last) q.first || Nat.blt q.last (r.target r.first) ||
    -- where the two meet, every place is looked at
    (List.range' r.first (r.last - r.first + 1)).all fun n => !r.covers n || !q.covers (r.target n)

/-- A run leads to code points of characters only. -/
def isValid (r : CaseRun) : Bool :=
  Nat.blt (r.target r.last) 0xD800 ||
    Nat.blt 0xDFFF (r.target r.first) && Nat.blt (r.target r.last) 0x110000

theorem within_of_covers (h : r.covers n = true) : r.first ≤ n ∧ n ≤ r.last := by
  simp only [covers, Bool.and_eq_true, decide_eq_true_eq] at h
  exact h.1

theorem covers_of_within (hfirst : r.first ≤ n) (hlast : n ≤ r.last) (hstep : r.step = 1) :
    r.covers n = true := by
  simp [covers, hfirst, hlast, hstep, Nat.mod_one]

theorem target_mono {m : Nat} (h : m ≤ n) : r.target m ≤ r.target n := by
  unfold target
  omega

theorem not_covers_target (h : r.misses q = true) (hn : r.covers n = true) :
    ¬ q.covers (r.target n) = true := by
  intro hcovers
  obtain ⟨hfirst, hlast⟩ := within_of_covers hn
  have habove : r.target r.first ≤ r.target n := target_mono hfirst
  have hbelow : r.target n ≤ r.target r.last := target_mono hlast
  obtain ⟨hqfirst, hqlast⟩ := within_of_covers hcovers
  simp only [misses, Bool.or_eq_true, Nat.blt_eq] at h
  rcases h with (hbefore | hbehind) | hnone
  · omega
  · omega
  · have hmem : n ∈ List.range' r.first (r.last - r.first + 1) := by
      rw [List.mem_range'_1]
      omega
    have hhere := List.all_eq_true.mp hnone n hmem
    rw [hn, hcovers] at hhere
    cases hhere

theorem toNat_target (h : r.isValid = true) (hn : r.covers n = true) :
    (Char.ofNat (r.target n)).toNat = r.target n := by
  obtain ⟨hfirst, hlast⟩ := within_of_covers hn
  have habove : r.target r.first ≤ r.target n := target_mono hfirst
  have hbelow : r.target n ≤ r.target r.last := target_mono hlast
  have hvalid : (r.target n).isValidChar := by
    simp only [isValid, Bool.or_eq_true, Bool.and_eq_true, Nat.blt_eq] at h
    unfold Nat.isValidChar
    omega
  rw [Char.ofNat, dif_pos hvalid]
  rfl

end CaseRun

/-- The runs of white space. -/
def blankRuns : List CaseRun := [
  ⟨9, 13, 1, 0⟩, ⟨0x20, 0x20, 1, 0⟩, ⟨0x85, 0x85, 1, 0⟩, ⟨0xA0, 0xA0, 1, 0⟩,
  ⟨0x1680, 0x1680, 1, 0⟩, ⟨0x2000, 0x200A, 1, 0⟩, ⟨0x2028, 0x2029, 1, 0⟩, ⟨0x202F, 0x202F, 1, 0⟩,
  ⟨0x205F, 0x205F, 1, 0⟩, ⟨0x3000, 0x3000, 1, 0⟩]

/-- The runs of the characters that are not settled: the capitals that are lowered without the
table, white space, and what the table lowers. -/
def unsettledRuns : List CaseRun :=
  ⟨0x41, 0x5A, 1, 32⟩ :: ⟨0x130, 0x130, 1, 0⟩ :: (blankRuns ++ caseRuns)

theorem exists_blankRun (h : isBlank c = true) : ∃ r ∈ blankRuns, r.covers c.toNat = true := by
  have hwithin : ∃ r ∈ blankRuns, r.step = 1 ∧ r.first ≤ c.toNat ∧ c.toNat ≤ r.last := by
    simp only [isBlank, Bool.or_eq_true, Bool.and_eq_true, decide_eq_true_eq, beq_iff_eq] at h
    simp only [blankRuns, List.mem_cons, List.not_mem_nil, exists_eq_or_imp, exists_eq_left,
      or_false, true_and]
    omega
  obtain ⟨r, hr, hstep, hfirst, hlast⟩ := hwithin
  exact ⟨r, hr, CaseRun.covers_of_within hfirst hlast hstep⟩

theorem misses_unsettledRuns : (caseRuns.all fun r => unsettledRuns.all r.misses) = true := by
  decide +kernel

theorem isValid_caseRuns : caseRuns.all CaseRun.isValid = true := by decide +kernel

/-! ### Characters -/

theorem ofChar_of_ascii (h : c.toNat < 0x80) : ofChar c = [lower c] := by
  rw [ofChar, if_pos h]

theorem after_cons (h : c ≠ 'Σ') (before s : List Char) :
    after before (c :: s) = ofChar c ++ after (c :: before) s := by
  simp only [after, if_neg h]

theorem settled_of_ofChar (hblank : isBlank c = false) (h : ofChar c = [c]) : Settled c where
  unblank := hblank
  small := by
    have hsigma : c ≠ 'Σ' := by
      rintro rfl
      exact absurd h (by decide)
    rw [lowercase, after_cons hsigma, h]
    rfl

theorem settled_lower (hascii : c.toNat < 0x80) (hblank : isBlank c = false) :
    Settled (lower c) := by
  obtain ⟨hlower, hunblank, htwice⟩ :
      (lower c).toNat < 0x80 ∧ isBlank (lower c) = false ∧ lower (lower c) = lower c :=
    of_ascii (P := fun c => isBlank c = false →
      (lower c).toNat < 0x80 ∧ isBlank (lower c) = false ∧ lower (lower c) = lower c)
      (by decide) hascii hblank
  apply settled_of_ofChar hunblank
  rw [ofChar_of_ascii hlower, htwice]

/-- What is in no run of unsettled characters is settled. -/
theorem settled_of_uncovered (h : ∀ r ∈ unsettledRuns, ¬ r.covers c.toNat = true) : Settled c := by
  have hblank : isBlank c = false := by
    rw [← Bool.not_eq_true]
    intro hblank
    obtain ⟨r, hr, hcovers⟩ := exists_blankRun hblank
    exact h r (by simp [unsettledRuns, hr]) hcovers
  have hcapital : isUpperLetter c = false := by
    rw [← Bool.not_eq_true]
    intro hcapital
    simp only [isUpperLetter, Bool.and_eq_true, decide_eq_true_eq] at hcapital
    exact h ⟨0x41, 0x5A, 1, 32⟩ (by simp [unsettledRuns])
      (CaseRun.covers_of_within hcapital.1 hcapital.2 rfl)
  have hdotted : c.toNat ≠ 0x130 := by
    intro hdotted
    exact h ⟨0x130, 0x130, 1, 0⟩ (by simp [unsettledRuns]) (by rw [hdotted]; rfl)
  have hruns : caseRuns.find? (·.covers c.toNat) = none := by
    rw [List.find?_eq_none]
    intro r hr
    exact h r (by simp [unsettledRuns, hr])
  apply settled_of_ofChar hblank
  simp [ofChar, lower, hcapital, hdotted, hruns]

theorem settled_target {r : CaseRun} (hr : r ∈ caseRuns) (hc : r.covers c.toNat = true) :
    Settled (Char.ofNat (r.target c.toNat)) := by
  apply settled_of_uncovered
  intro q hq
  have hmisses := List.all_eq_true.mp (List.all_eq_true.mp misses_unsettledRuns r hr) q hq
  rw [CaseRun.toNat_target (List.all_eq_true.mp isValid_caseRuns r hr) hc]
  exact CaseRun.not_covers_target hmisses hc

/-- The ways in which a character is lowered: as an ASCII one, as the capital with a dot, by a run
of the table, or not at all. -/
theorem ofChar_cases (c : Char) :
    c.toNat < 0x80 ∧ ofChar c = [lower c] ∨ ofChar c = ['i', '\u0307'] ∨
      (∃ r ∈ caseRuns, r.covers c.toNat = true ∧ ofChar c = [Char.ofNat (r.target c.toNat)]) ∨
      ofChar c = [c] := by
  by_cases hascii : c.toNat < 0x80
  · exact Or.inl ⟨hascii, ofChar_of_ascii hascii⟩
  · refine Or.inr ?_
    by_cases hdotted : c.toNat = 0x130
    · exact Or.inl (by simp [ofChar, hdotted])
    · refine Or.inr ?_
      cases hfind : caseRuns.find? (·.covers c.toNat) with
      | some r =>
        have hcovers : r.covers c.toNat = true := by simpa using List.find?_some hfind
        refine Or.inl ⟨r, List.mem_of_find?_eq_some hfind, hcovers, ?_⟩
        simp [ofChar, hascii, hdotted, hfind, CaseRun.target]
      | none => exact Or.inr (by simp [ofChar, hascii, hdotted, hfind])

/-- The lower case of a character is settled, unless the character is white space. -/
theorem settled_of_mem_ofChar (hblank : isBlank c = false) (hb : b ∈ ofChar c) : Settled b := by
  rcases ofChar_cases c with ⟨hascii, hletter⟩ | hdotted | ⟨r, hr, hcovers, hrun⟩ | hself
  · rw [hletter, List.mem_singleton] at hb
    rw [hb]
    exact settled_lower hascii hblank
  · rw [hdotted] at hb
    rcases List.mem_cons.mp hb with rfl | hb
    · decide
    · rw [List.mem_singleton.mp hb]
      decide
  · rw [hrun, List.mem_singleton] at hb
    rw [hb]
    exact settled_target hr hcovers
  · rw [hself, List.mem_singleton] at hb
    rw [hb]
    exact settled_of_ofChar hblank hself

end Lowercase

namespace Settled

theorem ne_sigma (h : Settled c) : c ≠ 'Σ' := by
  rintro rfl
  exact absurd h.small (by decide)

theorem ofChar_eq (h : Settled c) : Lowercase.ofChar c = [c] := by
  have hsmall := h.small
  rw [lowercase, Lowercase.after_cons h.ne_sigma] at hsmall
  rwa [Lowercase.after, List.append_nil] at hsmall

theorem not_capital (h : Settled c) : isUpperLetter c = false := by
  rw [← Bool.not_eq_true]
  intro hcapital
  have hascii : c.toNat < 0x80 := by
    simp only [isUpperLetter, Bool.and_eq_true, decide_eq_true_eq] at hcapital
    exact Nat.lt_of_le_of_lt hcapital.2 (by decide)
  have hlower : [lower c] = [c] := by rw [← Lowercase.ofChar_of_ascii hascii, h.ofChar_eq]
  have hchanged : lower c ≠ c :=
    of_ascii (P := fun c => isUpperLetter c = true → lower c ≠ c) (by decide) hascii hcapital
  exact hchanged (List.cons.inj hlower).1

end Settled

namespace Lowercase

/-! ### Texts -/

theorem settled_after (hs : ∀ c ∈ s, isBlank c = false) (before : List Char) :
    ∀ b ∈ after before s, Settled b := by
  induction s generalizing before with
  | nil => simp [after]
  | cons c s ih =>
    obtain ⟨hc, hs⟩ := List.forall_mem_cons.mp hs
    intro b hb
    by_cases hsigma : c = 'Σ'
    · -- both forms of a sigma are settled, so it does not matter where a word ends
      simp only [after, if_pos hsigma, List.singleton_append, List.mem_cons] at hb
      rcases hb with rfl | hb
      · split
        · decide
        · decide
      · exact ih hs (c :: before) b hb
    · rw [after_cons hsigma] at hb
      rcases List.mem_append.mp hb with hb | hb
      · exact settled_of_mem_ofChar hc hb
      · exact ih hs (c :: before) b hb

theorem after_of_settled (hs : ∀ c ∈ s, Settled c) (before : List Char) : after before s = s := by
  induction s generalizing before with
  | nil => rfl
  | cons c s ih =>
    obtain ⟨hc, hs⟩ := List.forall_mem_cons.mp hs
    rw [after_cons hc.ne_sigma, hc.ofChar_eq, ih hs, List.singleton_append]

/-- A capital in place of a settled character is lowered to it. -/
theorem after_upper (hc : Settled c) (before s : List Char) :
    after before (upper c :: s) = c :: after (upper c :: before) s := by
  rcases ascii_or_upper_eq c with hascii | hupper
  · have hlowered : upper c ≠ 'Σ' ∧ ofChar (upper c) = [c] :=
      of_ascii (P := fun c => isUpperLetter c = false → upper c ≠ 'Σ' ∧ ofChar (upper c) = [c])
        (by decide) hascii hc.not_capital
    rw [after_cons hlowered.1, hlowered.2, List.singleton_append]
  · rw [hupper, after_cons hc.ne_sigma, hc.ofChar_eq, List.singleton_append]

end Lowercase

theorem settled_lowercase (hs : ∀ c ∈ s, isBlank c = false) : ∀ b ∈ lowercase s, Settled b :=
  Lowercase.settled_after hs []

/-- A settled text is lowered to itself, and so it is with a capital in front. -/
theorem lowercase_upperFirst (hs : ∀ c ∈ s, Settled c) : lowercase (upperFirst s) = s := by
  cases s with
  | nil => rfl
  | cons c s =>
    obtain ⟨hc, hs⟩ := List.forall_mem_cons.mp hs
    rw [upperFirst, lowercase, Lowercase.after_upper hc, Lowercase.after_of_settled hs]

end SuiteForge.Text
