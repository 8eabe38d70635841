import Mathlib.Algebra.Group.Nat.Defs
import Mathlib.Tactic.SplitIfs
import SuiteForge.Number.Figure
import SuiteForge.Proofs.Text.Scanning

/-!
# Numerals

A numeral is a row of digits, perhaps with a point and more digits behind it. One in ASCII digits is
read as the number nearest to its value, however long it is; one with a digit of another script in
it is not read as a number.
-/

namespace SuiteForge

open Text

variable {c : Char}

/-! ### Digits -/

namespace Text

theorem isDigit_iff : isDigit c = true ↔ 48 ≤ c.toNat ∧ c.toNat ≤ 57 := by
  have hle (a b : Char) : a ≤ b ↔ a.toNat ≤ b.toNat := Iff.rfl
  simp only [isDigit, hle, Bool.and_eq_true, decide_eq_true_eq]
  rfl

theorem isBlank_of_isDigit (h : isDigit c = true) : isBlank c = false :=
  isBlank_of_isWordChar (by simp [isWordChar, h])

/-- A decimal digit that is not in ASCII lies in a block beyond it, and no block has white space. -/
theorem isDecimalDigit_cases (h : isDecimalDigit c = true) :
    isDigit c = true ∨ 0x660 ≤ c.toNat ∧ isBlank c = false := by
  rw [isDecimalDigit, Bool.or_eq_true, List.any_eq_true] at h
  rcases h with h | ⟨z, hz, hrange⟩
  · exact Or.inl h
  · have hblocks : ∀ z ∈ digitZeros, z = 0x30 ∨ 0x660 ≤ z ∧ (z + 9 < 0x1680 ∨
        0x1680 < z ∧ z + 9 < 0x2000 ∨ 0x3000 < z) := by decide
    simp only [Bool.and_eq_true, decide_eq_true_eq] at hrange
    rcases hblocks z hz with rfl | ⟨hz, hplace⟩
    · exact Or.inl (isDigit_iff.mpr (by omega))
    · refine Or.inr ⟨by omega, ?_⟩
      simp only [isBlank, Bool.or_eq_false_iff, Bool.and_eq_false_iff, decide_eq_false_iff_not,
        beq_eq_false_iff_ne]
      omega

theorem isBlank_of_isDecimalDigit (h : isDecimalDigit c = true) : isBlank c = false := by
  rcases isDecimalDigit_cases h with h | ⟨-, h⟩
  · exact isBlank_of_isDigit h
  · exact h

theorem isDecimalDigit_of_isBlank (h : isBlank c = true) : isDecimalDigit c = false := by
  rw [← Bool.not_eq_true]
  intro hdigit
  rw [isBlank_of_isDecimalDigit hdigit] at h
  cases h

theorem isDecimalDigit_of_isDigit (h : isDigit c = true) : isDecimalDigit c = true := by
  simp [isDecimalDigit, h]

theorem lower_of_isDecimalDigit (h : isDecimalDigit c = true) : lower c = c := by
  have hle (a b : Char) : a ≤ b ↔ a.toNat ≤ b.toNat := Iff.rfl
  have hA : 'A'.toNat = 65 := rfl
  have hZ : 'Z'.toNat = 90 := rfl
  have hupper : isUpperLetter c = false := by
    simp only [isUpperLetter, hle, hA, hZ, Bool.and_eq_false_iff, decide_eq_false_iff_not]
    rcases isDecimalDigit_cases h with h | ⟨h, -⟩
    · rw [isDigit_iff] at h
      omega
    · omega
  simp [lower, hupper]

end Text

/-! ### Rounding -/

namespace Binary64

variable {negative : Bool} {num den : Nat}

theorem le_roundQuotient (num den : Nat) : num / den ≤ roundQuotient num den := by
  unfold roundQuotient
  dsimp only
  split_ifs <;> omega

theorem roundQuotient_eq_zero (h : 2 * num < den) : roundQuotient num den = 0 := by
  have hquotient : num / den = 0 := Nat.div_eq_of_lt (by omega)
  have hremainder : num % den = num := Nat.mod_eq_of_lt (by omega)
  simp [roundQuotient, hquotient, hremainder, h]

theorem nearestRank_eq_zero (h : 2 * num < den) : nearestRank num den = 0 := by
  have hquotient : num / den = 0 := Nat.div_eq_of_lt (by omega)
  simp [nearestRank, hquotient, roundQuotient_eq_zero h]

/-- What is at least `2 ^ 1024`, in units of `2 ^ -1074`, is beyond the finite numbers. -/
theorem rankLimit_le_nearestRank {e : Nat} (he : 2098 ≤ e) (h : 2 ^ e ≤ num / den) :
    rankLimit ≤ nearestRank num den := by
  have hne : num / den ≠ 0 := Nat.pos_iff_ne_zero.mp (Nat.lt_of_lt_of_le (Nat.two_pow_pos e) h)
  have hlog : 2098 ≤ (num / den).log2 := Nat.le_trans he ((Nat.le_log2 hne).mpr h)
  have hleast : 2 ^ 52 ≤ num / (den * 2 ^ ((num / den).log2 - 52)) := by
    rw [← Nat.div_div_eq_div_mul, Nat.le_div_iff_mul_le (Nat.two_pow_pos _), ← Nat.pow_add]
    have hsum : 52 + ((num / den).log2 - 52) = (num / den).log2 := by omega
    rw [hsum]
    exact Nat.log2_self_le hne
  have hround := Nat.le_trans hleast
    (le_roundQuotient num (den * 2 ^ ((num / den).log2 - 52)))
  have hrank : nearestRank num den = ((num / den).log2 - 52) * 2 ^ 52 +
      roundQuotient num (den * 2 ^ ((num / den).log2 - 52)) := rfl
  have hlimit : rankLimit = 2047 * 2 ^ 52 := rfl
  have hscale : 2046 * 2 ^ 52 ≤ ((num / den).log2 - 52) * 2 ^ 52 :=
    Nat.mul_le_mul_right _ (by omega)
  rw [hrank, hlimit]
  omega

theorem ofRank_of_le {rank : Nat} (h : rankLimit ≤ rank) :
    ofRank negative rank = .infinite negative := by
  rw [ofRank, dif_neg (Nat.not_lt.mpr h)]

theorem two_pow_le_ten_pow {a b : Nat} (h : a ≤ 3 * b) : 2 ^ a ≤ 10 ^ b :=
  calc
    2 ^ a ≤ (2 ^ 3) ^ b := by
      rw [← Nat.pow_mul]
      exact Nat.pow_le_pow_right (by decide) h
    _ ≤ 10 ^ b := Nat.pow_le_pow_left (by decide) b

/-- The power is kept as a variable, so that no tactic tries to evaluate it. -/
theorem unitsPerOne_eq : ∃ e, e = 1074 ∧ unitsPerOne = 2 ^ e := by
  unfold unitsPerOne
  generalize (1074 : Nat) = e
  exact ⟨e, rfl, rfl⟩

/-- A quotient from `10 ^ 400` on is beyond the finite numbers. -/
theorem ofRatio_of_huge {m : Nat} (hm : 400 ≤ m) (hden : 0 < den) (h : 10 ^ m * den ≤ num) :
    ofRatio negative num den = .infinite negative := by
  obtain ⟨e, he, hunits⟩ := unitsPerOne_eq
  obtain ⟨b, hb, hbm⟩ : ∃ b, 1024 ≤ b ∧ b ≤ 3 * m := ⟨1024, Nat.le_refl 1024, by omega⟩
  refine ofRank_of_le (rankLimit_le_nearestRank (e := b + e) (by omega) ?_)
  rw [Nat.le_div_iff_mul_le hden, hunits]
  calc
    2 ^ (b + e) * den = 2 ^ b * den * 2 ^ e := by
      rw [Nat.mul_right_comm, ← Nat.pow_add]
    _ ≤ 10 ^ m * den * 2 ^ e :=
      Nat.mul_le_mul_right _ (Nat.mul_le_mul_right _ (two_pow_le_ten_pow hbm))
    _ ≤ num * 2 ^ e := Nat.mul_le_mul_right _ h

/-- A quotient below `10 ^ -400` is nearest to zero. -/
theorem ofRatio_of_tiny {m : Nat} (hm : 400 ≤ m) (h : num * 10 ^ m < den) :
    ofRatio negative num den = ofRank negative 0 := by
  obtain ⟨e, he, hunits⟩ := unitsPerOne_eq
  have hhalf : 2 * (num * unitsPerOne) < den :=
    calc
      2 * (num * unitsPerOne) = num * 2 ^ (e + 1) := by
        rw [hunits, Nat.mul_left_comm, ← Nat.pow_succ']
      _ ≤ num * 10 ^ m := Nat.mul_le_mul_left _ (two_pow_le_ten_pow (by omega))
      _ < den := h
  rw [ofRatio, nearestRank_eq_zero hhalf]

theorem pow_le_of_lt_length {digits k : Nat} (hdigits : digits ≠ 0)
    (hk : k < (Nat.toDigits 10 digits).length) : 10 ^ k ≤ digits := by
  by_cases hzero : k = 0
  · subst hzero
    exact Nat.pos_of_ne_zero hdigits
  · rw [← Nat.not_lt, ← Nat.length_toDigits_le_iff (by decide) (Nat.pos_of_ne_zero hzero)]
    omega

/-- What is read from digits with an exponent is the number nearest to their value, also where the
exponent is cut short. -/
theorem ofScaled_eq (negative : Bool) (digits : Nat) (exponent : Int) :
    ofScaled negative digits exponent =
      ofRatio negative (digits * 10 ^ exponent.toNat) (10 ^ (-exponent).toNat) := by
  have hpow (k : Nat) : 0 < 10 ^ k := Nat.pow_pos (by decide)
  unfold ofScaled
  dsimp only
  generalize hlength : (Nat.toDigits 10 digits).length = length
  have hpos : 0 < length := hlength ▸ Nat.length_toDigits_pos
  split_ifs with hzero hhuge htiny hwhole
  · subst hzero
    rw [ofRatio, Nat.zero_mul, Nat.zero_mul, nearestRank_eq_zero (hpow _)]
  · obtain ⟨m, hm, hsum⟩ : ∃ m, 400 ≤ m ∧ m + (-exponent).toNat = length - 1 + exponent.toNat :=
      ⟨(exponent + length - 1).toNat, by omega, by omega⟩
    rw [ofRatio_of_huge hm (hpow _)]
    rw [← Nat.pow_add, hsum, Nat.pow_add]
    exact Nat.mul_le_mul_right _ (pow_le_of_lt_length hzero (by omega))
  · obtain ⟨m, hm, hsum⟩ : ∃ m, 400 ≤ m ∧ length + m = (-exponent).toNat :=
      ⟨(-(exponent + length)).toNat, by omega, by omega⟩
    have hnone : exponent.toNat = 0 := by omega
    have hdigits : digits < 10 ^ length :=
      (Nat.length_toDigits_le_iff (by decide) hpos).mp (Nat.le_of_eq hlength)
    rw [ofRatio_of_tiny hm]
    rw [hnone, Nat.pow_zero, Nat.mul_one, ← hsum, Nat.pow_add]
    exact Nat.mul_lt_mul_of_pos_right hdigits (hpow _)
  · have hnone : (-exponent).toNat = 0 := by omega
    rw [hnone]
    rfl
  · have hnone : exponent.toNat = 0 := by omega
    have habs : exponent.natAbs = (-exponent).toNat := by omega
    rw [hnone, Nat.pow_zero, Nat.mul_one, habs]
    rfl

/-- What is read from a row of digits with `k` decimals is the number nearest to its value. -/
theorem ofScaled_neg (negative : Bool) (digits k : Nat) :
    ofScaled negative digits (-(k : Int)) = ofRatio negative digits (10 ^ k) := by
  have hnone : (-(k : Int)).toNat = 0 := by omega
  rw [ofScaled_eq, hnone, Nat.pow_zero, Nat.mul_one, Int.neg_neg, Int.toNat_natCast]

end Binary64

/-! ### Numerals -/

/-- Digits of some class, perhaps with a point and more digits behind them. -/
structure Numeral (digit : Char → Bool) where
  whole : List Char
  fraction : List Char
  nonempty : whole ≠ []
  whole_digits : ∀ c ∈ whole, digit c = true
  fraction_digits : ∀ c ∈ fraction, digit c = true

namespace Numeral

variable {digit : Char → Bool}

/-- The point and the digits behind it, if there are any. -/
def decimals (n : Numeral digit) : List Char :=
  if n.fraction = [] then [] else '.' :: n.fraction

def text (n : Numeral digit) : List Char := n.whole ++ n.decimals

/-- The number nearest to what the digits say. -/
def value (n : Numeral isDigit) : Binary64 :=
  .ofRatio false (Decimal.digitsValue 0 (n.whole ++ n.fraction)) (10 ^ n.fraction.length)

/-- The numeral as one in ASCII digits, if that is what it is. -/
def ascii? (n : Numeral digit) : Option (Numeral isDigit) :=
  if h : n.whole.all isDigit = true ∧ n.fraction.all isDigit = true then
    some ⟨n.whole, n.fraction, n.nonempty, List.all_eq_true.mp h.1, List.all_eq_true.mp h.2⟩
  else none

/-- A numeral in ASCII digits as one of any script. -/
def anyScript (n : Numeral isDigit) : Numeral isDecimalDigit where
  whole := n.whole
  fraction := n.fraction
  nonempty := n.nonempty
  whole_digits c hc := isDecimalDigit_of_isDigit (n.whole_digits c hc)
  fraction_digits c hc := isDecimalDigit_of_isDigit (n.fraction_digits c hc)

theorem text_anyScript (n : Numeral isDigit) : n.anyScript.text = n.text := rfl

theorem ascii?_anyScript (n : Numeral isDigit) : n.anyScript.ascii? = some n :=
  dif_pos ⟨List.all_eq_true.mpr n.whole_digits, List.all_eq_true.mpr n.fraction_digits⟩

theorem text_of_ascii? {n : Numeral digit} {m : Numeral isDigit} (h : n.ascii? = some m) :
    n.text = m.text := by
  unfold ascii? at h
  split at h
  · cases h
    rfl
  · cases h

theorem exists_cons_text (n : Numeral digit) :
    ∃ c cs, n.text = c :: cs ∧ digit c = true := by
  obtain ⟨c, cs, hwhole⟩ := List.exists_cons_of_ne_nil n.nonempty
  exact ⟨c, cs ++ n.decimals, by rw [text, hwhole, List.cons_append],
    n.whole_digits c (hwhole ▸ List.mem_cons_self)⟩

/-- A numeral is made of digits and points. -/
theorem mem_text {n : Numeral digit} (hc : c ∈ n.text) : digit c = true ∨ c = '.' := by
  rcases List.mem_append.mp hc with hc | hc
  · exact Or.inl (n.whole_digits c hc)
  · unfold decimals at hc
    split at hc
    · cases hc
    · rcases List.mem_cons.mp hc with rfl | hc
      · exact Or.inr rfl
      · exact Or.inl (n.fraction_digits c hc)

theorem notMem_text {n : Numeral digit} (hdigit : digit c = false) (hpoint : c ≠ '.') :
    c ∉ n.text := by
  intro hc
  rcases mem_text hc with hdigit' | hpoint'
  · rw [hdigit'] at hdigit
    cases hdigit
  · exact hpoint hpoint'

end Numeral

/-- What may stand behind the digits of a number. -/
inductive IsExponent : List Char → Prop where
  | absent : IsExponent []
  | present {mark : Char} {sign ds : List Char} (hmark : mark = 'e' ∨ mark = 'E')
      (hsign : sign = [] ∨ sign = ['+'] ∨ sign = ['-']) (hne : ds ≠ [])
      (hds : ∀ c ∈ ds, isDigit c = true) : IsExponent (mark :: (sign ++ ds))

theorem IsExponent.head?_append {exponent t : List Char} (h : IsExponent exponent)
    (ht : ∀ c, t.head? = some c → isDigit c = false ∧ c ≠ '.') :
    ∀ c, (exponent ++ t).head? = some c → isDigit c = false ∧ c ≠ '.' := by
  cases h with
  | absent => exact ht
  | present hmark =>
    rintro c ⟨rfl⟩
    rcases hmark with rfl | rfl
    · decide
    · decide

/-! ### Reading -/

namespace Binary64

theorem not_name_of_digit (hc : isDecimalDigit c = true) (cs : List Char) {name : String}
    (hname : name.toList.head?.any isDecimalDigit = false) :
    String.ofList ((c :: cs).map lower) ≠ name := by
  intro heq
  rw [← heq] at hname
  simp [lower_of_isDecimalDigit hc, hc] at hname

theorem ofText?_of_digit (hc : isDecimalDigit c = true) (cs : List Char) :
    ofText? (c :: cs) = ofUnsigned? false (c :: cs) := by
  unfold ofText?
  split
  rename_i negative body heq
  split at heq
  · rename_i hminus
    cases hminus
    exact absurd hc (by decide)
  · rename_i hplus
    cases hplus
    exact absurd hc (by decide)
  · cases heq
    split
    · rename_i hinf
      exact absurd hinf (not_name_of_digit hc cs (by decide))
    · rename_i hinfinity
      exact absurd hinfinity (not_name_of_digit hc cs (by decide))
    · rename_i hnan
      exact absurd hnan (not_name_of_digit hc cs (by decide))
    · rfl

theorem ofText?_minus (hc : isDecimalDigit c = true) (cs : List Char) :
    ofText? ('-' :: c :: cs) = ofUnsigned? true (c :: cs) := by
  unfold ofText?
  dsimp only
  split
  · rename_i hinf
    exact absurd hinf (not_name_of_digit hc cs (by decide))
  · rename_i hinfinity
    exact absurd hinfinity (not_name_of_digit hc cs (by decide))
  · rename_i hnan
    exact absurd hnan (not_name_of_digit hc cs (by decide))
  · rfl

theorem exponent?_of_digit (hc : isDecimalDigit c = true) (cs : List Char) :
    exponent? (c :: cs) = none := by
  have hne : c ≠ 'e' := by
    rintro rfl
    exact absurd hc (by decide)
  unfold exponent?
  dsimp only
  rw [lower_of_isDecimalDigit hc, if_neg hne]

variable {s whole fraction rest more : List Char}

theorem ofUnsigned?_of_point (hwhole : Decimal.digitRun s = (whole, '.' :: more))
    (hfraction : Decimal.digitRun more = (fraction, rest)) (hne : whole ≠ []) (negative : Bool) :
    ofUnsigned? negative s = (exponent? rest).map fun e =>
      ofScaled negative (Decimal.digitsValue 0 (whole ++ fraction)) (e - fraction.length) := by
  simp [ofUnsigned?, hwhole, hfraction, hne]

theorem ofUnsigned?_of_no_point (hwhole : Decimal.digitRun s = (whole, rest))
    (hpoint : rest.head? ≠ some '.') (negative : Bool) :
    ofUnsigned? negative s = if whole = [] then none else (exponent? rest).map fun e =>
      ofScaled negative (Decimal.digitsValue 0 whole) e := by
  unfold ofUnsigned?
  rw [hwhole]
  dsimp only
  split
  · simp at hpoint
  · simp

end Binary64

namespace Numeral

variable {ds t : List Char}

theorem digitRun_of_digits (hds : ∀ c ∈ ds, isDigit c = true)
    (ht : ∀ c, t.head? = some c → isDigit c = false) : Decimal.digitRun (ds ++ t) = (ds, t) := by
  rw [Decimal.digitRun, takeWhile_run hds ht, dropWhile_run hds ht]

/-- Digits that are not all in ASCII are read up to the first that is not. -/
theorem digitRun_of_other (hds : ∀ c ∈ ds, isDecimalDigit c = true)
    (hother : ¬ ∀ c ∈ ds, isDigit c = true) (t : List Char) :
    ∃ front c back, isDecimalDigit c = true ∧ Decimal.digitRun (ds ++ t) = (front, c :: back) := by
  induction ds with
  | nil => simp at hother
  | cons d ds ih =>
    obtain ⟨hd, hds⟩ := List.forall_mem_cons.mp hds
    by_cases hascii : isDigit d = true
    · have hother' : ¬ ∀ c ∈ ds, isDigit c = true := by simpa [hascii] using hother
      obtain ⟨front, c, back, hc, hrun⟩ := ih hds hother'
      rw [Decimal.digitRun, Prod.mk.injEq] at hrun
      refine ⟨d :: front, c, back, hc, ?_⟩
      rw [Decimal.digitRun, List.cons_append, List.takeWhile_cons_of_pos hascii,
        List.dropWhile_cons_of_pos hascii, hrun.1, hrun.2]
    · refine ⟨[], d, ds ++ t, hd, ?_⟩
      rw [Decimal.digitRun, List.cons_append, List.takeWhile_cons_of_neg hascii,
        List.dropWhile_cons_of_neg hascii]

/-- Digits are read up to an exponent behind them. -/
theorem ofUnsigned?_append (n : Numeral isDigit) (negative : Bool)
    (ht : ∀ c, t.head? = some c → isDigit c = false ∧ c ≠ '.') :
    Binary64.ofUnsigned? negative (n.text ++ t) = (Binary64.exponent? t).map fun e =>
      Binary64.ofScaled negative (Decimal.digitsValue 0 (n.whole ++ n.fraction))
        (e - n.fraction.length) := by
  by_cases hpoint : n.fraction = []
  · have hwhole : Decimal.digitRun (n.text ++ t) = (n.whole, t) := by
      rw [text, decimals, if_pos hpoint, List.append_nil]
      exact digitRun_of_digits n.whole_digits fun c hc => (ht c hc).1
    rw [Binary64.ofUnsigned?_of_no_point hwhole fun hc => (ht _ hc).2 rfl, if_neg n.nonempty]
    simp [hpoint]
  · have hwhole : Decimal.digitRun (n.text ++ t) = (n.whole, '.' :: (n.fraction ++ t)) := by
      rw [text, decimals, if_neg hpoint, List.append_assoc]
      refine digitRun_of_digits n.whole_digits ?_
      rintro c ⟨rfl⟩
      rfl
    have hfraction : Decimal.digitRun (n.fraction ++ t) = (n.fraction, t) :=
      digitRun_of_digits n.fraction_digits fun c hc => (ht c hc).1
    exact Binary64.ofUnsigned?_of_point hwhole hfraction n.nonempty negative

theorem ofUnsigned?_ascii (n : Numeral isDigit) :
    Binary64.ofUnsigned? false n.text = some n.value := by
  have hread := ofUnsigned?_append n false (t := []) (by simp)
  rw [List.append_nil] at hread
  rw [hread, Binary64.exponent?, Option.map_some, Int.zero_sub, Binary64.ofScaled_neg, value]

theorem ofUnsigned?_other {n : Numeral isDecimalDigit} (h : n.ascii? = none) :
    Binary64.ofUnsigned? false n.text = none := by
  by_cases hascii : ∀ c ∈ n.whole, isDigit c = true
  · have hother : ¬ ∀ c ∈ n.fraction, isDigit c = true := by
      intro hfraction
      rw [ascii?, dif_pos ⟨List.all_eq_true.mpr hascii, List.all_eq_true.mpr hfraction⟩] at h
      cases h
    have hpoint : n.fraction ≠ [] := by
      intro heq
      simp [heq] at hother
    have hwhole : Decimal.digitRun n.text = (n.whole, '.' :: n.fraction) := by
      rw [text, decimals, if_neg hpoint]
      exact digitRun_of_digits hascii (by simp; decide)
    obtain ⟨front, c, back, hc, hfraction⟩ := digitRun_of_other n.fraction_digits hother []
    rw [List.append_nil] at hfraction
    rw [Binary64.ofUnsigned?_of_point hwhole hfraction n.nonempty, Binary64.exponent?_of_digit hc,
      Option.map_none]
  · obtain ⟨front, c, back, hc, hwhole⟩ := digitRun_of_other n.whole_digits hascii n.decimals
    have hpoint : (c :: back).head? ≠ some '.' := by
      rintro ⟨rfl⟩
      exact absurd hc (by decide)
    rw [text, Binary64.ofUnsigned?_of_no_point hwhole hpoint, Binary64.exponent?_of_digit hc,
      Option.map_none, ite_self]

/-- A numeral is read as the number nearest to its value if it is in ASCII, and not at all if it is
not. -/
theorem ofText?_text (n : Numeral isDecimalDigit) :
    Binary64.ofText? n.text = n.ascii?.map value := by
  obtain ⟨c, cs, htext, hc⟩ := n.exists_cons_text
  have hunsigned : Binary64.ofText? n.text = Binary64.ofUnsigned? false n.text := by
    rw [htext, Binary64.ofText?_of_digit hc]
  rw [hunsigned]
  cases hascii : n.ascii? with
  | none => exact ofUnsigned?_other hascii
  | some m => rw [text_of_ascii? hascii, ofUnsigned?_ascii m, Option.map_some]

end Numeral

end SuiteForge
