import Mathlib
import SuiteForge.Number.Binary64

/-!
# The order of binary64 numbers

Numbers are compared by their ranks. A greater rank stands for a greater value, so the comparison is
that of the values, with the infinities at the ends; what is not a number compares with nothing.
-/

namespace SuiteForge.Binary64

variable {a b : Nat} {s t : Bool} {x y : Binary64}

/-! ### Ranks -/

theorem significandOf_add (rank : Nat) :
    significandOf rank + exponentOf rank * 2 ^ 52 = rank := by
  have hpow : Nat.pow 2 52 = 2 ^ 52 := rfl
  unfold significandOf exponentOf
  rw [hpow]
  omega

theorem significandOf_lt (rank : Nat) : significandOf rank < 2 ^ 53 := by
  have hpow : Nat.pow 2 52 = 2 ^ 52 := rfl
  unfold significandOf exponentOf
  rw [hpow]
  omega

/-- Only the numbers with the least exponent may have a smaller significand. -/
theorem le_significandOf {rank : Nat} (h : exponentOf rank ≠ 0) : 2 ^ 52 ≤ significandOf rank := by
  have hpow : Nat.pow 2 52 = 2 ^ 52 := rfl
  unfold significandOf
  unfold exponentOf at h ⊢
  rw [hpow] at h ⊢
  omega

theorem exponentOf_mono (h : a ≤ b) : exponentOf a ≤ exponentOf b :=
  Nat.sub_le_sub_right (Nat.div_le_div_right h) 1

theorem unitsOf_lt (h : a < b) : unitsOf a < unitsOf b := by
  have ha := significandOf_add a
  have hb := significandOf_add b
  rcases Nat.lt_or_eq_of_le (exponentOf_mono (Nat.le_of_lt h)) with hless | hsame
  · -- the greatest significand is less than twice the least one
    calc
      unitsOf a < 2 ^ 53 * 2 ^ exponentOf a :=
        Nat.mul_lt_mul_of_pos_right (significandOf_lt a) (Nat.two_pow_pos _)
      _ = 2 ^ 52 * 2 ^ (exponentOf a + 1) := by rw [Nat.pow_succ]; omega
      _ ≤ 2 ^ 52 * 2 ^ exponentOf b :=
        Nat.mul_le_mul_left _ (Nat.pow_le_pow_right (by decide) hless)
      _ ≤ unitsOf b := Nat.mul_le_mul_right _ (le_significandOf (by omega))
  · have hsignificand : significandOf a < significandOf b := by
      rw [hsame] at ha
      omega
    unfold unitsOf
    rw [hsame]
    exact Nat.mul_lt_mul_of_pos_right hsignificand (Nat.two_pow_pos _)

theorem unitsOf_lt_iff : unitsOf a < unitsOf b ↔ a < b := by
  constructor
  · intro h
    by_contra hle
    rcases Nat.lt_or_eq_of_le (Nat.not_lt.mp hle) with hless | rfl
    · exact Nat.lt_asymm h (unitsOf_lt hless)
    · exact Nat.lt_irrefl _ h
  · exact unitsOf_lt

theorem unitsOf_zero : unitsOf 0 = 0 := by
  decide

theorem signedUnits_lt_iff : signedUnits s a < signedUnits t b ↔
    (if s then -(a : Int) else a) < if t then -(b : Int) else b := by
  have hzero (rank : Nat) : 0 < unitsOf rank ↔ 0 < rank := by
    have hlt := unitsOf_lt_iff (a := 0) (b := rank)
    rwa [unitsOf_zero] at hlt
  have hab := unitsOf_lt_iff (a := a) (b := b)
  have hba := unitsOf_lt_iff (a := b) (b := a)
  have ha := hzero a
  have hb := hzero b
  unfold signedUnits
  cases s <;> cases t <;> simp only [Bool.false_eq_true, if_false, if_true] <;> omega

/-! ### Values -/

/-- The value of a number in units of `2 ^ -1074`, of which all finite values are multiples. -/
def value? : Binary64 → Option (WithBot (WithTop Int))
  | .nan => none
  | .infinite negative => some (if negative then ⊥ else ((⊤ : WithTop Int) : WithBot (WithTop Int)))
  | .finite negative rank _ => some ((signedUnits negative rank : WithTop Int))

def Exceeds (x limit : Binary64) : Prop :=
  ∃ a b, limit.value? = some a ∧ x.value? = some b ∧ a < b

/-- The comparison of numbers is that of their values. -/
theorem less_iff : x.less y = true ↔ Exceeds y x := by
  have htop (n : Int) : ((n : WithTop Int) : WithBot (WithTop Int)) < ⊤ :=
    WithBot.coe_lt_coe.mpr (WithTop.coe_lt_top n)
  unfold less Exceeds
  cases x with
  | nan => simp [place?, value?]
  | infinite s =>
    cases y with
    | nan => simp [place?, value?]
    | infinite t => cases s <;> cases t <;> simp [place?, value?, rankLimit]
    | finite t b hb => cases s <;> cases t <;> simp [place?, value?] <;> omega
  | finite s a ha =>
    cases y with
    | nan => simp [place?, value?]
    | infinite t => cases s <;> cases t <;> simp [place?, value?, htop] <;> omega
    | finite t b hb => simp [place?, value?, WithBot.coe_lt_coe, signedUnits_lt_iff]

def AtLeast (x limit : Binary64) : Prop :=
  ∃ a b, limit.value? = some a ∧ x.value? = some b ∧ a ≤ b

theorem signedUnits_le_iff : signedUnits s a ≤ signedUnits t b ↔
    (if s then -(a : Int) else a) ≤ if t then -(b : Int) else b := by
  rw [← not_lt, signedUnits_lt_iff, not_lt]

/-- The comparison that lets equal numbers pass is that of their values as well. -/
theorem atMost_iff : x.atMost y = true ↔ AtLeast y x := by
  have htop (n : Int) : ¬ ⊤ ≤ ((n : WithTop Int) : WithBot (WithTop Int)) :=
    not_le.mpr (WithBot.coe_lt_coe.mpr (WithTop.coe_lt_top n))
  unfold atMost AtLeast
  cases x with
  | nan => simp [place?, value?]
  | infinite s =>
    cases y with
    | nan => simp [place?, value?]
    | infinite t => cases s <;> cases t <;> simp [place?, value?, rankLimit]
    | finite t b hb => cases s <;> cases t <;> simp [place?, value?, htop] <;> omega
  | finite s a ha =>
    cases y with
    | nan => simp [place?, value?]
    | infinite t => cases s <;> cases t <;> simp [place?, value?] <;> omega
    | finite t b hb => simp [place?, value?, WithBot.coe_le_coe, signedUnits_le_iff]

end SuiteForge.Binary64
