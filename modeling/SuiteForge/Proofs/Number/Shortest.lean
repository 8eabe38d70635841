import SuiteForge.Number.Shortest
import SuiteForge.Proofs.Number.Numeral
import SuiteForge.Proofs.Number.Order

/-!
# The shortest text is read back

The digits that are chosen for a number stand for a decimal that is nearest to it, also when a search
for few digits finds none, and zeros at their end may be moved into the exponent. However the digits
are laid out, what is read from them is the number.
-/

namespace SuiteForge

open Text

namespace Binary64

variable {num den m rank : Nat} {d : Digits} {t : Tie}

/-! ### Fractions -/

theorem roundQuotient_scale (hm : 0 < m) :
    roundQuotient (num * m) (den * m) = roundQuotient num den := by
  have hdouble : 2 * (num % den * m) = 2 * (num % den) * m := (Nat.mul_assoc _ _ _).symm
  have hbelow : 2 * (num % den) * m < den * m ↔ 2 * (num % den) < den := Nat.mul_lt_mul_right hm
  have habove : den * m < 2 * (num % den) * m ↔ den < 2 * (num % den) := Nat.mul_lt_mul_right hm
  simp only [roundQuotient, Nat.mul_div_mul_right _ _ hm, Nat.mul_mod_mul_right, hdouble, hbelow,
    habove]

theorem nearestRank_scale (hm : 0 < m) : nearestRank (num * m) (den * m) = nearestRank num den := by
  simp only [nearestRank, Nat.mul_div_mul_right _ _ hm, Nat.mul_right_comm den m,
    roundQuotient_scale hm]

theorem roundQuotient_mul (hden : 0 < den) : roundQuotient (m * den) den = m := by
  simp [roundQuotient, Nat.mul_div_cancel m hden, hden]

theorem log2_unitsOf (rank : Nat) : (unitsOf rank).log2 - 52 = exponentOf rank := by
  have hunits : unitsOf rank = significandOf rank * 2 ^ exponentOf rank := rfl
  have hlt := significandOf_lt rank
  by_cases he : exponentOf rank = 0
  · rw [he, Nat.pow_zero, Nat.mul_one] at hunits
    rw [he, hunits]
    by_cases hzero : significandOf rank = 0
    · rw [hzero]
      rfl
    · have hlog := (Nat.log2_lt hzero).mpr hlt
      omega
  · have hle := le_significandOf he
    have hne : unitsOf rank ≠ 0 := by
      rw [hunits]
      exact Nat.mul_ne_zero (by omega) (Nat.two_pow_pos _).ne'
    have hlog : (unitsOf rank).log2 = 52 + exponentOf rank := by
      rw [Nat.log2_eq_iff hne, hunits, Nat.pow_add, Nat.add_right_comm, Nat.pow_add]
      exact ⟨Nat.mul_le_mul_right _ hle, Nat.mul_lt_mul_of_pos_right hlt (Nat.two_pow_pos _)⟩
    rw [hlog, Nat.add_sub_cancel_left]

/-- The number nearest to the value of a rank is the number of that rank. -/
theorem nearestRank_unitsOf (rank : Nat) (hm : 0 < m) : nearestRank (unitsOf rank * m) m = rank := by
  have hsum := significandOf_add rank
  have hround : roundQuotient (unitsOf rank * m) (m * 2 ^ exponentOf rank) = significandOf rank := by
    have hunits : unitsOf rank * m = significandOf rank * (m * 2 ^ exponentOf rank) := by
      rw [unitsOf, Nat.mul_assoc, Nat.mul_comm m]
      rfl
    rw [hunits, roundQuotient_mul (Nat.mul_pos hm (Nat.two_pow_pos _))]
  have hrank : nearestRank (unitsOf rank * m) m = ((unitsOf rank * m / m).log2 - 52) * 2 ^ 52 +
      roundQuotient (unitsOf rank * m) (m * 2 ^ ((unitsOf rank * m / m).log2 - 52)) := rfl
  rw [hrank, Nat.mul_div_cancel _ hm, log2_unitsOf, hround, Nat.add_comm, hsum]

/-! ### Decimals -/

/-- The rank nearest to the value of a decimal. -/
def Digits.nearest (d : Digits) : Nat :=
  nearestRank (d.digits * 10 ^ d.exponent.toNat * unitsPerOne) (10 ^ (-d.exponent).toNat)

theorem ofScaled_digits (negative : Bool) (d : Digits) :
    ofScaled negative d.digits d.exponent = ofRank negative d.nearest := by
  rw [ofScaled_eq, ofRatio, Digits.nearest]

theorem ofScaled_zero (negative : Bool) (exponent : Int) :
    ofScaled negative 0 exponent = ofRank negative 0 := by
  simp [ofScaled]

/-- Zeros at the end of the digits may be moved into the exponent. -/
theorem nearest_shift (digits j : Nat) (exponent : Int) :
    Digits.nearest ⟨digits * 10 ^ j, exponent - j⟩ = Digits.nearest ⟨digits, exponent⟩ := by
  have hpow (k : Nat) : 0 < 10 ^ k := Nat.pow_pos (by decide)
  obtain ⟨a, b, c, d, ha, hb, hc, hd, hsum⟩ : ∃ a b c d, (exponent - j).toNat = a ∧
      (-(exponent - j)).toNat = b ∧ exponent.toNat = c ∧ (-exponent).toNat = d ∧
        j + a + d = c + b := ⟨_, _, _, _, rfl, rfl, rfl, rfl, by omega⟩
  have hnum : digits * 10 ^ j * 10 ^ a * 10 ^ d = digits * 10 ^ c * 10 ^ b := by
    rw [Nat.mul_assoc, Nat.mul_assoc, Nat.mul_assoc, ← Nat.pow_add, ← Nat.pow_add, ← Nat.pow_add,
      ← Nat.add_assoc, hsum]
  simp only [Digits.nearest, ha, hb, hc, hd]
  -- both fractions are brought to one denominator
  calc
    nearestRank (digits * 10 ^ j * 10 ^ a * unitsPerOne) (10 ^ b) =
        nearestRank (digits * 10 ^ j * 10 ^ a * unitsPerOne * 10 ^ d) (10 ^ b * 10 ^ d) :=
      (nearestRank_scale (hpow d)).symm
    _ = nearestRank (digits * 10 ^ c * unitsPerOne * 10 ^ b) (10 ^ d * 10 ^ b) := by
      rw [Nat.mul_right_comm, hnum, Nat.mul_right_comm, Nat.mul_comm (10 ^ b)]
    _ = nearestRank (digits * 10 ^ c * unitsPerOne) (10 ^ d) := nearestRank_scale (hpow b)

theorem ofScaled_shift (negative : Bool) (digits j : Nat) (exponent : Int) :
    ofScaled negative (digits * 10 ^ j) (exponent - j) = ofScaled negative digits exponent := by
  have hshift := ofScaled_digits negative ⟨digits * 10 ^ j, exponent - j⟩
  rw [nearest_shift] at hshift
  exact hshift.trans (ofScaled_digits negative ⟨digits, exponent⟩).symm

theorem nearest_of_readsBack (h : readsBack rank d = true) : d.nearest = rank := by
  rw [readsBack, ofScaled_digits, ofRank] at h
  split at h
  · rename_i heq
    split at heq
    · cases heq
      exact of_decide_eq_true h
    · cases heq
  · cases h

/-! ### The digits that are chosen -/

theorem nearest_of_atExponent? {exponent : Int} (h : atExponent? t rank exponent = some d) :
    d.nearest = rank := by
  unfold atExponent? at h
  dsimp only at h
  split at h
  · rename_i hbelow habove
    cases h
    split
    · exact nearest_of_readsBack hbelow
    · exact nearest_of_readsBack habove
  · rename_i hbelow _
    cases h
    exact nearest_of_readsBack hbelow
  · rename_i _ habove
    cases h
    exact nearest_of_readsBack habove
  · cases h

theorem nearest_of_search {count : Nat} {exponent : Int}
    (h : search t rank count exponent = some d) : d.nearest = rank := by
  induction count generalizing exponent with
  | zero => cases h
  | succ count ih =>
    unfold search at h
    split at h
    · rename_i hfound
      cases h
      exact nearest_of_atExponent? hfound
    · exact ih h

/-- Zeros that are moved into the exponent make no difference. -/
theorem nearest_strip (fuel : Nat) (d : Digits) : (d.strip fuel).nearest = d.nearest := by
  induction fuel generalizing d with
  | zero => rfl
  | succ fuel ih =>
    unfold Digits.strip
    split
    · rename_i hzero
      have hdigits : d.digits / 10 * 10 ^ 1 = d.digits := by omega
      have hexponent : d.exponent + 1 - (1 : Nat) = d.exponent := by omega
      have hshift := nearest_shift (d.digits / 10) 1 (d.exponent + 1)
      rw [hdigits, hexponent] at hshift
      rw [ih, ← hshift]
    · rfl

/-- The power is kept as a variable, so that no tactic tries to evaluate it. -/
theorem exactDigits_eq : ∃ e : Nat, unitsPerOne = 2 ^ e ∧
    ∀ rank, exactDigits rank = ⟨unitsOf rank * 5 ^ e, -(e : Int)⟩ := by
  unfold unitsPerOne exactDigits
  have hexponent : (-1074 : Int) = -((1074 : Nat) : Int) := rfl
  rw [hexponent]
  generalize (1074 : Nat) = e
  exact ⟨e, rfl, fun _ => rfl⟩

theorem nearest_exactDigits (rank : Nat) : (exactDigits rank).nearest = rank := by
  obtain ⟨e, hunits, hexact⟩ := exactDigits_eq
  have hnone : (-(e : Int)).toNat = 0 := by omega
  have hnum : unitsOf rank * 5 ^ e * 10 ^ 0 * 2 ^ e = unitsOf rank * 10 ^ e := by
    rw [Nat.pow_zero, Nat.mul_one, Nat.mul_assoc, ← Nat.mul_pow]
  rw [hexact, Digits.nearest, hnone, hunits, hnum, Int.neg_neg, Int.toNat_natCast,
    nearestRank_unitsOf rank (Nat.pow_pos (by decide))]

/-- The chosen digits stand for the number. -/
theorem nearest_shortest (t : Tie) (rank : Nat) : (shortest t rank).nearest = rank := by
  unfold shortest
  split
  · rename_i hzero
    rw [hzero, Digits.nearest, Nat.zero_mul, Nat.zero_mul]
    exact nearestRank_eq_zero (by decide)
  · split
    · rename_i hfound
      rw [nearest_strip]
      exact nearest_of_search hfound
    · exact nearest_exactDigits rank

/-! ### Rows of digits -/

theorem digitsValue_eq (start : Nat) (s : List Char) :
    Decimal.digitsValue start s = Nat.ofDigitChars 10 s start := by
  induction s generalizing start with
  | nil => rfl
  | cons c s ih =>
    calc
      Decimal.digitsValue start (c :: s) =
          Decimal.digitsValue (start * 10 + (c.toNat - '0'.toNat)) s := rfl
      _ = Nat.ofDigitChars 10 s (10 * start + (c.toNat - '0'.toNat)) := by rw [ih, Nat.mul_comm]
      _ = Nat.ofDigitChars 10 (c :: s) start := Nat.ofDigitChars_cons.symm

theorem digitsValue_toDigits (n : Nat) : Decimal.digitsValue 0 (Nat.toDigits 10 n) = n := by
  rw [digitsValue_eq, Nat.ofDigitChars_ten_toDigits]

theorem digitsValue_zeros_append (k : Nat) (s : List Char) :
    Decimal.digitsValue 0 (List.replicate k '0' ++ s) = Decimal.digitsValue 0 s := by
  simp only [digitsValue_eq, Nat.ofDigitChars_append, Nat.ofDigitChars_replicate_zero, Nat.mul_zero]

theorem digitsValue_append_zeros (s : List Char) (k : Nat) :
    Decimal.digitsValue 0 (s ++ List.replicate k '0') = Decimal.digitsValue 0 s * 10 ^ k := by
  simp only [digitsValue_eq, Nat.ofDigitChars_append, Nat.ofDigitChars_replicate_zero, Nat.mul_comm]

theorem isDigit_of_mem_toDigits {c : Char} {n : Nat} (hc : c ∈ Nat.toDigits 10 n) :
    isDigit c = true := by
  have hdigit := Nat.isDigit_of_mem_toDigits (by decide) (by decide) hc
  rw [Char.isDigit, Bool.and_eq_true, decide_eq_true_eq, decide_eq_true_eq] at hdigit
  exact isDigit_iff.mpr hdigit

theorem isDigit_of_mem_zeros {c : Char} {k : Nat} (hc : c ∈ List.replicate k '0') :
    isDigit c = true := by
  rw [List.eq_of_mem_replicate hc]
  rfl

/-- No zero stands in front of what is written for a number, unless it is the whole of it. -/
theorem head?_toDigits {n : Nat} (hn : n ≠ 0) : (Nat.toDigits 10 n).head? ≠ some '0' := by
  induction n using Nat.strongRecOn with
  | ind n ih =>
    rw [Nat.toDigits_eq_if (by decide)]
    split
    · simpa [Nat.digitChar_eq_zero] using hn
    · have hsmaller := ih (n / 10) (by omega) (by omega)
      rwa [List.head?_append_of_ne_nil _ Nat.toDigits_ne_nil]

/-! ### Layouts -/

/-- A numeral with an exponent behind it, for the number that the digits stand for. -/
structure Spells (d : Digits) (n : Numeral isDigit) (exponent : List Char) : Prop where
  whole : n.whole = ['0'] ∨ n.whole.head? ≠ some '0'
  spelled : IsExponent exponent
  reads : ∃ e, exponent? exponent = some e ∧ ∀ negative,
    ofScaled negative (Decimal.digitsValue 0 (n.whole ++ n.fraction)) (e - n.fraction.length) =
      ofScaled negative d.digits d.exponent

theorem spells_of_value {n : Numeral isDigit} (hwhole : n.whole = ['0'] ∨ n.whole.head? ≠ some '0')
    (hvalue : Decimal.digitsValue 0 (n.whole ++ n.fraction) = d.digits)
    (hplaces : -(n.fraction.length : Int) = d.exponent) : Spells d n [] where
  whole := hwhole
  spelled := .absent
  reads := ⟨0, rfl, fun negative => by rw [hvalue, Int.zero_sub, hplaces]⟩

/-- The digits with a point among them or in front of them. -/
theorem exists_spells_positional (hdigits : d.digits ≠ 0) (hexponent : d.exponent < 0) :
    ∃ n, d.positional = n.text ∧ Spells d n [] := by
  have hhead := head?_toDigits hdigits
  have hvalue := digitsValue_toDigits d.digits
  have hall : ∀ c ∈ Nat.toDigits 10 d.digits, isDigit c = true := fun c => isDigit_of_mem_toDigits
  have hne : Nat.toDigits 10 d.digits ≠ [] := Nat.toDigits_ne_nil
  unfold Digits.positional
  dsimp only
  generalize Nat.toDigits 10 d.digits = ds at hhead hvalue hall hne ⊢
  rw [if_neg (by omega)]
  split
  · rename_i hplaces
    obtain ⟨k, hk⟩ : ∃ k, ds.length - d.exponent.natAbs = k + 1 :=
      Nat.exists_eq_add_one.mpr (by omega)
    have hfraction : ds.drop (ds.length - d.exponent.natAbs) ≠ [] := by
      rw [Ne, List.drop_eq_nil_iff]
      omega
    refine ⟨⟨ds.take (ds.length - d.exponent.natAbs), ds.drop (ds.length - d.exponent.natAbs), ?_,
      fun c hc => hall c (List.mem_of_mem_take hc), fun c hc => hall c (List.mem_of_mem_drop hc)⟩,
      ?_, spells_of_value (Or.inr ?_) ?_ ?_⟩
    · simp [hk, hne]
    · simp [Numeral.text, Numeral.decimals, hfraction]
    · simpa [List.head?_take, hk] using hhead
    · simpa using hvalue
    · rw [List.length_drop]
      omega
  · rename_i hplaces
    have hzeros := digitsValue_zeros_append (d.exponent.natAbs - ds.length + 1) ds
    refine ⟨⟨['0'], List.replicate (d.exponent.natAbs - ds.length) '0' ++ ds,
      List.cons_ne_nil _ _, List.forall_mem_singleton.mpr rfl, fun c hc => ?_⟩, ?_,
      spells_of_value (Or.inl rfl) (hzeros.trans hvalue) ?_⟩
    · rcases List.mem_append.mp hc with hc | hc
      · exact isDigit_of_mem_zeros hc
      · exact hall c hc
    · simp [Numeral.text, Numeral.decimals, hne]
    · simp
      omega

/-- Digits that stand for a whole number, with a decimal behind them. -/
theorem exists_spells_whole (hdigits : d.digits ≠ 0) (hexponent : 0 ≤ d.exponent) :
    ∃ n, d.positional ++ ".0".toList = n.text ∧ Spells d n [] := by
  have hpositional : d.positional =
      Nat.toDigits 10 d.digits ++ List.replicate d.exponent.toNat '0' := if_pos hexponent
  have hvalue := digitsValue_append_zeros (Nat.toDigits 10 d.digits) (d.exponent.toNat + 1)
  rw [digitsValue_toDigits, List.replicate_succ', ← List.append_assoc, ← hpositional] at hvalue
  have hne : d.positional ≠ [] := by simp [hpositional]
  have hall : ∀ c ∈ d.positional, isDigit c = true := by
    rw [hpositional]
    rintro c hc
    rcases List.mem_append.mp hc with hc | hc
    · exact isDigit_of_mem_toDigits hc
    · exact isDigit_of_mem_zeros hc
  have hhead : d.positional.head? ≠ some '0' := by
    rw [hpositional, List.head?_append_of_ne_nil _ Nat.toDigits_ne_nil]
    exact head?_toDigits hdigits
  have hplaces : (0 : Int) - ['0'].length = d.exponent - (d.exponent.toNat + 1 : Nat) := by
    rw [List.length_singleton]
    omega
  refine ⟨⟨d.positional, ['0'], hne, hall, List.forall_mem_singleton.mpr rfl⟩, ?_, Or.inr hhead,
    .absent, 0, rfl, fun negative => ?_⟩
  · simp [Numeral.text, Numeral.decimals]
  · rw [hplaces, hvalue, ofScaled_shift]

/-- An exponent with its sign. -/
def marked (e : Int) : List Char :=
  (if 0 ≤ e then "e+".toList else "e-".toList) ++ Nat.toDigits 10 e.natAbs

theorem isExponent_marked (e : Int) : IsExponent (marked e) := by
  have hds : ∀ c ∈ Nat.toDigits 10 e.natAbs, isDigit c = true := fun c => isDigit_of_mem_toDigits
  unfold marked
  split
  · exact .present (Or.inl rfl) (Or.inr (Or.inl rfl)) Nat.toDigits_ne_nil hds
  · exact .present (Or.inl rfl) (Or.inr (Or.inr rfl)) Nat.toDigits_ne_nil hds

theorem exponent?_marked (e : Int) : exponent? (marked e) = some e := by
  have hall : (Nat.toDigits 10 e.natAbs).all isDigit = true :=
    List.all_eq_true.mpr fun c => isDigit_of_mem_toDigits
  have hlower : lower 'e' = 'e' := rfl
  unfold marked
  split
  · rename_i hsign
    simp [exponent?, hlower, hall, digitsValue_toDigits, abs_of_nonneg hsign]
  · rename_i hsign
    simp [exponent?, hlower, hall, digitsValue_toDigits, abs_of_neg (Int.not_le.mp hsign)]

/-- One digit in front of the point, and the others behind it. -/
theorem exists_spells_scientific (hdigits : d.digits ≠ 0) {c : Char} {ds : List Char}
    (hds : Nat.toDigits 10 d.digits = c :: ds) :
    ∃ n : Numeral isDigit, n.whole = [c] ∧ n.fraction = ds ∧
      Spells d n (marked (d.exponent + ds.length)) := by
  have hall : ∀ b ∈ c :: ds, isDigit b = true := by
    rw [← hds]
    exact fun b => isDigit_of_mem_toDigits
  have hhead := head?_toDigits hdigits
  have hvalue := digitsValue_toDigits d.digits
  rw [hds] at hhead hvalue
  obtain ⟨hc, hrest⟩ := List.forall_mem_cons.mp hall
  refine ⟨⟨[c], ds, List.cons_ne_nil _ _, List.forall_mem_singleton.mpr hc, hrest⟩, rfl, rfl,
    Or.inr hhead, isExponent_marked _, _, exponent?_marked _, fun negative => ?_⟩
  rw [List.singleton_append, hvalue, Int.add_sub_cancel]

theorem exists_spells_zero (hdigits : d.digits = 0) : ∃ n, "0.0".toList = n.text ∧ Spells d n [] := by
  have hzero : ∀ c ∈ ['0'], isDigit c = true := List.forall_mem_singleton.mpr rfl
  have hvalue : Decimal.digitsValue 0 (['0'] ++ ['0']) = 0 := rfl
  refine ⟨⟨['0'], ['0'], List.cons_ne_nil _ _, hzero, hzero⟩, rfl, Or.inl rfl, .absent, 0, rfl,
    fun negative => ?_⟩
  rw [hvalue, hdigits, ofScaled_zero, ofScaled_zero]

/-- Whichever layout is chosen, it spells the number that the digits stand for. -/
theorem exists_spells_compact (d : Digits) :
    ∃ n exponent, d.compact = n.text ++ exponent ∧ Spells d n exponent := by
  have hpositional {s : List Char} (h : ∃ n, s = n.text ∧ Spells d n []) :
      ∃ n exponent, s = n.text ++ exponent ∧ Spells d n exponent := by
    obtain ⟨n, htext, hspells⟩ := h
    exact ⟨n, [], by rw [htext, List.append_nil], hspells⟩
  unfold Digits.compact
  dsimp only
  split
  · rename_i hdigits
    exact hpositional (exists_spells_zero hdigits)
  · rename_i hdigits
    split
    · split
      · rename_i hwhole
        exact hpositional (exists_spells_whole hdigits hwhole)
      · rename_i hpoint
        exact hpositional (exists_spells_positional hdigits (Int.not_le.mp hpoint))
    · obtain ⟨c, ds, hds⟩ :=
        List.exists_cons_of_ne_nil (Nat.toDigits_ne_nil (n := d.digits) (b := 10))
      obtain ⟨n, hwhole, hfraction, hspells⟩ := exists_spells_scientific hdigits hds
      have hleading : d.exponent + (c :: ds).length - 1 = d.exponent + ds.length := by
        rw [List.length_cons]
        omega
      refine ⟨n, _, ?_, hspells⟩
      rw [hds, hleading, List.append_assoc, Numeral.text, Numeral.decimals, hwhole, hfraction]
      cases ds with
      | nil => rfl
      | cons b ds => rfl

/-! ### Reading -/

theorem ofText?_signed (negative : Bool) (n : Numeral isDigit) (s : List Char) :
    ofText? (signText negative ++ (n.text ++ s)) = ofUnsigned? negative (n.text ++ s) := by
  obtain ⟨c, cs, htext, hc⟩ := n.exists_cons_text
  rw [htext]
  cases negative with
  | false => exact ofText?_of_digit (isDecimalDigit_of_isDigit hc) _
  | true => exact ofText?_minus (isDecimalDigit_of_isDigit hc) _

/-- The compact text of a finite number is read as that number, the sign of zero included. -/
theorem ofText?_of_compact? {x : Binary64} {s : List Char} (h : x.compact? = some s) :
    ofText? s = some x := by
  cases x with
  | nan => cases h
  | infinite negative => cases h
  | finite negative rank lt =>
    cases h
    obtain ⟨n, exponent, htext, hspells⟩ := exists_spells_compact (shortest .even rank)
    obtain ⟨e, he, hvalue⟩ := hspells.reads
    have hbehind : ∀ c, exponent.head? = some c → isDigit c = false ∧ c ≠ '.' := by
      simpa using hspells.spelled.head?_append (t := []) (by simp)
    rw [htext, ofText?_signed, n.ofUnsigned?_append negative hbehind, he, Option.map_some, hvalue,
      ofScaled_digits, nearest_shortest, ofRank, dif_pos lt]

end Binary64

end SuiteForge
