import SuiteForge.Benchmark.Basic
import SuiteForge.Coverage.Basic
import SuiteForge.Proofs.Number.Figure

/-!
# The figure that a text is read by

A unit counts where a digit stands right in front of it, and the first one that counts decides. What
is read is the longest numeral that ends there, so in `1.2.3%` it is `2.3`. If that numeral is not
in ASCII nothing is read, whatever stands behind it.
-/

namespace SuiteForge

open Text

/-! ### Numbers that are not below zero -/

namespace Binary64

/-- A number, and not one below zero. -/
structure NonNegative (x : Binary64) : Prop where
  number : x.isNaN = false
  least : x.less .zero = false

theorem nonNegative_zero : NonNegative .zero := ⟨rfl, rfl⟩

theorem nonNegative_infinite : NonNegative (.infinite false) := ⟨rfl, rfl⟩

theorem nonNegative_ofRank (rank : Nat) : NonNegative (ofRank false rank) := by
  unfold ofRank
  split
  · exact ⟨rfl, by simp [less, place?, zero]⟩
  · exact nonNegative_infinite

theorem nonNegative_scale_ofRank (rank n : Nat) : NonNegative ((ofRank false rank).scale n) := by
  unfold ofRank
  split
  · exact nonNegative_ofRank _
  · exact nonNegative_infinite

end Binary64

/-! ### Digits in a numeral -/

namespace Text

theorem isDigit_of_isDecimalDigit {c : Char} (h : isDecimalDigit c = true) (hc : c.toNat < 128) :
    isDigit c = true := by
  rcases isDecimalDigit_cases h with hdigit | ⟨hbeyond, -⟩
  · exact hdigit
  · omega

end Text

namespace Numeral

variable {digit : Char → Bool} {c : Char}

/-- A numeral ends with a digit. -/
theorem getLast?_text (n : Numeral digit) : ∃ c, n.text.getLast? = some c ∧ digit c = true := by
  by_cases hpoint : n.fraction = []
  · refine ⟨n.whole.getLast n.nonempty, ?_, n.whole_digits _ (List.getLast_mem _)⟩
    rw [text, decimals, if_pos hpoint, List.append_nil, List.getLast?_eq_some_getLast n.nonempty]
  · refine ⟨n.fraction.getLast hpoint, ?_, n.fraction_digits _ (List.getLast_mem _)⟩
    rw [text, decimals, if_neg hpoint, List.getLast?_append_cons, List.getLast?_cons,
      List.getLast?_eq_some_getLast hpoint, Option.getD_some]

/-- A row of digits is a numeral without a point. -/
def ofWhole (whole : List Char) (nonempty : whole ≠ [])
    (digits : ∀ c ∈ whole, digit c = true) : Numeral digit where
  whole := whole
  fraction := []
  nonempty := nonempty
  whole_digits := digits
  fraction_digits := List.forall_mem_nil _

theorem text_ofWhole {whole : List Char} (hne : whole ≠ [])
    (h : ∀ c ∈ whole, digit c = true) : (ofWhole whole hne h).text = whole :=
  List.append_nil whole

theorem exists_value_eq (n : Numeral isDigit) : ∃ rank, n.value = .ofRank false rank := ⟨_, rfl⟩

/-- A numeral is one in ASCII digits, or it has a character beyond ASCII. -/
theorem ascii?_cases (n : Numeral isDecimalDigit) :
    (∃ m, n.ascii? = some m) ∨ n.ascii? = none ∧ ∃ c ∈ n.text, 128 ≤ c.toNat := by
  cases hascii : n.ascii? with
  | some m => exact Or.inl ⟨m, rfl⟩
  | none =>
    refine Or.inr ⟨rfl, ?_⟩
    by_contra hnot
    simp only [not_exists, not_and] at hnot
    have hdigits (c : Char) (hc : c ∈ n.text) (hdigit : isDecimalDigit c = true) :
        isDigit c = true := isDigit_of_isDecimalDigit hdigit (Nat.not_le.mp (hnot c hc))
    have hwhole : ∀ c ∈ n.whole, isDigit c = true := by
      intro c hc
      exact hdigits c (List.mem_append_left _ hc) (n.whole_digits c hc)
    have hfraction : ∀ c ∈ n.fraction, isDigit c = true := by
      intro c hc
      have hpoint : n.fraction ≠ [] := List.ne_nil_of_mem hc
      exact hdigits c (by simp [text, decimals, hpoint, hc]) (n.fraction_digits c hc)
    rw [ascii?, dif_pos ⟨List.all_eq_true.mpr hwhole, List.all_eq_true.mpr hfraction⟩] at hascii
    cases hascii

end Numeral

namespace Figure

variable {unit s : List Char} {n : Numeral isDecimalDigit} {i q : Nat}

/-! ### Units behind digits -/

/-- A unit stands at a place of the text, and a digit right in front of it. -/
structure Counts (unit s : List Char) (q : Nat) : Prop where
  unit_prefix : unit <+: s.drop q
  digit : ∃ c, (s.take q).getLast? = some c ∧ isDecimalDigit c = true

/-- The first place where the unit counts. -/
structure CountsFirst (unit s : List Char) (q : Nat) : Prop where
  counts : Counts unit s q
  least : ∀ r, Counts unit s r → q ≤ r

/-- The longest numeral that ends at a place of the text. -/
structure LongestTo (s : List Char) (q : Nat) (n : Numeral isDecimalDigit) : Prop where
  ends : n.text <:+ s.take q
  longest : ∀ m : Numeral isDecimalDigit, m.text <:+ s.take q → m.text.length ≤ n.text.length

theorem StandsAt.take_eq (h : StandsAt unit s i n) :
    s.take (i + n.text.length) = s.take i ++ n.text := by
  obtain ⟨rest, hrest⟩ := h
  rw [List.take_add, ← hrest, List.append_assoc, List.take_left]

theorem StandsAt.drop_eq (h : StandsAt unit s i n) :
    ∃ rest, s.drop (i + n.text.length) = unit ++ rest := by
  obtain ⟨rest, hrest⟩ := h
  refine ⟨rest, ?_⟩
  rw [← List.drop_drop, ← hrest, List.append_assoc, List.drop_left]

/-- Behind every figure its unit counts. -/
theorem StandsAt.counts (h : StandsAt unit s i n) : Counts unit s (i + n.text.length) := by
  constructor
  · obtain ⟨rest, hrest⟩ := h.drop_eq
    exact ⟨rest, hrest.symm⟩
  · obtain ⟨c, hlast, hc⟩ := n.getLast?_text
    exact ⟨c, by rw [h.take_eq, List.getLast?_append, hlast, Option.some_or], hc⟩

/-- A numeral in front of a unit is a figure. -/
theorem standsAt_of_suffix (hunit : unit <+: s.drop q) (hn : n.text <:+ s.take q) :
    ∃ i, StandsAt unit s i n ∧ i + n.text.length = min q s.length := by
  obtain ⟨front, hfront⟩ := hn
  obtain ⟨rest, hrest⟩ := hunit
  have hs : s = front ++ (n.text ++ (unit ++ rest)) := by
    rw [hrest, ← List.append_assoc, hfront, List.take_append_drop]
  refine ⟨front.length, ⟨rest, ?_⟩, ?_⟩
  · rw [hs, List.drop_left, List.append_assoc]
  · rw [← List.length_take, ← hfront, List.length_append]

/-- Where a unit counts a figure ends: the digit in front of the unit is one. -/
theorem Counts.standsAt (h : Counts unit s q) : ∃ i n, StandsAt unit s i n ∧ i < q := by
  obtain ⟨c, hlast, hc⟩ := h.digit
  have hne : [c] ≠ [] := List.cons_ne_nil c []
  have hdigits : ∀ d ∈ [c], isDecimalDigit d = true := List.forall_mem_singleton.mpr hc
  have hsuffix : (Numeral.ofWhole [c] hne hdigits).text <:+ s.take q := by
    rw [Numeral.text_ofWhole]
    exact List.singleton_suffix_iff_getLast?_eq_some.mpr hlast
  obtain ⟨i, hstands, hi⟩ := standsAt_of_suffix h.unit_prefix hsuffix
  refine ⟨i, _, hstands, ?_⟩
  have hlength : (Numeral.ofWhole [c] hne hdigits).text.length = 1 := rfl
  omega

/-- No unit begins within a numeral. -/
theorem StandsAt.le_of_counts (hunit : EndsNumeral unit) (h : StandsAt unit s i n)
    (hq : Counts unit s q) (hi : i ≤ q) : i + n.text.length ≤ q := by
  obtain ⟨u, us, rfl, hdigit, hpoint⟩ := hunit
  obtain ⟨rest, hrest⟩ := hq.unit_prefix
  apply Nat.not_lt.mp
  intro hinside
  have hu : (s.take (i + n.text.length))[q]? = some u := by
    rw [List.getElem?_take_of_lt hinside, ← List.head?_drop, ← hrest]
    rfl
  have hfront : (s.take i).length ≤ q := Nat.le_trans (List.length_take_le i s) hi
  rw [h.take_eq, List.getElem?_append_right hfront] at hu
  exact Numeral.notMem_text hdigit hpoint (List.mem_of_getElem? hu)

/-- The leftmost figure ends at the first unit that counts, and no longer numeral ends there. -/
theorem First.longestTo (hunit : EndsNumeral unit) (h : First unit s n) :
    ∃ q, CountsFirst unit s q ∧ LongestTo s q n := by
  obtain ⟨i, hstands, hleast⟩ := h
  refine ⟨i + n.text.length, ⟨hstands.counts, ?_⟩, ?_, ?_⟩
  · intro r hr
    obtain ⟨j, m, hm, hj⟩ := hr.standsAt
    have hij : i ≤ j := hleast j m hm
    exact hstands.le_of_counts hunit hr (by omega)
  · rw [hstands.take_eq]
    exact List.suffix_append _ _
  · intro m hm
    obtain ⟨k, hk, hlength⟩ := standsAt_of_suffix hstands.counts.unit_prefix hm
    have hik : i ≤ k := hleast k m hk
    omega

/-! ### What is read -/

/-- What a text is read as for a unit. -/
inductive ReadAs (unit s : List Char) : Option Binary64 → Prop where
  /-- No unit counts. -/
  | nothing (hnone : ∀ q, ¬ Counts unit s q) : ReadAs unit s none
  /-- The longest numeral in front of the first unit that counts is in ASCII. -/
  | value {q : Nat} {n : Numeral isDecimalDigit} {m : Numeral isDigit}
      (hq : CountsFirst unit s q) (hn : LongestTo s q n) (hm : m.text = n.text) :
      ReadAs unit s (some m.value)
  /-- It has a character beyond ASCII; then no other numeral is tried. -/
  | unreadable {q : Nat} {n : Numeral isDecimalDigit} {c : Char}
      (hq : CountsFirst unit s q) (hn : LongestTo s q n) (hc : c ∈ n.text)
      (hother : 128 ≤ c.toNat) : ReadAs unit s none

theorem readAs_first? {unit : String} (hunit : EndsNumeral unit.toList) (s : List Char) :
    ReadAs unit.toList s (first? unit s) := by
  rcases exists_first_or_none hunit s with ⟨n, hfirst⟩ | ⟨hnone, -⟩
  · obtain ⟨q, hq, hn⟩ := hfirst.longestTo hunit
    rw [first?_of_first hunit hfirst]
    rcases Numeral.ascii?_cases n with ⟨m, hm⟩ | ⟨hnot, c, hc, hother⟩
    · rw [hm, Option.map_some]
      exact .value hq hn (Numeral.text_of_ascii? hm).symm
    · rw [hnot, Option.map_none]
      exact .unreadable hq hn hc hother
  · rw [first?_of_none hunit hnone]
    apply ReadAs.nothing
    intro q hq
    obtain ⟨i, n, hstands, -⟩ := hq.standsAt
    exact hnone i n hstands

theorem ReadAs.nonNegative {x : Binary64} (h : ReadAs unit s (some x)) : x.NonNegative := by
  cases h with
  | @value q n m hq hn hm =>
    obtain ⟨rank, hrank⟩ := m.exists_value_eq
    rw [hrank]
    exact Binary64.nonNegative_ofRank rank

theorem ReadAs.nonNegative_scale {found : Option Binary64} (h : ReadAs unit s found) (k : Nat) :
    Binary64.NonNegative ((found.map fun x => x.scale k).getD Binary64.zero) := by
  cases h with
  | nothing hnone => exact Binary64.nonNegative_zero
  | @value q n m hq hn hm =>
    obtain ⟨rank, hrank⟩ := m.exists_value_eq
    rw [hrank, Option.map_some, Option.getD_some]
    exact Binary64.nonNegative_scale_ofRank rank k
  | unreadable hq hn hc hother => exact Binary64.nonNegative_zero

/-- A percentage is read by the longest numeral in front of the first percent sign behind a digit,
and memory likewise; neither is ever below zero. -/
theorem figures_read (s : List Char) :
    (ReadAs "%".toList s (Coverage.percentage? s) ∧
      ∀ x, Coverage.percentage? s = some x → x.NonNegative) ∧
    ∃ megabytes, ReadAs "MB".toList s megabytes ∧
      Benchmark.memoryOf s = (megabytes.map (·.scale 1024)).getD .zero ∧
      (Benchmark.memoryOf s).NonNegative := by
  have hpercentage : ReadAs "%".toList s (Coverage.percentage? s) :=
    readAs_first? endsNumeral_percent s
  have hmegabytes : ReadAs "MB".toList s (first? "MB" s) :=
    readAs_first? endsNumeral_megabytes s
  refine ⟨⟨hpercentage, ?_⟩, _, hmegabytes, rfl, hmegabytes.nonNegative_scale 1024⟩
  intro x hx
  rw [hx] at hpercentage
  exact hpercentage.nonNegative

example : Coverage.percentage? "1.2.3% 12.% 4%".toList = Binary64.ofText? "2.3".toList := by
  decide +kernel

end Figure
end SuiteForge
