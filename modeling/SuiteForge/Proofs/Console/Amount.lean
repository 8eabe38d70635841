import SuiteForge.Console.Amount
import SuiteForge.Proofs.Number.Order
import SuiteForge.Proofs.Number.Shortest

/-!
# Amounts

An amount is the text of a magnitude with commas between its thousands and with a sign in front
where one is seen. Nothing but the commas comes in, and they stand where a reader looks for them.
-/

namespace SuiteForge

open Text

/-! ### Fixed places -/

namespace Binary64

variable {places : Nat} {x : Binary64}

/-- The text of a magnitude is a numeral with that many decimals. -/
theorem exists_numeral_fixedMagnitude (places rank : Nat) :
    ∃ n : Numeral isDigit, n.text = fixedMagnitude places rank ∧ n.fraction.length = places := by
  unfold fixedMagnitude
  generalize roundQuotient (unitsOf rank * Nat.pow 10 places) unitsPerOne = value
  by_cases hplaces : places = 0
  · subst hplaces
    refine ⟨⟨Nat.toDigits 10 value, [], Nat.toDigits_ne_nil, ?_, by simp⟩, ?_, rfl⟩
    · intro c hc
      exact isDigit_of_mem_toDigits hc
    · simp [Numeral.text, Numeral.decimals]
  · simp only [if_neg hplaces]
    generalize hds : List.replicate (places + 1 - (Nat.toDigits 10 value).length) '0' ++
      Nat.toDigits 10 value = ds
    have hdigits : ∀ c ∈ ds, isDigit c = true := by
      intro c hc
      rw [← hds] at hc
      rcases List.mem_append.mp hc with hc | hc
      · exact isDigit_of_mem_zeros hc
      · exact isDigit_of_mem_toDigits hc
    have hlength : places + 1 ≤ ds.length := by
      rw [← hds, List.length_append, List.length_replicate]
      omega
    refine ⟨⟨ds.take (ds.length - places), ds.drop (ds.length - places), ?_, ?_, ?_⟩, ?_, ?_⟩
    · apply List.ne_nil_of_length_pos
      rw [List.length_take]
      omega
    · intro c hc
      exact hdigits c (List.mem_of_mem_take hc)
    · intro c hc
      exact hdigits c (List.mem_of_mem_drop hc)
    · have hfraction : ds.drop (ds.length - places) ≠ [] := by
        apply List.ne_nil_of_length_pos
        rw [List.length_drop]
        omega
      rw [Numeral.text, Numeral.decimals, if_neg hfraction]
    · rw [List.length_drop]
      omega

end Binary64

namespace Console

variable {s : List Char}

/-! ### Thousands -/

theorem filter_uncommaed (hs : ',' ∉ s) : s.filter (· ≠ ',') = s := by
  rw [List.filter_eq_self]
  intro c hc
  simpa using ne_of_mem_of_not_mem hc hs

/-- Up to three characters, and groups of three behind them. -/
structure Thousands where
  first : List Char
  groups : List (List Char)
  first_nonempty : first ≠ []
  first_short : first.length ≤ 3
  groups_full : ∀ g ∈ groups, g.length = 3

namespace Thousands

variable {t : Thousands}

def plain (t : Thousands) : List Char := t.first ++ t.groups.flatten

/-- The groups with a comma in front of each. -/
def text (t : Thousands) : List Char := t.first ++ t.groups.flatMap (',' :: ·)

def single (c : Char) : Thousands where
  first := [c]
  groups := []
  first_nonempty := List.cons_ne_nil c []
  first_short := by simp
  groups_full := by simp

/-- One more character in front, where the first group is not full. -/
def push (c : Char) (t : Thousands) (h : t.first.length < 3) : Thousands where
  first := c :: t.first
  groups := t.groups
  first_nonempty := List.cons_ne_nil c t.first
  first_short := h
  groups_full := t.groups_full

/-- One more character in front, where the first group is full. -/
def start (c : Char) (t : Thousands) (h : t.first.length = 3) : Thousands where
  first := [c]
  groups := t.first :: t.groups
  first_nonempty := List.cons_ne_nil c []
  first_short := by simp
  groups_full := List.forall_mem_cons.mpr ⟨h, t.groups_full⟩

theorem first_pos (t : Thousands) : 0 < t.first.length := List.length_pos_iff.mpr t.first_nonempty

theorem length_plain (t : Thousands) : t.plain.length = t.first.length + 3 * t.groups.length := by
  rw [plain, List.length_append, List.length_flatten,
    List.sum_eq_card_nsmul _ 3 (by simpa using t.groups_full)]
  simp [Nat.mul_comm]

/-- The first group is full where the length of the whole says so. -/
theorem length_first_iff (t : Thousands) : t.first.length = 3 ↔ t.plain.length % 3 = 0 := by
  have hpos := t.first_pos
  have hshort := t.first_short
  rw [t.length_plain]
  omega

theorem groups_eq_nil (h : t.plain.length ≤ 3) : t.groups = [] := by
  have hpos := t.first_pos
  have hlength := t.length_plain
  exact List.length_eq_zero_iff.mp (by omega)

theorem mem_text {c : Char} (hc : c ∈ t.text) : c ∈ t.plain ∨ c = ',' := by
  rcases List.mem_append.mp hc with hc | hc
  · exact Or.inl (List.mem_append_left _ hc)
  · obtain ⟨g, hg, hc⟩ := List.mem_flatMap.mp hc
    rcases List.mem_cons.mp hc with rfl | hc
    · exact Or.inr rfl
    · exact Or.inl (List.mem_append_right _ (List.mem_flatten.mpr ⟨g, hg, hc⟩))

/-- The text begins with what is grouped. -/
theorem head?_text (t : Thousands) : t.text.head? = t.plain.head? := by
  rw [text, plain, List.head?_append_of_ne_nil _ t.first_nonempty,
    List.head?_append_of_ne_nil _ t.first_nonempty]

theorem filter_text (h : ',' ∉ t.plain) : t.text.filter (· ≠ ',') = t.plain := by
  obtain ⟨hfirst, hgroups⟩ : ',' ∉ t.first ∧ ∀ g ∈ t.groups, ',' ∉ g := by
    simpa [plain] using h
  rw [text, plain, List.filter_append, filter_uncommaed hfirst, List.filter_flatMap]
  congr 1
  rw [List.flatten_eq_flatMap]
  apply List.flatMap_congr
  intro g hg
  simpa using filter_uncommaed (hgroups g hg)

end Thousands

theorem groupThousands_cons_cons (c d : Char) (ds : List Char) :
    groupThousands (c :: d :: ds) = if (d :: ds).length % 3 = 0
      then c :: ',' :: groupThousands (d :: ds) else c :: groupThousands (d :: ds) := rfl

theorem exists_thousands (hs : s ≠ []) : ∃ t : Thousands, t.plain = s ∧ t.text = groupThousands s := by
  induction s with
  | nil => exact absurd rfl hs
  | cons c cs ih =>
    cases cs with
    | nil => exact ⟨.single c, rfl, rfl⟩
    | cons d ds =>
      obtain ⟨t, hplain, htext⟩ := ih (List.cons_ne_nil d ds)
      have hfull := t.length_first_iff
      rw [groupThousands_cons_cons, ← htext, ← hplain]
      by_cases hlength : t.plain.length % 3 = 0
      · refine ⟨t.start c (hfull.mpr hlength), rfl, ?_⟩
        rw [if_pos hlength]
        rfl
      · have hshort : t.first.length < 3 :=
          Nat.lt_of_le_of_ne t.first_short fun heq => hlength (hfull.mp heq)
        refine ⟨t.push c hshort, rfl, ?_⟩
        rw [if_neg hlength]
        rfl

/-! ### Amounts -/

variable {places : Nat} {x : Binary64} {sign whole rest : List Char}

/-- A number is below zero, and does not look like zero at these places. -/
def ShowsBelowZero (places : Nat) (x : Binary64) : Prop :=
  Binary64.Exceeds .zero x ∧ ∃ c ∈ x.abs.fixed places, c ≠ '0' ∧ c ≠ '.'

theorem showsSign_iff : showsSign x (x.abs.fixed places) = true ↔ ShowsBelowZero places x := by
  rw [showsSign, Bool.and_eq_true, Binary64.less_iff, List.any_eq_true, ShowsBelowZero]
  simp

/-- The sign of an amount. -/
def signOf (places : Nat) (x : Binary64) : List Char :=
  if showsSign x (x.abs.fixed places) then ['-'] else []

/-- The text of a magnitude is cut in front of its point: what is behind the whole part is nothing,
or it begins with the point. -/
structure Cut (places : Nat) (x : Binary64) (whole rest : List Char) : Prop where
  text : x.abs.fixed places = whole ++ rest
  nonempty : whole ≠ []
  unpointed : '.' ∉ whole
  uncommaed : ',' ∉ whole ++ rest
  rest_cases : rest = [] ∨ ∃ decimals, rest = '.' :: decimals
  numeral : x.isFinite = true → ∃ n : Numeral isDigit,
    n.whole = whole ∧ n.decimals = rest ∧ n.fraction.length = places
  named : x.isFinite = false → whole.length = 3 ∧ rest = []

theorem cut_of_name (h : x.abs.fixed places = whole) (hfinite : x.isFinite = false)
    (hlength : whole.length = 3) (hword : whole.all isLetter = true) :
    Cut places x whole [] where
  text := by rw [h, List.append_nil]
  nonempty := List.ne_nil_of_length_pos (by omega)
  unpointed hc := absurd (List.all_eq_true.mp hword _ hc) (by decide)
  uncommaed hc := by
    rw [List.append_nil] at hc
    exact absurd (List.all_eq_true.mp hword _ hc) (by decide)
  rest_cases := Or.inl rfl
  numeral h := by
    rw [hfinite] at h
    cases h
  named _ := ⟨hlength, rfl⟩

theorem cut_of_numeral {n : Numeral isDigit} (h : x.abs.fixed places = n.text)
    (hfinite : x.isFinite = true) (hplaces : n.fraction.length = places) :
    Cut places x n.whole n.decimals where
  text := h
  nonempty := n.nonempty
  unpointed hc := absurd (n.whole_digits _ hc) (by decide)
  uncommaed := n.notMem_text (by decide) (by decide)
  rest_cases := by
    unfold Numeral.decimals
    split
    · exact Or.inl rfl
    · exact Or.inr ⟨_, rfl⟩
  numeral _ := ⟨n, rfl, rfl, hplaces⟩
  named h := by
    rw [hfinite] at h
    cases h

theorem exists_cut (places : Nat) (x : Binary64) : ∃ whole rest, Cut places x whole rest := by
  cases x with
  | nan => exact ⟨"NaN".toList, [], cut_of_name rfl rfl rfl (by decide)⟩
  | infinite negative => exact ⟨"inf".toList, [], cut_of_name rfl rfl rfl (by decide)⟩
  | finite negative rank lt =>
    obtain ⟨n, htext, hplaces⟩ := Binary64.exists_numeral_fixedMagnitude places rank
    exact ⟨_, _, cut_of_numeral (n := n) htext.symm rfl hplaces⟩

theorem Cut.amount_eq (h : Cut places x whole rest) :
    amount places x = signOf places x ++ (groupThousands whole ++ rest) := by
  unfold amount
  dsimp only
  rw [← signOf, h.text]
  rcases h.rest_cases with rfl | ⟨decimals, rfl⟩
  · have hnone : splitOnce ['.'] (whole ++ []) = none := by
      rw [← Option.not_isSome_iff_eq_none, Option.isSome_iff_exists]
      rintro ⟨⟨front, back⟩, hsplit⟩
      rw [List.append_nil] at hsplit
      obtain ⟨-, hwhole⟩ := splitOnce_singleton_iff.mp hsplit
      exact h.unpointed (by simp [hwhole])
    rw [hnone]
    simp
  · rw [splitOnce_singleton_iff.mpr ⟨h.unpointed, rfl⟩]
    simp

/-- An amount is made of a sign, groups of digits with commas between them and decimals. -/
structure Faithful (places : Nat) (x : Binary64) (sign : List Char) (whole : Thousands)
    (rest : List Char) : Prop where
  text : amount places x = sign ++ (whole.text ++ rest)
  /-- Without the commas it is the text of the magnitude with the sign in front, -/
  without_commas : (amount places x).filter (· ≠ ',') = sign ++ x.abs.fixed places
  /-- which is a minus just when the number is seen to be below zero. -/
  signed : ShowsBelowZero places x → sign = ['-']
  unsigned : ¬ ShowsBelowZero places x → sign = []
  /-- What is grouped, and what stands behind it, are the digits of a finite number. -/
  numeral : x.isFinite = true → ∃ n : Numeral isDigit,
    n.whole = whole.plain ∧ n.decimals = rest ∧ n.fraction.length = places
  /-- The name of any other number has no comma in it. -/
  ungrouped : x.isFinite = false → whole.groups = [] ∧ rest = []
  /-- No comma begins an amount, or stands behind its point. -/
  head : (amount places x).head? ≠ some ','
  behind_point : ∀ front back, amount places x = front ++ '.' :: back → ',' ∉ back

theorem signOf_eq_cases (places : Nat) (x : Binary64) :
    signOf places x = ['-'] ∧ ShowsBelowZero places x ∨
      signOf places x = [] ∧ ¬ ShowsBelowZero places x := by
  unfold signOf
  rw [← showsSign_iff]
  by_cases hsign : showsSign x (x.abs.fixed places) = true
  · exact Or.inl ⟨if_pos hsign, hsign⟩
  · exact Or.inr ⟨if_neg hsign, hsign⟩

/-- What is behind the first point of a text has no character that is only in front of it. -/
theorem notMem_behind {c : Char} {front back s t : List Char} (h : s ++ t = front ++ '.' :: back)
    (hs : '.' ∉ s) (ht : c ∉ t) : c ∉ back := by
  intro hc
  rcases List.append_eq_append_iff.mp h with ⟨between, -, hbehind⟩ | ⟨between, hfront, hbehind⟩
  · apply ht
    rw [hbehind]
    simp [hc]
  · cases between with
    | nil =>
      apply ht
      rw [List.nil_append] at hbehind
      rw [← hbehind]
      exact List.mem_cons_of_mem _ hc
    | cons b between =>
      obtain ⟨rfl, -⟩ := List.cons.inj hbehind
      exact hs (by simp [hfront])

/-- Commas are put between the thousands of an amount, and nothing else is changed. -/
theorem amount_faithful (places : Nat) (x : Binary64) :
    ∃ sign whole rest, Faithful places x sign whole rest := by
  obtain ⟨whole, rest, hcut⟩ := exists_cut places x
  obtain ⟨t, rfl, htext⟩ := exists_thousands hcut.nonempty
  have hamount : amount places x = signOf places x ++ (t.text ++ rest) := by
    rw [hcut.amount_eq, htext]
  have hsign : ∀ c ∈ signOf places x, c = '-' := by
    rcases signOf_eq_cases places x with ⟨hsign, -⟩ | ⟨hsign, -⟩
    · simp [hsign]
    · simp [hsign]
  obtain ⟨hplain, hrest⟩ : ',' ∉ t.plain ∧ ',' ∉ rest := by
    simpa only [List.mem_append, not_or] using hcut.uncommaed
  refine ⟨signOf places x, t, rest, ?_⟩
  constructor
  case text => exact hamount
  case without_commas =>
    have hcomma : ',' ∉ signOf places x := fun hc => absurd (hsign _ hc) (by decide)
    rw [hamount, hcut.text, List.filter_append, List.filter_append, filter_uncommaed hcomma,
      Thousands.filter_text hplain, filter_uncommaed hrest]
  case signed =>
    intro hbelow
    rcases signOf_eq_cases places x with ⟨hminus, -⟩ | ⟨-, hnot⟩
    · exact hminus
    · exact absurd hbelow hnot
  case unsigned =>
    intro hnot
    rcases signOf_eq_cases places x with ⟨-, hbelow⟩ | ⟨hnone, -⟩
    · exact absurd hbelow hnot
    · exact hnone
  case numeral => exact hcut.numeral
  case ungrouped =>
    intro hfinite
    obtain ⟨hlength, hnone⟩ := hcut.named hfinite
    exact ⟨Thousands.groups_eq_nil (Nat.le_of_eq hlength), hnone⟩
  case head =>
    rw [hamount]
    rcases signOf_eq_cases places x with ⟨hminus, -⟩ | ⟨hnone, -⟩
    · rw [hminus, List.singleton_append, List.head?_cons]
      decide
    · have hne : t.text ≠ [] := List.append_ne_nil_of_left_ne_nil t.first_nonempty _
      rw [hnone, List.nil_append, List.head?_append_of_ne_nil _ hne, t.head?_text]
      intro hhead
      exact hplain (List.mem_of_mem_head? hhead)
  case behind_point =>
    intro front back hback
    rw [hamount, ← List.append_assoc] at hback
    apply notMem_behind hback ?_ hrest
    intro hpoint
    rcases List.mem_append.mp hpoint with hpoint | hpoint
    · exact absurd (hsign _ hpoint) (by decide)
    · rcases Thousands.mem_text hpoint with hpoint | hcomma
      · exact hcut.unpointed hpoint
      · exact absurd hcomma (by decide)

example : String.ofList (amount 2 (.ofScaled true 12048505 (-3))) = "-12,048.50" := by
  decide +kernel

end Console
end SuiteForge
