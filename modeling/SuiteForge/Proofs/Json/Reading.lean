import SuiteForge.Json.Parser
import SuiteForge.Json.Printer
import SuiteForge.Proofs.Number.Shortest
import SuiteForge.Proofs.Text.Lines

/-!
# Documents that are read back

A document is written over several lines and read again as it was: strings with whatever characters
they have, numbers as they are spelled, and members in their order. White space around a value is
never part of it, and a number ends where something else begins.
-/

namespace SuiteForge.Json

open Text

variable {s t rest more space lexeme : List Char} {c : Char} {fuel level : Nat} {v : Json}

/-! ### Strings -/

/-- A character stands for itself, or for one of the escapes. -/
theorem escape_cases (c : Char) :
    (∃ e, escaped? e = some c.toNat ∧ e ≠ 'u' ∧ escape c = ['\\', e]) ∨
      (c.toNat < 0x20 ∧ escape c =
        ['\\', 'u', '0', '0', hexDigit (c.toNat / 16), hexDigit (c.toNat % 16)]) ∨
      (0x20 ≤ c.toNat ∧ c ≠ '"' ∧ c ≠ '\\' ∧ escape c = [c]) := by
  unfold escape
  split
  · exact Or.inl ⟨'"', rfl, by decide, rfl⟩
  · exact Or.inl ⟨'\\', rfl, by decide, rfl⟩
  · exact Or.inl ⟨'n', rfl, by decide, rfl⟩
  · exact Or.inl ⟨'r', rfl, by decide, rfl⟩
  · exact Or.inl ⟨'t', rfl, by decide, rfl⟩
  · rename_i hquote hslash _ _ _
    split
    · rename_i hb
      exact Or.inl ⟨'b', congrArg some hb.symm, by decide, rfl⟩
    · split
      · rename_i hf
        exact Or.inl ⟨'f', congrArg some hf.symm, by decide, rfl⟩
      · split
        · rename_i hcontrol
          exact Or.inr (Or.inl ⟨hcontrol, rfl⟩)
        · rename_i hplain
          exact Or.inr (Or.inr ⟨Nat.not_lt.mp hplain, hquote, hslash, rfl⟩)

theorem units?_letter {e : Char} {n : Nat} (he : escaped? e = some n) (hu : e ≠ 'u')
    (s : List Char) :
    units? ('\\' :: e :: s) = (units? s).map fun (us, rest) => (n :: us, rest) := by
  rw [units?]
  · rw [he]
  · rintro a b c d rest heq
    exact absurd heq hu

theorem units?_hex {n : Nat} (hn : n < 0x20) (s : List Char) :
    units? ('\\' :: 'u' :: '0' :: '0' :: hexDigit (n / 16) :: hexDigit (n % 16) :: s) =
      (units? s).map fun (us, rest) => (n :: us, rest) := by
  have hdigits : ∀ n < 0x20,
      ['0', '0', hexDigit (n / 16), hexDigit (n % 16)].all isHexDigit = true ∧
        ['0', '0', hexDigit (n / 16), hexDigit (n % 16)].foldl
          (fun n x => n * 16 + hexValue x) 0 = n := by decide
  obtain ⟨hall, hvalue⟩ := hdigits n hn
  rw [units?, if_pos hall]
  simp only [hvalue]

theorem units?_plain (hc : 0x20 ≤ c.toNat) (hquote : c ≠ '"') (hslash : c ≠ '\\')
    (s : List Char) :
    units? (c :: s) = (units? s).map fun (us, rest) => (c.toNat :: us, rest) := by
  rw [units?]
  · rw [if_neg]
    rintro (h | h)
    · omega
    · exact hslash h
  · exact hquote
  · rintro a b c d rest h _
    exact hslash h
  · rintro d rest h _
    exact hslash h

theorem units?_escape (c : Char) (s : List Char) :
    units? (escape c ++ s) = (units? s).map fun (us, rest) => (c.toNat :: us, rest) := by
  rcases escape_cases c with ⟨e, he, hu, hescape⟩ | ⟨hc, hescape⟩ | ⟨hc, hquote, hslash, hescape⟩
  · rw [hescape]
    exact units?_letter he hu s
  · rw [hescape]
    exact units?_hex hc s
  · rw [hescape]
    exact units?_plain hc hquote hslash s

theorem units?_escaped (s rest : List Char) :
    units? (s.flatMap escape ++ '"' :: rest) = some (s.map Char.toNat, rest) := by
  induction s with
  | nil => rfl
  | cons c s ih => rw [List.flatMap_cons, List.append_assoc, units?_escape, ih]; rfl

/-- No character is half of a pair. -/
theorem joinSurrogates_toNat (s : List Char) : joinSurrogates (s.map Char.toNat) = some s := by
  have hchar (c : Char) : ¬ (0xD800 ≤ c.toNat ∧ c.toNat ≤ 0xDFFF) := by
    have hvalid := c.valid
    simp only [UInt32.isValidChar, Nat.isValidChar] at hvalid
    simp only [Char.toNat]
    omega
  induction s with
  | nil => rfl
  | cons c s ih =>
    cases s with
    | nil => simp only [List.map_cons, List.map_nil, joinSurrogates, if_neg (hchar c),
        Char.ofNat_toNat]
    | cons d s =>
      have hpair : ¬ (0xD800 ≤ c.toNat ∧ c.toNat ≤ 0xDBFF ∧ 0xDC00 ≤ d.toNat ∧
          d.toNat ≤ 0xDFFF) := fun h => hchar c (by omega)
      rw [List.map_cons] at ih
      rw [List.map_cons, List.map_cons, joinSurrogates, if_neg hpair, if_neg (hchar c), ih]
      simp [Char.ofNat_toNat]

/-- What is written for a string is read back behind its first quote. -/
theorem exists_quoted (text : Option String) : ∃ body, quoted text = '"' :: body ∧
    ∀ rest, string? (body ++ rest) = some (text, rest) := by
  cases text with
  | none => exact ⟨_, rfl, fun rest => rfl⟩
  | some text =>
    refine ⟨text.toList.flatMap escape ++ ['"'], rfl, fun rest => ?_⟩
    have hunits := units?_escaped text.toList rest
    rw [List.append_assoc, List.singleton_append, string?, hunits]
    simp [joinSurrogates_toNat]

/-! ### Numbers -/

/-- How a number is spelled: no zero stands in front of other digits. -/
inductive IsNumber : List Char → Prop where
  | spelled {sign exponent : List Char} (n : Numeral isDigit) (hsign : sign = [] ∨ sign = ['-'])
      (hzero : n.whole = ['0'] ∨ n.whole.head? ≠ some '0') (hexponent : IsExponent exponent) :
      IsNumber (sign ++ (n.text ++ exponent))

/-- A text with which no number goes on. -/
def EndsNumber (s : List Char) : Prop :=
  ∀ c, s.head? = some c → isDigit c = false ∧ c ≠ '.' ∧ c ≠ 'e' ∧ c ≠ 'E'

theorem endsNumber_cons (hc : isDigit c = false ∧ c ≠ '.' ∧ c ≠ 'e' ∧ c ≠ 'E') (s : List Char) :
    EndsNumber (c :: s) := by
  rintro b ⟨rfl⟩
  exact hc

theorem digits?_run {ds : List Char} (hne : ds ≠ []) (hds : ∀ c ∈ ds, isDigit c = true)
    (ht : ∀ c, t.head? = some c → isDigit c = false) : digits? (ds ++ t) = some (ds, t) := by
  rw [digits?, Numeral.digitRun_of_digits hds ht]
  cases ds with
  | nil => exact absurd rfl hne
  | cons d ds => rfl

theorem whole?_run (n : Numeral isDigit)
    (hzero : n.whole = ['0'] ∨ n.whole.head? ≠ some '0')
    (ht : ∀ c, t.head? = some c → isDigit c = false) : whole? (n.whole ++ t) = some (n.whole, t) := by
  rcases hzero with hzero | hzero
  · rw [hzero]
    rfl
  · have hdigits := digits?_run n.nonempty n.whole_digits ht
    obtain ⟨c, cs, hwhole⟩ := List.exists_cons_of_ne_nil n.nonempty
    rw [hwhole] at hdigits hzero ⊢
    rw [← hdigits, List.cons_append, whole?]
    rintro rest heq
    exact hzero (congrArg some (List.cons.inj heq).1)

theorem fraction?_decimals (n : Numeral isDigit)
    (ht : ∀ c, t.head? = some c → isDigit c = false ∧ c ≠ '.') :
    fraction? (n.decimals ++ t) = some (n.decimals, t) := by
  unfold Numeral.decimals
  split
  · rw [List.nil_append, fraction?]
    rintro rest rfl
    exact (ht '.' rfl).2 rfl
  · rename_i hne
    rw [List.cons_append, fraction?,
      digits?_run hne n.fraction_digits fun c hc => (ht c hc).1, Option.map_some]

theorem exponent?_run {exponent : List Char} (h : IsExponent exponent) (ht : EndsNumber t) :
    exponent? (exponent ++ t) = some (exponent, t) := by
  cases h with
  | absent =>
    cases t with
    | nil => rfl
    | cons c t =>
      obtain ⟨-, -, he, hE⟩ := ht c rfl
      simp [exponent?, he, hE]
  | @present mark sign ds hmark hsign hne hds =>
    have hdigits := digits?_run hne hds fun c hc => (ht c hc).1
    rcases hsign with rfl | rfl | rfl
    · have hsigned (b : Char) (more : List Char) (hb : isDigit b = false) : ds ++ t ≠ b :: more := by
        intro heq
        obtain ⟨d, ds', rfl⟩ := List.exists_cons_of_ne_nil hne
        rw [← (List.cons.inj heq).1, hds d List.mem_cons_self] at hb
        cases hb
      rw [List.nil_append, List.cons_append, exponent?, if_pos hmark, hdigits, Option.map_some]
      · exact fun more => hsigned '+' more (by decide)
      · exact fun more => hsigned '-' more (by decide)
    · simp [exponent?, hmark, hdigits]
    · simp [exponent?, hmark, hdigits]

theorem head?_decimals_append (n : Numeral isDigit)
    (ht : ∀ c, t.head? = some c → isDigit c = false) :
    ∀ c, (n.decimals ++ t).head? = some c → isDigit c = false := by
  unfold Numeral.decimals
  split
  · exact ht
  · rintro c ⟨rfl⟩
    rfl

/-- A number is read as it is spelled, up to where it ends. -/
theorem number?_append (h : IsNumber lexeme) (ht : EndsNumber t) :
    number? (lexeme ++ t) = some (lexeme, t) := by
  cases h with
  | @spelled sign exponent n hsign hzero hexponent =>
    have hbehind := hexponent.head?_append fun c hc => ⟨(ht c hc).1, (ht c hc).2.1⟩
    have hwhole := whole?_run n hzero
      (head?_decimals_append n fun c hc => (hbehind c hc).1)
    have hfraction := fraction?_decimals n hbehind
    have hexponent := exponent?_run hexponent ht
    have hparts : n.text ++ exponent ++ t = n.whole ++ (n.decimals ++ (exponent ++ t)) := by
      simp [Numeral.text]
    have hunsigned (more : List Char) : n.text ++ exponent ++ t ≠ '-' :: more := by
      intro heq
      obtain ⟨c, cs, htext, hc⟩ := n.exists_cons_text
      rw [htext] at heq
      rw [(List.cons.inj heq).1] at hc
      cases hc
    rcases hsign with rfl | rfl
    · rw [List.nil_append, number?]
      · rw [hparts]
        simp [hwhole, hfraction, hexponent, Numeral.text]
      · exact hunsigned
    · rw [List.append_assoc, List.singleton_append, hparts]
      simp [number?, hwhole, hfraction, hexponent, Numeral.text]

theorem isNumber_toDigits (n : Nat) : IsNumber (Nat.toDigits 10 n) := by
  have hzero : Nat.toDigits 10 n = ['0'] ∨ (Nat.toDigits 10 n).head? ≠ some '0' := by
    by_cases hn : n = 0
    · exact Or.inl (congrArg _ hn)
    · exact Or.inr (Binary64.head?_toDigits hn)
  have hnumber := IsNumber.spelled ⟨Nat.toDigits 10 n, [], Nat.toDigits_ne_nil,
    fun c => Binary64.isDigit_of_mem_toDigits, by simp⟩ (Or.inl rfl) hzero .absent
  simpa [Numeral.text, Numeral.decimals] using hnumber

theorem isNumber_of_compact? {x : Binary64} (h : x.compact? = some s) : IsNumber s := by
  cases x with
  | nan => cases h
  | infinite negative => cases h
  | finite negative rank lt =>
    cases h
    obtain ⟨n, exponent, htext, hspells⟩ :=
      Binary64.exists_spells_compact (Binary64.shortest .even rank)
    have hsign : Binary64.signText negative = [] ∨ Binary64.signText negative = ['-'] := by
      cases negative with
      | false => exact Or.inl rfl
      | true => exact Or.inr rfl
    rw [htext]
    exact .spelled n hsign hspells.whole hspells.spelled

/-! ### Values -/

/-- White space between values. -/
def IsSpace (s : List Char) : Prop := ∀ c ∈ s, c = ' ' ∨ c = '\n' ∨ c = '\r' ∨ c = '\t'

theorem skipSpace_append (h : IsSpace space) (s : List Char) :
    skipSpace (space ++ s) = skipSpace s := by
  rw [skipSpace, List.dropWhile_append_of_pos]
  · rfl
  · simpa [IsSpace, or_assoc] using h

theorem skipSpace_quote (s : List Char) : skipSpace ('"' :: s) = '"' :: s := rfl

theorem skipSpace_colon (s : List Char) : skipSpace (':' :: s) = ':' :: s := rfl

theorem isSpace_newLine (level : Nat) : IsSpace (newLine level) := by
  intro c hc
  rcases List.mem_cons.mp hc with rfl | hc
  · exact Or.inr (Or.inl rfl)
  · exact Or.inl (List.eq_of_mem_replicate hc)

theorem value?_space (h : IsSpace space) (fuel : Nat) (s : List Char) :
    value? fuel (space ++ s) = value? fuel s := by
  cases fuel with
  | zero => rfl
  | succ fuel => rw [value?, value?, skipSpace_append h]

theorem elements?_space (h : IsSpace space) (fuel : Nat) (s : List Char) :
    elements? fuel (space ++ s) = elements? fuel s := by
  cases fuel with
  | zero => rfl
  | succ fuel => rw [elements?, elements?, value?_space h]

theorem members?_space (h : IsSpace space) (fuel : Nat) (s : List Char) :
    members? fuel (space ++ s) = members? fuel s := by
  cases fuel with
  | zero => rfl
  | succ fuel => rw [members?, members?, skipSpace_append h]

theorem exists_space (s : List Char) : ∃ space, IsSpace space ∧ s = space ++ skipSpace s := by
  refine ⟨_, ?_, List.takeWhile_append_dropWhile.symm⟩
  intro c hc
  have hspace := List.all_eq_true.mp List.all_takeWhile c hc
  simpa [or_assoc] using hspace

theorem IsNumber.exists_cons (h : IsNumber lexeme) :
    ∃ c cs, lexeme = c :: cs ∧ (c = '-' ∨ isDigit c = true) := by
  cases h with
  | @spelled sign exponent n hsign hzero hexponent =>
    rcases hsign with rfl | rfl
    · obtain ⟨c, cs, htext, hc⟩ := n.exists_cons_text
      exact ⟨c, cs ++ exponent, by rw [htext]; rfl, Or.inr hc⟩
    · exact ⟨'-', _, rfl, Or.inl rfl⟩

theorem value?_number (h : IsNumber lexeme) (ht : EndsNumber t) :
    value? (fuel + 1) (lexeme ++ t) = some (.number lexeme, t) := by
  have hnumber := number?_append h ht
  obtain ⟨c, cs, rfl, hc⟩ := h.exists_cons
  have hskip : skipSpace (c :: cs ++ t) = c :: cs ++ t := by
    rcases hc with rfl | hc
    · rfl
    · refine List.dropWhile_cons_of_neg ?_
      rw [isDigit_iff] at hc
      simp only [← Char.toNat_inj, Bool.or_eq_true, decide_eq_true_eq]
      simp
      omega
  have hother {d : Char} {more : List Char} (heq : c :: cs ++ t = d :: more) :
      d = '-' ∨ isDigit d = true := (List.cons.inj heq).1 ▸ hc
  rw [value?, hskip]
  split
  case h_7 => rw [hnumber, Option.map_some]
  -- the first character is that of no other value
  all_goals
    rename_i heq
    exact absurd (hother heq) (by decide)

theorem value?_string {text : Option String} (h : string? s = some (text, rest)) :
    value? (fuel + 1) ('"' :: s) = some (.string text, rest) := by
  simp only [value?, skipSpace_quote, h, Option.map_some]

/-- What closes an array does not begin an element. -/
theorem elements?_close (fuel : Nat) (s : List Char) : elements? fuel (']' :: s) = none := by
  cases fuel with
  | zero => rfl
  | succ fuel =>
    cases fuel with
    | zero => rfl
    | succ fuel => rfl

theorem members?_close (fuel : Nat) (s : List Char) : members? fuel ('\x7d' :: s) = none := by
  cases fuel with
  | zero => rfl
  | succ fuel => rfl

theorem value?_array {vs : List Json} (h : elements? fuel s = some (vs, rest)) :
    value? (fuel + 1) ('[' :: s) = some (.array vs, rest) := by
  obtain ⟨space, hspace, hs⟩ := exists_space s
  have hopen : skipSpace ('[' :: s) = '[' :: s := rfl
  rw [hs, elements?_space hspace] at h
  simp only [value?, hopen]
  split
  · rename_i hclose
    rw [hclose, elements?_close] at h
    cases h
  · rw [h, Option.map_some]

theorem value?_object {ms : List (Option String × Json)} (h : members? fuel s = some (ms, rest)) :
    value? (fuel + 1) ('\x7b' :: s) = some (.object ms, rest) := by
  obtain ⟨space, hspace, hs⟩ := exists_space s
  have hopen : skipSpace ('\x7b' :: s) = '\x7b' :: s := rfl
  rw [hs, members?_space hspace] at h
  simp only [value?, hopen]
  split
  · rename_i hclose
    rw [hclose, members?_close] at h
    cases h
  · rw [h, Option.map_some]

theorem elements?_last (hvalue : value? fuel s = some (v, t)) (hclose : skipSpace t = ']' :: rest) :
    elements? (fuel + 1) s = some ([v], rest) := by
  simp [elements?, hvalue, hclose]

theorem elements?_cons {vs : List Json} (hvalue : value? fuel s = some (v, t))
    (hcomma : skipSpace t = ',' :: more) (hmore : elements? fuel more = some (vs, rest)) :
    elements? (fuel + 1) s = some (v :: vs, rest) := by
  simp [elements?, hvalue, hcomma, hmore]

theorem members?_last {name : Option String} (hname : string? s = some (name, ':' :: more))
    (hvalue : value? fuel more = some (v, t)) (hclose : skipSpace t = '\x7d' :: rest) :
    members? (fuel + 1) ('"' :: s) = some ([(name, v)], rest) := by
  simp [members?, skipSpace_quote, hname, skipSpace_colon, hvalue, hclose]

theorem members?_cons {name : Option String} {behind : List Char}
    {ms : List (Option String × Json)} (hname : string? s = some (name, ':' :: behind))
    (hvalue : value? fuel behind = some (v, t)) (hcomma : skipSpace t = ',' :: more)
    (hmore : members? fuel more = some (ms, rest)) :
    members? (fuel + 1) ('"' :: s) = some ((name, v) :: ms, rest) := by
  simp [members?, skipSpace_quote, hname, skipSpace_colon, hvalue, hcomma, hmore]

/-! ### Documents -/

def text? : Json → Option String
  | .string s => s
  | _ => none

/-- A document whose numbers are spelled as numbers. -/
inductive Spelled : Json → Prop where
  | null : Spelled .null
  | bool (b : Bool) : Spelled (.bool b)
  | number {lexeme : List Char} (h : IsNumber lexeme) : Spelled (.number lexeme)
  | string (text : Option String) : Spelled (.string text)
  | array {vs : List Json} (h : ∀ v ∈ vs, Spelled v) : Spelled (.array vs)
  | object {ms : List (Option String × Json)} (h : ∀ m ∈ ms, Spelled m.2) : Spelled (.object ms)

attribute [simp] Spelled.null Spelled.string

@[simp] theorem spelled_array {vs : List Json} : Spelled (.array vs) ↔ ∀ v ∈ vs, Spelled v := by
  constructor
  · rintro ⟨⟩
    assumption
  · exact .array

@[simp] theorem spelled_record {ms : List (String × Json)} :
    Spelled (.record ms) ↔ ∀ m ∈ ms, Spelled m.2 := by
  constructor
  · rintro ⟨⟩ m hm
    rename_i h
    exact h _ (List.mem_map_of_mem hm)
  · refine fun h => .object fun m hm => ?_
    obtain ⟨n, hn, rfl⟩ := List.mem_map.mp hm
    exact h n hn

@[simp] theorem spelled_text (s : String) : Spelled (.text s) := .string _

@[simp] theorem spelled_ofNat (n : Nat) : Spelled (.ofNat n) := .number (isNumber_toDigits n)

@[simp] theorem spelled_ofBinary64 (x : Binary64) : Spelled (.ofBinary64 x) := by
  unfold ofBinary64
  split
  · rename_i hcompact
    exact .number (isNumber_of_compact? hcompact)
  · exact .null

/-- A document is read as it is written, with two steps for each character. -/
def ReadsBack (v : Json) : Prop :=
  ∀ level fuel rest, 2 * (v.pretty level).length ≤ fuel → EndsNumber rest →
    value? fuel (v.pretty level ++ rest) = some (v, rest)

theorem readsBack_of_step (hne : ∀ level, v.pretty level ≠ [])
    (hstep : ∀ level fuel rest, 2 * (v.pretty level).length ≤ fuel + 1 → EndsNumber rest →
      value? (fuel + 1) (v.pretty level ++ rest) = some (v, rest)) : ReadsBack v := by
  intro level fuel rest hfuel hrest
  have hpos := List.length_pos_iff.mpr (hne level)
  obtain ⟨fuel, rfl⟩ : ∃ n, fuel = n + 1 := ⟨fuel - 1, by omega⟩
  exact hstep level fuel rest hfuel hrest

theorem endsNumber_newLine (level : Nat) (s : List Char) : EndsNumber (newLine level ++ s) :=
  endsNumber_cons (by decide) _

theorem prettyElements_cons (level : Nat) (v w : Json) (vs : List Json) :
    prettyElements level (v :: w :: vs) =
      newLine (level + 1) ++ pretty (level + 1) v ++ ',' :: prettyElements level (w :: vs) := by
  rw [prettyElements]
  exact List.cons_ne_nil w vs

theorem elements?_pretty {vs : List Json} (hvs : ∀ v ∈ vs, ReadsBack v) (hne : vs ≠ [])
    (hfuel : 2 * (prettyElements level vs).length + 1 ≤ fuel) (rest : List Char) :
    elements? fuel (prettyElements level vs ++ (newLine level ++ ']' :: rest)) =
      some (vs, rest) := by
  obtain ⟨fuel, rfl⟩ : ∃ n, fuel = n + 1 := ⟨fuel - 1, by omega⟩
  induction vs generalizing fuel with
  | nil => exact absurd rfl hne
  | cons v vs ih =>
    obtain ⟨hv, hvs⟩ := List.forall_mem_cons.mp hvs
    cases vs with
    | nil =>
      have hlength : (prettyElements level [v]).length =
          (newLine (level + 1)).length + (v.pretty (level + 1)).length := by
        simp [prettyElements]
      rw [prettyElements, List.append_assoc, elements?_space (isSpace_newLine _)]
      refine elements?_last (hv _ _ _ (by omega) (endsNumber_newLine level _)) ?_
      rw [skipSpace_append (isSpace_newLine level)]
      rfl
    | cons w vs =>
      have hlength : (prettyElements level (v :: w :: vs)).length =
          (newLine (level + 1)).length + ((v.pretty (level + 1)).length +
            ((prettyElements level (w :: vs)).length + 1)) := by
        simp [prettyElements_cons]
      obtain ⟨fuel, rfl⟩ : ∃ n, fuel = n + 1 := ⟨fuel - 1, by omega⟩
      rw [prettyElements_cons, List.append_assoc, List.append_assoc,
        elements?_space (isSpace_newLine _)]
      exact elements?_cons (hv _ _ _ (by omega) (endsNumber_cons (by decide) _)) rfl
        (ih hvs (List.cons_ne_nil w vs) fuel (by omega))

theorem prettyMembers_cons (level : Nat) (m n : Option String × Json)
    (ms : List (Option String × Json)) :
    prettyMembers level (m :: n :: ms) = newLine (level + 1) ++ quoted m.1 ++
      ':' :: ' ' :: pretty (level + 1) m.2 ++ ',' :: prettyMembers level (n :: ms) := by
  rw [prettyMembers]
  exact List.cons_ne_nil n ms

theorem members?_pretty {ms : List (Option String × Json)} (hms : ∀ m ∈ ms, ReadsBack m.2)
    (hne : ms ≠ []) (hfuel : 2 * (prettyMembers level ms).length + 1 ≤ fuel) (rest : List Char) :
    members? fuel (prettyMembers level ms ++ (newLine level ++ '\x7d' :: rest)) =
      some (ms, rest) := by
  obtain ⟨fuel, rfl⟩ : ∃ n, fuel = n + 1 := ⟨fuel - 1, by omega⟩
  induction ms generalizing fuel with
  | nil => exact absurd rfl hne
  | cons m ms ih =>
    obtain ⟨hm, hms⟩ := List.forall_mem_cons.mp hms
    obtain ⟨body, hquoted, hbody⟩ := exists_quoted m.1
    have hvalue {t : List Char} (hfuel : 2 * (m.2.pretty (level + 1)).length ≤ fuel)
        (ht : EndsNumber t) : value? fuel (' ' :: (m.2.pretty (level + 1) ++ t)) = some (m.2, t) := by
      have hspace : IsSpace [' '] := by simp [IsSpace]
      rw [← hm (level + 1) fuel t hfuel ht]
      exact value?_space hspace fuel _
    cases ms with
    | nil =>
      have hlength : (m.2.pretty (level + 1)).length ≤ (prettyMembers level [m]).length := by
        simp [prettyMembers]
        omega
      have htext : prettyMembers level [m] ++ (newLine level ++ '\x7d' :: rest) =
          newLine (level + 1) ++ ('"' :: (body ++ ':' :: ' ' ::
            (m.2.pretty (level + 1) ++ (newLine level ++ '\x7d' :: rest)))) := by
        simp [prettyMembers, hquoted]
      rw [htext, members?_space (isSpace_newLine _)]
      refine members?_last (hbody _) (hvalue (by omega) (endsNumber_newLine level _)) ?_
      rw [skipSpace_append (isSpace_newLine level)]
      rfl
    | cons n ms =>
      have hlength : (m.2.pretty (level + 1)).length + (prettyMembers level (n :: ms)).length + 1 ≤
          (prettyMembers level (m :: n :: ms)).length := by
        simp [prettyMembers_cons]
        omega
      have htext : prettyMembers level (m :: n :: ms) ++ (newLine level ++ '\x7d' :: rest) =
          newLine (level + 1) ++ ('"' :: (body ++ ':' :: ' ' :: (m.2.pretty (level + 1) ++ ',' ::
            (prettyMembers level (n :: ms) ++ (newLine level ++ '\x7d' :: rest))))) := by
        simp [prettyMembers_cons, hquoted]
      obtain ⟨fuel, rfl⟩ : ∃ n, fuel = n + 1 := ⟨fuel - 1, by omega⟩
      rw [htext, members?_space (isSpace_newLine _)]
      exact members?_cons (hbody _) (hvalue (by omega) (endsNumber_cons (by decide) _)) rfl
        (ih hms (List.cons_ne_nil n ms) fuel (by omega))

/-- A document is read back from what is written for it, whatever follows. -/
theorem Spelled.readsBack (h : Spelled v) : ReadsBack v := by
  induction h with
  | null => exact readsBack_of_step (by simp [pretty]) fun level fuel rest _ _ => rfl
  | bool b =>
    cases b with
    | true => exact readsBack_of_step (by simp [pretty]) fun level fuel rest _ _ => rfl
    | false => exact readsBack_of_step (by simp [pretty]) fun level fuel rest _ _ => rfl
  | @number lexeme h =>
    obtain ⟨c, cs, hcons, -⟩ := h.exists_cons
    exact readsBack_of_step (by simp [pretty, hcons]) fun level fuel rest _ hrest =>
      value?_number h hrest
  | string text =>
    obtain ⟨body, hquoted, hbody⟩ := exists_quoted text
    have hpretty (level : Nat) : pretty level (.string text) = '"' :: body := by
      rw [pretty, hquoted]
    refine readsBack_of_step (by simp [hpretty]) fun level fuel rest _ _ => ?_
    rw [hpretty]
    exact value?_string (hbody rest)
  | @array vs _ ih =>
    cases vs with
    | nil => exact readsBack_of_step (by simp [pretty]) fun level fuel rest _ _ => rfl
    | cons w vs =>
      have hpretty (level : Nat) : pretty level (.array (w :: vs)) =
          '[' :: (prettyElements level (w :: vs) ++ newLine level ++ [']']) := rfl
      refine readsBack_of_step (by simp [hpretty]) fun level fuel rest hfuel _ => ?_
      have hsteps : 2 * (prettyElements level (w :: vs)).length + 1 ≤ fuel := by
        simp [hpretty] at hfuel
        omega
      have helements := elements?_pretty ih (List.cons_ne_nil w vs) hsteps rest
      rw [hpretty]
      exact value?_array (by simpa using helements)
  | @object ms _ ih =>
    cases ms with
    | nil => exact readsBack_of_step (by simp [pretty]) fun level fuel rest _ _ => rfl
    | cons m ms =>
      have hpretty (level : Nat) : pretty level (.object (m :: ms)) =
          '\x7b' :: (prettyMembers level (m :: ms) ++ newLine level ++ ['\x7d']) := rfl
      refine readsBack_of_step (by simp [hpretty]) fun level fuel rest hfuel _ => ?_
      have hsteps : 2 * (prettyMembers level (m :: ms)).length + 1 ≤ fuel := by
        simp [hpretty] at hfuel
        omega
      have hmembers := members?_pretty ih (List.cons_ne_nil m ms) hsteps rest
      rw [hpretty]
      exact value?_object (by simpa using hmembers)

/-- What is written for a document is read as that document. -/
theorem parse?_pretty (h : Spelled v) : parse? (v.pretty 0) = some v := by
  have hread := h.readsBack 0 (2 * (v.pretty 0).length + 2) [] (by omega) (by simp [EndsNumber])
  rw [List.append_nil] at hread
  rw [parse?, hread]
  rfl

end SuiteForge.Json
