import SuiteForge.Proofs.Synthesis.Distinct

/-!
# Words of plain names

A name of letters and digits is cut into words at its capitals. The words can be joined again, so
that nothing is lost but the case of the first character, and two names with the same words are one
name up to that.
-/

namespace SuiteForge

open Php Text

variable {s t : List Char} {c d : Char}

namespace Naming

/-! ### Plain names -/

/-- A letter or a digit. -/
def isPlain (c : Char) : Bool := isLetter c || isDigit c

/-- Letters and digits only. -/
def Plain (s : List Char) : Prop := ∀ c ∈ s, isPlain c = true

/-- A plain name that does not begin with a capital. -/
structure Camel (s : List Char) : Prop where
  plain : Plain s
  small : ∀ c, s.head? = some c → isUpperLetter c = false

/-- Two texts are one, but for the case of the first character. -/
structure AlikeButFirst (s t : List Char) : Prop where
  first : s.head?.map lower = t.head?.map lower
  rest : s.tail = t.tail

instance : Decidable (Plain s) := List.decidableBAll _ _

instance : Decidable (AlikeButFirst s t) :=
  decidable_of_iff (s.head?.map lower = t.head?.map lower ∧ s.tail = t.tail)
    ⟨fun h => ⟨h.1, h.2⟩, fun h => ⟨h.first, h.rest⟩⟩

theorem isWordChar_of_isPlain (h : isPlain c = true) : isWordChar c = true := by
  rw [isWordChar, Bool.or_eq_true]
  exact Or.inl h

theorem toNat_lt_of_isPlain (h : isPlain c = true) : c.toNat < 0x80 :=
  toNat_lt_of_isWordChar (isWordChar_of_isPlain h)

theorem Plain.chars (h : Plain s) : ∀ c ∈ s, isWordChar c = true :=
  fun c hc => isWordChar_of_isPlain (h c hc)

theorem upper_lower (h : isPlain c = true) : upper (lower c) = upper c :=
  of_ascii (P := fun c => upper (lower c) = upper c) (by decide) (toNat_lt_of_isPlain h)

theorem upper_of_isUpperLetter (hc : isPlain c = true) (h : isUpperLetter c = true) :
    upper c = c :=
  of_ascii (P := fun c => isUpperLetter c = true → upper c = c) (by decide)
    (toNat_lt_of_isPlain hc) h

theorem lower_of_not_isUpperLetter (h : isUpperLetter c = false) : lower c = c := by
  simp [lower, h]

theorem AlikeButFirst.cases (h : AlikeButFirst s t) :
    s = [] ∧ t = [] ∨ ∃ c d x, s = c :: x ∧ t = d :: x ∧ lower c = lower d := by
  cases s with
  | nil =>
    cases t with
    | nil => exact Or.inl ⟨rfl, rfl⟩
    | cons d t => simpa using h.first
  | cons c s =>
    cases t with
    | nil => simpa using h.first
    | cons d t =>
      obtain rfl : s = t := h.rest
      exact Or.inr ⟨c, d, s, rfl, rfl, by simpa using h.first⟩

theorem AlikeButFirst.map_lower (h : AlikeButFirst s t) : s.map lower = t.map lower := by
  obtain ⟨rfl, rfl⟩ | ⟨c, d, x, rfl, rfl, hfirst⟩ := h.cases
  · rfl
  · rw [List.map_cons, List.map_cons, hfirst]

/-- Names with the same form that begins with a capital are alike. -/
theorem alikeButFirst_of_upperFirst (hs : Plain s) (ht : Plain t)
    (h : upperFirst s = upperFirst t) : AlikeButFirst s t := by
  cases s with
  | nil =>
    cases t with
    | nil => exact ⟨rfl, rfl⟩
    | cons d t => cases h
  | cons c s =>
    cases t with
    | nil => cases h
    | cons d t =>
      obtain ⟨hupper, rfl⟩ := List.cons.inj h
      have hlower : lower c = lower d := by
        rw [← lower_upper (hs.chars c List.mem_cons_self), hupper,
          lower_upper (ht.chars d List.mem_cons_self)]
      exact ⟨by simp [hlower], rfl⟩

/-- Of names that begin with no capital, no two are alike. -/
theorem Camel.eq_of_alikeButFirst (hs : Camel s) (ht : Camel t) (h : AlikeButFirst s t) :
    s = t := by
  obtain ⟨rfl, rfl⟩ | ⟨c, d, x, rfl, rfl, hfirst⟩ := h.cases
  · rfl
  · rw [lower_of_not_isUpperLetter (hs.small c rfl),
      lower_of_not_isUpperLetter (ht.small d rfl)] at hfirst
    rw [hfirst]

/-! ### Cutting and joining -/

/-- A delimiter that separates pieces. -/
def Separates (d : Char) : Prop := d = '-' ∨ d = '_' ∨ d = ' '

theorem parts_of_separates (hd : Separates d) (s : List Char) : parts (d :: s) = [] :: parts s := by
  rw [parts]
  exact if_pos hd

theorem parts_cons {p : List Char} {ps : List (List Char)} (hc : ¬ Separates c)
    (h : parts s = p :: ps) : parts (c :: s) = (c :: p) :: ps := by
  have hc' : ¬ (c = '-' ∨ c = '_' ∨ c = ' ') := hc
  simp only [parts, if_neg hc', h]

theorem not_separates_lower (h : isPlain c = true) : ¬ Separates (lower c) := by
  have hascii : lower c ≠ '-' ∧ lower c ≠ '_' ∧ lower c ≠ ' ' :=
    of_ascii (P := fun c => isPlain c = true → lower c ≠ '-' ∧ lower c ≠ '_' ∧ lower c ≠ ' ')
      (by decide) (toNat_lt_of_isPlain h) h
  rintro (hc | hc | hc)
  · exact hascii.1 hc
  · exact hascii.2.1 hc
  · exact hascii.2.2 hc

/-- The pieces between the delimiters are the words of a name: with capitals in front of all but the
first of them they are the name. -/
theorem parts_delimitCapitals (hd : Separates d) (hlower : lower d = d) (hs : Plain s) :
    ∃ p ps, parts ((delimitCapitals d s).map lower) = p :: ps ∧ p ++ ps.flatMap upperFirst = s := by
  induction s with
  | nil => exact ⟨[], [], rfl, rfl⟩
  | cons c s ih =>
    obtain ⟨hc, hs⟩ := List.forall_mem_cons.mp hs
    obtain ⟨p, ps, hparts, hjoined⟩ := ih hs
    have hword := parts_cons (not_separates_lower hc) hparts
    cases hcapital : isUpperLetter c with
    | true =>
      refine ⟨[], (lower c :: p) :: ps, ?_, ?_⟩
      · simp only [delimitCapitals, hcapital, if_true, List.map_cons, hlower,
          parts_of_separates hd, hword]
      · simp only [List.nil_append, List.flatMap_cons, upperFirst, upper_lower hc,
          upper_of_isUpperLetter hc hcapital, List.cons_append, hjoined]
    | false =>
      refine ⟨lower c :: p, ps, ?_, ?_⟩
      · simp only [delimitCapitals, hcapital, Bool.false_eq_true, if_false, List.map_cons, hword]
      · rw [List.cons_append, hjoined, lower_of_not_isUpperLetter hcapital]

/-- What was cut at the capitals is joined again, with a capital in front. -/
theorem studly_delimited (hd : Separates d) (hlower : lower d = d) (hascii : d.toNat < 0x80)
    (hs : Plain s) : studly (delimited d s) = upperFirst s := by
  cases s with
  | nil => rfl
  | cons c s =>
    obtain ⟨hc, hrest⟩ := List.forall_mem_cons.mp hs
    obtain ⟨p, ps, hparts, hjoined⟩ := parts_delimitCapitals hd hlower hrest
    rw [delimited_cons hascii hs.chars, List.map_cons, studly,
      parts_cons (not_separates_lower hc) hparts, List.flatMap_cons, upperFirst, upperFirst,
      upper_lower hc, List.cons_append, hjoined]

theorem delimited_eq_iff (hd : Separates d) (hlower : lower d = d) (hascii : d.toNat < 0x80)
    (hs : Plain s) (ht : Plain t) : delimited d s = delimited d t ↔ AlikeButFirst s t := by
  constructor
  · intro h
    apply alikeButFirst_of_upperFirst hs ht
    rw [← studly_delimited hd hlower hascii hs, h, studly_delimited hd hlower hascii ht]
  · intro h
    obtain ⟨rfl, rfl⟩ | ⟨b, c, x, rfl, rfl, hfirst⟩ := h.cases
    · rfl
    · rw [delimited_cons hascii hs.chars, delimited_cons hascii ht.chars, List.map_cons,
        List.map_cons, hfirst]

theorem snakeCase_eq_iff {m m' : String} (hm : Plain m.toList) (hm' : Plain m'.toList) :
    snakeCase m = snakeCase m' ↔ AlikeButFirst m.toList m'.toList := by
  rw [← delimited_eq_iff (d := '_') (Or.inr (Or.inl rfl)) (by decide) (by decide) hm hm', snakeCase,
    snakeCase, String.ofList_inj]

theorem kebabCase_eq_iff {m m' : String} (hm : Plain m.toList) (hm' : Plain m'.toList) :
    kebabCase m = kebabCase m' ↔ AlikeButFirst m.toList m'.toList := by
  rw [← delimited_eq_iff (d := '-') (Or.inl rfl) (by decide) (by decide) hm hm', kebabCase,
    kebabCase, String.ofList_inj]

end Naming

/-! ### Names that are derived -/

namespace Synthesis

open Naming

variable {kind : Kind} {source : Source} {m m' : String}

/-- An attribute loses the case of its first character, which stands inside of the accessor. -/
theorem map_lower_eq_of_accessorAttribute (hm : Plain m.toList) (hm' : Plain m'.toList)
    (haccessor : isAccessor m = true) (haccessor' : isAccessor m' = true)
    (h : accessorAttribute m = accessorAttribute m') : m.toList.map lower = m'.toList.map lower := by
  obtain ⟨x, hx⟩ := exists_of_isAccessor haccessor
  obtain ⟨x', hx'⟩ := exists_of_isAccessor haccessor'
  rw [accessorAttribute_eq hx, accessorAttribute_eq hx'] at h
  have hplain : Plain (String.ofList x).toList := by
    simpa [Plain] using fun c hc => hm c (by simp [hx, hc])
  have hplain' : Plain (String.ofList x').toList := by
    simpa [Plain] using fun c hc => hm' c (by simp [hx', hc])
  have halike := (snakeCase_eq_iff hplain hplain').mp h
  rw [String.toList_ofList, String.toList_ofList] at halike
  rw [hx, hx']
  simp only [List.map_append, halike.map_lower]

theorem nodup_map_delimited {f : String → String} {methods : List String}
    (hf : ∀ m m' : String, Plain m.toList → Plain m'.toList →
      (f m = f m' ↔ AlikeButFirst m.toList m'.toList))
    (hcamel : ∀ m ∈ methods, Camel m.toList) (hdistinct : methods.Nodup) :
    (methods.map f).Nodup := by
  refine hdistinct.map_on fun m hm m' hm' heq => ?_
  have halike := (hf m m' (hcamel m hm).plain (hcamel m' hm').plain).mp heq
  exact String.toList_inj.mp ((hcamel m hm).eq_of_alikeButFirst (hcamel m' hm') halike)

/-- Methods that are distinct and begin with no capital have distinct derived names. -/
theorem nodup_families_of_camel (hcamel : ∀ m ∈ source.testable, Camel m.toList)
    (hdistinct : source.testable.Nodup)
    (haccessors : kind = .model →
      ((source.methods.filter isAccessor).map fun m => m.toList.map lower).Nodup) :
    ∀ family ∈ families kind source, family.Nodup := by
  cases kind with
  | plain | service | controller =>
    intro family hfamily
    obtain rfl := List.mem_singleton.mp hfamily
    exact nodup_map_delimited (fun _ _ => snakeCase_eq_iff) hcamel hdistinct
  | model =>
    intro family hfamily
    have haccessors := haccessors rfl
    rw [← filter_testable (by decide)] at haccessors
    rw [families, ← filter_testable (by decide), ← filter_testable (by decide)] at hfamily
    rcases List.mem_cons.mp hfamily with rfl | hfamily
    · exact nodup_map_delimited (fun _ _ => snakeCase_eq_iff)
        (fun m hm => hcamel m (List.mem_filter.mp hm).1) (hdistinct.filter isRelationship)
    · obtain rfl := List.mem_singleton.mp hfamily
      refine nodup_map_of haccessors fun m hm m' hm' => ?_
      obtain ⟨hmem, haccessor⟩ := List.mem_filter.mp hm
      obtain ⟨hmem', haccessor'⟩ := List.mem_filter.mp hm'
      exact map_lower_eq_of_accessorAttribute (hcamel m hmem).plain (hcamel m' hmem').plain
        haccessor haccessor'

/-- Plain names are read back from their words, but for the case of the first character, whether
the words are joined by underscores or by hyphens. Two plain names therefore have one form just when
they are alike, and methods that begin with no capital get test cases and routes of their own; only
of accessors it takes more than the case to tell them apart. -/
theorem words_kept :
    (∀ s : String, Plain s.toList →
      (studlyCase (snakeCase s)).toList = upperFirst s.toList ∧
      (studlyCase (kebabCase s)).toList = upperFirst s.toList) ∧
    (∀ s t : String, Plain s.toList → Plain t.toList →
      (snakeCase s = snakeCase t ↔ AlikeButFirst s.toList t.toList) ∧
      (kebabCase s = kebabCase t ↔ AlikeButFirst s.toList t.toList)) ∧
    ∀ (kind : Kind) (cls : String) (path : Path) (text : String),
      (∀ m ∈ (Source.ofText path text).testable, Camel m.toList) →
      (Source.ofText path text).testable.Nodup →
      (kind = .model → (((Source.ofText path text).methods.filter isAccessor).map
        fun m => m.toList.map lower).Nodup) →
      ((testCases kind cls (.ofText path text)).map TestCase.name).Nodup ∧
      ((Source.ofText path text).testable.map kebabCase).Nodup := by
  refine ⟨fun s hs => ?_, fun s t hs ht => ⟨snakeCase_eq_iff hs ht, kebabCase_eq_iff hs ht⟩, ?_⟩
  · simp only [studlyCase, snakeCase, kebabCase, String.toList_ofList]
    exact ⟨studly_delimited (Or.inr (Or.inl rfl)) (by decide) (by decide) hs,
      studly_delimited (Or.inl rfl) (by decide) (by decide) hs⟩
  · intro kind cls path text hcamel hdistinct haccessors
    have hmethods : ∀ m ∈ (Source.ofText path text).methods, ∀ c ∈ m.toList, isWordChar c = true :=
      fun m hm => (isWord_of_mem_publicMethods hm).chars
    rw [names_testCases, nodup_testNames_iff hmethods]
    exact ⟨nodup_families_of_camel hcamel hdistinct haccessors,
      nodup_map_delimited (fun _ _ => kebabCase_eq_iff) hcamel hdistinct⟩

/-- A class with two methods that differ in the case of a character, though not of the first. -/
def caseInside : String :=
  "class Foo { public function fooBar() {} public function foobar() {} }"

theorem camel_caseInside :
    ∀ m ∈ (Source.ofText ⟨"Foo.php"⟩ caseInside).testable, Camel m.toList := by
  have htestable : (Source.ofText ⟨"Foo.php"⟩ caseInside).testable = ["fooBar", "foobar"] := by
    decide +kernel
  rw [htestable]
  intro m hm
  rcases List.mem_cons.mp hm with rfl | hm
  · exact ⟨by decide, by rintro c ⟨rfl⟩; decide⟩
  · obtain rfl := List.mem_singleton.mp hm
    exact ⟨by decide, by rintro c ⟨rfl⟩; decide⟩

theorem words_kept_caseInside :
    Plain "getHTTPCode2".toList ∧
      (studlyCase (snakeCase "getHTTPCode2")).toList = upperFirst "getHTTPCode2".toList ∧
      AlikeButFirst "index".toList "Index".toList ∧ snakeCase "index" = snakeCase "Index" ∧
      (∀ m ∈ (Source.ofText ⟨"Foo.php"⟩ caseInside).testable, Camel m.toList) ∧
      ((testCases .controller "Foo" (.ofText ⟨"Foo.php"⟩ caseInside)).map TestCase.name).Nodup := by
  obtain ⟨hread, halike, hnames⟩ := words_kept
  have hplain : Plain "getHTTPCode2".toList := by decide
  have hindex : AlikeButFirst "index".toList "Index".toList := by decide
  have hdistinct : (Source.ofText ⟨"Foo.php"⟩ caseInside).testable.Nodup := by decide +kernel
  refine ⟨hplain, (hread _ hplain).1, hindex, ?_, camel_caseInside, ?_⟩
  · exact (halike "index" "Index" (by decide) (by decide)).1.mpr hindex
  · exact (hnames .controller "Foo" _ caseInside camel_caseInside hdistinct (by simp)).1

end Synthesis
end SuiteForge
