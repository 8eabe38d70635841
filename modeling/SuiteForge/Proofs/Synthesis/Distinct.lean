import Mathlib.Data.List.Nodup
import SuiteForge.Proofs.Synthesis

/-!
# Names of test cases that differ

The fixed names and the families of derived ones never meet, so two test cases have one name only if
two methods of a family have one derived name. That takes two methods that differ in case and
underscores alone.
-/

namespace SuiteForge

open Php Text Naming

variable {m : String} {names names' : List String} {kind : Kind} {source : Source}

namespace Synthesis

/-! ### Accessors -/

theorem isAccessor_iff : isAccessor m = true ↔
    "get".toList <+: m.toList ∧ "Attribute".toList <:+ m.toList := by
  rw [isAccessor, Bool.and_eq_true, after?_isSome_iff, after?_isSome_iff, List.reverse_prefix]

/-- The word at the front and the word at the end of an accessor do not overlap. -/
theorem exists_of_isAccessor (h : isAccessor m = true) :
    ∃ x, m.toList = "get".toList ++ (x ++ "Attribute".toList) := by
  obtain ⟨⟨behind, hget⟩, front, hattribute⟩ := isAccessor_iff.mp h
  rw [← hget] at hattribute ⊢
  rcases List.append_eq_append_iff.mp hattribute with ⟨overlap, hoverlap, hrest⟩ | ⟨x, -, hx⟩
  · cases overlap with
    | nil => exact ⟨[], congrArg ("get".toList ++ ·) hrest.symm⟩
    | cons c overlap =>
      obtain rfl : 'A' = c := (List.cons.inj hrest).1
      have hmem : 'A' ∈ "get".toList := by simp [hoverlap]
      exact absurd hmem (by decide)
  · exact ⟨x, by rw [hx]⟩

theorem accessorAttribute_eq {x : List Char}
    (h : m.toList = "get".toList ++ (x ++ "Attribute".toList)) :
    accessorAttribute m = snakeCase (String.ofList x) := by
  rw [accessorAttribute, h, eraseFirst_append, eraseLast_append]

theorem isRelationship_iff : isRelationship m = true ↔
    "has".toList <+: m.toList ∨ "belongsTo".toList <+: m.toList := by
  rw [isRelationship, Bool.or_eq_true, after?_isSome_iff, after?_isSome_iff]

/-- The test of a relationship is not called like any other one. -/
theorem not_prefix_relationship (hm : ∀ c ∈ m.toList, isWordChar c = true)
    (h : isRelationship m = true) : ¬ "it_can_".toList <+: ("it_" ++ snakeCase m).toList := by
  have hfirst : ∃ c s, m.toList = c :: s ∧ lower c ≠ 'c' := by
    rcases isRelationship_iff.mp h with ⟨s, hs⟩ | ⟨s, hs⟩
    · exact ⟨'h', _, hs.symm, by decide⟩
    · exact ⟨'b', _, hs.symm, by decide⟩
  obtain ⟨c, s, hchars, hc⟩ := hfirst
  rw [String.toList_append, snakeCase_toList hchars hm]
  intro hprefix
  have hcan : "can_".toList <+: (c :: delimitCapitals '_' s).map lower :=
    (List.prefix_append_right_inj "it_".toList).mp hprefix
  exact hc (List.cons_prefix_cons.mp hcan).1.symm

/-! ### Families of derived names -/

/-- The names that are derived from methods, a family for each way of deriving them. -/
def families (kind : Kind) (source : Source) : List (List String) :=
  match kind with
  | .plain | .service | .controller => [source.testable.map snakeCase]
  | .model =>
    [(source.methods.filter isRelationship).map snakeCase,
      (source.methods.filter isAccessor).map accessorAttribute]

theorem nodup_map_between (front back : String) (f : String → String) (methods : List String) :
    (methods.map fun m => front ++ f m ++ back).Nodup ↔ (methods.map f).Nodup := by
  have hinjective : Function.Injective fun name => front ++ name ++ back := by
    intro a b h
    have hchars := congrArg String.toList h
    simpa [String.toList_append, ← String.toList_inj] using hchars
  have hmap : (methods.map fun m => front ++ f m ++ back) =
      (methods.map f).map fun name => front ++ name ++ back := by
    rw [List.map_map]
    rfl
  rw [hmap, List.nodup_map_iff hinjective]

theorem nodup_map_behind (front : String) (f : String → String) (methods : List String) :
    (methods.map fun m => front ++ f m).Nodup ↔ (methods.map f).Nodup := by
  simpa using nodup_map_between front "" f methods

/-- Names that can be told apart never meet. -/
theorem nodup_append_of {P : String → Prop} (hnames : ∀ name ∈ names, ¬ P name)
    (hnames' : ∀ name ∈ names', P name) :
    (names ++ names').Nodup ↔ names.Nodup ∧ names'.Nodup := by
  rw [List.nodup_append]
  constructor
  · exact fun h => ⟨h.1, h.2.1⟩
  · rintro ⟨h, h'⟩
    refine ⟨h, h', fun name hname name' hname' => ?_⟩
    rintro rfl
    exact hnames _ hname (hnames' _ hname')

/-- The names of test cases differ just when the derived names of each family do. -/
theorem nodup_testNames_iff (hmethods : ∀ m ∈ source.methods, ∀ c ∈ m.toList, isWordChar c = true) :
    (testNames kind source).Nodup ↔ ∀ family ∈ families kind source, family.Nodup := by
  cases kind with
  | plain | service =>
    rw [testNames, ← List.singleton_append,
      nodup_append_of (P := fun name => "it_can_call_".toList <+: name.toList) (by decide) ?_,
      nodup_map_behind]
    · simp [families]
    · intro name hname
      obtain ⟨m, -, rfl⟩ := List.mem_map.mp hname
      rw [String.toList_append]
      exact List.prefix_append _ _
  | controller => simp [testNames, families, nodup_map_behind]
  | model =>
    have hrelationships : ∀ name ∈ (source.methods.filter isRelationship).map
        (fun m => "it_" ++ snakeCase m), ¬ "it_can_".toList <+: name.toList := by
      intro name hname
      obtain ⟨m, hm, rfl⟩ := List.mem_map.mp hname
      obtain ⟨hmem, hrelationship⟩ := List.mem_filter.mp hm
      exact not_prefix_relationship (hmethods m hmem) hrelationship
    have hfixed : ∀ name ∈ ["it_can_create_a_model", "it_can_update_a_model",
        "it_can_delete_a_model"], "it_can_".toList <+: name.toList ∧
          ¬ "it_can_get_".toList <+: name.toList := by decide
    rw [testNames, nodup_append_of (P := fun name => "it_can_get_".toList <+: name.toList) ?_ ?_,
      nodup_append_of (P := fun name => ¬ "it_can_".toList <+: name.toList) ?_ hrelationships,
      nodup_map_behind, nodup_map_between]
    · simp [families]
    · exact fun name hname h => h (hfixed name hname).1
    · intro name hname hget
      rcases List.mem_append.mp hname with hname | hname
      · exact (hfixed name hname).2 hget
      · exact hrelationships name hname (List.IsPrefix.trans (by decide) hget)
    · intro name hname
      obtain ⟨m, -, rfl⟩ := List.mem_map.mp hname
      rw [String.toList_append, String.toList_append, List.append_assoc]
      exact List.prefix_append _ _

/-! ### Methods that differ -/

theorem nodup_map_of {f : String → String} {g : String → List Char} {methods : List String}
    (hmethods : (methods.map g).Nodup)
    (h : ∀ m ∈ methods, ∀ m' ∈ methods, f m = f m' → g m = g m') : (methods.map f).Nodup := by
  rw [List.Nodup, List.pairwise_map] at hmethods ⊢
  exact hmethods.imp_of_mem fun hm hm' hne heq => hne (h _ hm _ hm' heq)

theorem stem_eq_of_snakeCase {m m' : String} (hm : ∀ c ∈ m.toList, isWordChar c = true)
    (hm' : ∀ c ∈ m'.toList, isWordChar c = true) (h : snakeCase m = snakeCase m') :
    stem m.toList = stem m'.toList := by
  rw [← stem_snakeCase hm, ← stem_snakeCase hm', h]

theorem stem_eq_of_accessorAttribute {m m' : String} (hm : ∀ c ∈ m.toList, isWordChar c = true)
    (hm' : ∀ c ∈ m'.toList, isWordChar c = true) (haccessor : isAccessor m = true)
    (haccessor' : isAccessor m' = true) (h : accessorAttribute m = accessorAttribute m') :
    stem m.toList = stem m'.toList := by
  obtain ⟨x, hx⟩ := exists_of_isAccessor haccessor
  obtain ⟨x', hx'⟩ := exists_of_isAccessor haccessor'
  rw [accessorAttribute_eq hx, accessorAttribute_eq hx'] at h
  have hword : ∀ c ∈ (String.ofList x).toList, isWordChar c = true := by
    simpa using fun c hc => hm c (by simp [hx, hc])
  have hword' : ∀ c ∈ (String.ofList x').toList, isWordChar c = true := by
    simpa using fun c hc => hm' c (by simp [hx', hc])
  have hinside := stem_eq_of_snakeCase hword hword' h
  rw [String.toList_ofList, String.toList_ofList] at hinside
  rw [hx, hx', stem_append, stem_append, stem_append, stem_append, hinside]

/-- A constructor is neither a relationship nor an accessor. -/
theorem filter_testable {p : String → Bool} (hp : p "__construct" = false) :
    source.testable.filter p = source.methods.filter p := by
  rw [Source.testable, List.filter_filter]
  refine List.filter_congr fun m _ => ?_
  by_cases hm : m = "__construct"
  · simp [hm, hp]
  · simp [hm]

/-- The derived names differ where the methods differ in more than case and underscores. -/
theorem nodup_families (hmethods : ∀ m ∈ source.methods, ∀ c ∈ m.toList, isWordChar c = true)
    (h : (source.testable.map fun m => stem m.toList).Nodup) :
    ∀ family ∈ families kind source, family.Nodup := by
  have hwords : ∀ m ∈ source.testable, ∀ c ∈ m.toList, isWordChar c = true :=
    fun m hm => hmethods m (List.mem_filter.mp hm).1
  have hfilter (p : String → Bool) :
      ((source.testable.filter p).map fun m => stem m.toList).Nodup :=
    h.sublist (List.filter_sublist.map _)
  cases kind with
  | plain | service | controller =>
    intro family hfamily
    obtain rfl := List.mem_singleton.mp hfamily
    exact nodup_map_of h fun m hm m' hm' => stem_eq_of_snakeCase (hwords m hm) (hwords m' hm')
  | model =>
    intro family hfamily
    rw [families, ← filter_testable (by decide), ← filter_testable (by decide)] at hfamily
    rcases List.mem_cons.mp hfamily with rfl | hfamily
    · refine nodup_map_of (hfilter isRelationship) fun m hm m' hm' => ?_
      exact stem_eq_of_snakeCase (hwords m (List.mem_filter.mp hm).1)
        (hwords m' (List.mem_filter.mp hm').1)
    · obtain rfl := List.mem_singleton.mp hfamily
      refine nodup_map_of (hfilter isAccessor) fun m hm m' hm' => ?_
      obtain ⟨hmem, haccessor⟩ := List.mem_filter.mp hm
      obtain ⟨hmem', haccessor'⟩ := List.mem_filter.mp hm'
      exact stem_eq_of_accessorAttribute (hwords m hmem) (hwords m' hmem') haccessor haccessor'

/-- The test cases for a source have names that differ just when the derived names of each family
do; that is so where the methods differ in more than case and underscores, and therefore where they
have no underscores and differ in more than case. -/
theorem test_names_distinct (kind : Kind) (cls : String) (path : Path) (text : String) :
    (((testCases kind cls (.ofText path text)).map TestCase.name).Nodup ↔
      ∀ family ∈ families kind (.ofText path text), family.Nodup) ∧
    (((Source.ofText path text).testable.map fun m => stem m.toList).Nodup →
      ((testCases kind cls (.ofText path text)).map TestCase.name).Nodup) ∧
    (((Source.ofText path text).methods.map fun m => m.toList.map lower).Nodup →
      (∀ m ∈ (Source.ofText path text).testable, '_' ∉ m.toList) →
        ((testCases kind cls (.ofText path text)).map TestCase.name).Nodup) := by
  have hmethods : ∀ m ∈ (Source.ofText path text).methods, ∀ c ∈ m.toList, isWordChar c = true :=
    fun m hm => (isWord_of_mem_publicMethods hm).chars
  rw [names_testCases, nodup_testNames_iff hmethods]
  refine ⟨Iff.rfl, nodup_families hmethods, fun hdistinct hplain => nodup_families hmethods ?_⟩
  have hstems : (Source.ofText path text).testable.map (fun m => stem m.toList) =
      (Source.ofText path text).testable.map fun m => m.toList.map lower :=
    List.map_congr_left fun m hm =>
      stem_of_plain (hmethods m (List.mem_filter.mp hm).1) (hplain m hm)
  rw [hstems]
  exact hdistinct.sublist (List.filter_sublist.map _)

/-- A class with two method names, each in one spelling. -/
def oneSpelling : String :=
  "class Foo \x7b public function fooBar() \x7b\x7d public function baz() \x7b\x7d \x7d"

theorem test_names_distinct_oneSpelling :
    ((Source.ofText ⟨"Foo.php"⟩ oneSpelling).methods.map fun m => m.toList.map lower).Nodup ∧
      (∀ m ∈ (Source.ofText ⟨"Foo.php"⟩ oneSpelling).testable, '_' ∉ m.toList) ∧
      ((testCases .plain "Foo" (.ofText ⟨"Foo.php"⟩ oneSpelling)).map TestCase.name).Nodup := by
  have hdistinct : ((Source.ofText ⟨"Foo.php"⟩ oneSpelling).methods.map
      fun m => m.toList.map lower).Nodup := by decide +kernel
  have hplain : ∀ m ∈ (Source.ofText ⟨"Foo.php"⟩ oneSpelling).testable, '_' ∉ m.toList := by
    decide +kernel
  exact ⟨hdistinct, hplain,
    (test_names_distinct .plain "Foo" ⟨"Foo.php"⟩ oneSpelling).2.2 hdistinct hplain⟩

/-- A class with one method name in two spellings. -/
def twoSpellings : String :=
  "class Foo \x7b public function fooBar() \x7b\x7d public function foo_bar() \x7b\x7d \x7d"

theorem test_names_repeat_twoSpellings :
    ((Source.ofText ⟨"Foo.php"⟩ twoSpellings).methods.map fun m => m.toList.map lower).Nodup ∧
      ¬ ((testCases .plain "Foo" (.ofText ⟨"Foo.php"⟩ twoSpellings)).map TestCase.name).Nodup := by
  decide +kernel

end Synthesis
end SuiteForge
