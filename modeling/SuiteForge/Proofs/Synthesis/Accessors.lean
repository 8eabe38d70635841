import SuiteForge.Proofs.Synthesis.Distinct

/-!
# Accessors

An accessor is named for a field, with a word in front of it and a word behind it. The two words are
taken off at the ends, however often they stand inside of the field. No accessor is a relationship,
so no method of a model gets two test cases.
-/

namespace SuiteForge.Synthesis

open Naming Php Text

variable {m : String} {field field' : String}

/-- The name of the accessor for a field. -/
def accessorName (field : String) : String := "get" ++ field ++ "Attribute"

theorem accessorName_toList (field : String) : (accessorName field).toList =
    "get".toList ++ (field.toList ++ "Attribute".toList) := by
  rw [accessorName, String.toList_append, String.toList_append, List.append_assoc]

theorem accessorName_inj : accessorName field = accessorName field' ↔ field = field' := by
  rw [← String.toList_inj, accessorName_toList, accessorName_toList, List.append_right_inj,
    List.append_left_inj, String.toList_inj]

theorem isAccessor_accessorName (field : String) :
    isAccessor (accessorName field) = true := by
  rw [isAccessor_iff, accessorName_toList]
  constructor
  · exact List.prefix_append _ _
  · rw [← List.append_assoc]
    exact List.suffix_append _ _

/-- An accessor is named for one field only. -/
theorem existsUnique_field (h : isAccessor m = true) : ∃! field, m = accessorName field := by
  obtain ⟨x, hx⟩ := exists_of_isAccessor h
  have hchars : (String.ofList x).toList = x := String.toList_ofList
  have hname : m = accessorName (String.ofList x) := by
    rw [← String.toList_inj, accessorName_toList, hchars, hx]
  refine ⟨String.ofList x, hname, fun field hfield => ?_⟩
  rw [hfield] at hname
  exact accessorName_inj.mp hname

theorem accessorAttribute_accessorName (field : String) :
    accessorAttribute (accessorName field) = snakeCase field := by
  rw [accessorAttribute_eq (accessorName_toList field), String.ofList_toList]

/-- The words with which relationships begin have other first letters than accessors. -/
theorem not_isRelationship_of_isAccessor (h : isAccessor m = true) : isRelationship m = false := by
  obtain ⟨⟨x, hx⟩, -⟩ := isAccessor_iff.mp h
  rw [← Bool.not_eq_true, isRelationship_iff, ← hx]
  rintro (hfront | hfront)
  · exact absurd (List.cons_prefix_cons.mp hfront).1 (by decide)
  · exact absurd (List.cons_prefix_cons.mp hfront).1 (by decide)

theorem length_relationships_add_accessors (methods : List String) :
    (methods.filter isRelationship).length + (methods.filter isAccessor).length ≤
      methods.length := by
  have hothers : methods.countP isAccessor ≤ methods.countP fun m => ¬ isRelationship m := by
    apply List.countP_mono_left
    intro m _ haccessor
    simp [not_isRelationship_of_isAccessor haccessor]
  rw [← List.countP_eq_length_filter, ← List.countP_eq_length_filter,
    List.length_eq_countP_add_countP isRelationship]
  omega

/-- The accessors are the methods with one word in front and the other one at the end. Each is named
for exactly one field, and its attribute is made of that field, whatever words stand inside. None is
a relationship, so beyond the three fixed test cases a model gets one for a method at most. -/
theorem accessor_words_stripped :
    (∀ m, (isAccessor m = true ↔ "get".toList <+: m.toList ∧ "Attribute".toList <:+ m.toList) ∧
      (isAccessor m = true ↔ ∃! field, m = accessorName field)) ∧
    (∀ field, accessorAttribute (accessorName field) = snakeCase field) ∧
    (∀ m, ¬ (isAccessor m = true ∧ isRelationship m = true)) ∧
    ∀ cls source, (testCases .model cls source).length ≤ 3 + source.methods.length := by
  refine ⟨fun m => ⟨isAccessor_iff, existsUnique_field, ?_⟩, accessorAttribute_accessorName, ?_, ?_⟩
  · rintro ⟨field, rfl, -⟩
    exact isAccessor_accessorName field
  · rintro m ⟨haccessor, hrelationship⟩
    rw [not_isRelationship_of_isAccessor haccessor] at hrelationship
    cases hrelationship
  · intro cls source
    have hmethods := length_relationships_add_accessors source.methods
    simp only [testCases, List.length_append, List.length_map, List.length_cons, List.length_nil]
    omega

/-- The words stand inside of this field as well. -/
theorem accessor_words_stripped_repeated :
    isAccessor "getgetAttributegetAttribute" = true ∧
      accessorAttribute "getgetAttributegetAttribute" = "get_attributeget" ∧
      ¬ isRelationship "getgetAttributegetAttribute" = true := by
  have hname : accessorName "getAttributeget" = "getgetAttributegetAttribute" := by decide
  obtain ⟨hrecognised, hstripped, hapart, -⟩ := accessor_words_stripped
  have haccessor : isAccessor "getgetAttributegetAttribute" = true :=
    (hrecognised "getgetAttributegetAttribute").1.mpr ⟨by decide, by decide⟩
  have hfield : snakeCase "getAttributeget" = "get_attributeget" := by decide +kernel
  refine ⟨haccessor, ?_, fun hrelationship => hapart _ ⟨haccessor, hrelationship⟩⟩
  rw [← hname, hstripped, hfield]

end SuiteForge.Synthesis
