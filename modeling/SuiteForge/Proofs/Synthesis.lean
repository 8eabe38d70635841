import SuiteForge.Proofs.Naming
import SuiteForge.Proofs.Php.Introspection
import SuiteForge.Synthesis

/-!
# Test methods that read back

The public methods in the text of some test cases are the test cases themselves, in order. Nothing
in a body is taken for one, whatever the class and its methods are called.
-/

namespace SuiteForge

open Php Text

/-! ### Names of test cases -/

/-- The names of the test cases for a class, in order. -/
def testNames (kind : Kind) (source : Source) : List String :=
  match kind with
  | .plain | .service =>
    "it_can_be_instantiated" ::
      source.testable.map fun m => "it_can_call_" ++ Naming.snakeCase m
  | .controller => source.testable.map fun m => "it_can_" ++ Naming.snakeCase m
  | .model =>
    ["it_can_create_a_model", "it_can_update_a_model", "it_can_delete_a_model"] ++
      (source.methods.filter Synthesis.isRelationship).map
        (fun m => "it_" ++ Naming.snakeCase m) ++
      (source.methods.filter Synthesis.isAccessor).map
        (fun m => "it_can_get_" ++ Naming.accessorAttribute m ++ "_attribute")

theorem names_testCases (kind : Kind) (cls : String) (source : Source) :
    (Synthesis.testCases kind cls source).map TestCase.name = testNames kind source := by
  cases kind with
  | plain | service =>
    simp only [Synthesis.testCases, testNames, List.map_cons, List.map_map]
    rfl
  | controller =>
    simp only [Synthesis.testCases, testNames, List.map_map]
    rfl
  | model =>
    simp only [Synthesis.testCases, testNames, List.map_append, List.map_cons, List.map_map]
    rfl

/-! ### Rendering -/

namespace TestCase

variable {t : TestCase}

/-- A test case that reads back: its name is an identifier, and no method begins in its body. -/
structure ReadsBack (t : TestCase) : Prop where
  name : IsWord t.name.toList
  body : ∀ line ∈ t.body, Inert methodAt line.toList

theorem inert_renderLine {line : String} (h : Inert methodAt line.toList) :
    Inert methodAt (renderLine line).toList := by
  unfold renderLine
  split
  · exact inert_of_clear keyed_methodAt.begins (by decide)
  · rw [String.toList_append, String.toList_append]
    exact ((inert_of_clear keyed_methodAt.begins (by decide)).append h).append
      (inert_of_clear keyed_methodAt.begins (by decide))

/-- The one method of a rendered test case is the test case. -/
theorem ReadsBack.allMatches_render (h : t.ReadsBack) (s : List Char) :
    allMatches methodAt (t.render.toList ++ s) = t.name.toList :: allMatches methodAt s := by
  have hrender : t.render.toList ++ s = "    /** @test */\n    ".toList ++
      ("public function ".toList ++ (t.name.toList ++ '(' :: (")\n    \x7b\n".toList ++
        ((t.body.map renderLine).flatMap String.toList ++ ("    \x7d".toList ++ s))))) := by
    have hfront : "    /** @test */\n    public function ".toList =
        "    /** @test */\n    ".toList ++ "public function ".toList := by decide +kernel
    have hback : "()\n    \x7b\n".toList = ['('] ++ ")\n    \x7b\n".toList := by decide +kernel
    unfold render
    simp only [String.toList_append, String.toList_join, List.append_assoc]
    rw [hfront, hback, List.append_assoc, List.append_assoc]
    rfl
  have hcomment : Inert methodAt "    /** @test */\n    ".toList :=
    inert_of_clear keyed_methodAt.begins (by decide)
  have hopening : Inert methodAt ('(' :: ")\n    \x7b\n".toList) :=
    inert_of_clear keyed_methodAt.begins (by decide)
  have hbody : Inert methodAt ((t.body.map renderLine).flatMap String.toList) := by
    refine .flatMap fun text htext => ?_
    obtain ⟨line, hline, rfl⟩ := List.mem_map.mp htext
    exact inert_renderLine (h.body line hline)
  have hclosing : Inert methodAt "    \x7d".toList :=
    inert_of_clear keyed_methodAt.begins (by decide)
  rw [hrender, hcomment.allMatches_append, allMatches_methodAt h.name (by decide),
    ← List.cons_append, hopening.allMatches_append, hbody.allMatches_append,
    hclosing.allMatches_append]

end TestCase

namespace Synthesis

variable {cls method : String} {source : Source} {kind : Kind} {t : TestCase}

/-- The methods of rendered test cases are the test cases. -/
theorem allMatches_intercalate (cases : List TestCase) (h : ∀ t ∈ cases, t.ReadsBack)
    (s : List Char) :
    allMatches methodAt (("\n\n".intercalate (cases.map TestCase.render)).toList ++ s) =
      cases.map (fun t => t.name.toList) ++ allMatches methodAt s := by
  have hgap : Inert methodAt "\n\n".toList := inert_of_clear keyed_methodAt.begins (by decide)
  induction cases with
  | nil => rfl
  | cons t cases ih =>
    have ht := h t List.mem_cons_self
    have hrest := ih fun t' ht' => h t' (List.mem_cons_of_mem t ht')
    cases cases with
    | nil => simpa using ht.allMatches_render s
    | cons t' cases =>
      rw [List.map_cons, List.map_cons, String.intercalate_cons_cons, ← List.map_cons,
        String.toList_append, String.toList_append, List.append_assoc, List.append_assoc,
        ht.allMatches_render, hgap.allMatches_append, hrest]
      rfl

/-! ### Bodies -/

/-- A line with an identifier, or something else without blanks, in it. -/
theorem inert_line {front back x : String} (hfront : clear "public".toList front.toList = true)
    (hx : ∀ c ∈ x.toList, isBlank c = false) (hback : closes "public".toList back.toList = true) :
    Inert methodAt (front ++ x ++ back).toList := by
  rw [String.toList_append, String.toList_append, List.append_assoc]
  exact inert_around keyed_methodAt hfront hx hback

theorem inert_literal {line : String} (h : clear "public".toList line.toList = true) :
    Inert methodAt line.toList :=
  inert_of_clear keyed_methodAt.begins h

/-- A method name that is itself a keyword has another word behind it in a comment. -/
theorem inert_before_method (hmethod : ∀ c ∈ method.toList, isWordChar c = true) :
    Inert methodAt (method.toList ++ " method".toList) := by
  intro y z rest h hz
  rcases List.append_eq_append_iff.mp h with ⟨front, hy, hback⟩ | ⟨front, hmethodList, rfl⟩
  · exact inert_of_clear keyed_methodAt.begins (by decide) front z rest hback hz
  · rw [List.append_assoc]
    cases hafter : after? "public".toList (front ++ (" method".toList ++ rest)) with
    | none => exact keyed_methodAt.begins _ hafter
    | some t =>
      rcases List.append_eq_append_iff.mp (after?_eq_some.mp hafter) with
        ⟨u, hpublic, hu⟩ | ⟨u, rfl, ht⟩
      · cases u with
        | nil =>
          rw [methodAt, hafter]
          obtain rfl : " method".toList ++ rest = t := hu
          rfl
        | cons b u =>
          obtain rfl : ' ' = b := (List.cons.inj hu).1
          have hspace : ' ' ∈ "public".toList := by simp [hpublic]
          exact absurd hspace (by decide)
      · cases u with
        | nil =>
          rw [methodAt, hafter, ht]
          rfl
        | cons b u =>
          refine keyed_methodAt _ fun b' t' hbt => ?_
          rw [hafter, ht] at hbt
          obtain rfl : b = b' := (List.cons.inj (Option.some.inj hbt)).1
          exact isBlank_of_isWordChar (hmethod b (by simp [hmethodList]))

theorem inert_comment (hmethod : ∀ c ∈ method.toList, isWordChar c = true) :
    Inert methodAt ("// Add test logic for " ++ method ++ " method").toList := by
  have hfront : Inert methodAt "// Add test logic for ".toList := inert_literal (by decide)
  simp only [String.toList_append, List.append_assoc]
  exact hfront.append (inert_before_method hmethod)

/-! ### Test cases -/

theorem isWord_append {front x : String} (hfront : IsWord front.toList)
    (hx : ∀ c ∈ x.toList, isWordChar c = true) : IsWord (front ++ x).toList := by
  rw [String.toList_append]
  refine ⟨by simp [hfront.nonempty], fun c hc => ?_⟩
  rcases List.mem_append.mp hc with hc | hc
  · exact hfront.chars c hc
  · exact hx c hc

theorem readsBack_instantiation (hcls : ∀ c ∈ cls.toList, isBlank c = false) :
    (instantiation cls).ReadsBack := by
  have hname : IsWord "it_can_be_instantiated".toList := isWord_of_all (by decide) (by decide)
  refine ⟨hname, fun line hline => ?_⟩
  simp only [instantiation, List.mem_cons, List.not_mem_nil, or_false] at hline
  rcases hline with rfl | rfl
  · exact inert_line (by decide) hcls (by decide)
  · exact inert_literal (by decide)

theorem readsBack_call (hcls : ∀ c ∈ cls.toList, isBlank c = false)
    (hmethod : ∀ c ∈ method.toList, isWordChar c = true) : (call cls method).ReadsBack := by
  refine ⟨isWord_append (isWord_of_all (by decide) (by decide)) (Naming.snakeCase_chars hmethod),
    fun line hline => ?_⟩
  simp only [call, List.mem_cons, List.not_mem_nil, or_false] at hline
  rcases hline with rfl | rfl | rfl
  · exact inert_line (by decide) hcls (by decide)
  · exact inert_comment hmethod
  · exact inert_literal (by decide)

theorem readsBack_request (hmethod : ∀ c ∈ method.toList, isWordChar c = true) :
    (request method).ReadsBack := by
  have hkebab : ∀ c ∈ (Naming.kebabCase method).toList, isBlank c = false := by
    intro c hc
    rcases Naming.kebabCase_chars hmethod c hc with hc | rfl
    · exact isBlank_of_isWordChar hc
    · decide
  refine ⟨isWord_append (isWord_of_all (by decide) (by decide)) (Naming.snakeCase_chars hmethod),
    fun line hline => ?_⟩
  simp only [request, List.mem_cons, List.not_mem_nil, or_false] at hline
  rcases hline with rfl | rfl | rfl
  · exact inert_line (by decide) hkebab (by decide)
  · exact inert_literal (by decide)
  · exact inert_literal (by decide)

theorem readsBack_create (hcls : ∀ c ∈ cls.toList, isBlank c = false) :
    (create cls).ReadsBack := by
  have hname : IsWord "it_can_create_a_model".toList := isWord_of_all (by decide) (by decide)
  refine ⟨hname, fun line hline => ?_⟩
  simp only [create, List.mem_cons, List.not_mem_nil, or_false] at hline
  rcases hline with rfl | rfl
  · exact inert_line (by decide) hcls (by decide)
  · exact inert_literal (by decide)

theorem readsBack_update (hcls : ∀ c ∈ cls.toList, isBlank c = false) :
    (update cls).ReadsBack := by
  have hname : IsWord "it_can_update_a_model".toList := isWord_of_all (by decide) (by decide)
  refine ⟨hname, fun line hline => ?_⟩
  simp only [update, List.mem_cons, List.not_mem_nil, or_false] at hline
  rcases hline with rfl | rfl | rfl | rfl | rfl | rfl
  · exact inert_line (by decide) hcls (by decide)
  all_goals exact inert_literal (by decide)

theorem readsBack_delete (hcls : ∀ c ∈ cls.toList, isBlank c = false) :
    (delete cls).ReadsBack := by
  have hname : IsWord "it_can_delete_a_model".toList := isWord_of_all (by decide) (by decide)
  refine ⟨hname, fun line hline => ?_⟩
  simp only [delete, List.mem_cons, List.not_mem_nil, or_false] at hline
  rcases hline with rfl | rfl | rfl | rfl | rfl | rfl
  · exact inert_line (by decide) hcls (by decide)
  · exact inert_literal (by decide)
  · exact inert_literal (by decide)
  · exact inert_literal (by decide)
  · exact inert_literal (by decide)
  · exact inert_line (by decide) hcls (by decide)

theorem readsBack_relationship (hcls : ∀ c ∈ cls.toList, isBlank c = false)
    (hmethod : ∀ c ∈ method.toList, isWordChar c = true) :
    (relationship cls method).ReadsBack := by
  refine ⟨isWord_append (isWord_of_all (by decide) (by decide)) (Naming.snakeCase_chars hmethod),
    fun line hline => ?_⟩
  simp only [relationship, List.mem_cons, List.not_mem_nil, or_false] at hline
  rcases hline with rfl | rfl | rfl | rfl
  · exact inert_line (by decide) hcls (by decide)
  · exact inert_line (by decide)
      (fun c hc => isBlank_of_isWordChar (Naming.relatedModel_chars hmethod c hc)) (by decide)
  · exact inert_literal (by decide)
  · exact inert_line (by decide) (fun c hc => isBlank_of_isWordChar (hmethod c hc)) (by decide)

theorem readsBack_accessor (hcls : ∀ c ∈ cls.toList, isBlank c = false)
    (hmethod : ∀ c ∈ method.toList, isWordChar c = true) : (accessor cls method).ReadsBack := by
  have hattribute := Naming.accessorAttribute_chars hmethod
  have hname : IsWord ("it_can_get_" ++ Naming.accessorAttribute method ++ "_attribute").toList :=
    isWord_append (isWord_append (isWord_of_all (by decide) (by decide)) hattribute)
      (List.all_eq_true.mp (by decide))
  refine ⟨hname, fun line hline => ?_⟩
  simp only [accessor, List.mem_cons, List.not_mem_nil, or_false] at hline
  rcases hline with rfl | rfl | rfl | rfl | rfl | rfl
  · exact inert_line (by decide) hcls (by decide)
  · exact inert_literal (by decide)
  · exact inert_literal (by decide)
  · exact inert_literal (by decide)
  · exact inert_literal (by decide)
  · exact inert_line (by decide) (fun c hc => isBlank_of_isWordChar (hattribute c hc)) (by decide)

/-- Every test case for a class reads back. -/
theorem readsBack_of_mem_testCases (hcls : IsWord cls.toList)
    (hmethods : ∀ m ∈ source.methods, IsWord m.toList) (ht : t ∈ testCases kind cls source) :
    t.ReadsBack := by
  have hunblank : ∀ c ∈ cls.toList, isBlank c = false :=
    fun c hc => isBlank_of_isWordChar (hcls.chars c hc)
  have htestable {m : String} (hm : m ∈ source.testable) :=
    (hmethods m (List.mem_filter.mp hm).1).chars
  cases kind with
  | plain | service =>
    rcases List.mem_cons.mp ht with rfl | ht
    · exact readsBack_instantiation hunblank
    · obtain ⟨m, hm, rfl⟩ := List.mem_map.mp ht
      exact readsBack_call hunblank (htestable hm)
  | controller =>
    obtain ⟨m, hm, rfl⟩ := List.mem_map.mp ht
    exact readsBack_request (htestable hm)
  | model =>
    rcases List.mem_append.mp ht with ht | ht
    · rcases List.mem_append.mp ht with ht | ht
      · simp only [List.mem_cons, List.not_mem_nil, or_false] at ht
        rcases ht with rfl | rfl | rfl
        · exact readsBack_create hunblank
        · exact readsBack_update hunblank
        · exact readsBack_delete hunblank
      · obtain ⟨m, hm, rfl⟩ := List.mem_map.mp ht
        exact readsBack_relationship hunblank (hmethods m (List.mem_filter.mp hm).1).chars
    · obtain ⟨m, hm, rfl⟩ := List.mem_map.mp ht
      exact readsBack_accessor hunblank (hmethods m (List.mem_filter.mp hm).1).chars

end Synthesis
end SuiteForge
