import SuiteForge.Proofs.Naming.Words

/-!
# Related models

The model that a relationship leads to is the name of its method without the words of relationships.
They are erased wherever they stand, so a model whose own name has such a word inside is missed.
-/

namespace SuiteForge

open Text

variable {s w : List Char} {c : Char}

/-! ### Erasing a word -/

namespace Text

theorem eraseAll_of_not_infix (h : ¬ w <:+: s) : eraseAll w s = s := by
  apply replaceMatches_of_none
  intro i
  rw [word, after?_drop_eq_none h i, Option.map_none]

theorem length_eraseAll_lt (hw : w ≠ []) (h : w <:+: s) : (eraseAll w s).length < s.length := by
  rw [eraseAll, replaceMatches]
  induction s with
  | nil => exact absurd (List.infix_nil.mp h) hw
  | cons c s ih =>
    unfold replaceFrom
    split
    · rename_i new rest hmatch
      obtain ⟨rfl, -⟩ := word_eq_some.mp hmatch
      exact Nat.lt_succ_of_le (replaceFrom_sublist w _ s).length_le
    · rename_i hnone
      -- a word that does not stand in front stands in the rest
      rcases List.infix_cons_iff.mp h with ⟨t, ht⟩ | hinfix
      · rw [word, after?_eq_some.mpr ht.symm, Option.map_some] at hnone
        cases hnone
      · exact Nat.succ_lt_succ (ih hinfix)

theorem eraseAll_append_self (hw : w ≠ []) (s : List Char) :
    eraseAll w (w ++ s) = eraseAll w s := by
  obtain ⟨c, x, rfl⟩ := List.exists_cons_of_ne_nil hw
  have hafter : after? (c :: x) (c :: (x ++ s)) = some s := after?_eq_some.mpr rfl
  have hmatch : word (c :: x) [] (c :: (x ++ s)) = some ([], s) := by
    rw [word, hafter, Option.map_some]
  exact replaceMatches_of_match hmatch

theorem begins_word (w : List Char) : Begins w (word w []) := by
  intro s hs
  rw [word, hs, Option.map_none]

/-- A piece in which no word begins is kept. -/
theorem eraseAll_append {x : List Char} (hx : clear w x = true) (s : List Char) :
    eraseAll w (x ++ s) = x ++ eraseAll w s :=
  (inert_of_clear (begins_word w) hx).replaceMatches_append s

end Text

/-! ### Models -/

namespace Naming

/-- A capital, and letters and digits behind it. -/
structure IsStudly (s : List Char) : Prop where
  plain : Plain s
  capital : ∃ c x, s = c :: x ∧ isUpperLetter c = true

/-- The words with which the names of relationships begin. -/
def relationWords : List String := ["has", "belongsTo"]

/-- A name in which no word of a relationship stands. -/
def Unrelated (s : List Char) : Prop := ∀ w ∈ relationWords, ¬ w.toList <:+: s

/-- What is left of a name without the words of relationships. -/
def erased (s : List Char) : List Char :=
  eraseAll "belongsTo".toList (eraseAll "has".toList s)

theorem erased_of_unrelated (h : Unrelated s) : erased s = s := by
  have hhas : eraseAll "has".toList s = s := eraseAll_of_not_infix (h "has" (by decide))
  rw [erased, hhas]
  exact eraseAll_of_not_infix (h "belongsTo" (by decide))

theorem length_erased_lt (h : ¬ Unrelated s) : (erased s).length < s.length := by
  by_cases hhas : "has".toList <:+: s
  · exact Nat.lt_of_le_of_lt (eraseAll_sublist _ _).length_le (length_eraseAll_lt (by decide) hhas)
  · -- the second word stands in what the first pass has left as it is
    have hbelongs : "belongsTo".toList <:+: s := by
      by_contra hbelongs
      refine h fun w hw => ?_
      rcases List.mem_cons.mp hw with rfl | hw
      · exact hhas
      · obtain rfl := List.mem_singleton.mp hw
        exact hbelongs
    rw [erased, eraseAll_of_not_infix hhas]
    exact length_eraseAll_lt (by decide) hbelongs

/-- A word of a relationship in front is erased, and nothing that reaches into the rest. -/
theorem erased_append {front : String} (h : front ∈ relationWords) (s : List Char) :
    erased (front.toList ++ s) = erased s := by
  rcases List.mem_cons.mp h with rfl | h
  · rw [erased, eraseAll_append_self (by decide), ← erased]
  · obtain rfl := List.mem_singleton.mp h
    rw [erased, eraseAll_append (by decide), eraseAll_append_self (by decide), ← erased]

theorem plain_erased (h : Plain s) : Plain (erased s) := fun c hc =>
  h c (((eraseAll_sublist _ _).trans (eraseAll_sublist _ _)).subset hc)

theorem parts_of_plain (h : Plain s) : parts s = [s] := by
  induction s with
  | nil => rfl
  | cons c s ih =>
    obtain ⟨hc, hs⟩ := List.forall_mem_cons.mp h
    have hne : ¬ Separates c := by
      rintro (rfl | rfl | rfl)
      · exact absurd hc (by decide)
      · exact absurd hc (by decide)
      · exact absurd hc (by decide)
    exact parts_cons hne (ih hs)

theorem studly_of_plain (h : Plain s) : studly s = upperFirst s := by
  rw [studly, parts_of_plain h, List.flatMap_singleton]

theorem length_upperFirst (s : List Char) : (upperFirst s).length = s.length := by
  cases s <;> rfl

theorem IsStudly.upperFirst_eq (h : IsStudly s) : upperFirst s = s := by
  obtain ⟨c, x, rfl, hc⟩ := h.capital
  rw [upperFirst, upper_of_isUpperLetter (h.plain c List.mem_cons_self) hc]

/-- The model of a relationship is what is left of the name behind the word. -/
theorem relatedModel_append {front model : String} (hfront : front ∈ relationWords)
    (hmodel : Plain model.toList) :
    (relatedModel (front ++ model)).toList = upperFirst (erased model.toList) := by
  have herased := erased_append hfront model.toList
  rw [erased, ← String.toList_append] at herased
  rw [relatedModel, String.toList_ofList, herased, studly_of_plain (plain_erased hmodel)]

theorem relatedModel_of_unrelated {front model : String} (hfront : front ∈ relationWords)
    (hmodel : IsStudly model.toList) (h : Unrelated model.toList) :
    relatedModel (front ++ model) = model := by
  rw [← String.toList_inj, relatedModel_append hfront hmodel.plain, erased_of_unrelated h,
    hmodel.upperFirst_eq]

theorem length_relatedModel_lt {front model : String} (hfront : front ∈ relationWords)
    (hmodel : IsStudly model.toList) (h : ¬ Unrelated model.toList) :
    (relatedModel (front ++ model)).length < model.length := by
  rw [← String.length_toList, ← String.length_toList, relatedModel_append hfront hmodel.plain,
    length_upperFirst]
  exact length_erased_lt h

end Naming

namespace Synthesis

open Naming

/-- The line of a test that makes a model related to the one under test. -/
def makesRelated (model : String) : String :=
  "$related = " ++ model ++ "::factory()->create(['user_id' => $model->id]);"

theorem makesRelated_inj {model model' : String} :
    makesRelated model = makesRelated model' ↔ model = model' := by
  rw [makesRelated, makesRelated, ← String.toList_inj, ← String.toList_inj]
  simp

/-- Only one line of a test for a relationship makes something related. -/
theorem makesRelated_mem_iff {cls method model : String} :
    makesRelated model ∈ (relationship cls method).body ↔ relatedModel method = model := by
  have hbegins : (makesRelated model).toList.take 2 = ['$', 'r'] := by simp [makesRelated]
  have hne {line : String} (h : line.toList.take 2 ≠ ['$', 'r']) : makesRelated model ≠ line := by
    rintro rfl
    exact h hbegins
  constructor
  · intro h
    simp only [relationship, List.mem_cons, List.not_mem_nil, or_false] at h
    rcases h with h | h | h | h
    · exact absurd h (hne (by simp))
    · exact (makesRelated_inj.mp h).symm
    · exact absurd h (hne (by simp))
    · exact absurd h (hne (by simp))
  · rintro rfl
    exact List.mem_cons_of_mem _ List.mem_cons_self

/-- A relationship leads to the model that it is named for just when no word of a relationship
stands inside the name of the model; then its test makes that model. Any other model gets a name
that is too short. -/
theorem related_model_right_iff {front model : String} (hfront : front ∈ relationWords)
    (hmodel : IsStudly model.toList) :
    (relatedModel (front ++ model) = model ↔ Unrelated model.toList) ∧
      (∀ cls, makesRelated model ∈ (relationship cls (front ++ model)).body ↔
        Unrelated model.toList) ∧
      (¬ Unrelated model.toList → (relatedModel (front ++ model)).length < model.length) := by
  have hright : relatedModel (front ++ model) = model ↔ Unrelated model.toList := by
    constructor
    · intro h
      by_contra hrelated
      have hshorter := length_relatedModel_lt hfront hmodel hrelated
      rw [h] at hshorter
      exact Nat.lt_irrefl _ hshorter
    · exact relatedModel_of_unrelated hfront hmodel
  refine ⟨hright, fun cls => ?_, length_relatedModel_lt hfront hmodel⟩
  rw [makesRelated_mem_iff, hright]

/-- The name of this model has `has` inside. -/
theorem related_model_right_iff_phase :
    "has" ∈ relationWords ∧ IsStudly "Phase".toList ∧ ¬ Unrelated "Phase".toList ∧
      relatedModel ("has" ++ "Phase") ≠ "Phase" ∧
      (relatedModel ("has" ++ "Phase")).length < "Phase".length := by
  have hfront : "has" ∈ relationWords := by decide
  have hmodel : IsStudly "Phase".toList := ⟨by decide, 'P', "hase".toList, rfl, by decide⟩
  have hrelated : ¬ Unrelated "Phase".toList :=
    fun h => h "has" hfront ⟨['P'], ['e'], rfl⟩
  obtain ⟨hright, -, hshorter⟩ := related_model_right_iff hfront hmodel
  exact ⟨hfront, hmodel, hrelated, fun h => hrelated (hright.mp h), hshorter hrelated⟩

end Synthesis

end SuiteForge
