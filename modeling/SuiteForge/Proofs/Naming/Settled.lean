import SuiteForge.Proofs.Text.Lowercase

/-!
# Settled names

A name whose words are delimited is a settled text, and a settled text is its own delimited name.
To delimit a name twice is therefore to delimit it once: the capital that is put in front the second
time never gets a delimiter, and it is lowered again.
-/

namespace SuiteForge

open Text

variable {s w : List Char} {c d : Char}

namespace Text

theorem isBlank_upper (h : isBlank c = false) : isBlank (upper c) = false := by
  rcases ascii_or_upper_eq c with hascii | hupper
  · exact of_ascii (P := fun c => isBlank c = false → isBlank (upper c) = false) (by decide)
      hascii h
  · rwa [hupper]

theorem unblank_of_mem_words (hw : w ∈ words s) : ∀ c ∈ w, isBlank c = false := by
  fun_induction words s generalizing w with
  | case1 => cases hw
  | case2 b rest hb ih => exact ih hw
  | case3 b hb =>
    rw [List.mem_singleton.mp hw]
    simpa using hb
  | case4 b hb d rest hd ih =>
    rcases List.mem_cons.mp hw with rfl | hw
    · simpa using hb
    · exact ih hw
  | case5 b hb d rest hd hnil ih =>
    rw [hnil] at hw
    rw [List.mem_singleton.mp hw]
    simpa using hb
  | case6 b hb d rest hd w₀ ws hcons ih =>
    rw [hcons] at hw ih
    rcases List.mem_cons.mp hw with rfl | hw
    · rw [List.forall_mem_cons]
      exact ⟨by simpa using hb, ih List.mem_cons_self⟩
    · exact ih (List.mem_cons_of_mem w₀ hw)

end Text

namespace Naming

theorem delimitCapitals_of_settled (hs : ∀ c ∈ s, Settled c) : delimitCapitals d s = s := by
  induction s with
  | nil => rfl
  | cons c s ih =>
    obtain ⟨hc, hs⟩ := List.forall_mem_cons.mp hs
    simp only [delimitCapitals, hc.not_capital, Bool.false_eq_true, if_false, ih hs]

theorem delimited_of_settled (hs : ∀ c ∈ s, Settled c) : delimited d s = s := by
  cases s with
  | nil => rfl
  | cons c s =>
    have hwords : words (c :: s) = [c :: s] :=
      words_of_unblank (by simp) fun b hb => (hs b hb).unblank
    have hrest : ∀ b ∈ s, Settled b := (List.forall_mem_cons.mp hs).2
    simp only [delimited, hwords, List.flatMap_singleton, upperFirst,
      delimitCapitals_of_settled hrest]
    exact lowercase_upperFirst hs

theorem settled_delimited (hd : isBlank d = false) (s : List Char) :
    ∀ c ∈ delimited d s, Settled c := by
  have hjoined : ∀ c ∈ (words s).flatMap upperFirst, isBlank c = false := by
    intro c hc
    obtain ⟨w, hw, hc⟩ := List.mem_flatMap.mp hc
    exact forall_upperFirst (P := fun c => isBlank c = false) (fun _ => isBlank_upper)
      (unblank_of_mem_words hw) c hc
  unfold delimited
  split
  · simp
  · rename_i c rest heq
    rw [heq] at hjoined
    obtain ⟨hc, hrest⟩ := List.forall_mem_cons.mp hjoined
    apply settled_lowercase
    rw [List.forall_mem_cons]
    exact ⟨hc, forall_delimitCapitals (P := fun c => isBlank c = false) hd hrest⟩

/-- The texts that are their own delimited names are the settled ones. -/
theorem delimited_eq_self_iff (hd : isBlank d = false) :
    delimited d s = s ↔ ∀ c ∈ s, Settled c := by
  constructor
  · intro h
    rw [← h]
    exact settled_delimited hd s
  · exact delimited_of_settled

theorem settled_name (hd : isBlank d = false) (s : String) :
    ∀ c ∈ (String.ofList (delimited d s.toList)).toList, Settled c := by
  rw [String.toList_ofList]
  exact settled_delimited hd s.toList

theorem name_eq_self_iff (hd : isBlank d = false) (s : String) :
    String.ofList (delimited d s.toList) = s ↔ ∀ c ∈ s.toList, Settled c := by
  rw [← delimited_eq_self_iff hd, ← String.toList_inj, String.toList_ofList]

/-- A settled character of an identifier is a small letter, a digit or an underscore. -/
theorem cases_of_settled (hc : Settled c) (hword : isWordChar c = true) :
    isLowerLetter c = true ∨ isDigit c = true ∨ c = '_' := by
  simpa [isWordChar, isLetter, hc.not_capital, or_assoc] using hword

/-- Names in words joined by underscores or by hyphens are settled: to join them again changes
nothing, and they have no white space and no capitals. Nothing else is its own name in words. Of an
identifier only small letters, digits and underscores are left. -/
theorem delimited_names_settled (s : String) :
    (snakeCase (snakeCase s) = snakeCase s ∧ kebabCase (kebabCase s) = kebabCase s) ∧
    (∀ name ∈ [snakeCase s, kebabCase s], ∀ c ∈ name.toList,
      isBlank c = false ∧ isUpperLetter c = false) ∧
    ((snakeCase s = s ↔ ∀ c ∈ s.toList, Settled c) ∧
      (kebabCase s = s ↔ ∀ c ∈ s.toList, Settled c)) ∧
    ((∀ c ∈ s.toList, isWordChar c = true) →
      ∀ c ∈ (snakeCase s).toList, isLowerLetter c = true ∨ isDigit c = true ∨ c = '_') := by
  have hsnake : ∀ c ∈ (snakeCase s).toList, Settled c := settled_name (by decide) s
  have hkebab : ∀ c ∈ (kebabCase s).toList, Settled c := settled_name (by decide) s
  have hself (name : String) : (snakeCase name = name ↔ ∀ c ∈ name.toList, Settled c) ∧
      (kebabCase name = name ↔ ∀ c ∈ name.toList, Settled c) :=
    ⟨name_eq_self_iff (by decide) name, name_eq_self_iff (by decide) name⟩
  refine ⟨⟨(hself _).1.mpr hsnake, (hself _).2.mpr hkebab⟩, ?_, hself s, ?_⟩
  · intro name hname c hc
    have hsettled : Settled c := by
      rcases List.mem_cons.mp hname with rfl | hname
      · exact hsnake c hc
      · rw [List.mem_singleton.mp hname] at hc
        exact hkebab c hc
    exact ⟨hsettled.unblank, hsettled.not_capital⟩
  · intro hword c hc
    exact cases_of_settled (hsnake c hc) (snakeCase_chars hword c hc)

theorem delimited_names_settled_acronym :
    (∀ c ∈ "getHTTPCode_2".toList, isWordChar c = true) ∧
      snakeCase "getHTTPCode_2" = "get_h_t_t_p_code_2" ∧
      snakeCase (snakeCase "getHTTPCode_2") = "get_h_t_t_p_code_2" ∧
      ∀ c ∈ (snakeCase "getHTTPCode_2").toList,
        isLowerLetter c = true ∨ isDigit c = true ∨ c = '_' := by
  have hword : ∀ c ∈ "getHTTPCode_2".toList, isWordChar c = true :=
    List.all_eq_true.mp (by decide)
  have hname : snakeCase "getHTTPCode_2" = "get_h_t_t_p_code_2" := by decide +kernel
  obtain ⟨⟨hagain, -⟩, -, -, hchars⟩ := delimited_names_settled "getHTTPCode_2"
  exact ⟨hword, hname, hagain.trans hname, hchars hword⟩

end Naming

end SuiteForge
