import SuiteForge.Proofs.Php.Introspection
import SuiteForge.Proofs.Text.Trimming

/-!
# Namespaces

As a pattern a namespace is a keyword, a repetition of white space, a repetition of anything but
semicolons, and a semicolon. Both repetitions can take white space, so a matcher has to give some of
it back where the name would be empty otherwise. Where the line between the two is drawn makes no
difference to the trimmed name, and a scan for the next semicolon is all that is needed.
-/

namespace SuiteForge.Php

open Text

variable {p : Char → Bool} {s run rest rest' name between between' : List Char}

/-! ### The pattern -/

/-- The nonempty runs in front of a text, each with what is behind it. The longest one is first: so
a greedy repetition tries them. -/
def runs (p : Char → Bool) : List Char → List (List Char × List Char)
  | [] => []
  | c :: cs =>
    if p c then (runs p cs).map (fun (run, rest) => (c :: run, rest)) ++ [([c], cs)] else []

/-- The names that the pattern can find in front of a text, each with what is behind its semicolon,
in the order in which they are tried. -/
def namespaceTries (s : List Char) : List (List Char × List Char) :=
  (after? "namespace".toList s).toList.flatMap fun s =>
    (runs isBlank s).flatMap fun (_, s) =>
      (runs (· ≠ ';') s).filterMap fun (name, s) => (after? [';'] s).map (name, ·)

/-- The first try that succeeds. -/
def namespacePattern : Recogniser (List Char) := fun s => (namespaceTries s).head?

theorem mem_runs_iff : (run, rest) ∈ runs p s ↔
    run ≠ [] ∧ (∀ c ∈ run, p c = true) ∧ s = run ++ rest := by
  induction s generalizing run with
  | nil => simp +contextual [runs]
  | cons c cs ih =>
    constructor
    · intro h
      unfold runs at h
      split at h
      · rename_i hc
        rcases List.mem_append.mp h with h | h
        · obtain ⟨⟨run', rest'⟩, hmem, heq⟩ := List.mem_map.mp h
          cases heq
          obtain ⟨-, hrun, rfl⟩ := ih.mp hmem
          exact ⟨by simp, List.forall_mem_cons.mpr ⟨hc, hrun⟩, rfl⟩
        · obtain ⟨rfl, rfl⟩ : run = [c] ∧ rest = cs := by simpa using h
          exact ⟨by simp, List.forall_mem_singleton.mpr hc, rfl⟩
      · cases h
    · rintro ⟨hne, hrun, hs⟩
      obtain ⟨d, run, rfl⟩ := List.exists_cons_of_ne_nil hne
      obtain ⟨rfl, rfl⟩ : c = d ∧ cs = run ++ rest := by simpa using hs
      obtain ⟨hc, hrun⟩ := List.forall_mem_cons.mp hrun
      rw [runs, if_pos hc]
      apply List.mem_append.mpr
      by_cases hlast : run = []
      · right
        simp [hlast]
      · left
        exact List.mem_map.mpr ⟨(run, rest), ih.mpr ⟨hlast, hrun, rfl⟩, rfl⟩

theorem forall_ne_semicolon_iff :
    (∀ c ∈ s, decide (c ≠ ';') = true) ↔ ';' ∉ s := by
  constructor
  · intro h hmem
    simpa using h ';' hmem
  · intro h c hc
    exact decide_eq_true fun heq => h (heq ▸ hc)

theorem mem_namespaceTries_iff : (name, rest) ∈ namespaceTries s ↔
    ∃ blanks, blanks ≠ [] ∧ (∀ c ∈ blanks, isBlank c = true) ∧ name ≠ [] ∧ ';' ∉ name ∧
      s = "namespace".toList ++ (blanks ++ (name ++ ';' :: rest)) := by
  constructor
  · intro h
    obtain ⟨behind, hkeyword, h⟩ := List.mem_flatMap.mp h
    obtain ⟨⟨blanks, inside⟩, hblanks, h⟩ := List.mem_flatMap.mp h
    obtain ⟨⟨name', closing⟩, hrun, h⟩ := List.mem_filterMap.mp h
    obtain ⟨rest', hrest, heq⟩ := Option.map_eq_some_iff.mp h
    cases heq
    obtain ⟨hne, hblank, rfl⟩ := mem_runs_iff.mp hblanks
    obtain ⟨hname, hsemicolon, rfl⟩ := mem_runs_iff.mp hrun
    refine ⟨blanks, hne, hblank, hname, forall_ne_semicolon_iff.mp hsemicolon, ?_⟩
    rw [after?_eq_some.mp (Option.mem_toList.mp hkeyword), after?_eq_some.mp hrest]
    rfl
  · rintro ⟨blanks, hne, hblank, hname, hsemicolon, rfl⟩
    apply List.mem_flatMap.mpr
    refine ⟨blanks ++ (name ++ ';' :: rest), Option.mem_toList.mpr (after?_eq_some.mpr rfl), ?_⟩
    apply List.mem_flatMap.mpr
    refine ⟨(blanks, name ++ ';' :: rest), mem_runs_iff.mpr ⟨hne, hblank, rfl⟩, ?_⟩
    apply List.mem_filterMap.mpr
    have hkept := forall_ne_semicolon_iff.mpr hsemicolon
    refine ⟨(name, ';' :: rest), mem_runs_iff.mpr ⟨hname, hkept, rfl⟩, ?_⟩
    exact Option.map_eq_some_iff.mpr ⟨rest, after?_eq_some.mpr rfl, rfl⟩

/-! ### Declarations -/

/-- In front of a text stands the keyword. Behind it there are two characters or more up to the next
semicolon, of which the first is white space. -/
structure Declares (s between rest : List Char) : Prop where
  stands : s = "namespace".toList ++ (between ++ ';' :: rest)
  closed : ';' ∉ between
  blank : ∀ c, between.head? = some c → isBlank c = true
  distant : 2 ≤ between.length

theorem Declares.unique (h : Declares s between rest) (h' : Declares s between' rest') :
    between = between' ∧ rest = rest' := by
  have hcut : splitOnce [';'] (between ++ ';' :: rest) = some (between, rest) :=
    splitOnce_singleton_iff.mpr ⟨h.closed, rfl⟩
  have hbehind : between ++ ';' :: rest = between' ++ ';' :: rest' :=
    List.append_cancel_left (h.stands.symm.trans h'.stands)
  rw [hbehind, splitOnce_singleton_iff.mpr ⟨h'.closed, rfl⟩] at hcut
  cases hcut
  exact ⟨rfl, rfl⟩

/-- White space and a name can be told apart in what a declaration encloses. -/
theorem Declares.exists_try (h : Declares s between rest) :
    ∃ name, (name, rest) ∈ namespaceTries s := by
  obtain ⟨b, name, rfl⟩ : ∃ b name, between = b :: name := by
    cases between with
    | nil => exact absurd h.distant (by decide)
    | cons b name => exact ⟨b, name, rfl⟩
  have hname : name ≠ [] := by
    rintro rfl
    exact absurd h.distant (by simp)
  refine ⟨name, mem_namespaceTries_iff.mpr ⟨[b], by simp, ?_, hname, ?_, h.stands⟩⟩
  · exact List.forall_mem_singleton.mpr (h.blank b rfl)
  · exact fun hmem => h.closed (List.mem_cons_of_mem b hmem)

/-- Wherever the white space ends, the trimmed name is what the declaration encloses, trimmed. -/
theorem declares_of_mem_namespaceTries (h : (name, rest) ∈ namespaceTries s) :
    ∃ between, Declares s between rest ∧ trim between = trim name := by
  obtain ⟨blanks, hne, hblank, hname, hsemicolon, hs⟩ := mem_namespaceTries_iff.mp h
  refine ⟨blanks ++ name, ⟨?_, ?_, ?_, ?_⟩, trim_blank_append hblank name⟩
  · rw [hs, List.append_assoc]
  · intro hmem
    rcases List.mem_append.mp hmem with hmem | hmem
    · exact absurd (hblank ';' hmem) (by decide)
    · exact hsemicolon hmem
  · intro c hc
    rw [List.head?_append_of_ne_nil _ hne] at hc
    exact hblank c (List.mem_of_mem_head? hc)
  · have hblanks := List.length_pos_iff.mpr hne
    have hnames := List.length_pos_iff.mpr hname
    rw [List.length_append]
    omega

theorem declares_of_namespaceAt (h : namespaceAt s = some (name, rest)) :
    ∃ between, Declares s between rest ∧ name = trim between := by
  obtain ⟨behind, hkeyword, h⟩ := Option.bind_eq_some_iff.mp h
  split at h
  case h_1 b c more d rest' hfront hback =>
    split at h
    case isTrue hb =>
      cases h
      have hparts : behind = (b :: c :: more) ++ d :: rest := by
        rw [← hfront, ← hback]
        exact List.takeWhile_append_dropWhile.symm
      have hend := List.head?_dropWhile_not (· ≠ ';') behind
      rw [hback] at hend
      obtain rfl : d = ';' := by simpa using hend
      refine ⟨b :: c :: more, ⟨?_, ?_, ?_, ?_⟩, ?_⟩
      · rw [after?_eq_some.mp hkeyword, hparts]
      · rw [← hfront]
        exact forall_ne_semicolon_iff.mp (List.all_eq_true.mp List.all_takeWhile)
      · rintro c ⟨rfl⟩
        exact hb
      · simp
      · exact (trim_blank_append (List.forall_mem_singleton.mpr hb) (c :: more)).symm
    case isFalse => cases h
  case h_2 => cases h

theorem Declares.namespaceAt_eq (h : Declares s between rest) :
    namespaceAt s = some (trim between, rest) := by
  obtain ⟨b, c, more, rfl⟩ : ∃ b c more, between = b :: c :: more := by
    have hdistant := h.distant
    match between with
    | b :: c :: more => exact ⟨b, c, more, rfl⟩
  have hkept := forall_ne_semicolon_iff.mpr h.closed
  have hend : ∀ a, (';' :: rest).head? = some a → decide (a ≠ ';') = false := by
    rintro a ⟨rfl⟩
    decide
  have hb : isBlank b = true := h.blank b rfl
  have htrim : trim (b :: c :: more) = trim (c :: more) :=
    trim_blank_append (List.forall_mem_singleton.mpr hb) (c :: more)
  simp only [namespaceAt, after?_eq_some.mpr h.stands, Option.bind_eq_bind, Option.bind_some,
    takeWhile_run hkept hend, dropWhile_run hkept hend, hb, if_true, htrim]

/-- However a matcher shares out the white space, it finds the name that the scan finds. -/
theorem namespacePattern_trim (s : List Char) :
    (namespacePattern s).map (fun found => trim found.1) = (namespaceAt s).map Prod.fst := by
  unfold namespacePattern
  cases htries : namespaceTries s with
  | nil =>
    cases hfound : namespaceAt s with
    | none => rfl
    | some found =>
      obtain ⟨between, h, -⟩ := declares_of_namespaceAt hfound
      obtain ⟨name, hname⟩ := h.exists_try
      rw [htries] at hname
      cases hname
  | cons found tries =>
    have hfirst : (found.1, found.2) ∈ namespaceTries s := htries ▸ List.mem_cons_self
    obtain ⟨between, h, htrim⟩ := declares_of_mem_namespaceTries hfirst
    rw [h.namespaceAt_eq, htrim]
    rfl

/-! ### The first declaration -/

/-- What the first declaration of a text encloses. -/
def FirstDeclared (s between : List Char) : Prop :=
  ∃ i rest, Declares (s.drop i) between rest ∧
    ∀ j < i, ∀ between rest, ¬ Declares (s.drop j) between rest

theorem FirstDeclared.unique (h : FirstDeclared s between) (h' : FirstDeclared s between') :
    between = between' := by
  obtain ⟨i, rest, hi, hbefore⟩ := h
  obtain ⟨j, rest', hj, hbefore'⟩ := h'
  rcases Nat.lt_trichotomy i j with hlt | rfl | hlt
  · exact absurd hi (hbefore' i hlt between rest)
  · exact (hi.unique hj).1
  · exact absurd hj (hbefore j hlt between' rest')

theorem firstDeclared_or_none (s : List Char) :
    (∃ between, FirstDeclared s between ∧ firstMatch namespaceAt s = some (trim between)) ∨
      (∀ i between rest, ¬ Declares (s.drop i) between rest) ∧
        firstMatch namespaceAt s = none := by
  have hnone {i : Nat} (hi : namespaceAt (s.drop i) = none) (between rest : List Char) :
      ¬ Declares (s.drop i) between rest := by
    intro h
    rw [h.namespaceAt_eq] at hi
    cases hi
  rcases firstMatch_cases namespaceAt s with ⟨i, name, rest, hi, hbefore, hfound⟩ | ⟨hall, hfound⟩
  · left
    obtain ⟨between, h, rfl⟩ := declares_of_namespaceAt hi
    exact ⟨between, ⟨i, rest, h, fun j hj => hnone (hbefore j hj)⟩, hfound⟩
  · right
    exact ⟨fun i => hnone (hall i), hfound⟩

theorem namespaceOf_toList (text : String) :
    (namespaceOf text).toList = (firstMatch namespaceAt text.toList).getD [] := by
  rw [namespaceOf, String.toList_ofList]

/-- The namespace of a text is what the first keyword with white space right behind it and the next
semicolon not too near encloses, trimmed, and nothing if there is no such keyword. A matcher that
gives white space back finds the same. The namespace has no semicolon in it and no white space at
its ends. -/
theorem namespace_by_plain_scan (text : String) :
    ((∃ between, FirstDeclared text.toList between ∧
          (namespaceOf text).toList = trim between) ∨
        (∀ i between rest, ¬ Declares (text.toList.drop i) between rest) ∧
          namespaceOf text = "") ∧
      (namespaceOf text).toList =
        ((firstMatch namespacePattern text.toList).map trim).getD [] ∧
      ';' ∉ (namespaceOf text).toList ∧ Trimmed (namespaceOf text).toList := by
  have hpattern : (firstMatch namespacePattern text.toList).map trim =
      firstMatch namespaceAt text.toList := firstMatch_map namespacePattern_trim text.toList
  rw [hpattern]
  rcases firstDeclared_or_none text.toList with ⟨between, h, hfound⟩ | ⟨hnone, hfound⟩
  · have hnamespace : (namespaceOf text).toList = trim between := by
      rw [namespaceOf_toList, hfound, Option.getD_some]
    refine ⟨Or.inl ⟨between, h, hnamespace⟩, namespaceOf_toList text, ?_, ?_⟩
    · obtain ⟨i, rest, hdeclares, -⟩ := h
      rw [hnamespace]
      intro hmem
      exact hdeclares.closed (mem_of_mem_trim hmem)
    · rw [hnamespace]
      exact trimmed_trim between
  · have hnamespace : (namespaceOf text).toList = [] := by
      rw [namespaceOf_toList, hfound, Option.getD_none]
    refine ⟨Or.inr ⟨hnone, String.toList_eq_nil_iff.mp hnamespace⟩, namespaceOf_toList text, ?_, ?_⟩
    · rw [hnamespace]
      exact List.not_mem_nil
    · rw [hnamespace]
      exact trimmed_of_unblank (by simp)

/-- A keyword whose semicolon is right behind the blank declares nothing, and a blank alone is a
name that is trimmed to nothing. -/
example : namespaceOf "namespace; namespace ; namespace A;" = "A" ∧
    namespaceOf "namespace  ; namespace A;" = "" := by cbv

end SuiteForge.Php
