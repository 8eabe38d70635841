import SuiteForge.Proofs.Php.Introspection
import SuiteForge.Proofs.Text.Lines

/-!
# Separators in a source

A declaration is made of words with white space between them, so none of them reaches over a
character that is neither. A source with such a character in it declares what the two texts around
the character declare.
-/

namespace SuiteForge.Php

open Text

variable {c : Char} {t w : List Char}

/-- Neither in an identifier nor white space. -/
structure Separates (c : Char) : Prop where
  notWord : isWordChar c = false
  notBlank : isBlank c = false

namespace Separates

theorem notMem (h : Separates c) (hw : w.all isWordChar = true) : c ∉ w := by
  intro hc
  have hword := h.notWord
  simp [List.all_eq_true.mp hw c hc] at hword

/-! ### Declarations -/

theorem stopsAt_nameBehindBlank? (h : Separates c) : StopsAt (c :: t) nameBehindBlank? := by
  intro s
  unfold nameBehindBlank?
  rw [takeWhile_append_cons h.notBlank, dropWhile_append_cons h.notBlank]
  split
  · rfl
  · simp only [takeWhile_append_cons h.notWord, dropWhile_append_cons h.notWord]
    cases (s.dropWhile isBlank).takeWhile isWordChar <;> rfl

theorem stopsAt_classAt (h : Separates c) : StopsAt (c :: t) classAt :=
  stopsAt_after (h.notMem (by decide)) h.stopsAt_nameBehindBlank?

theorem stopsAt_methodAt (h : Separates c) : StopsAt (c :: t) methodAt := by
  refine stopsAt_after (h.notMem (by decide)) fun s => ?_
  rw [takeWhile_append_cons h.notBlank, dropWhile_append_cons h.notBlank]
  split
  · rfl
  · exact stopsAt_after (w := "function".toList) (h.notMem (by decide))
      h.stopsAt_nameBehindBlank? (s.dropWhile isBlank)

/-! ### Sources -/

theorem publicMethods_append (h : Separates c) (a b : String) :
    publicMethods (a ++ String.singleton c ++ b) = publicMethods a ++ publicMethods b := by
  rw [publicMethods, toList_around, h.stopsAt_methodAt.allMatches_append rfl, List.map_append]
  rfl

theorem className?_append (h : Separates c) (a b : String) :
    className? (a ++ String.singleton c ++ b) = (className? a).or (className? b) := by
  rw [className?, toList_around, h.stopsAt_classAt.firstMatch_append, className?, className?]
  cases firstMatch classAt a.toList <;> rfl

end Separates

/-- Around a character that is neither in an identifier nor white space, a source is read in two:
its methods are those of the text in front and then those of the text behind, and its class is the
first one in front, or the first one behind if there is none. -/
theorem source_read_in_two (hword : isWordChar c = false) (hblank : isBlank c = false)
    (a b : String) :
    publicMethods (a ++ String.singleton c ++ b) = publicMethods a ++ publicMethods b ∧
      className? (a ++ String.singleton c ++ b) = (className? a).or (className? b) := by
  have hseparates : Separates c := ⟨hword, hblank⟩
  exact ⟨hseparates.publicMethods_append a b, hseparates.className?_append a b⟩

/-- A semicolon in the middle of a declaration: the word in front of it declares nothing, and the
class is the next one. -/
theorem source_read_in_two_cutDeclaration :
    publicMethods "public function run() class; Cut { public function go }  class Whole" =
        ["run", "go"] ∧
      className? "public function run() class; Cut { public function go }  class Whole" =
        some "Whole" := by
  obtain ⟨hmethods, hclass⟩ := source_read_in_two (c := ';') (by decide) (by decide)
    "public function run() class" " Cut { public function go }  class Whole"
  exact ⟨hmethods.trans (by decide), hclass.trans (by decide)⟩

end SuiteForge.Php
