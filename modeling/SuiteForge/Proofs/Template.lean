import SuiteForge.Proofs.Text.Scanning
import SuiteForge.Template

/-!
# Filled templates

A template is filled part by part: text without double braces stays as it is, and a placeholder is
replaced by its value.
-/

namespace SuiteForge.Template

open Text

variable {values : Placeholders} {key value ns cls methods : String} {name rest s : List Char}

/-! ### Markers -/

def marker (name : List Char) : List Char := '\x7b' :: '\x7b' :: (name ++ ['\x7d', '\x7d'])

@[simp] theorem length_marker (name : List Char) : (marker name).length = name.length + 4 := by
  simp [marker]

/-- A key that can stand in a marker. -/
def Bare (name : List Char) : Prop := ∀ c ∈ name, isBrace c = false

-- the characters of the name are looked at one by one, not all that there are
instance (name : List Char) : Decidable (Bare name) :=
  List.decidableBAll (fun c => isBrace c = false) name

theorem Bare.not_mem (hname : Bare name) : '\x7b' ∉ name ++ ['\x7d', '\x7d'] := by
  intro hmem
  rcases List.mem_append.mp hmem with hmem | hmem
  · exact absurd (hname _ hmem) (by decide)
  · exact absurd hmem (by decide)

/-- A placeholder is read just where a marker stands. -/
theorem placeholderAt?_eq_some_iff :
    placeholderAt? s = some (name, rest) ↔ Bare name ∧ s = marker name ++ rest := by
  constructor
  · intro h
    unfold placeholderAt? at h
    split at h
    · rename_i inside
      split at h
      · rename_i behind hbehind
        obtain ⟨rfl, rfl⟩ := Prod.mk.inj (Option.some.inj h)
        refine ⟨fun c hc => ?_, ?_⟩
        · simpa using List.all_eq_true.mp List.all_takeWhile c hc
        · have hinside := (List.takeWhile_append_dropWhile (p := (!isBrace ·)) (l := inside)).symm
          rw [hbehind] at hinside
          simpa [marker] using hinside
      · cases h
    · cases h
  · rintro ⟨hbare, rfl⟩
    have hname : ∀ c ∈ name, (!isBrace c) = true := fun c hc => by simp [hbare c hc]
    have hclosing : isBrace '\x7d' = true := by decide
    simp [marker, placeholderAt?, List.dropWhile_append_of_pos hname,
      List.takeWhile_append_of_pos hname, hclosing]

/-! ### Parts -/

theorem begins_filledAt (values : Placeholders) : Begins ['\x7b', '\x7b'] (filledAt values) := by
  intro s h
  have hplaceholder : placeholderAt? s = none := by
    unfold placeholderAt?
    split
    · simp [after?] at h
    · rfl
  simp [filledAt, hplaceholder]

/-- Text without double braces stays as it is. -/
theorem fill_literal {literal : List Char} (h : clear ['\x7b', '\x7b'] literal = true)
    (s : List Char) :
    replaceMatches (filledAt values) (literal ++ s) =
      literal ++ replaceMatches (filledAt values) s :=
  (inert_of_clear (begins_filledAt values) h).replaceMatches_append s

/-- A marker is replaced by its value. -/
theorem fill_marker (hname : Bare name) (hvalue : values.get? (String.ofList name) = some value)
    (rest : List Char) :
    replaceMatches (filledAt values) (marker name ++ rest) =
      value.toList ++ replaceMatches (filledAt values) rest := by
  have hmatch : filledAt values (marker name ++ rest) = some (value.toList, rest) := by
    simp [filledAt, placeholderAt?_eq_some_iff.mpr ⟨hname, rfl⟩, hvalue]
  exact replaceMatches_of_match hmatch

theorem fill_key (hkey : key.toList.all (!isBrace ·) = true)
    (hvalue : values.get? key = some value) (s : List Char) :
    replaceMatches (filledAt values)
        ("\x7b\x7b".toList ++ (key.toList ++ ("\x7d\x7d".toList ++ s))) =
      value.toList ++ replaceMatches (filledAt values) s := by
  have hbare : Bare key.toList := fun c hc => by simpa using List.all_eq_true.mp hkey c hc
  have hmarker : "\x7b\x7b".toList ++ (key.toList ++ ("\x7d\x7d".toList ++ s)) =
      marker key.toList ++ s := by
    simp [marker]
  rw [hmarker, fill_marker hbare (by rwa [String.ofList_toList])]

/-! ### Built-in templates -/

theorem fill_opening (hns : values.get? "NAMESPACE" = some ns) (s : List Char) :
    replaceMatches (filledAt values) (opening.toList ++ s) =
      "<?php\n\nnamespace ".toList ++ (ns.toList ++ (";\n\nuse Tests\\TestCase;\n".toList ++
        replaceMatches (filledAt values) s)) := by
  have hparts : opening.toList = "<?php\n\nnamespace ".toList ++ ("\x7b\x7b".toList ++
      ("NAMESPACE".toList ++ ("\x7d\x7d".toList ++
        ";\n\nuse Tests\\TestCase;\n".toList))) := by decide +kernel
  rw [hparts]
  simp only [List.append_assoc]
  rw [fill_literal (by decide), fill_key (by decide) hns, fill_literal (by decide)]

theorem fill_classImport (hkey : key.toList.all (!isBrace ·) = true)
    (hns : values.get? key = some ns) (hcls : values.get? "CLASS" = some cls) (s : List Char) :
    replaceMatches (filledAt values) ((classImport key).toList ++ s) =
      "use ".toList ++ (ns.toList ++ ("\\".toList ++ (cls.toList ++ (";\n\n".toList ++
        replaceMatches (filledAt values) s)))) := by
  have hparts : (classImport key).toList ++ s = "use ".toList ++ ("\x7b\x7b".toList ++
      (key.toList ++ ("\x7d\x7d".toList ++ ("\\".toList ++ ("\x7b\x7b".toList ++
        ("CLASS".toList ++ ("\x7d\x7d".toList ++ (";\n\n".toList ++ s)))))))) := by
    simp [classImport, String.toList_append]
  rw [hparts, fill_literal (by decide), fill_key hkey hns, fill_literal (by decide),
    fill_key (by decide) hcls, fill_literal (by decide)]

theorem fill_classOpening (hcls : values.get? "TEST_CLASS" = some cls) (s : List Char) :
    replaceMatches (filledAt values) (classOpening.toList ++ s) =
      "class ".toList ++ (cls.toList ++ (" extends TestCase\n\x7b\n".toList ++
        replaceMatches (filledAt values) s)) := by
  have hparts : classOpening.toList = "class ".toList ++ ("\x7b\x7b".toList ++
      ("TEST_CLASS".toList ++ ("\x7d\x7d".toList ++
        " extends TestCase\n\x7b\n".toList))) := by decide +kernel
  rw [hparts]
  simp only [List.append_assoc]
  rw [fill_literal (by decide), fill_key (by decide) hcls, fill_literal (by decide)]

theorem fill_closing (hmethods : values.get? "METHODS" = some methods) :
    replaceMatches (filledAt values) closing.toList = methods.toList ++ "\n\x7d\n".toList := by
  have hparts : closing.toList = "\x7b\x7b".toList ++ ("METHODS".toList ++ ("\x7d\x7d".toList ++
      ("\n\x7d\n".toList ++ []))) := rfl
  rw [hparts, fill_key (by decide) hmethods, fill_literal (by decide)]
  rfl

end SuiteForge.Template
