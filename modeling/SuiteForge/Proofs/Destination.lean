import SuiteForge.Proofs.Disk.Landing
import SuiteForge.Proofs.Php.Introspection
import SuiteForge.Settings.Basic
import SuiteForge.TestFile

/-!
# Destinations

A test file goes into one of the two suites of the settings, under the name of a class.
-/

namespace SuiteForge

open Text (IsWord)

variable {settings : Settings} {root p : Path} {d : Disk} {cwd : Location}

/-- The test file of some class in one of the suites. -/
def IsDestination (settings : Settings) (root p : Path) : Prop :=
  ∃ dir cls, (dir = settings.unitDirectory root ∨ dir = settings.featureDirectory root) ∧
    IsWord cls.toList ∧ p = testFilePath dir cls settings.generation.extension

/-- The test file of the class that a source declares, in one of the suites. -/
structure TestsSource (settings : Settings) (root : Path) (cwd : Location) (d : Disk)
    (f dir : Path) (cls : String) (p : Path) : Prop where
  suite : dir = settings.unitDirectory root ∨ dir = settings.featureDirectory root
  declares : ∃ text, d.readText cwd f = .ok text ∧ Php.className? text = some cls
  path_eq : p = testFilePath dir cls settings.generation.extension

theorem TestsSource.isWord {f dir : Path} {cls : String}
    (h : TestsSource settings root cwd d f dir cls p) : IsWord cls.toList := by
  obtain ⟨text, -, hclass⟩ := h.declares
  exact Php.isWord_of_className? hclass

theorem TestsSource.isDestination {f dir : Path} {cls : String}
    (h : TestsSource settings root cwd d f dir cls p) : IsDestination settings root p :=
  ⟨dir, cls, h.suite, h.isWord, h.path_eq⟩

/-- Both suites land somewhere, and the names of test files have no slash in them. -/
structure SuitesLand (settings : Settings) (root : Path) (cwd : Location) (d : Disk) : Prop where
  unit : (d.landing? cwd (settings.unitDirectory root)).isSome
  feature : (d.landing? cwd (settings.featureDirectory root)).isSome
  noSlash : '/' ∉ settings.generation.extension.toList

theorem SuitesLand.of_grows {d' : Disk} (h : SuitesLand settings root cwd d)
    (hgrows : Disk.Grows d d') : SuitesLand settings root cwd d' where
  unit := by
    obtain ⟨l, hl⟩ := Option.isSome_iff_exists.mp h.unit
    rw [Disk.landing?_of_grows hgrows hl]
    rfl
  feature := by
    obtain ⟨l, hl⟩ := Option.isSome_iff_exists.mp h.feature
    rw [Disk.landing?_of_grows hgrows hl]
    rfl
  noSlash := h.noSlash

/-! ### Names of test files -/

theorem testFileName_toList (cls extension : String) : s!"{cls}Test.{extension}".toList =
    cls.toList ++ "Test.".toList ++ extension.toList := by
  simp [String.toList_append, toString]

theorem slash_notMem_testFileName {cls extension : String} (hcls : IsWord cls.toList)
    (hextension : '/' ∉ extension.toList) : '/' ∉ s!"{cls}Test.{extension}".toList := by
  rw [testFileName_toList, List.mem_append, List.mem_append]
  rintro ((hin | hin) | hin)
  · exact absurd (hcls.chars _ hin) (by decide)
  · exact absurd hin (by decide)
  · exact hextension hin

theorem testFileName_moves (cls extension : String) : s!"{cls}Test.{extension}" ≠ "" ∧
    s!"{cls}Test.{extension}" ≠ "." ∧ s!"{cls}Test.{extension}" ≠ ".." := by
  have hmove (other : String) (hother : 'T' ∉ other.toList) :
      s!"{cls}Test.{extension}" ≠ other := by
    intro heq
    have hchars := testFileName_toList cls extension
    rw [heq] at hchars
    simp [hchars] at hother
  exact ⟨hmove "" (by decide), hmove "." (by decide), hmove ".." (by decide)⟩

theorem testFileName_inj {cls other extension : String}
    (h : s!"{cls}Test.{extension}" = s!"{other}Test.{extension}") : cls = other := by
  have hchars := congrArg String.toList h
  rw [testFileName_toList, testFileName_toList, List.append_assoc, List.append_assoc] at hchars
  exact String.toList_inj.mp (List.append_cancel_right hchars)

/-- A test file lands in the directory that it is put into. -/
theorem landing?_testFilePath {dir : Path} {cls extension : String} (hcls : IsWord cls.toList)
    (hextension : '/' ∉ extension.toList) :
    d.landing? cwd (testFilePath dir cls extension) =
      (d.landing? cwd dir).map (· ++ [s!"{cls}Test.{extension}"]) :=
  Disk.landing?_join_name (slash_notMem_testFileName hcls hextension)
    (testFileName_moves cls extension)

theorem IsDestination.lands (h : IsDestination settings root p)
    (hsuites : SuitesLand settings root cwd d) : (d.landing? cwd p).isSome := by
  obtain ⟨dir, cls, hdir, hcls, rfl⟩ := h
  rw [landing?_testFilePath hcls hsuites.noSlash, Option.isSome_map]
  rcases hdir with rfl | rfl
  · exact hsuites.unit
  · exact hsuites.feature

end SuiteForge
