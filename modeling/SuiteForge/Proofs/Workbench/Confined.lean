import SuiteForge.Proofs.Workbench.Operations

/-!
# Where operations write

Whatever a source says, the tests for it are a file directly inside one of the two suites, and the
file has the name of the class that the source declares. Nothing else is written, and tests of
different classes never meet in a suite.
-/

namespace SuiteForge

open Text (IsWord)

variable {settings : Settings} {root dir f : Path} {cwd up : Location} {d after : Disk}
  {cls other extension : String} {x : Write}

/-! ### One test file -/

/-- A write that stays where it belongs: it is the test file of the class that the source `f`
declares, and on the disk `after` it the suite leads to the directory around the file. -/
structure Confined (settings : Settings) (root : Path) (cwd : Location) (after : Disk)
    (x : Write) (f dir : Path) (cls : String) (up : Location) : Prop where
  source : TestsSource settings root cwd x.found f dir cls x.path
  word : IsWord cls.toList
  child : x.path.components =
    dir.components ++ [.name s!"{cls}Test.{settings.generation.extension}"]
  place : x.place? cwd = some (up ++ [s!"{cls}Test.{settings.generation.extension}"])
  inside : dir.text = "" ∧ up = cwd ∨ after.resolve cwd dir = .ok (.entry up .directory)

theorem components_testFilePath (dir : Path) (hcls : IsWord cls.toList)
    (hextension : '/' ∉ extension.toList) :
    (testFilePath dir cls extension).components =
      dir.components ++ [.name s!"{cls}Test.{extension}"] :=
  Path.components_join_name (slash_notMem_testFileName hcls hextension)
    (testFileName_moves cls extension)

theorem resolve_testFilePath (hcls : IsWord cls.toList) (hextension : '/' ∉ extension.toList)
    {t : Disk.Target} (h : d.resolve cwd (testFilePath dir cls extension) = .ok t) :
    ∃ up, t.place = up ++ [s!"{cls}Test.{extension}"] ∧
      (dir.text = "" ∧ up = cwd ∨ d.resolve cwd dir = .ok (.entry up .directory)) :=
  Disk.resolve_join_name (slash_notMem_testFileName hcls hextension)
    (testFileName_moves cls extension) h

/-- A write for a source stays in the directory of its suite, wherever that is. -/
theorem TestsSource.confined (h : TestsSource settings root cwd x.found f dir cls x.path)
    (hextension : '/' ∉ settings.generation.extension.toList) {place : Location} {e : Entry}
    (hplace : x.place? cwd = some place)
    (hresolve : after.resolve cwd x.path = .ok (.entry place e)) :
    ∃ up, Confined settings root cwd after x f dir cls up := by
  have hcomponents := components_testFilePath dir h.isWord hextension
  rw [h.path_eq] at hresolve
  obtain ⟨up, hup, hinside⟩ := resolve_testFilePath h.isWord hextension hresolve
  obtain rfl : place = up ++ _ := hup
  exact ⟨up, h, h.isWord, by rw [h.path_eq, hcomponents], hplace, hinside⟩

/-! ### Two test files -/

/-- Test files of different classes have different paths in a suite. -/
theorem not_same_of_ne_class (hcls : IsWord cls.toList) (hother : IsWord other.toList)
    (hextension : '/' ∉ extension.toList) (hne : cls ≠ other) :
    (testFilePath dir cls extension).same (testFilePath dir other extension) = false := by
  rw [Bool.eq_false_iff, ne_eq, Path.same_iff, components_testFilePath dir hcls hextension,
    components_testFilePath dir hother hextension]
  intro hsame
  have hnames := List.append_cancel_left hsame
  simp only [List.cons.injEq, Path.Component.name.injEq, and_true] at hnames
  exact hne (testFileName_inj hnames)

/-- Test files of different classes are at different places, on whatever disks. -/
theorem place_ne_of_ne_class (hcls : IsWord cls.toList) (hother : IsWord other.toList)
    (hextension : '/' ∉ extension.toList) (hne : cls ≠ other) {t t' : Disk.Target}
    (h : d.resolve cwd (testFilePath dir cls extension) = .ok t)
    (h' : after.resolve cwd (testFilePath dir other extension) = .ok t') :
    t.place ≠ t'.place := by
  obtain ⟨up, hplace, -⟩ := resolve_testFilePath hcls hextension h
  obtain ⟨up', hplace', -⟩ := resolve_testFilePath hother hextension h'
  intro heq
  rw [hplace, hplace'] at heq
  have hnames := List.append_inj_right' heq rfl
  simp only [List.cons.injEq, and_true] at hnames
  exact hne (testFileName_inj hnames)

/-! ### Operations -/

namespace Workbench

/-- What operations write, and where. -/
structure InSuites (w : Workbench) (s : State) (ops : List Operation) : Prop where
  /-- What a file holds afterwards that it did not hold before has been written to its place. -/
  written : ∀ l c, (w.performAll ops s).harness.disk.entry? l = some (.file c) →
    s.harness.disk.entry? l ≠ some (.file c) → ∃ x ∈ w.writesAll ops s, x.place? w.cwd = some l
  /-- Each write is confined to a suite, for one of the sources that its operation works on. -/
  confined : ∀ x ∈ w.writesAll ops s, ∃ front op back f dir cls up, ops = front ++ op :: back ∧
    f ∈ w.sourcesOf op (w.performAll front s).harness.disk ∧
      Confined w.settings w.root w.cwd (w.performAll ops s).harness.disk x f dir cls up
  /-- Sources of different classes have different destinations in a directory. -/
  apart : ∀ (dir : Path) (text text' cls cls' : String), Php.className? text = some cls →
    Php.className? text' = some cls' → cls ≠ cls' →
      (testFilePath dir cls w.settings.generation.extension).same
          (testFilePath dir cls' w.settings.generation.extension) = false ∧
        ∀ (d d' : Disk) (t t' : Disk.Target),
          d.resolve w.cwd (testFilePath dir cls w.settings.generation.extension) = .ok t →
          d'.resolve w.cwd (testFilePath dir cls' w.settings.generation.extension) = .ok t' →
            t.place ≠ t'.place

/-- Operations write into the suites only, whatever the sources say. -/
theorem writes_in_suites (settings : Settings) (root : Path) (cwd : Location) (d : Disk)
    (hextension : '/' ∉ settings.generation.extension.toList) (s : State)
    (ops : List Operation) : InSuites (create settings root cwd d) s ops := by
  have htraced := traced_create settings root cwd d ops s
  constructor
  case written =>
    intro l c hfile hnew
    exact htraced.exists_write hfile hnew
  case confined =>
    intro x hx
    obtain ⟨front, op, back, hops, hmem⟩ := mem_writesAll_split hx
    obtain ⟨-, f, hf, dir, cls, hsource⟩ := mem_writes hmem
    have hsource : TestsSource settings root cwd x.found f dir cls x.path := hsource.elim id id
    obtain ⟨place, c, hplace, hresolve⟩ := htraced.resolve_place hx
    obtain ⟨up, hconfined⟩ := hsource.confined hextension hplace hresolve
    exact ⟨front, op, back, f, dir, cls, up, hops, hf, hconfined⟩
  case apart =>
    intro dir text text' cls cls' hclass hclass' hne
    have hcls := Php.isWord_of_className? hclass
    have hcls' := Php.isWord_of_className? hclass'
    constructor
    · exact not_same_of_ne_class hcls hcls' hextension hne
    · intro d d' t t' h h'
      exact place_ne_of_ne_class hcls hcls' hextension hne h h'

/-- A source that tries to have its tests written elsewhere, and tests of two classes. -/
def hostile : Disk :=
  ⟨[(["app"], .directory),
    (["app", "Foo.php"], .file "<?php class ../../Evil; class Foo/../../Bar \x7b\x7d".toUTF8),
    (["unit.stub"], .file "unit test".toUTF8), (["old"], .directory),
    (["old", "FooTest.php"], .file ⟨#[]⟩), (["old", "BarTest.php"], .file ⟨#[]⟩)]⟩

def stubbed : Settings := { templates := { unitTest := some ⟨"unit.stub"⟩ } }

def testHostile : List Operation := [.generate ⟨"app/Foo.php"⟩ {}]

theorem writes_in_suites_hostile :
    '/' ∉ stubbed.generation.extension.toList ∧
      (∃ x ∈ (create stubbed ⟨"."⟩ [] hostile).writesAll testHostile (.fresh [] hostile),
        x.place? [] = some ["tests", "Unit", "FooTest.php"] ∧ ∃ f dir cls up,
          Confined stubbed ⟨"."⟩ [] ((create stubbed ⟨"."⟩ [] hostile).performAll testHostile
            (.fresh [] hostile)).harness.disk x f dir cls up) ∧
      ∃ t t', hostile.resolve [] (testFilePath ⟨"old"⟩ "Foo" "php") = .ok t ∧
        hostile.resolve [] (testFilePath ⟨"old"⟩ "Bar" "php") = .ok t' ∧ t.place ≠ t'.place := by
  have hextension : '/' ∉ stubbed.generation.extension.toList := by decide
  have hsuites := writes_in_suites stubbed ⟨"."⟩ [] hostile hextension (.fresh [] hostile)
    testHostile
  obtain ⟨x, hx, hplace⟩ := hsuites.written ["tests", "Unit", "FooTest.php"] "unit test".toUTF8
    (by decide +kernel) (by decide +kernel)
  obtain ⟨front, op, back, f, dir, cls, up, -, -, hx'⟩ := hsuites.confined x hx
  obtain ⟨l, e, hfoo⟩ := Disk.isThere_iff.mp (by decide +kernel :
    hostile.isThere [] (testFilePath ⟨"old"⟩ "Foo" "php") = true)
  obtain ⟨l', e', hbar⟩ := Disk.isThere_iff.mp (by decide +kernel :
    hostile.isThere [] (testFilePath ⟨"old"⟩ "Bar" "php") = true)
  have hne := (hsuites.apart ⟨"old"⟩ "class Foo" "class Bar" "Foo" "Bar" (by decide +kernel)
    (by decide +kernel) (by decide)).2 hostile hostile _ _ hfoo hbar
  exact ⟨hextension, ⟨x, hx, hplace, f, dir, cls, up, hx'⟩, _, _, hfoo, hbar, hne⟩

end Workbench
end SuiteForge
