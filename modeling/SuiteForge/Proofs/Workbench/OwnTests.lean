import SuiteForge.Proofs.SourceWalk
import SuiteForge.Proofs.Text.Glob
import SuiteForge.Proofs.Workbench.Operations

/-!
# Tests that are taken for sources

The names of test files end with the extension of the settings, while the patterns that keep them
out of a directory's sources are written for one extension. With any other extension a directory
run takes the tests of earlier runs for sources.
-/

namespace SuiteForge

open SourceWalk (Filter Reaches TakesIn Visits inside)
open Text (IsWord)

variable {settings : Settings} {p : Path} {cls name extension : String}

/-! ### Names that patterns keep out -/

/-- The settings leave out what is left out by default. -/
def ExcludesUsual (settings : Settings) : Prop :=
  settings.generation.excludePatterns = ({} : GenerationSettings).excludePatterns

theorem keepsName_iff (h : ExcludesUsual settings) :
    (Filter.ofSettings settings).keepsName name = true ↔
      ¬ "Test.php".toList <:+ name.toList ∧ ¬ "Trait.php".toList <:+ name.toList ∧
        ¬ "Abstract".toList <+: name.toList := by
  have hpatterns : ({} : GenerationSettings).excludePatterns.filterMap
      (fun pattern => Text.globOf? pattern.toList) =
        [.anyRun :: "Test.php".toList.map .char, .anyRun :: "Trait.php".toList.map .char,
          "Abstract".toList.map .char ++ [.anyRun]] := by
    decide
  have hexcluded : (Filter.ofSettings settings).excluded.any
      (fun pattern => Text.Glob.fits pattern name.toList) = true ↔
        "Test.php".toList <:+ name.toList ∨ "Trait.php".toList <:+ name.toList ∨
          "Abstract".toList <+: name.toList := by
    rw [Filter.ofSettings, h, hpatterns]
    simp only [List.any_cons, List.any_nil, Bool.or_false, Bool.or_eq_true,
      Text.Glob.fits_anyRun_word, Text.Glob.fits_word_anyRun]
  rw [Filter.keepsName, Bool.not_eq_true', ← Bool.not_eq_true, hexcluded, not_or, not_or]

structure LooksLikeSource (extension cls : String) : Prop where
  noSlash : '/' ∉ extension.toList
  noPoint : '.' ∉ extension.toList
  unusual : extension ≠ "php"
  concrete : ¬ "Abstract".toList <+: cls.toList

theorem extensionOf?_testFileName (cls : String) (hpoint : '.' ∉ extension.toList) :
    Path.extensionOf? s!"{cls}Test.{extension}" = some extension := by
  refine Path.extensionOf?_iff.mpr ⟨hpoint, cls.toList ++ "Test".toList, by simp, ?_⟩
  rw [testFileName_toList]
  simp

theorem extensionOf?_of_suffix {front : List Char} (hfront : front ≠ [])
    (h : front ++ ".php".toList <:+ name.toList) : Path.extensionOf? name = some "php" := by
  obtain ⟨before, hname⟩ := h
  refine Path.extensionOf?_iff.mpr ⟨by decide, before ++ front, by simp [hfront], ?_⟩
  rw [← hname]
  simp

/-- A name is not abstract because of what is put behind it. -/
theorem abstract_prefix_iff :
    "Abstract".toList <+: s!"{cls}Test.{extension}".toList ↔ "Abstract".toList <+: cls.toList := by
  rw [testFileName_toList, List.append_assoc]
  constructor
  · intro h
    rcases List.prefix_or_prefix_of_prefix h (List.prefix_append cls.toList _) with hin | hout
    · exact hin
    · -- otherwise the letter behind the name would be one of the word
      obtain ⟨rest, hword⟩ := hout
      rw [← hword, List.prefix_append_right_inj] at h
      cases rest with
      | nil => exact ⟨[], by simpa using hword.symm⟩
      | cons c rest =>
        obtain ⟨back, hback⟩ := h
        obtain rfl : c = 'T' := by simpa using congrArg List.head? hback
        have hmem : 'T' ∈ "Abstract".toList := by simp [← hword]
        exact absurd hmem (by decide)
  · intro h
    exact h.trans (List.prefix_append _ _)

theorem keeps_testFile_iff (h : ExcludesUsual settings) (hcls : IsWord cls.toList)
    (hslash : '/' ∉ settings.generation.extension.toList) :
    (Filter.ofSettings settings).keeps (p.join ⟨s!"{cls}Test.{settings.generation.extension}"⟩)
        s!"{cls}Test.{settings.generation.extension}" = true ↔
      LooksLikeSource settings.generation.extension cls := by
  have hname := slash_notMem_testFileName hcls hslash
  have hfilter : (Filter.ofSettings settings).extension = settings.generation.extension := rfl
  rw [Filter.keeps, Bool.and_eq_true, decide_eq_true_iff, hfilter, keepsName_iff h,
    Path.extension?_join_name hname (testFileName_moves cls _), abstract_prefix_iff]
  constructor
  · rintro ⟨hextension, htest, -, habstract⟩
    refine ⟨hslash, (Path.extensionOf?_iff.mp hextension).1, ?_, habstract⟩
    intro hphp
    refine htest ⟨cls.toList, ?_⟩
    rw [testFileName_toList, hphp]
    simp
  · rintro ⟨-, hpoint, hunusual, habstract⟩
    have hextension := extensionOf?_testFileName cls hpoint
    -- a name that fits one of the patterns would have the usual extension
    have hother (front : List Char) (hfront : front ≠ []) : ¬ front ++ ".php".toList <:+
        s!"{cls}Test.{settings.generation.extension}".toList := by
      intro hsuffix
      have hphp := extensionOf?_of_suffix hfront hsuffix
      rw [hextension] at hphp
      exact hunusual (Option.some.inj hphp)
    exact ⟨hextension, hother "Test".toList (by decide), hother "Trait".toList (by decide),
      habstract⟩

/-! ### Directory runs over tests -/

namespace Workbench

variable {root dir : Path} {cwd here place : Location} {d later : Disk} {s : State}
  {ops : List Operation} {x : Write} {w : Workbench}

/-- The file at a place is one of the sources that tests for a directory are asked for. -/
def IsSource (w : Workbench) (d : Disk) (dir : Path) (place : Location) : Prop :=
  ∃ f ∈ w.generator.sourcesOf dir d, ∃ c, Reaches d w.generator.cwd f place (.file c)

theorem isSource_iff (htree : later.IsTree)
    (hdir : later.resolve w.generator.cwd dir = .ok (.entry here .directory)) :
    IsSource w later dir place ↔ ∃ names name, place = here ++ names ++ [name] ∧
      TakesIn w.generator.filter later here dir names name := by
  have hreaches : Reaches later w.generator.cwd dir here .directory := .of_resolve hdir
  have hsources : w.generator.sourcesOf dir later =
      SourceWalk.sources w.generator.filter later w.generator.cwd dir := by
    simp [Generator.sourcesOf, Disk.at?, hdir]
  simp only [IsSource, hsources, SourceWalk.mem_sources_iff hdir]
  constructor
  · rintro ⟨f, ⟨names, name, htakes, rfl⟩, c, hplace⟩
    obtain ⟨c', hfile⟩ := htakes.reaches htree hreaches
    exact ⟨names, name, hplace.unique hfile, htakes⟩
  · rintro ⟨names, name, rfl, htakes⟩
    exact ⟨_, ⟨names, name, htakes, rfl⟩, htakes.reaches htree hreaches⟩

/-- The extension of a source has no slash in it, as the name of the source has none. -/
theorem slash_notMem_of_takesIn {names : List String} (htree : later.IsTree)
    (h : TakesIn (.ofSettings settings) later here dir names name) :
    '/' ∉ settings.generation.extension.toList := by
  obtain ⟨c, hfile⟩ := h.file
  obtain ⟨⟨hmoves, hslash, -⟩, -⟩ := htree.of_entry? hfile
  have hkeeps := h.keeps
  rw [Filter.keeps, Bool.and_eq_true, decide_eq_true_iff,
    Path.extension?_join_name hslash hmoves] at hkeeps
  obtain ⟨-, front, -, hchars⟩ := Path.extensionOf?_iff.mp hkeeps.1
  intro hmem
  refine hslash ?_
  rw [hchars, List.mem_append, List.mem_cons]
  exact Or.inr (Or.inr hmem)

/-- A test file that has been written is a source of a later run, from wherever that is started,
just when its extension is not the usual one and its class is not abstract by name, and no directory
on the way to it is left out. -/
theorem own_test_is_source_iff (settings : Settings) (root : Path) (cwd : Location) (d : Disk)
    (husual : ExcludesUsual settings) (s : State) (ops : List Operation) (x : Write)
    (hx : x ∈ (create settings root cwd d).writesAll ops s) (place : Location)
    (hplace : x.place? cwd = some place) (later : Disk) (htree : later.IsTree)
    (hfile : ∃ c, later.entry? place = some (.file c)) (root' : Path) (cwd' : Location) (dir : Path)
    (here : Location) (hdir : later.resolve cwd' dir = .ok (.entry here .directory)) :
    ∃ suite cls, (suite = settings.unitDirectory root ∨ suite = settings.featureDirectory root) ∧
      IsWord cls.toList ∧ x.path = testFilePath suite cls settings.generation.extension ∧
      (IsSource (create settings root' cwd' later) later dir place ↔
        LooksLikeSource settings.generation.extension cls ∧
          ∃ names, place = here ++ names ++ [s!"{cls}Test.{settings.generation.extension}"] ∧
            Visits (.ofSettings settings) later here dir names) := by
  have hdestination : IsDestination settings root x.path := (mem_writesAll hx).2.elim id id
  obtain ⟨suite, cls, hsuite, hcls, hpath⟩ := hdestination
  refine ⟨suite, cls, hsuite, hcls, hpath, ?_⟩
  rw [isSource_iff htree hdir]
  have hlast (hslash : '/' ∉ settings.generation.extension.toList) :
      ∃ up, place = up ++ [s!"{cls}Test.{settings.generation.extension}"] := by
    rw [Write.place?, hpath, landing?_testFilePath hcls hslash] at hplace
    obtain ⟨up, -, hup⟩ := Option.map_eq_some_iff.mp hplace
    exact ⟨up, hup.symm⟩
  constructor
  · rintro ⟨names, name, hnames, htakes⟩
    have hslash := slash_notMem_of_takesIn htree htakes
    obtain ⟨up, hup⟩ := hlast hslash
    obtain rfl : name = s!"{cls}Test.{settings.generation.extension}" := by
      have htails := List.append_inj_right' (hnames.symm.trans hup) rfl
      simpa using htails
    exact ⟨(keeps_testFile_iff husual hcls hslash).mp htakes.keeps, names, hnames, htakes.visits⟩
  · rintro ⟨hlooks, names, hnames, hvisits⟩
    exact ⟨names, _, hnames, hvisits, hnames ▸ hfile,
      (keeps_testFile_iff husual hcls hlooks.noSlash).mpr hlooks⟩

/-! ### Another extension -/

def included : Disk :=
  ⟨[(["app"], .directory), (["app", "Foo.inc"], .file "<?php class Foo {}".toUTF8)]⟩

def includes : Settings := { generation := { extension := "inc" } }

def testIncluded : List Operation := [.generate ⟨"app/Foo.inc"⟩ {}]

def tested : Disk :=
  ((create includes ⟨"."⟩ [] included).performAll testIncluded (.fresh [] included)).harness.disk

theorem isTree_tested : tested.IsTree := by
  decide +kernel

theorem file_tested : ∃ c, tested.entry? ["tests", "Unit", "FooTest.inc"] = some (.file c) := by
  have hthere : tested.entry? ["tests", "Unit", "FooTest.inc"] ∉ [none, some .directory] := by
    decide +kernel
  cases hentry : tested.entry? ["tests", "Unit", "FooTest.inc"] with
  | none => simp [hentry] at hthere
  | some e =>
    cases e with
    | directory => simp [hentry] at hthere
    | file c => exact ⟨c, rfl⟩

theorem exists_write_tested :
    ∃ x ∈ (create includes ⟨"."⟩ [] included).writesAll testIncluded (.fresh [] included),
      x.place? [] = some ["tests", "Unit", "FooTest.inc"] := by
  obtain ⟨c, hfile⟩ := file_tested
  have hnew : included.entry? ["tests", "Unit", "FooTest.inc"] = none := by decide
  exact (traced_create includes ⟨"."⟩ [] included testIncluded (.fresh [] included)).exists_write
    hfile (by simp [State.fresh, State.ledger, hnew])

theorem own_test_is_source_iff_tested : ExcludesUsual includes ∧ tested.IsTree ∧
    tested.resolve [] ⟨"tests"⟩ = .ok (.entry ["tests"] .directory) ∧
    ∃ x ∈ (create includes ⟨"."⟩ [] included).writesAll testIncluded (.fresh [] included),
      x.place? [] = some ["tests", "Unit", "FooTest.inc"] ∧
      ∃ suite cls, x.path = testFilePath suite cls includes.generation.extension ∧
        (IsSource (create includes ⟨"."⟩ [] tested) tested ⟨"tests"⟩
            ["tests", "Unit", "FooTest.inc"] ↔
          LooksLikeSource includes.generation.extension cls ∧
            ∃ names, ["tests", "Unit", "FooTest.inc"] =
                ["tests"] ++ names ++ [s!"{cls}Test.{includes.generation.extension}"] ∧
              Visits (.ofSettings includes) tested ["tests"] ⟨"tests"⟩ names) := by
  obtain ⟨x, hx, hplace⟩ := exists_write_tested
  obtain ⟨suite, cls, -, -, hpath, hsource⟩ := own_test_is_source_iff includes ⟨"."⟩ [] included
    rfl (.fresh [] included) testIncluded x hx _ hplace tested isTree_tested file_tested
    ⟨"."⟩ [] ⟨"tests"⟩ ["tests"] rfl
  exact ⟨rfl, isTree_tested, rfl, x, hx, hplace, suite, cls, hpath, hsource⟩

/-- The tests of the first run are a source of the directory that they have been put into. -/
theorem own_test_is_source_tested : ExcludesUsual includes ∧
    (∃ x ∈ (create includes ⟨"."⟩ [] included).writesAll testIncluded (.fresh [] included),
      x.place? [] = some ["tests", "Unit", "FooTest.inc"]) ∧
    IsSource (create includes ⟨"."⟩ [] tested) tested ⟨"tests"⟩
      ["tests", "Unit", "FooTest.inc"] := by
  have hvisits : Visits (.ofSettings includes) tested ["tests"] ⟨"tests"⟩ ["Unit"] :=
    .down (by decide +kernel) (by decide +kernel) .here
  have htakes : TakesIn (.ofSettings includes) tested ["tests"] ⟨"tests"⟩ ["Unit"]
      "FooTest.inc" :=
    ⟨hvisits, file_tested, by decide +kernel⟩
  refine ⟨rfl, exists_write_tested, ?_⟩
  exact (isSource_iff isTree_tested rfl).mpr ⟨["Unit"], "FooTest.inc", rfl, htakes⟩

end Workbench
end SuiteForge
