import SuiteForge.Proofs.Workbench.Operations

/-!
# Operations without force

Whether a file stays as it is under operations that are not to replace anything. A test file that
is there is looked for before the directories above it are made, so a path that steps back out of
a directory that is still missing is taken for free. Where no path does that nothing is replaced.
-/

namespace SuiteForge

open Disk (Grows)
open WriteLog (ground)

variable {settings : Settings} {root : Path} {cwd l : Location} {c : ByteArray}

/-- A write without force finds nothing at its path. -/
theorem Traced.not_there {s s' : Ledger} {xs : List Write} {x : Write} (h : Traced cwd s xs s')
    (hx : x ∈ xs) (hforce : x.force = false) : x.found.isThere cwd x.path = false := by
  obtain ⟨front, back, rfl⟩ := List.append_of_mem hx
  obtain ⟨m, m', place, -, hwrites, -⟩ := h.split
  have hwrote := hwrites.wrote
  rw [hforce] at hwrote
  exact hwrote.not_there

/-- A write without force to a file that was there steps back out of what is no directory. -/
theorem Traced.landing?_eq_none {s s' : Ledger} {xs : List Write} {x : Write}
    (h : Traced cwd s xs s') (htree : s.disk.IsTree) (hfile : s.disk.entry? l = some (.file c))
    (hx : x ∈ xs) (hforce : x.force = false) (hplace : x.place? cwd = some l) :
    x.found.landing? cwd x.path = none := by
  obtain ⟨front, back, rfl⟩ := List.append_of_mem hx
  obtain ⟨m, m', place, hfront, hwrites, -⟩ := h.split
  have hfound := hwrites.found
  have hwrote := hwrites.wrote
  rw [hforce] at hwrote
  obtain ⟨target, hresolve, -⟩ := hwrote.resolves
  cases hland : x.found.landing? cwd x.path with
  | none => rfl
  | some l' =>
    have hl : some l' = some l := by
      rw [← hplace, Write.place?, Disk.landing?_of_grows hwrote.made.grows hland]
    cases hl
    obtain ⟨c', hc'⟩ := hfront.grows.file l c hfile
    rw [← hfound] at hc'
    have hthere := Disk.resolve_of_landing (hfound ▸ hfront.isTree htree) hwrote.made.grows hland
      hc' hresolve
    have hnot := hwrote.not_there
    rw [Disk.isThere_iff.mpr ⟨l, _, hthere⟩] at hnot
    cases hnot

/-- Suites that land somewhere do so at every write. -/
theorem Traced.suitesLand {s s' : Ledger} {xs : List Write} {x : Write} (h : Traced cwd s xs s')
    (hsuites : SuitesLand settings root cwd s.disk) (hx : x ∈ xs) :
    SuitesLand settings root cwd x.found := by
  obtain ⟨front, back, rfl⟩ := List.append_of_mem hx
  obtain ⟨m, m', place, hfront, hwrites, -⟩ := h.split
  rw [hwrites.found]
  exact hsuites.of_grows hfront.grows

namespace Workbench

/-- Operations without force keep a file unless the last write to it holds something else. Every
write to it steps back out of a directory that is not there when it begins; none does if both
suites of the project land somewhere. -/
theorem unforced_keeps_file_iff (settings : Settings) (root : Path) (cwd : Location) (d : Disk)
    (s : State) (ops : List Operation) (htree : s.harness.disk.IsTree)
    (hunforced : ∀ op ∈ ops, op.force = false) (l : Location) (c : ByteArray)
    (hfile : s.harness.disk.entry? l = some (.file c)) :
    (((create settings root cwd d).performAll ops s).harness.disk.entry? l = some (.file c) ↔
      ∀ text ∈ lastText? cwd l ((create settings root cwd d).writesAll ops s),
        text.toUTF8 = c) ∧
    (∀ x ∈ (create settings root cwd d).writesAll ops s, x.place? cwd = some l →
      x.found.isThere cwd x.path = false ∧ x.found.landing? cwd x.path = none) ∧
    (SuitesLand settings root cwd s.harness.disk →
      ((create settings root cwd d).performAll ops s).harness.disk.entry? l = some (.file c)) := by
  have htraced := traced_create settings root cwd d ops s
  have hwrites : ∀ x ∈ (create settings root cwd d).writesAll ops s, x.force = false ∧
      IsDestination settings root x.path := by
    intro x hx
    obtain ⟨⟨op, hop, hforce⟩, hdest⟩ := mem_writesAll hx
    exact ⟨hforce.trans (hunforced op hop), hdest.elim id id⟩
  have hkept : ((create settings root cwd d).performAll ops s).harness.disk.entry? l =
      some (.file (((lastText? cwd l ((create settings root cwd d).writesAll ops s)).map
        String.toUTF8).getD c)) := htraced.entry?_eq hfile
  have hblind : ∀ x ∈ (create settings root cwd d).writesAll ops s, x.place? cwd = some l →
      x.found.landing? cwd x.path = none := fun x hx hplace =>
    htraced.landing?_eq_none htree hfile hx (hwrites x hx).1 hplace
  refine ⟨?_, fun x hx hplace => ⟨?_, hblind x hx hplace⟩, fun hsuites => ?_⟩
  · rw [hkept]
    cases lastText? cwd l ((create settings root cwd d).writesAll ops s) <;> simp
  · exact htraced.not_there hx (hwrites x hx).1
  · -- a path in a suite that lands keeps landing, so nothing is written here
    have hnone : lastText? cwd l ((create settings root cwd d).writesAll ops s) = none := by
      refine lastText?_eq_none fun x hx hplace => ?_
      have hland := (hwrites x hx).2.lands (htraced.suitesLand hsuites hx)
      simp [hblind x hx hplace] at hland
    rw [hkept, hnone]
    rfl

/-! ### A suite behind a missing directory -/

/-- A class with tests written by hand, which the settings reach through a directory that is not
there. -/
def handWritten : Disk :=
  ⟨[(["app"], .directory), (["app", "Foo.php"], .file "<?php class Foo {}".toUTF8),
    (["unit.stub"], .file "unit test".toUTF8), (["tests"], .directory),
    (["tests", "Unit"], .directory),
    (["tests", "Unit", "FooTest.php"], .file "written by hand".toUTF8)]⟩

def throughMissing : Settings :=
  { testPaths := ["new/../tests/Unit"], templates := { unitTest := some ⟨"unit.stub"⟩ } }

def testFoo : List Operation := [.generate ⟨"app/Foo.php"⟩ {}]

theorem unforced_keeps_file_iff_handWritten :
    handWritten.IsTree ∧ (∀ op ∈ testFoo, op.force = false) ∧
      handWritten.entry? ["app", "Foo.php"] = some (.file "<?php class Foo {}".toUTF8) ∧
      (((create throughMissing ⟨"."⟩ [] handWritten).performAll testFoo
          (.fresh [] handWritten)).harness.disk.entry? ["app", "Foo.php"] =
            some (.file "<?php class Foo {}".toUTF8) ↔
        ∀ text ∈ lastText? [] ["app", "Foo.php"]
          ((create throughMissing ⟨"."⟩ [] handWritten).writesAll testFoo (.fresh [] handWritten)),
          text.toUTF8 = "<?php class Foo {}".toUTF8) := by
  have htree : handWritten.IsTree := by decide +kernel
  have hunforced : ∀ op ∈ testFoo, op.force = false := by simp [testFoo, Operation.force]
  have hfile : handWritten.entry? ["app", "Foo.php"] =
      some (.file "<?php class Foo {}".toUTF8) := by decide +kernel
  exact ⟨htree, hunforced, hfile, (unforced_keeps_file_iff throughMissing ⟨"."⟩ [] handWritten
    (.fresh [] handWritten) testFoo htree hunforced ["app", "Foo.php"] _ hfile).1⟩

/-- The tests written by hand are replaced without force. -/
theorem unforced_replaces_handWritten :
    handWritten.IsTree ∧ (∀ op ∈ testFoo, op.force = false) ∧
      handWritten.entry? ["tests", "Unit", "FooTest.php"] =
        some (.file "written by hand".toUTF8) ∧
      ((create throughMissing ⟨"."⟩ [] handWritten).performAll testFoo
          (.fresh [] handWritten)).harness.disk.entry? ["tests", "Unit", "FooTest.php"] ≠
        some (.file "written by hand".toUTF8) := by
  refine ⟨by decide +kernel, by simp [testFoo, Operation.force], by decide +kernel, ?_⟩
  decide +kernel

end Workbench
end SuiteForge
