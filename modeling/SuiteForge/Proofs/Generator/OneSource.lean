import SuiteForge.Proofs.Generator.Target

/-!
# A run over one source

A run over one source is all or nothing. If it goes well, the test file of the source has been
written and recorded, and no other file is touched. If it fails at any stage, no file is changed or
new and nothing is recorded. In both cases directories may have been made, but only above the
destination.
-/

namespace SuiteForge.Generator

open Php (Kind Source)
open WriteLog (KeptOrAbove Wrote)

variable {g : Generator} {f dest : Path} {kind : Option Kind} {force : Bool} {s : State}
  {d' : Disk} {log' : WriteLog} {text cls : String}

/-- No file is changed or new, and nothing is recorded; what is new is a directory above the
destination of the source. -/
structure NoTrace (g : Generator) (f : Path) (kind : Option Kind) (s s' : State) : Prop where
  files : ∀ l c, s'.disk.entry? l = some (.file c) ↔ s.disk.entry? l = some (.file c)
  places : ∀ l, s'.disk.entry? l = s.disk.entry? l ∨
    ∃ dest text, g.target? s.disk f kind = some (dest, text) ∧
      KeptOrAbove g.cwd dest s.disk s'.disk l
  written : s'.log = s.log

/-- One file is new or replaced, at `place`: the test file of the class of the source, in the suite
of its kind. Its path has been added to what is recorded, where it was under no spelling before. -/
structure OneTest (g : Generator) (f : Path) (kind : Option Kind) (source : Source) (cls : String)
    (dest : Path) (place : Location) (s s' : State) : Prop where
  read : Source.read s.disk g.cwd f = .ok source
  declares : source.class? = some cls
  dest_eq : dest = testFilePath
    ((Suite.ofKind (kind.getD (Kind.ofText source.text))).directory g.settings g.root) cls
    g.settings.generation.extension
  holds : s'.disk.resolve g.cwd dest = .ok (.entry place
    (.file (g.content (kind.getD (Kind.ofText source.text)) cls source).toUTF8))
  found : s.disk.entry? place = none ∨ ∃ c, s.disk.entry? place = some (.file c)
  elsewhere : ∀ l, l ≠ place → KeptOrAbove g.cwd dest s.disk s'.disk l
  unrecorded : ∀ q ∈ s.log.sorted, dest.same q = false
  written : s'.log.sorted.Perm (dest :: s.log.sorted)

/-- What a run over one source tells and leaves behind. -/
def AllOrNothing (g : Generator) (f : Path) (kind : Option Kind) (s : State) :
    Bool × State → Prop
  | (false, s') => NoTrace g f kind s s'
  | (true, s') => ∃ source cls dest place, OneTest g f kind source cls dest place s s'

theorem noTrace_of_write_error {e : Error}
    (htarget : g.target? s.disk f kind = some (dest, text))
    (h : s.log.write s.disk g.cwd dest text force = (.error e, d')) :
    NoTrace g f kind s ⟨s.log, d'⟩ where
  files l c := (WriteLog.keptOrAbove_of_write_error h l).file_iff c
  places l := Or.inr ⟨dest, text, htarget, WriteLog.keptOrAbove_of_write_error h l⟩
  written := rfl

theorem oneTest_of_wrote {place : Location} {source : Source}
    (hread : Source.read s.disk g.cwd f = .ok source) (hclass : source.class? = some cls)
    (hdest : dest = g.destination (kind.getD (Kind.ofText source.text)) cls)
    (h : Wrote s.log s.disk g.cwd dest
      (g.content (kind.getD (Kind.ofText source.text)) cls source) force place log' d') :
    OneTest g f kind source cls dest place s ⟨log', d'⟩ where
  read := hread
  declares := hclass
  dest_eq := hdest
  holds := h.resolve_eq
  found := h.free_or_file
  elsewhere _ hl := h.keptOrAbove hl
  unrecorded q hq := by
    have hfree := h.not_logged
    rw [WriteLog.contains, List.any_eq_false] at hfree
    simpa using hfree q ((WriteLog.sorted_perm s.log).mem_iff.mp hq)
  written := by
    have hnew : log'.sorted.Perm (dest :: s.log.paths) := h.log_eq ▸ WriteLog.sorted_perm log'
    exact hnew.trans ((WriteLog.sorted_perm s.log).symm.cons dest)

theorem allOrNothing_run (g : Generator) (f : Path) (kind : Option Kind) (force : Bool)
    (s : State) : AllOrNothing g f kind s (g.run f kind force s) := by
  cases hplan : g.plan s.log s.disk f kind force with
  | error e =>
    rw [run_of_no_plan (by simp [hplan])]
    exact ⟨fun _ _ => Iff.rfl, fun _ => Or.inl rfl, rfl⟩
  | ok t =>
    obtain ⟨dest, text⟩ := t
    have htarget := (plan_ok_iff.mp hplan).1
    cases hwrite : s.log.write s.disk g.cwd dest text force with
    | mk result d' =>
      cases result with
      | error e =>
        rw [run_of_write_error hplan hwrite]
        exact noTrace_of_write_error htarget hwrite
      | ok log' =>
        rw [run_of_write hplan hwrite]
        obtain ⟨source, cls, hread, hclass, hdest, rfl⟩ := target?_eq_some_iff.mp htarget
        obtain ⟨place, hwrote⟩ := WriteLog.wrote_of_write_ok hwrite
        exact ⟨source, cls, dest, place, oneTest_of_wrote hread hclass hdest hwrote⟩

/-- From every state and on every disk, a run over one source either fails and leaves no trace, or
it goes well and has written and recorded the test file of the source and nothing else: whether a
kind is forced on the source, or the options may force one. -/
theorem one_source_all_or_nothing (g : Generator) (f : Path) (s : State) :
    (∀ kind force, AllOrNothing g f kind s (g.run f kind force s)) ∧
      ∀ o, AllOrNothing g f o.kind? s (g.runFile f o s) := by
  constructor
  · intro kind force
    exact allOrNothing_run g f kind force s
  · intro o
    exact allOrNothing_run g f o.kind? o.force s

end SuiteForge.Generator
