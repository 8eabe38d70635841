import SuiteForge.Generator
import SuiteForge.Proofs.Destination
import SuiteForge.Proofs.Php.Introspection
import SuiteForge.Proofs.WriteLog

/-!
# What a source asks for

A source that can be read and declares a class asks for a text at a destination. The tests of a
source are written when that destination is free, and otherwise nothing happens to the files.
-/

namespace SuiteForge

/-- The kind that options force on every class. -/
def GenerateOptions.kind? (o : GenerateOptions) : Option Php.Kind :=
  o.testType.bind TestType.forcedKind?

namespace Generator

open Disk (Widens)
open Php (Source Kind)
open WriteLog (Wrote)

variable {g : Generator} {log : WriteLog} {d : Disk} {f dest : Path} {text : String}
  {kind : Option Kind} {force : Bool} {o : GenerateOptions} {s : State} {files : List Path}

/-! ### Targets -/

/-- The destination and the text that a source asks for; nothing if the source can not be read or
declares no class. -/
def target? (g : Generator) (d : Disk) (f : Path) (kind : Option Kind) : Option (Path × String) :=
  match Source.read d g.cwd f with
  | .error _ => none
  | .ok source => source.class?.map fun cls =>
    let kind := kind.getD (Kind.ofText source.text)
    (g.destination kind cls, g.content kind cls source)

/-- A target is the test file of the class of a source, in the suite of its kind. -/
theorem target?_eq_some_iff : g.target? d f kind = some (dest, text) ↔
    ∃ source cls, Source.read d g.cwd f = .ok source ∧ source.class? = some cls ∧
      dest = g.destination (kind.getD (Kind.ofText source.text)) cls ∧
      text = g.content (kind.getD (Kind.ofText source.text)) cls source := by
  unfold target?
  cases Source.read d g.cwd f with
  | error e => simp
  | ok source => cases hclass : source.class? <;> simp [hclass, eq_comm]

theorem testsSource_of_target? (h : g.target? d f kind = some (dest, text)) :
    ∃ dir cls, TestsSource g.settings g.root g.cwd d f dir cls dest := by
  obtain ⟨source, cls, hread, hclass, rfl, -⟩ := target?_eq_some_iff.mp h
  obtain ⟨content, hcontent, rfl⟩ := Source.read_ok_iff.mp hread
  refine ⟨_, cls, ?_, ⟨content, hcontent, hclass⟩, rfl⟩
  cases Suite.ofKind (kind.getD (Kind.ofText (Source.ofText f content).text)) with
  | unit => exact Or.inl rfl
  | feature => exact Or.inr rfl

/-- A plan is a target whose destination is free. -/
theorem plan_ok_iff : g.plan log d f kind force = .ok (dest, text) ↔
    g.target? d f kind = some (dest, text) ∧ log.ensureFree d g.cwd dest force = .ok () := by
  unfold plan target?
  cases hread : Source.read d g.cwd f with
  | error e => simp [bind, Except.bind]
  | ok source =>
    cases hclass : source.class? with
    | none => simp [Source.requireClass, hclass, bind, Except.bind]
    | some cls =>
      simp only [Source.requireClass, hclass, bind, Except.bind, pure, Except.pure,
        Option.map_some]
      generalize g.destination _ cls = there
      cases hfree : log.ensureFree d g.cwd there force with
      | error e =>
        simp only [reduceCtorEq, Option.some.injEq, Prod.mk.injEq, false_iff, not_and]
        rintro ⟨rfl, -⟩
        simp [hfree]
      | ok _ =>
        simp only [Except.ok.injEq, Option.some.injEq, Prod.mk.injEq, iff_self_and, and_imp]
        rintro rfl -
        exact hfree

/-- A target is found again where the source has the same content. -/
theorem target?_congr {d' : Disk} (h : d'.read g.cwd f = d.read g.cwd f) :
    g.target? d' f kind = g.target? d f kind := by
  simp only [target?, Source.read, Disk.readText, h]

/-! ### Runs over one source -/

theorem run_of_write {d' : Disk} {log' : WriteLog}
    (h : g.plan s.log s.disk f kind force = .ok (dest, text))
    (hwrite : s.log.write s.disk g.cwd dest text force = (.ok log', d')) :
    g.run f kind force s = (true, ⟨log', d'⟩) := by
  simp only [run, generate, h, hwrite]

theorem run_of_write_error {d' : Disk} {e : Error}
    (h : g.plan s.log s.disk f kind force = .ok (dest, text))
    (hwrite : s.log.write s.disk g.cwd dest text force = (.error e, d')) :
    g.run f kind force s = (false, ⟨s.log, d'⟩) := by
  simp only [run, generate, h, hwrite]

/-- A source without a plan changes nothing. -/
theorem run_of_no_plan (h : ∀ t, g.plan s.log s.disk f kind force ≠ .ok t) :
    g.run f kind force s = (false, s) := by
  cases hplan : g.plan s.log s.disk f kind force with
  | error e => simp [run, generate, hplan]
  | ok t => exact absurd hplan (h t)

/-- The tests of a source are written to its destination, or directories are made at most. -/
theorem run_cases (g : Generator) (f : Path) (kind : Option Kind) (force : Bool) (s : State) :
    ((g.run f kind force s).1 = false ∧ (g.run f kind force s).2.log = s.log ∧
        Widens s.disk (g.run f kind force s).2.disk) ∨
      ∃ dest text place, g.plan s.log s.disk f kind force = .ok (dest, text) ∧
        (g.run f kind force s).1 = true ∧
        Wrote s.log s.disk g.cwd dest text force place (g.run f kind force s).2.log
          (g.run f kind force s).2.disk := by
  cases hplan : g.plan s.log s.disk f kind force with
  | error e =>
    rw [run_of_no_plan (by simp [hplan])]
    exact Or.inl ⟨rfl, rfl, .refl _⟩
  | ok t =>
    obtain ⟨dest, text⟩ := t
    cases hwrite : s.log.write s.disk g.cwd dest text force with
    | mk result disk =>
      cases result with
      | error e =>
        rw [run_of_write_error hplan hwrite]
        exact Or.inl ⟨rfl, rfl, WriteLog.widens_of_write_error hwrite⟩
      | ok log' =>
        rw [run_of_write hplan hwrite]
        obtain ⟨place, hwrote⟩ := WriteLog.wrote_of_write_ok hwrite
        exact Or.inr ⟨dest, text, place, rfl, rfl, hwrote⟩

/-! ### Runs over several sources -/

theorem runFiles_append (g : Generator) (o : GenerateOptions) (files files' : List Path)
    (s : State) :
    g.runFiles o (files ++ files') s =
      ((g.runFiles o files s).1 && (g.runFiles o files' (g.runFiles o files s).2).1,
        (g.runFiles o files' (g.runFiles o files s).2).2) := by
  induction files generalizing s with
  | nil => simp [runFiles]
  | cons f files ih => simp [runFiles, ih, Bool.and_assoc]

end Generator
end SuiteForge
