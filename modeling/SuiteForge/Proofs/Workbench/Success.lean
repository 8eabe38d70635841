import Mathlib.Data.List.Forall2
import SuiteForge.Proofs.Workbench.Operations

/-!
# Operations that go well

An operation goes well when each of its sources gets its test file. A directory without sources has
nothing to go wrong in it.
-/

namespace SuiteForge

open List (Forall₂)
open Php (Kind)

theorem forall₂_singleton_iff {R : Path → Write → Prop} {f : Path} {xs : List Write} :
    Forall₂ R [f] xs ↔ ∃ x, R f x ∧ xs = [x] := by
  simp [List.forall₂_cons_left_iff, and_comm]

/-! ### Tests from templates -/

namespace Generator

variable {g : Generator} {f path : Path} {kind : Option Kind} {force : Bool}
  {o : GenerateOptions} {s : State} {x : Write}

/-- A write is for a source. -/
def Tests (g : Generator) (f : Path) (x : Write) : Prop :=
  ∃ dir cls, TestsSource g.settings g.root g.cwd x.found f dir cls x.path

theorem run_ok_iff (g : Generator) (f : Path) (kind : Option Kind) (force : Bool) (s : State) :
    (g.run f kind force s).1 = true ↔ ∃ x, g.Tests f x ∧ g.writes f kind force s = [x] := by
  constructor
  · intro hok
    rcases run_cases g f kind force s with ⟨hfailed, -⟩ | ⟨dest, text, place, hplan, -, -⟩
    · simp [hok] at hfailed
    · have hwrites : g.writes f kind force s =
          [{ author := .templates, force, path := dest, text, found := s.disk }] := by
        simp only [writes, hplan, hok]
      exact ⟨_, (mem_writes (hwrites ▸ List.mem_singleton_self _)).2, hwrites⟩
  · rintro ⟨x, -, hx⟩
    unfold writes at hx
    split at hx
    · assumption
    · cases hx

theorem writes_of_failed (h : (g.run f kind force s).1 = false) :
    g.writes f kind force s = [] := by
  simp [writes, h]

theorem length_writesFiles_le (g : Generator) (o : GenerateOptions) (files : List Path)
    (s : State) : (g.writesFiles o files s).length ≤ files.length := by
  induction files generalizing s with
  | nil => exact Nat.le_refl 0
  | cons f files ih =>
    have hrest := ih (g.runFile f o s).2
    rw [writesFiles, List.length_append, List.length_cons]
    cases hok : (g.run f o.kind? o.force s).1 with
    | true =>
      obtain ⟨x, -, hx⟩ := (run_ok_iff g f o.kind? o.force s).mp hok
      rw [hx, List.length_singleton]
      omega
    | false =>
      rw [writes_of_failed hok, List.length_nil]
      omega

/-- A run over sources goes well when it writes tests for each of them. -/
theorem runFiles_ok_iff (g : Generator) (o : GenerateOptions) (files : List Path) (s : State) :
    (g.runFiles o files s).1 = true ↔ Forall₂ g.Tests files (g.writesFiles o files s) := by
  induction files generalizing s with
  | nil => simp [runFiles, writesFiles]
  | cons f files ih =>
    have hrun : (g.runFiles o (f :: files) s).1 =
        ((g.run f o.kind? o.force s).1 && (g.runFiles o files (g.runFile f o s).2).1) := rfl
    rw [hrun, Bool.and_eq_true, ih, writesFiles]
    constructor
    · rintro ⟨hok, hrest⟩
      obtain ⟨x, htests, hx⟩ := (run_ok_iff g f o.kind? o.force s).mp hok
      rw [hx]
      exact .cons htests hrest
    · intro hall
      cases hok : (g.run f o.kind? o.force s).1 with
      | true =>
        obtain ⟨x, -, hx⟩ := (run_ok_iff g f o.kind? o.force s).mp hok
        rw [hx] at hall
        cases hall with
        | cons _ hrest => exact ⟨rfl, hrest⟩
      | false =>
        -- the sources behind this one can not make up for the write that is missing
        have hlength := hall.length_eq
        have hle := length_writesFiles_le g o files (g.runFile f o s).2
        rw [writes_of_failed hok, List.nil_append, List.length_cons] at hlength
        omega

theorem runPath_ok_iff (g : Generator) (path : Path) (o : GenerateOptions) (s : State) :
    (g.runPath path o s).1 = true ↔ s.disk.isThere g.cwd path = true ∧
      Forall₂ g.Tests (g.sourcesOf path s.disk) (g.writesPath path o s) := by
  unfold runPath sourcesOf writesPath Disk.isThere
  cases s.disk.at? g.cwd path with
  | none => simp
  | some e =>
    cases e with
    | directory => simpa [runDirectory] using runFiles_ok_iff g o _ s
    | file c =>
      rw [Option.isSome_some, eq_self, true_and, forall₂_singleton_iff]
      exact run_ok_iff g path o.kind? o.force s

end Generator

/-! ### Tests from the provider -/

theorem AiGenerator.run_ok_iff (g : AiGenerator) (f : Path) (context : List (String × String))
    (o : AiOptions) (s : State) : (g.run f context o s).1 = .ok true ↔
      ∃ x, (∃ dir cls, TestsSource g.settings g.root g.cwd x.found f dir cls x.path) ∧
        g.writes f context o s = [x] := by
  constructor
  · intro hok
    rcases run_cases g f context o s with ⟨hfailed, -⟩ | ⟨path, text, place, hanswered, -, -⟩
    · exact absurd hok hfailed
    · have hwrites : g.writes f context o s =
          [{ author := .provider, force := o.force, path, text, found := s.disk }] := by
        simp only [writes, hanswered, hok]
      exact ⟨_, (mem_writes (hwrites ▸ List.mem_singleton_self _)).2, hwrites⟩
  · rintro ⟨x, -, hx⟩
    unfold writes at hx
    split at hx
    · assumption
    · cases hx

/-! ### Operations -/

theorem TestsSource.isThere {settings : Settings} {root f dir p : Path} {cwd : Location} {d : Disk}
    {cls : String} (h : TestsSource settings root cwd d f dir cls p) :
    d.isThere cwd f = true := by
  obtain ⟨text, hread, -⟩ := h.declares
  unfold Disk.readText Disk.read at hread
  split at hread
  · rename_i l content hresolve
    exact Disk.isThere_iff.mpr ⟨l, .file content, hresolve⟩
  all_goals cases hread

namespace Workbench

def Operation.path : Operation → Path
  | .generate path _ => path
  | .generateAs _ path _ => path
  | .generateWithAi path _ _ => path

def Succeeds (w : Workbench) : Operation → State → Prop
  | .generate path o, s => (w.generate path o s).1 = true
  | .generateAs kind path force, s => (w.generateAs kind path force s).1 = true
  | .generateWithAi path context o, s => (w.generateWithAi path context o s).1 = .ok true

def Tests (w : Workbench) (f : Path) (x : Write) : Prop :=
  ∃ dir cls, TestsSource w.settings w.root w.cwd x.found f dir cls x.path

theorem found_of_writes {w : Workbench} {op : Operation} {s : State} {x : Write}
    (h : w.writes op s = [x]) (hop : ∀ path o, op ≠ .generate path o) :
    x.found = s.harness.disk := by
  cases op with
  | generate path o => exact absurd rfl (hop path o)
  | generateAs kind path force =>
    simp only [writes, Generator.writes] at h
    split at h
    · obtain rfl := List.singleton_inj.mp h
      rfl
    · cases h
  | generateWithAi path context o =>
    simp only [writes, AiGenerator.writes] at h
    split at h
    · obtain rfl := List.singleton_inj.mp h
      rfl
    · cases h

/-- Where one file is all there is to write tests for, a write for it shows that it is there. -/
theorem exists_tests_iff (w : Workbench) (op : Operation) (s : State)
    (hop : ∀ path o, op ≠ .generate path o) (hsources : w.sourcesOf op s.harness.disk = [op.path]) :
    (∃ x, w.Tests op.path x ∧ w.writes op s = [x]) ↔
      s.harness.disk.isThere w.cwd op.path = true ∧
        Forall₂ w.Tests (w.sourcesOf op s.harness.disk) (w.writes op s) := by
  rw [hsources, forall₂_singleton_iff]
  constructor
  · rintro ⟨x, ⟨dir, cls, hsource⟩, hx⟩
    refine ⟨?_, x, ⟨dir, cls, hsource⟩, hx⟩
    rw [← found_of_writes hx hop]
    exact hsource.isThere
  · rintro ⟨-, hx⟩
    exact hx

/-- An operation goes well when there is something to write tests for and each source gets its test
file. -/
theorem succeeds_iff (settings : Settings) (root : Path) (cwd : Location) (d : Disk)
    (op : Operation) (s : State) : Succeeds (create settings root cwd d) op s ↔
      s.harness.disk.isThere cwd op.path = true ∧
        Forall₂ (create settings root cwd d).Tests
          ((create settings root cwd d).sourcesOf op s.harness.disk)
          ((create settings root cwd d).writes op s) := by
  cases op with
  | generate path o => exact (create settings root cwd d).generator.runPath_ok_iff path o _
  | generateAs kind path force =>
    refine Iff.trans ?_ (exists_tests_iff (create settings root cwd d) _ s (by simp) rfl)
    exact (create settings root cwd d).generator.run_ok_iff path (some kind) force _
  | generateWithAi path context o =>
    refine Iff.trans ?_ (exists_tests_iff (create settings root cwd d) _ s (by simp) rfl)
    exact (create settings root cwd d).ai.run_ok_iff path context o _

end Workbench
end SuiteForge
