import SuiteForge.Proofs.Workbench.Operations

/-!
# Writing a path once

Templates and the provider record what they write apart. Nobody writes a path twice, and without
force nobody writes what the other one has written; on demand it is written again.
-/

namespace SuiteForge

variable {cwd : Location} {s s' : Ledger} {xs before after : List Write} {x y : Write}

/-- No two of some paths are the same. -/
def Path.Distinct (ps : List Path) : Prop := ps.Pairwise fun p q => p.same q = false

/-- No path is written twice. -/
def WrittenOnce (xs : List Write) : Prop := Path.Distinct (xs.map Write.path)

/-- One author replaces on demand what the other one has written. -/
def Overruled (xs : List Write) : Prop :=
  ∃ before x after, xs = before ++ x :: after ∧ x.force = true ∧
    ∃ y ∈ before, y.author ≠ x.author ∧ y.path.same x.path = true

theorem pairwise_iff_split {α : Type} {R : α → α → Prop} {xs : List α} :
    xs.Pairwise R ↔ ∀ before x after, xs = before ++ x :: after → ∀ y ∈ before, R y x := by
  constructor
  · rintro h before x after rfl y hy
    exact (List.pairwise_append.mp h).2.2 y hy x List.mem_cons_self
  · intro h
    induction xs with
    | nil => exact List.Pairwise.nil
    | cons a xs ih =>
      refine List.pairwise_cons.mpr ⟨fun x hx => ?_, ih fun before x after heq y hy => ?_⟩
      · obtain ⟨before, after, rfl⟩ := List.append_of_mem hx
        exact h (a :: before) x after rfl a List.mem_cons_self
      · exact h (a :: before) x after (by simp [heq]) y (List.mem_cons_of_mem a hy)

namespace Traced

/-- What is written again was written by the other author, and is replaced on demand. -/
theorem of_same (h : Traced cwd s (before ++ x :: after) s') (hy : y ∈ before)
    (hsame : y.path.same x.path = true) : y.author ≠ x.author ∧ x.force = true := by
  obtain ⟨m, m', place, hfront, hwrites, -⟩ := h.split
  have hwrote := hwrites.wrote
  constructor
  · intro hauthor
    have hmem : y.path ∈ (m.log x.author).paths := by
      rw [hfront.log_eq x.author]
      simp only [List.mem_append, List.mem_reverse, List.mem_map, List.mem_filter,
        decide_eq_true_eq]
      exact Or.inl ⟨y, ⟨hy, hauthor⟩, rfl⟩
    have hlogged := WriteLog.contains_iff.mpr ⟨y.path, hmem, Path.same_symm hsame⟩
    simp [hwrote.not_logged] at hlogged
  · cases hforce : x.force with
    | true => rfl
    | false =>
      rw [hforce] at hwrote
      obtain ⟨l, c, -, hl⟩ := hfront.resolve_place hy
      obtain ⟨target, hresolve, -⟩ := hwrote.resolves
      rw [← hwrites.found] at hl
      have hthere := Disk.resolve_of_same hsame hwrote.made.grows hl hresolve
      have hnot := hwrote.not_there
      rw [Disk.isThere_iff.mpr ⟨l, _, hthere⟩] at hnot
      cases hnot

/-- A path is written twice just when one author overrules the other. -/
theorem writtenOnce_iff (h : Traced cwd s xs s') : WrittenOnce xs ↔ ¬ Overruled xs := by
  rw [WrittenOnce, Path.Distinct, List.pairwise_map]
  constructor
  · rintro honce ⟨before, x, after, rfl, -, y, hy, -, hsame⟩
    have hdifferent := pairwise_iff_split.mp honce before x after rfl y hy
    simp [hsame] at hdifferent
  · intro hnot
    refine pairwise_iff_split.mpr ?_
    rintro before x after rfl y hy
    cases hsame : y.path.same x.path with
    | false => rfl
    | true =>
      obtain ⟨hauthor, hforce⟩ := h.of_same hy hsame
      exact absurd ⟨before, x, after, rfl, hforce, y, hy, hauthor, hsame⟩ hnot

/-- The paths in both logs are those of the trace. -/
theorem logs_perm (h : Traced cwd s xs s') (hfresh : ∀ a, (s.log a).paths = []) :
    ((s'.log .templates).paths ++ (s'.log .provider).paths).Perm (xs.map Write.path) := by
  have hauthors : xs.filter (fun x => x.author = .provider) =
      xs.filter (fun x => !decide (x.author = .templates)) := by
    refine List.filter_congr fun x _ => ?_
    cases x.author <;> rfl
  have hsplit := List.filter_append_perm (fun x : Write => decide (x.author = .templates)) xs
  rw [h.log_eq, h.log_eq, hfresh, hfresh, List.append_nil, List.append_nil, hauthors]
  refine ((List.reverse_perm _).append (List.reverse_perm _)).trans ?_
  rw [← List.map_append]
  exact hsplit.map Write.path

end Traced

namespace Workbench

/-- The list of written files names a path twice just when the path has been written twice. -/
theorem generatedFiles_perm (s : State) :
    (generatedFiles s).Perm (s.written.paths ++ s.aiWritten.paths) :=
  (List.mergeSort_perm _ _).trans ((WriteLog.sorted_perm _).append (WriteLog.sorted_perm _))

/-- From a fresh start every path is written and listed once, unless an operation replaces on demand
what the other author has written. -/
theorem written_once_iff (settings : Settings) (root : Path) (cwd : Location) (d : Disk)
    (s : State) (ops : List Operation) (htemplates : s.written.paths = [])
    (hprovider : s.aiWritten.paths = []) :
    (WrittenOnce ((create settings root cwd d).writesAll ops s) ↔
      ¬ Overruled ((create settings root cwd d).writesAll ops s)) ∧
    (Path.Distinct (generatedFiles ((create settings root cwd d).performAll ops s)) ↔
      ¬ Overruled ((create settings root cwd d).writesAll ops s)) := by
  have htraced := traced_create settings root cwd d ops s
  have hfresh : ∀ a, (s.ledger.log a).paths = [] := by
    intro a
    cases a with
    | templates => exact htemplates
    | provider => exact hprovider
  have hperm := (generatedFiles_perm ((create settings root cwd d).performAll ops s)).trans
    (htraced.logs_perm hfresh)
  have hsymm {p q : Path} (h : p.same q = false) : q.same p = false := by
    cases hqp : q.same p with
    | false => rfl
    | true => simp [Path.same_symm hqp] at h
  refine ⟨htraced.writtenOnce_iff, ?_⟩
  rw [Path.Distinct, hperm.pairwise_iff hsymm]
  exact htraced.writtenOnce_iff

/-! ### Two authors of one file -/

def untested : Disk :=
  ⟨[(["app"], .directory), (["app", "Foo.php"], .file "<?php class Foo {}".toUTF8),
    (["unit.stub"], .file "unit test".toUTF8)]⟩

def withKey : Settings :=
  { ai := { apiKey := "k" }, templates := { unitTest := some ⟨"unit.stub"⟩ } }

/-- A provider that always gives the same code. -/
def sameAnswer : List Reply :=
  [.answer 200 "\x7b\"choices\": [\x7b\"message\": \x7b\"content\": \"<?php\"\x7d\x7d]\x7d"]

/-- Tests from the template and then, on demand or not, from the provider. -/
def bothAuthors (force : Bool) : List Operation :=
  [.generate ⟨"app/Foo.php"⟩ {}, .generateWithAi ⟨"app/Foo.php"⟩ [] { force }]

theorem written_once_iff_bothAuthors :
    (State.fresh sameAnswer untested).written.paths = [] ∧
      (State.fresh sameAnswer untested).aiWritten.paths = [] ∧
      (WrittenOnce ((create withKey ⟨"."⟩ [] untested).writesAll (bothAuthors false)
          (.fresh sameAnswer untested)) ↔
        ¬ Overruled ((create withKey ⟨"."⟩ [] untested).writesAll (bothAuthors false)
          (.fresh sameAnswer untested))) :=
  ⟨rfl, rfl, (written_once_iff withKey ⟨"."⟩ [] untested (.fresh sameAnswer untested)
    (bothAuthors false) rfl rfl).1⟩

/-- A path that both authors write on demand is written and listed twice. -/
theorem written_twice_bothAuthors :
    ¬ WrittenOnce ((create withKey ⟨"."⟩ [] untested).writesAll (bothAuthors true)
        (.fresh sameAnswer untested)) ∧
      generatedFiles ((create withKey ⟨"."⟩ [] untested).performAll (bothAuthors true)
        (.fresh sameAnswer untested)) =
          [⟨"./tests/Unit/FooTest.php"⟩, ⟨"./tests/Unit/FooTest.php"⟩] := by
  have hpaths : ((create withKey ⟨"."⟩ [] untested).writesAll (bothAuthors true)
      (.fresh sameAnswer untested)).map Write.path =
        [⟨"./tests/Unit/FooTest.php"⟩, ⟨"./tests/Unit/FooTest.php"⟩] := by decide +kernel
  constructor
  · rw [WrittenOnce, hpaths]
    simp [Path.Distinct, Path.same_refl]
  · have htraced := traced_create withKey ⟨"."⟩ [] untested (bothAuthors true)
      (.fresh sameAnswer untested)
    have hperm := (generatedFiles_perm _).trans (htraced.logs_perm fun a => by cases a <;> rfl)
    rw [hpaths] at hperm
    have hreplicate : [Path.mk "./tests/Unit/FooTest.php", ⟨"./tests/Unit/FooTest.php"⟩] =
        List.replicate 2 ⟨"./tests/Unit/FooTest.php"⟩ := rfl
    rw [hreplicate] at hperm ⊢
    exact List.perm_replicate.mp hperm

end Workbench
end SuiteForge
