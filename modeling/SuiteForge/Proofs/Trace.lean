import SuiteForge.Proofs.WriteLog

/-!
# Traces of writes

A run of whatever writes tests leaves a trace of the writes that have gone through. Apart from them
at most directories are made, so the trace alone decides what a file holds in the end.
-/

namespace SuiteForge

open Disk (Grows Widens)
open WriteLog (ground Wrote)

/-! ### Writes -/

inductive Author where
  | templates
  | provider
  deriving DecidableEq

/-- A write that has gone through: whose it was, whether it was on demand, and the disk it found. -/
structure Write where
  author : Author
  force : Bool
  path : Path
  text : String
  found : Disk

/-- Where a write goes: where its path leads once the directories above it are there. -/
def Write.place? (cwd : Location) (x : Write) : Option Location :=
  (ground x.found cwd x.path).landing? cwd x.path

/-- The text of the last write to a place. -/
def lastText? (cwd : Location) (l : Location) (xs : List Write) : Option String :=
  (xs.filter fun x => x.place? cwd = some l).getLast?.map Write.text

theorem lastText?_cons (cwd l : Location) (x : Write) (xs : List Write) :
    lastText? cwd l (x :: xs) =
      (lastText? cwd l xs).or (if x.place? cwd = some l then some x.text else none) := by
  unfold lastText?
  by_cases hx : x.place? cwd = some l
  · cases hlast : (xs.filter fun x => x.place? cwd = some l).getLast? <;>
      simp [hx, List.getLast?_cons, hlast]
  · simp [hx]

theorem lastText?_eq_none {cwd l : Location} {xs : List Write}
    (h : ∀ x ∈ xs, x.place? cwd ≠ some l) : lastText? cwd l xs = none := by
  have hfilter : xs.filter (fun x => x.place? cwd = some l) = [] := by simpa using h
  rw [lastText?, hfilter]
  rfl

theorem lastText?_append (cwd l : Location) (xs ys : List Write) :
    lastText? cwd l (xs ++ ys) = (lastText? cwd l ys).or (lastText? cwd l xs) := by
  induction xs with
  | nil => simp [lastText?]
  | cons x xs ih => rw [List.cons_append, lastText?_cons, lastText?_cons, ih, Option.or_assoc]

/-! ### Traces -/

/-- What everyone has written, and the disk. -/
structure Ledger where
  log : Author → WriteLog
  disk : Disk

namespace Ledger

/-- Nothing is written. -/
structure Quiet (s s' : Ledger) : Prop where
  log : s'.log = s.log
  widens : Widens s.disk s'.disk

theorem Quiet.refl (s : Ledger) : Quiet s s := ⟨rfl, .refl _⟩

theorem Quiet.trans {s s' s'' : Ledger} (h : Quiet s s') (h' : Quiet s' s'') : Quiet s s'' :=
  ⟨h'.log.trans h.log, h.widens.trans h'.widens⟩

/-- One write, which its author records and nobody else. -/
structure Writes (cwd : Location) (x : Write) (place : Location) (s s' : Ledger) : Prop where
  found : x.found = s.disk
  wrote : Wrote (s.log x.author) x.found cwd x.path x.text x.force place (s'.log x.author) s'.disk
  others : ∀ a, a ≠ x.author → s'.log a = s.log a

end Ledger

open Ledger (Quiet Writes)

/-- The writes that lead from one ledger to another. -/
inductive Traced (cwd : Location) : Ledger → List Write → Ledger → Prop where
  | quiet {s s' : Ledger} (hquiet : Quiet s s') : Traced cwd s [] s'
  | write {s m m' s' : Ledger} {x : Write} {place : Location} {xs : List Write}
      (hquiet : Quiet s m) (hwrites : Writes cwd x place m m') (hrest : Traced cwd m' xs s') :
      Traced cwd s (x :: xs) s'

variable {cwd l : Location} {s s' s'' : Ledger} {x : Write} {xs ys : List Write} {c : ByteArray}

theorem Ledger.Writes.place?_eq {place : Location} (h : Writes cwd x place s s') :
    x.place? cwd = some place := by
  obtain ⟨target, hresolve, rfl⟩ := h.wrote.resolves
  exact Disk.landing?_of_resolve hresolve

theorem Ledger.Writes.grows {place : Location} (h : Writes cwd x place s s') :
    Grows s.disk s'.disk :=
  h.found ▸ h.wrote.grows

theorem Ledger.Writes.isTree {place : Location} (h : Writes cwd x place s s')
    (htree : s.disk.IsTree) : s'.disk.IsTree :=
  h.wrote.isTree (h.found ▸ htree)

namespace Traced

theorem refl (s : Ledger) : Traced cwd s [] s := .quiet (.refl s)

theorem single {place : Location} (h : Writes cwd x place s s') : Traced cwd s [x] s' :=
  .write (.refl s) h (.refl s')

theorem after_quiet (hquiet : Quiet s s') (h : Traced cwd s' xs s'') : Traced cwd s xs s'' := by
  cases h with
  | quiet hquiet' => exact .quiet (hquiet.trans hquiet')
  | write hquiet' hwrites hrest => exact .write (hquiet.trans hquiet') hwrites hrest

theorem append (h : Traced cwd s xs s') (h' : Traced cwd s' ys s'') :
    Traced cwd s (xs ++ ys) s'' := by
  induction h with
  | quiet hquiet => exact h'.after_quiet hquiet
  | write hquiet hwrites _ ih => exact .write hquiet hwrites (ih h')

/-- A trace can be cut at any of its writes. -/
theorem split (h : Traced cwd s (xs ++ x :: ys) s') :
    ∃ m m' place, Traced cwd s xs m ∧ Writes cwd x place m m' ∧ Traced cwd m' ys s' := by
  induction xs generalizing s with
  | nil =>
    cases h with
    | write hquiet hwrites hrest => exact ⟨_, _, _, .quiet hquiet, hwrites, hrest⟩
  | cons x₀ xs ih =>
    cases h with
    | write hquiet hwrites hrest =>
      obtain ⟨m, m', place, hfront, hmid, hback⟩ := ih hrest
      exact ⟨m, m', place, .write hquiet hwrites hfront, hmid, hback⟩

theorem grows (h : Traced cwd s xs s') : Grows s.disk s'.disk := by
  induction h with
  | quiet hquiet => exact hquiet.widens.made.grows
  | write hquiet hwrites _ ih => exact (hquiet.widens.made.grows.trans hwrites.grows).trans ih

theorem isTree (h : Traced cwd s xs s') (htree : s.disk.IsTree) : s'.disk.IsTree := by
  induction h with
  | quiet hquiet => exact hquiet.widens.tree htree
  | write hquiet hwrites _ ih => exact ih (hwrites.isTree (hquiet.widens.tree htree))

/-- A file holds what was written to its place last, or what it held before. -/
theorem entry?_eq (h : Traced cwd s xs s') (hfile : s.disk.entry? l = some (.file c)) :
    s'.disk.entry? l =
      some (.file (((lastText? cwd l xs).map String.toUTF8).getD c)) := by
  induction h generalizing c with
  | quiet hquiet => exact hquiet.widens.made.entry?_eq hfile
  | @write s m m' s' x place xs hquiet hwrites _ ih =>
    have hm : m.disk.entry? l = some (.file c) := hquiet.widens.made.entry?_eq hfile
    rw [lastText?_cons, hwrites.place?_eq]
    -- a later write to the place counts more than this one, and this one more than what was there
    by_cases hl : l = place
    · rw [ih (hl ▸ hwrites.wrote.entry?_place), hl]
      cases lastText? cwd place xs <;> simp
    · have hm' : m'.disk.entry? l = some (.file c) := by
        rw [hwrites.wrote.file_iff hl, hwrites.found, hm]
      have hne : ¬ some place = some l := fun heq => hl (Option.some.inj heq).symm
      rw [ih hm', if_neg hne, Option.or_none]

/-- What a file holds that it did not hold before has been written to its place. -/
theorem exists_write (h : Traced cwd s xs s') (hfile : s'.disk.entry? l = some (.file c))
    (hnew : s.disk.entry? l ≠ some (.file c)) : ∃ x ∈ xs, x.place? cwd = some l := by
  induction h with
  | quiet hquiet => exact absurd ((hquiet.widens.made.file_iff c).mp hfile) hnew
  | @write s m m' s' x place xs hquiet hwrites _ ih =>
    by_cases hl : l = place
    · exact ⟨x, List.mem_cons_self, hl ▸ hwrites.place?_eq⟩
    · have hm : m'.disk.entry? l ≠ some (.file c) := by
        rw [ne_eq, hwrites.wrote.file_iff hl, hwrites.found, hquiet.widens.made.file_iff]
        exact hnew
      obtain ⟨y, hy, hplace⟩ := ih hfile hm
      exact ⟨y, List.mem_cons_of_mem x hy, hplace⟩

/-- Everything written is found again. -/
theorem resolve_place (h : Traced cwd s xs s') (hx : x ∈ xs) : ∃ place c,
    x.place? cwd = some place ∧ s'.disk.resolve cwd x.path = .ok (.entry place (.file c)) := by
  obtain ⟨front, back, rfl⟩ := List.append_of_mem hx
  obtain ⟨m, m', place, -, hwrites, hback⟩ := h.split
  obtain ⟨e, he, hentry⟩ := Disk.resolve_of_grows hback.grows hwrites.wrote.resolve_eq
  obtain ⟨c, hc⟩ := hback.grows.file _ _ hwrites.wrote.entry?_place
  rw [hc] at hentry
  cases hentry
  exact ⟨place, c, hwrites.place?_eq, he⟩

/-- At the place of a write the text of the last write there is found. -/
theorem resolve_last (h : Traced cwd s xs s') (hx : x ∈ xs) : ∃ place text,
    x.place? cwd = some place ∧ lastText? cwd place xs = some text ∧
      s'.disk.resolve cwd x.path = .ok (.entry place (.file text.toUTF8)) := by
  obtain ⟨place, c, hplace, hresolve⟩ := h.resolve_place hx
  obtain ⟨front, back, rfl⟩ := List.append_of_mem hx
  obtain ⟨m, m', place', -, hwrites, hback⟩ := h.split
  -- after the write only the writes behind it count
  obtain rfl : place' = place := Option.some.inj (hwrites.place?_eq.symm.trans hplace)
  have hholds := hback.entry?_eq hwrites.wrote.entry?_place
  rw [Disk.entry?_of_resolve hresolve] at hholds
  refine ⟨place', (lastText? cwd place' back).getD x.text, hplace, ?_, ?_⟩
  · rw [lastText?_append, lastText?_cons, if_pos hplace]
    cases lastText? cwd place' back <;> simp
  · rw [hresolve, Option.some.inj hholds]
    cases lastText? cwd place' back <;> rfl

/-- Everyone's log holds the paths of the own writes, newest first. -/
theorem log_eq (h : Traced cwd s xs s') (a : Author) :
    (s'.log a).paths = ((xs.filter fun x => x.author = a).map Write.path).reverse ++
      (s.log a).paths := by
  induction h with
  | quiet hquiet => simp [hquiet.log]
  | @write s m m' s' x place xs hquiet hwrites _ ih =>
    rw [ih, ← hquiet.log]
    by_cases ha : x.author = a
    · subst ha
      simp [hwrites.wrote.log_eq]
    · simp [ha, hwrites.others a (Ne.symm ha)]

end Traced

end SuiteForge
