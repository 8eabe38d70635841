import SuiteForge.Proofs.WriteLog

/-!
# The history of a write log

Paths are looked at, files are written, and others change the disk, in any order. The log holds the
paths of the writes that have gone through and nothing else; such a path is refused ever after,
whatever has become of its file.
-/

namespace SuiteForge.WriteLog

open Disk (MadeDirectories)

/-! ### Events -/

/-- What can happen to a log and the disk that it is about. -/
inductive Event where
  | look (p : Path) (force : Bool)
  | write (p : Path) (text : String) (force : Bool)
  /-- Someone else leaves another disk behind. -/
  | others (d : Disk)

structure State where
  log : WriteLog
  disk : Disk

namespace Event

def perform (cwd : Location) (s : State) : Event → State
  | .look _ _ => s
  | .write p text force =>
    match s.log.write s.disk cwd p text force with
    | (.ok log, disk) => ⟨log, disk⟩
    | (.error _, disk) => ⟨s.log, disk⟩
  | .others disk => ⟨s.log, disk⟩

/-- The path of a write that goes through. -/
def written (cwd : Location) (s : State) : Event → List Path
  | .write p text force =>
    match s.log.write s.disk cwd p text force with
    | (.ok _, _) => [p]
    | (.error _, _) => []
  | _ => []

end Event

def run (cwd : Location) : State → List Event → State
  | s, [] => s
  | s, e :: es => run cwd (e.perform cwd s) es

def written (cwd : Location) : State → List Event → List Path
  | _, [] => []
  | s, e :: es => e.written cwd s ++ written cwd (e.perform cwd s) es

variable {cwd : Location} {s : State} {e : Event} {p q : Path}

/-! ### One event -/

theorem log_perform (cwd : Location) (s : State) (e : Event) :
    (e.perform cwd s).log.paths = e.written cwd s ++ s.log.paths := by
  cases e with
  | look p force => rfl
  | others disk => rfl
  | write p text force =>
    cases hwrite : s.log.write s.disk cwd p text force with
    | mk result disk =>
      cases result with
      | error e => simp [Event.perform, Event.written, hwrite]
      | ok log =>
        obtain ⟨place, hwrote⟩ := wrote_of_write_ok hwrite
        simp [Event.perform, Event.written, hwrite, hwrote.log_eq]

/-- What is written had not been written. -/
theorem not_contains_of_mem_written (hp : p ∈ e.written cwd s) : s.log.contains p = false := by
  cases e with
  | look q force => cases hp
  | others disk => cases hp
  | write q text force =>
    cases hwrite : s.log.write s.disk cwd q text force with
    | mk result disk =>
      cases result with
      | error e => simp [Event.written, hwrite] at hp
      | ok log =>
        obtain ⟨place, hwrote⟩ := wrote_of_write_ok hwrite
        obtain rfl : p = q := by simpa [Event.written, hwrite] using hp
        exact hwrote.not_logged

theorem written_cases (cwd : Location) (s : State) (e : Event) :
    e.written cwd s = [] ∨ ∃ p, e.written cwd s = [p] := by
  cases e with
  | look p force => exact Or.inl rfl
  | others disk => exact Or.inl rfl
  | write p text force =>
    simp only [Event.written]
    split
    · exact Or.inr ⟨p, rfl⟩
    · exact Or.inl rfl

/-- No two paths in a log are the same. -/
def Distinct (log : WriteLog) : Prop := log.paths.Pairwise fun p q => p.same q = false

theorem distinct_perform (h : s.log.Distinct) (e : Event) : (e.perform cwd s).log.Distinct := by
  rw [Distinct, log_perform]
  rcases written_cases cwd s e with hnone | ⟨p, hone⟩
  · rw [hnone]
    exact h
  · rw [hone, List.singleton_append]
    refine List.pairwise_cons.mpr ⟨?_, h⟩
    intro q hq
    have hwritten : p ∈ e.written cwd s := by simp [hone]
    have hnew := not_contains_of_mem_written hwritten
    cases hsame : p.same q with
    | false => rfl
    | true =>
      have hold := contains_iff.mpr ⟨q, hq, hsame⟩
      rw [hnew] at hold
      cases hold

/-! ### All events -/

theorem log_run (cwd : Location) (s : State) (events : List Event) :
    (run cwd s events).log.paths = (written cwd s events).reverse ++ s.log.paths := by
  induction events generalizing s with
  | nil => rfl
  | cons e es ih =>
    have hone : (e.written cwd s).reverse = e.written cwd s := by
      rcases written_cases cwd s e with h | ⟨p, h⟩ <;> simp [h]
    rw [run, written, ih, log_perform, List.reverse_append, hone, List.append_assoc]

theorem distinct_run (h : s.log.Distinct) (events : List Event) :
    (run cwd s events).log.Distinct := by
  induction events generalizing s with
  | nil => exact h
  | cons e es ih => exact ih (distinct_perform h e)

/-- What has been written stays written. -/
theorem contains_run (cwd : Location) (h : s.log.contains p = true) (events : List Event) :
    (run cwd s events).log.contains p = true := by
  obtain ⟨q, hq, hsame⟩ := contains_iff.mp h
  refine contains_iff.mpr ⟨q, ?_, hsame⟩
  -- a run only puts paths in front of those that are there
  rw [log_run]
  exact List.mem_append_right _ hq

/-! ### The law -/

/-- What holds of a log and its disk when the writes to some paths have gone through. -/
structure Lawful (cwd : Location) (succeeded : List Path) (s : State) : Prop where
  /-- The log is exactly the set of these paths. -/
  recorded : ∀ p, s.log.contains p = true ↔ ∃ q ∈ succeeded, q.same p = true
  /-- Each of them was written once. -/
  once : succeeded.Pairwise fun p q => p.same q = false
  listed : s.log.paths = succeeded.reverse
  /-- None of them is free again, whatever happens. -/
  refused : ∀ p ∈ succeeded, ∀ q, p.same q = true → ∀ later text force,
    (run cwd s later).log.ensureFree (run cwd s later).disk cwd q force =
        .error (.destinationExists q) ∧
      (run cwd s later).log.write (run cwd s later).disk cwd q text force =
        (.error (.destinationExists q), (run cwd s later).disk)
  /-- A write goes through just when its path is free and the disk takes it. -/
  accepted : ∀ p text force, (∃ log' d', s.log.write s.disk cwd p text force = (.ok log', d')) ↔
    s.log.ensureFree s.disk cwd p force = .ok () ∧ Fits s.disk cwd p text
  /-- It puts the text at its path, and leaves all other files alone. -/
  success : ∀ p text force log' d', s.log.write s.disk cwd p text force = (.ok log', d') →
    log'.paths = p :: s.log.paths ∧ ∃ place,
      d'.resolve cwd p = .ok (.entry place (.file text.toUTF8)) ∧
        ∀ l ≠ place, ∀ c, d'.entry? l = some (.file c) ↔ s.disk.entry? l = some (.file c)
  /-- A write that fails records nothing and leaves all files alone; what is new is a directory
  above its path. -/
  failure : ∀ p text force e d', s.log.write s.disk cwd p text force = (.error e, d') →
    ((Event.write p text force).perform cwd s).log = s.log ∧
      (∀ l c, d'.entry? l = some (.file c) ↔ s.disk.entry? l = some (.file c)) ∧
      MadeDirectories s.disk d' ∧
      ∀ m, s.disk.entry? m = none → d'.entry? m ≠ none →
        ∃ up, Path.Above up p ∧ d'.resolve cwd up = .ok (.entry m .directory)

theorem recorded_of_listed {succeeded : List Path} (h : s.log.paths = succeeded.reverse)
    (p : Path) : s.log.contains p = true ↔ ∃ q ∈ succeeded, q.same p = true := by
  rw [contains_iff, h]
  constructor
  · rintro ⟨q, hq, hsame⟩
    exact ⟨q, List.mem_reverse.mp hq, Path.same_symm hsame⟩
  · rintro ⟨q, hq, hsame⟩
    exact ⟨q, List.mem_reverse.mpr hq, Path.same_symm hsame⟩

/-- From an empty log on, every history of looks, writes and changes by others keeps the law. -/
theorem lawful_history (cwd : Location) (d : Disk) (events : List Event) :
    Lawful cwd (written cwd ⟨{}, d⟩ events) (run cwd ⟨{}, d⟩ events) := by
  have hlisted : (run cwd ⟨{}, d⟩ events).log.paths =
      (written cwd ⟨{}, d⟩ events).reverse := by
    rw [log_run, List.append_nil]
  have hempty : (State.mk {} d).log.Distinct := List.Pairwise.nil
  have hdistinct : (run cwd ⟨{}, d⟩ events).log.Distinct := distinct_run hempty events
  constructor
  case recorded => exact recorded_of_listed hlisted
  case listed => exact hlisted
  case once =>
    rw [Distinct, hlisted, List.pairwise_reverse] at hdistinct
    refine hdistinct.imp ?_
    intro p q hsame
    cases hpq : p.same q with
    | false => rfl
    | true => rw [Path.same_symm hpq] at hsame; cases hsame
  case refused =>
    intro p hp q hsame later text force
    have hrecorded := (recorded_of_listed hlisted q).mpr ⟨p, hp, hsame⟩
    have hcontains := contains_run cwd hrecorded later
    exact ⟨ensureFree_of_contains hcontains, write_of_contains hcontains⟩
  case accepted =>
    intro p text force
    exact write_ok_iff
  case success =>
    intro p text force log' d' hwrite
    obtain ⟨place, hwrote⟩ := wrote_of_write_ok hwrite
    exact ⟨hwrote.log_eq, place, hwrote.resolve_eq, fun l hl c => hwrote.file_iff hl c⟩
  case failure =>
    intro p text force e d' hwrite
    have hmade := (widens_of_write_error hwrite).made
    refine ⟨?_, fun l c => hmade.file_iff c, hmade, fun m hm hnew => ?_⟩
    · simp [Event.perform, hwrite]
    · exact above_of_write_error hwrite hm hnew

end SuiteForge.WriteLog
