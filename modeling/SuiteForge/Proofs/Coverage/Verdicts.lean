import SuiteForge.Proofs.Coverage.ReportPlace
import SuiteForge.Proofs.Number.Order

/-!
# The verdicts of a coverage run

Rows, counts and the total are taken from one run. A row is good from eighty percent on, and the
counts tell good rows from low ones in the same way. Reports are attempted one after the other, each
of them once, whatever has come of those before.
-/

namespace SuiteForge.Coverage

open Binary64 (AtLeast)
open Runner (Harness Outcome)

/-! ### Rows -/

theorem Row.status_eq_good_iff (r : Row) : r.status = .good ↔ AtLeast r.percent goodFrom := by
  rw [← Binary64.atMost_iff, Row.status, Status.ofPercent]
  split <;> simp_all

theorem Row.status_eq_low_iff (r : Row) : r.status = .low ↔ ¬ AtLeast r.percent goodFrom := by
  rw [← r.status_eq_good_iff]
  cases r.status <;> simp

/-- Good rows begin at eighty percent, neither less nor more. -/
theorem value?_goodFrom : goodFrom.value? =
    some (((80 * Binary64.unitsPerOne : Int) : WithTop Int) : WithBot (WithTop Int)) := by
  decide +kernel

/-! ### Outcomes of a run -/

/-- The figures that an outcome tells of; there are none if the run has failed. -/
def figuresOf : Outcome → Figures
  | .ok output => .ofOutput output
  | .error _ => {}

theorem Analyzer.measure_eq (a : Analyzer) (h : Harness) :
    a.measure h = (figuresOf (h.run a.cwd [textFlag]).1, (h.run a.cwd [textFlag]).2) := by
  unfold measure figuresOf
  split
  · rename_i hrun
    rw [hrun]
  · rename_i hrun
    rw [hrun]

/-- Without a line for it the total is zero. -/
theorem Figures.total_of_unmarked {output : String}
    (h : ∀ line ∈ Text.lines output.toList, Text.contains totalMark line = false) :
    (Figures.ofOutput output).total = .zero := by
  have hnone : (Text.lines output.toList).filterMap totalOf? = [] := by
    rw [List.filterMap_eq_nil_iff]
    intro line hline
    simp [totalOf?, h line hline]
  simp only [ofOutput, hnone]
  rfl

/-! ### Counts -/

/-- Rows are counted by their status, and each of them once. -/
structure Counted (f : Figures) (s : Stats) : Prop where
  total : s.total = f.total
  files : s.files = f.rows.length
  covered : s.covered = (f.rows.map Row.status).count .good
  low : s.low = (f.rows.map Row.status).count .low
  all : s.covered + s.low = s.files

theorem count_good_add_low (statuses : List Status) :
    statuses.count .good + statuses.count .low = statuses.length := by
  induction statuses with
  | nil => rfl
  | cons status statuses ih => cases status <;> simp [← ih] <;> omega

theorem counted_ofFigures (f : Figures) : Counted f (.ofFigures f) := by
  have hgood : (f.rows.filter (·.status = .good)).length =
      (f.rows.map Row.status).count .good := by
    rw [List.count_eq_countP, List.countP_map, List.countP_eq_length_filter]
    exact congrArg List.length (List.filter_congr fun r _ =>
      (Bool.beq_eq_decide_eq r.status .good).symm)
  have hall := count_good_add_low (f.rows.map Row.status)
  rw [List.length_map] at hall
  constructor
  case total => rfl
  case files => rfl
  case covered => exact hgood
  case low =>
    show f.rows.length - (f.rows.filter (·.status = .good)).length = _
    omega
  case all =>
    show (f.rows.filter (·.status = .good)).length +
      (f.rows.length - (f.rows.filter (·.status = .good)).length) = f.rows.length
    omega

/-! ### Attempts at reports -/

/-- An attempt at a report, with the outcome of the run if one was made for it. -/
structure Attempt where
  format : Format
  outcome : Option Outcome

def Attempt.succeeds (x : Attempt) : Bool :=
  match x.outcome with
  | some (.ok _) => true
  | _ => false

variable {a : Analyzer} {location : Format → Path} {start last : Harness} {x : Attempt}
  {xs : List Attempt}

def Attempt.asks (location : Format → Path) (x : Attempt) : Option (List String) :=
  x.outcome.map fun _ => [x.format.flag (location x.format), Analyzer.textFlag]

/-- One attempt: its directory is made, and then, if that is there, the runner is asked once. -/
inductive Attempted (a : Analyzer) (location : Format → Path) :
    Harness → Attempt → Harness → Prop where
  | unready {h : Harness} {f : Format} {d : Disk}
      (hdisk : a.prepare f (location f) h.disk = (false, d)) :
      Attempted a location h ⟨f, none⟩ { h with disk := d }
  | asked {h h' : Harness} {f : Format} {d : Disk} {outcome : Outcome}
      (hdisk : a.prepare f (location f) h.disk = (true, d))
      (hrun : ({ h with disk := d } : Harness).run a.cwd [f.flag (location f), Analyzer.textFlag] =
        (outcome, h')) : Attempted a location h ⟨f, some outcome⟩ h'

inductive Attempts (a : Analyzer) (location : Format → Path) :
    Harness → List Attempt → Harness → Prop where
  | done {h : Harness} : Attempts a location h [] h
  | next {h h' h'' : Harness} {x : Attempt} {xs : List Attempt}
      (hx : Attempted a location h x h') (hxs : Attempts a location h' xs h'') :
      Attempts a location h (x :: xs) h''

theorem Attempted.asked_eq (h : Attempted a location start x last) :
    last.asked = start.asked ++ (x.asks location).toList := by
  cases h with
  | unready hdisk => simp [Attempt.asks]
  | asked hdisk hrun =>
    -- a runner notes what it is asked whatever its answer
    have hasked := congrArg (fun done => done.2.asked) hrun
    simp only [asked_run] at hasked
    exact hasked.symm

/-- The runner is asked once in each attempt that gets as far as that, and in their order. -/
theorem Attempts.asked_eq (h : Attempts a location start xs last) :
    last.asked = start.asked ++ xs.flatMap fun x => (x.asks location).toList := by
  induction h with
  | done => simp
  | next hx hxs ih => rw [ih, hx.asked_eq, List.flatMap_cons, List.append_assoc]

def Analyzer.places (a : Analyzer) (location : Format → Option Path) (f : Format) : Path :=
  (location f).getD (f.locationIn a.reportsDirectory)

theorem attempted_report (a : Analyzer) (location : Format → Option Path) (f : Format)
    (h : Harness) :
    ∃ outcome, (a.report f (location f) h).1 = Attempt.succeeds ⟨f, outcome⟩ ∧
      Attempted a (a.places location) h ⟨f, outcome⟩ (a.report f (location f) h).2 := by
  cases hprepare : a.prepare f (a.places location f) h.disk with
  | mk ready d =>
    unfold Analyzer.places at hprepare
    cases ready with
    | false =>
      have hreport : a.report f (location f) h = (false, { h with disk := d }) := by
        simp [Analyzer.report, hprepare]
      rw [hreport]
      exact ⟨none, rfl, .unready hprepare⟩
    | true =>
      cases hrun : ({ h with disk := d } : Harness).run a.cwd
          [f.flag (a.places location f), Analyzer.textFlag] with
      | mk outcome h' =>
        have hreport : a.report f (location f) h = (Attempt.succeeds ⟨f, some outcome⟩, h') := by
          unfold Analyzer.places at hrun
          simp only [Analyzer.report, hprepare, hrun, if_true]
          cases outcome <;> rfl
        rw [hreport]
        exact ⟨some outcome, rfl, .asked hprepare hrun⟩

end SuiteForge.Coverage
