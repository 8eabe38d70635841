import SuiteForge.Proofs.Cli.Acts
import SuiteForge.Proofs.Workbench.Success

/-!
# The status of a command that generates tests

A request comes down to one operation. The status is zero just when there is something to write
tests for and each source gets its test file, so a directory without sources, for which nothing is
written, counts as done.
-/

namespace SuiteForge.Cli

open List (Forall₂)
open Workbench (Operation Succeeds)

variable {w : Workbench} {r : GenerateRequest} {c : Session}

/-! ### The operation of a request -/

namespace GenerateRequest

def target (r : GenerateRequest) (w : Workbench) : Path := w.root.join (r.path.getD ⟨"app"⟩)

def named (r : GenerateRequest) (w : Workbench) (d : Disk) (name : String) : Path :=
  if d.isDirectory w.cwd (r.target w) && name ≠ "" then
    (r.target w).join ⟨s!"{name}.{w.settings.generation.extension}"⟩
  else r.target w

def models (r : GenerateRequest) (w : Workbench) (d : Disk) (path : Path) : Operation :=
  if d.isDirectory w.cwd path then .generate path { force := r.force, testType := some .model }
  else .generateAs .model path r.force

def operation (r : GenerateRequest) (w : Workbench) (d : Disk) : Operation :=
  if r.ai then
    .generateWithAi (r.target w) r.context
      { force := r.force, testType := r.testType, prompt := r.prompt }
  else
    match r.model with
    | none => .generate (r.target w) { force := r.force, testType := r.testType }
    | some name => r.models w d (r.named w d name)

/-- The state in which the operation begins: the provider has been asked whether it answers. -/
def ready (r : GenerateRequest) (w : Workbench) (s : Workbench.State) : Workbench.State :=
  if r.ai then (w.connects s).2 else s

/-- The provider can be asked for the tests of a file. -/
structure Prepared (r : GenerateRequest) (w : Workbench) (s : Workbench.State) : Prop where
  sound : w.ai.problems = []
  connects : (w.connects s).1 = true
  single : s.harness.disk.isFile w.cwd (r.target w) = true

theorem disk_ready (r : GenerateRequest) (w : Workbench) (s : Workbench.State) :
    (r.ready w s).harness.disk = s.harness.disk := by
  unfold ready
  split <;> rfl

end GenerateRequest

/-! ### Carrying it out -/

theorem models_apply (w : Workbench) (r : GenerateRequest) (d : Disk) (path : Path)
    (c : Session) :
    (((if d.isDirectory w.cwd path then
          work (w.generate path { force := r.force, testType := some .model })
        else work (w.generateAs .model path r.force) : Act Bool) c).1 = true ↔
        Succeeds w (r.models w d path) c.state) ∧
      ((if d.isDirectory w.cwd path then
          work (w.generate path { force := r.force, testType := some .model })
        else work (w.generateAs .model path r.force) : Act Bool) c).2.state =
        w.perform (r.models w d path) c.state := by
  unfold GenerateRequest.models
  split
  · exact ⟨Iff.rfl, rfl⟩
  · exact ⟨Iff.rfl, rfl⟩

theorem generateBasic_apply (w : Workbench) (r : GenerateRequest) (c : Session)
    (hbasic : r.ai = false) :
    ((generateBasic w (r.target w) r c).1 = true ↔
        Succeeds w (r.operation w c.state.harness.disk) c.state) ∧
      (generateBasic w (r.target w) r c).2.state =
        w.perform (r.operation w c.state.harness.disk) c.state := by
  unfold generateBasic GenerateRequest.operation
  rw [hbasic]
  cases r.model with
  | none => exact ⟨Iff.rfl, rfl⟩
  | some name => exact models_apply w r c.state.harness.disk _ _

theorem generateAi_apply (w : Workbench) (r : GenerateRequest) (c : Session)
    (hai : r.ai = true) :
    ((generateAi w (r.target w) r c).1 = some true ↔ r.Prepared w c.state ∧
        Succeeds w (r.operation w c.state.harness.disk) (w.connects c.state).2) ∧
      (r.Prepared w c.state → (generateAi w (r.target w) r c).2.state =
        w.perform (r.operation w c.state.harness.disk) (w.connects c.state).2) := by
  unfold generateAi GenerateRequest.operation
  rw [hai]
  by_cases hsound : w.ai.problems = []
  · by_cases hconnects : (w.connects c.state).1 = true
    · have hdisk : (w.connects c.state).2.harness.disk = c.state.harness.disk := rfl
      by_cases hsingle : c.state.harness.disk.isFile w.cwd (r.target w) = true
      · have hprepared : r.Prepared w c.state := ⟨hsound, hconnects, hsingle⟩
        cases hresult : (w.generateWithAi (r.target w) r.context
            { force := r.force, testType := r.testType, prompt := r.prompt }
            (w.connects c.state).2).1 with
        | ok ok =>
          simp [hsound, hconnects, hdisk, hsingle, hprepared, hresult, Succeeds, Workbench.perform]
        | error e =>
          simp [hsound, hconnects, hdisk, hsingle, hprepared, hresult, Succeeds, Workbench.perform]
      · have hprepared : ¬ r.Prepared w c.state := fun h => hsingle h.single
        simp [hsound, hconnects, hdisk, hsingle, hprepared]
    · have hprepared : ¬ r.Prepared w c.state := fun h => hconnects h.connects
      simp [hsound, hconnects, hprepared]
  · have hprepared : ¬ r.Prepared w c.state := fun h => hsound h.sound
    simp [hsound, hprepared]

def attempt (w : Workbench) (r : GenerateRequest) : Act (Option Bool) :=
  if r.ai then generateAi w (r.target w) r else some <$> generateBasic w (r.target w) r

theorem attempt_apply (w : Workbench) (r : GenerateRequest) (c : Session) :
    ((attempt w r c).1 = some true ↔ (r.ai = true → r.Prepared w c.state) ∧
        Succeeds w (r.operation w c.state.harness.disk) (r.ready w c.state)) ∧
      ((r.ai = true → r.Prepared w c.state) → (attempt w r c).2.state =
        w.perform (r.operation w c.state.harness.disk) (r.ready w c.state)) := by
  cases hai : r.ai with
  | true =>
    obtain ⟨hresult, hstate⟩ := generateAi_apply w r c hai
    simp only [attempt, GenerateRequest.ready, hai, if_true, true_imp_iff]
    exact ⟨hresult, hstate⟩
  | false =>
    obtain ⟨hresult, hstate⟩ := generateBasic_apply w r c hai
    simp only [attempt, GenerateRequest.ready, hai]
    simp [hresult, hstate]

/-- The status is zero just when the attempt goes well, and what is said in the end changes
nothing. -/
theorem generate_apply (w : Workbench) (r : GenerateRequest) (c : Session) :
    ∃ c', c'.state = c.state ∧ ((generate w r c).1 = 0 ↔ (attempt w r c').1 = some true) ∧
      ((generate w r c).1 = 0 ∨ (generate w r c).1 = 1) ∧
      (generate w r c).2.state = (attempt w r c').2.state := by
  refine ⟨(say ("🚀 Generating tests for: " ++ (r.target w).text) c).2, rfl, ?_⟩
  unfold generate attempt GenerateRequest.target
  cases r.ai with
  | true =>
    simp only [if_true, bind_apply]
    obtain ⟨result, c'⟩ := generateAi w (w.root.join (r.path.getD ⟨"app"⟩)) r
      (say ("🚀 Generating tests for: " ++ (w.root.join (r.path.getD ⟨"app"⟩)).text) c).2
    rcases result with _ | _ | _ <;> simp
  | false =>
    simp only [Bool.false_eq_true, if_false, bind_apply, map_apply]
    obtain ⟨result, c'⟩ := generateBasic w (w.root.join (r.path.getD ⟨"app"⟩)) r
      (say ("🚀 Generating tests for: " ++ (w.root.join (r.path.getD ⟨"app"⟩)).text) c).2
    cases result <;> simp

/-! ### Sources and their tests -/

namespace GenerateRequest

def sources (r : GenerateRequest) (w : Workbench) (s : Workbench.State) : List Path :=
  w.sourcesOf (r.operation w s.harness.disk) s.harness.disk

def writes (r : GenerateRequest) (w : Workbench) (s : Workbench.State) : List Write :=
  w.writes (r.operation w s.harness.disk) (r.ready w s)

/-- A directory without sources is all that tests are asked for. -/
def Idle (r : GenerateRequest) (w : Workbench) (s : Workbench.State) : Prop :=
  r.ai = false ∧
    s.harness.disk.isDirectory w.cwd (r.operation w s.harness.disk).path = true ∧
    SourceWalk.sources w.generator.filter s.harness.disk w.cwd
      (r.operation w s.harness.disk).path = []

theorem sources_eq_nil_iff {s : Workbench.State} (hcwd : w.generator.cwd = w.cwd)
    (hthere : s.harness.disk.isThere w.cwd (r.operation w s.harness.disk).path = true) :
    r.sources w s = [] ↔ r.Idle w s := by
  have hgenerate (path : Path) (o : GenerateOptions)
      (hthere : s.harness.disk.isThere w.cwd path = true) :
      w.sourcesOf (.generate path o) s.harness.disk = [] ↔
        s.harness.disk.isDirectory w.cwd path = true ∧
          SourceWalk.sources w.generator.filter s.harness.disk w.cwd path = [] := by
    simp only [Workbench.sourcesOf, Generator.sourcesOf, hcwd, Disk.isDirectory]
    cases hfound : s.harness.disk.at? w.cwd path with
    | none => simp [Disk.isThere, hfound] at hthere
    | some e => cases e <;> simp
  unfold sources Idle
  cases hai : r.ai with
  | true => simp [operation, hai, Workbench.sourcesOf]
  | false =>
    simp only [operation, hai, true_and] at hthere ⊢
    cases hmodel : r.model with
    | none =>
      simp only [hmodel] at hthere
      exact hgenerate _ _ hthere
    | some name =>
      simp only [hmodel, models] at hthere ⊢
      cases hdir : s.harness.disk.isDirectory w.cwd (r.named w s.harness.disk name) with
      | true =>
        simp only [hdir, if_true] at hthere ⊢
        exact hgenerate _ _ hthere
      | false => simp [Workbench.sourcesOf, Operation.path, hdir]

end GenerateRequest

/-- What a request for tests has come to. -/
structure Generated (w : Workbench) (r : GenerateRequest) (s : Workbench.State) (f : Finished) :
    Prop where
  status : f.status = 0 ∨ f.status = 1
  /-- All is well just when there is something to write tests for and each source gets its own. -/
  status_iff : f.status = 0 ↔ (r.ai = true → r.Prepared w s) ∧
    s.harness.disk.isThere w.cwd (r.operation w s.harness.disk).path = true ∧
    Forall₂ w.Tests (r.sources w s) (r.writes w s)
  /-- Then the test files are there, each with the last text that has been written to it, -/
  found : f.status = 0 → ∀ x ∈ r.writes w s, ∃ place text, x.place? w.cwd = some place ∧
    lastText? w.cwd place (r.writes w s) = some text ∧
    f.disk.resolve w.cwd x.path = .ok (.entry place (.file text.toUTF8))
  /-- and no other file is new or different. -/
  written : f.status = 0 → ∀ l c, f.disk.entry? l = some (.file c) →
    s.harness.disk.entry? l ≠ some (.file c) → ∃ x ∈ r.writes w s, x.place? w.cwd = some l
  /-- Nothing at all is written just where there are no sources. -/
  idle_iff : f.status = 0 → (r.writes w s = [] ↔ r.Idle w s)

/-- The status is zero just when the operation goes well, and the disk is what that leaves. -/
theorem carryOut_generate (w : Workbench) (source : Runner.Source) (now : String)
    (r : GenerateRequest) (d : Disk) (line : Line) {s : Workbench.State} {f : Finished}
    (hs : s = { harness := { source, disk := d }, line })
    (hf : f = carryOut w source now (.generate r) d line) :
    (f.status = 0 ∨ f.status = 1) ∧
      (f.status = 0 ↔ (r.ai = true → r.Prepared w s) ∧
        Succeeds w (r.operation w s.harness.disk) (r.ready w s)) ∧
      (f.status = 0 → f.disk =
        (w.perform (r.operation w s.harness.disk) (r.ready w s)).harness.disk) := by
  have hstatus : f.status = (generate w r { state := s }).1 := by rw [hf, hs]; rfl
  have hdisk : f.disk = (generate w r { state := s }).2.state.harness.disk := by rw [hf, hs]; rfl
  obtain ⟨c, hc, hzero, hstatuses, hstate⟩ := generate_apply w r { state := s }
  obtain ⟨hattempt, hperform⟩ := attempt_apply w r c
  rw [hc] at hattempt hperform
  rw [hstatus, hdisk]
  refine ⟨hstatuses, hzero.trans hattempt, ?_⟩
  intro hok
  rw [hstate, hperform (hattempt.mp (hzero.mp hok)).1]

/-- The status of a command tells whether each source has got its tests. -/
theorem generate_finished (settings : Settings) (root : Path) (cwd : Location) (d : Disk)
    (source : Runner.Source) (now : String) (r : GenerateRequest) (line : Line) :
    Generated (.create settings root cwd d) r { harness := { source, disk := d }, line }
      (carryOut (.create settings root cwd d) source now (.generate r) d line) := by
  generalize hs : ({ harness := { source, disk := d }, line } : Workbench.State) = s
  generalize hf : carryOut (.create settings root cwd d) source now (.generate r) d line = f
  generalize hw : Workbench.create settings root cwd d = w at hf ⊢
  have hcwd : w.cwd = cwd := by rw [← hw]; rfl
  obtain ⟨hstatuses, hzero, hdisk⟩ := carryOut_generate w source now r d line hs.symm hf.symm
  have hsucceeds : Succeeds w (r.operation w s.harness.disk) (r.ready w s) ↔
      s.harness.disk.isThere w.cwd (r.operation w s.harness.disk).path = true ∧
        Forall₂ w.Tests (r.sources w s) (r.writes w s) := by
    have hiff := Workbench.succeeds_iff settings root cwd d
      (r.operation w s.harness.disk) (r.ready w s)
    rw [hw, r.disk_ready, ← hcwd] at hiff
    exact hiff
  have htraced : Traced w.cwd (r.ready w s).ledger (r.writes w s)
      (w.perform (r.operation w s.harness.disk) (r.ready w s)).ledger := by
    subst hw
    exact Workbench.traced_perform rfl rfl _ _
  constructor
  case status => exact hstatuses
  case status_iff => rw [hzero, hsucceeds]
  case found =>
    intro hok x hx
    rw [hdisk hok]
    exact htraced.resolve_last hx
  case written =>
    intro hok l content hfile hnew
    rw [hdisk hok] at hfile
    exact htraced.exists_write hfile (by rw [Workbench.State.ledger, r.disk_ready]; exact hnew)
  case idle_iff =>
    intro hok
    obtain ⟨hthere, hall⟩ := hsucceeds.mp (hzero.mp hok).2
    rw [← GenerateRequest.sources_eq_nil_iff (by rw [← hw]; rfl) hthere,
      ← List.length_eq_zero_iff, ← hall.length_eq, List.length_eq_zero_iff]

def emptyProject : Disk := ⟨[(["app"], .directory)]⟩

/-- The command is done with it, and has written nothing. -/
theorem generate_finished_emptyProject :
    (carryOut (.create {} ⟨"."⟩ [] emptyProject) (.script []) "" (.generate {}) emptyProject
        { replies := [] }).status = 0 ∧
      (carryOut (.create {} ⟨"."⟩ [] emptyProject) (.script []) "" (.generate {}) emptyProject
        { replies := [] }).disk.entries = emptyProject.entries ∧
      GenerateRequest.writes {} (.create {} ⟨"."⟩ [] emptyProject)
        { harness := { source := .script [], disk := emptyProject }, line := { replies := [] } } =
          [] := by
  refine ⟨by decide +kernel, by decide +kernel, List.length_eq_zero_iff.mp ?_⟩
  decide +kernel

end SuiteForge.Cli
