import SuiteForge.Proofs.Generator.Target
import SuiteForge.Proofs.Provider.Asking
import SuiteForge.Proofs.Trace
import SuiteForge.Workbench

/-!
# Operations of a workbench

The operations that write tests, one after the other, with the trace that they leave. Whatever they
do to the disk is in the trace.
-/

namespace SuiteForge

open Disk (Widens)
open Ledger (Quiet Writes)
open Php (Kind)
open WriteLog (Wrote)

/-! ### Tests from templates -/

namespace Generator

variable {g : Generator}

/-- The ledger of a generator, with what the provider has written. -/
def State.ledger (s : Generator.State) (ai : WriteLog) : Ledger where
  log
    | .templates => s.log
    | .provider => ai
  disk := s.disk

/-- The write that goes through for one source, if any. -/
def writes (g : Generator) (f : Path) (kind : Option Kind) (force : Bool) (s : State) :
    List Write :=
  match g.plan s.log s.disk f kind force, (g.run f kind force s).1 with
  | .ok (path, text), true => [{ author := .templates, force, path, text, found := s.disk }]
  | _, _ => []

def writesFiles (g : Generator) (o : GenerateOptions) : List Path → State → List Write
  | [], _ => []
  | f :: fs, s => g.writes f o.kind? o.force s ++ writesFiles g o fs (g.runFile f o s).2

def writesPath (g : Generator) (path : Path) (o : GenerateOptions) (s : State) : List Write :=
  match s.disk.at? g.cwd path with
  | some .directory => g.writesFiles o (SourceWalk.sources g.filter s.disk g.cwd path) s
  | some (.file _) => g.writes path o.kind? o.force s
  | none => []

theorem traced_run (g : Generator) (f : Path) (kind : Option Kind) (force : Bool) (s : State)
    (ai : WriteLog) :
    Traced g.cwd (s.ledger ai) (g.writes f kind force s)
      ((g.run f kind force s).2.ledger ai) := by
  unfold writes
  rcases run_cases g f kind force s with
    ⟨hfailed, hlog, hwidens⟩ | ⟨dest, text, place, hplan, hok, hwrote⟩
  · have hquiet : Quiet (s.ledger ai) ((g.run f kind force s).2.ledger ai) :=
      ⟨by simp [State.ledger, hlog], hwidens⟩
    rw [hfailed]
    cases g.plan s.log s.disk f kind force <;> exact .quiet hquiet
  · rw [hplan, hok]
    refine .single ⟨rfl, hwrote, ?_⟩
    intro a ha
    cases a with
    | templates => exact absurd rfl ha
    | provider => rfl

theorem traced_runFiles (g : Generator) (o : GenerateOptions) (files : List Path) (s : State)
    (ai : WriteLog) :
    Traced g.cwd (s.ledger ai) (g.writesFiles o files s) ((g.runFiles o files s).2.ledger ai) := by
  induction files generalizing s with
  | nil => exact .refl _
  | cons f files ih => exact (traced_run g f o.kind? o.force s ai).append (ih _)

theorem traced_runPath (g : Generator) (path : Path) (o : GenerateOptions) (s : State)
    (ai : WriteLog) :
    Traced g.cwd (s.ledger ai) (g.writesPath path o s) ((g.runPath path o s).2.ledger ai) := by
  cases hfound : s.disk.at? g.cwd path with
  | none =>
    simp only [writesPath, runPath, hfound]
    exact .refl _
  | some e =>
    cases e with
    | directory =>
      simp only [writesPath, runPath, hfound]
      exact traced_runFiles g o _ s ai
    | file c =>
      simp only [writesPath, runPath, hfound]
      exact traced_run g path o.kind? o.force s ai

/-- The sources that tests are asked for: those of a directory, or a file. -/
def sourcesOf (g : Generator) (path : Path) (d : Disk) : List Path :=
  match d.at? g.cwd path with
  | some .directory => SourceWalk.sources g.filter d g.cwd path
  | some (.file _) => [path]
  | none => []

theorem mem_writes {f : Path} {kind : Option Kind} {force : Bool} {s : State} {x : Write}
    (hx : x ∈ g.writes f kind force s) :
    x.force = force ∧ ∃ dir cls, TestsSource g.settings g.root g.cwd x.found f dir cls x.path := by
  unfold writes at hx
  split at hx
  · rename_i path text hplan _
    obtain rfl := List.mem_singleton.mp hx
    exact ⟨rfl, testsSource_of_target? (plan_ok_iff.mp hplan).1⟩
  · cases hx

theorem mem_writesFiles {o : GenerateOptions} {files : List Path} {s : State} {x : Write}
    (hx : x ∈ g.writesFiles o files s) :
    x.force = o.force ∧ ∃ f ∈ files, ∃ dir cls,
      TestsSource g.settings g.root g.cwd x.found f dir cls x.path := by
  induction files generalizing s with
  | nil => cases hx
  | cons f files ih =>
    rcases List.mem_append.mp hx with hx | hx
    · obtain ⟨hforce, hsource⟩ := mem_writes hx
      exact ⟨hforce, f, List.mem_cons_self, hsource⟩
    · obtain ⟨hforce, f', hf', hsource⟩ := ih hx
      exact ⟨hforce, f', List.mem_cons_of_mem f hf', hsource⟩

theorem mem_writesPath {path : Path} {o : GenerateOptions} {s : State} {x : Write}
    (hx : x ∈ g.writesPath path o s) :
    x.force = o.force ∧ ∃ f ∈ g.sourcesOf path s.disk, ∃ dir cls,
      TestsSource g.settings g.root g.cwd x.found f dir cls x.path := by
  unfold writesPath at hx
  unfold sourcesOf
  cases hfound : s.disk.at? g.cwd path with
  | none =>
    rw [hfound] at hx
    cases hx
  | some e =>
    rw [hfound] at hx
    cases e with
    | directory => exact mem_writesFiles hx
    | file c =>
      obtain ⟨hforce, hsource⟩ := mem_writes hx
      exact ⟨hforce, path, List.mem_singleton_self path, hsource⟩

end Generator

/-! ### Tests from the provider -/

namespace AiGenerator

variable {g : AiGenerator}

/-- The ledger of a generator that asks the provider, with what the templates have written. -/
def State.ledger (s : AiGenerator.State) (written : WriteLog) : Ledger where
  log
    | .templates => written
    | .provider => s.log
  disk := s.disk

/-- The destination of a source and the code that the provider gives for it. -/
def answered? (g : AiGenerator) (f : Path) (context : List (String × String)) (o : AiOptions)
    (s : State) : Option (Path × String) :=
  match g.plan f context o s with
  | .ok (some p) =>
    match (p.client.complete p.prompt (.ofSettings g.settings.ai) s.line).1 with
    | .ok (some answer) => some (p.destination, CodeFence.code answer)
    | _ => none
  | _ => none

def writes (g : AiGenerator) (f : Path) (context : List (String × String)) (o : AiOptions)
    (s : State) : List Write :=
  match g.answered? f context o s, (g.run f context o s).1 with
  | some (path, text), .ok true =>
    [{ author := .provider, force := o.force, path, text, found := s.disk }]
  | _, _ => []

/-- The code that a reply brings is the answer for a source. -/
theorem Ready.answered?_eq {f : Path} {context : List (String × String)} {o : AiOptions}
    {s : State} {client : Client} {text cls code : String} (h : Ready g f o s client text cls)
    (hbrings : client.Brings (s.line.post (g.asks context o client text)).1 code) :
    g.answered? f context o s = some (g.destination o cls, code) := by
  obtain ⟨answer, hmeaning, rfl, -⟩ := Client.brings_iff.mp hbrings
  have hplan : g.plan f context o s = .ok (some (g.planned context o client text cls)) :=
    plan_ok_some_iff.mpr ⟨client, text, cls, h, rfl⟩
  have hcomplete : (client.complete (Prompt.withContext text context o.prompt)
      (.ofSettings g.settings.ai) s.line).1 = .ok (some answer) := hmeaning
  simp only [answered?, hplan, planned, hcomplete]

/-- The code that the provider gives for a source is written to the destination of the source, or
directories are made at most. -/
theorem run_cases (g : AiGenerator) (f : Path) (context : List (String × String)) (o : AiOptions)
    (s : State) :
    ((g.run f context o s).1 ≠ .ok true ∧ (g.run f context o s).2.log = s.log ∧
        Widens s.disk (g.run f context o s).2.disk) ∨
      ∃ path text place, g.answered? f context o s = some (path, text) ∧
        (g.run f context o s).1 = .ok true ∧
        Wrote s.log s.disk g.cwd path text o.force place (g.run f context o s).2.log
          (g.run f context o s).2.disk := by
  rcases barred_or_ready g f o s with hbarred | ⟨client, text, cls, hready⟩
  · obtain ⟨hsame, hresult⟩ := run_of_barred context hbarred
    have hfailed : (g.run f context o s).1 ≠ .ok true := by
      rcases hresult with hfalse | ⟨e, herror⟩
      · simp [hfalse]
      · simp [herror]
    rw [hsame]
    exact Or.inl ⟨hfailed, rfl, .refl _⟩
  · rcases hready.run_cases with hfailed | ⟨code, place, hok, hbrings, hwrote⟩
    · exact Or.inl hfailed
    · exact Or.inr ⟨g.destination o cls, code, place, hready.answered?_eq hbrings, hok, hwrote⟩

theorem traced_run (g : AiGenerator) (f : Path) (context : List (String × String))
    (o : AiOptions) (s : State) (written : WriteLog) :
    Traced g.cwd (s.ledger written) (g.writes f context o s)
      ((g.run f context o s).2.ledger written) := by
  unfold writes
  rcases run_cases g f context o s with
    ⟨hfailed, hlog, hwidens⟩ | ⟨path, text, place, hanswered, hok, hwrote⟩
  · have hquiet : Quiet (s.ledger written) ((g.run f context o s).2.ledger written) :=
      ⟨by simp [State.ledger, hlog], hwidens⟩
    split
    · rename_i hok
      exact absurd hok hfailed
    · exact .quiet hquiet
  · rw [hanswered, hok]
    refine .single ⟨rfl, hwrote, ?_⟩
    intro a ha
    cases a with
    | templates => rfl
    | provider => exact absurd rfl ha

theorem testsSource_of_plan {f : Path} {context : List (String × String)} {o : AiOptions}
    {s : State} {p : Plan} (h : g.plan f context o s = .ok (some p)) :
    ∃ dir cls, TestsSource g.settings g.root g.cwd s.disk f dir cls p.destination := by
  obtain ⟨client, text, cls, hready, rfl⟩ := plan_ok_some_iff.mp h
  refine ⟨g.directory o.testType, cls, ?_, ⟨text, hready.read, hready.declares⟩, rfl⟩
  unfold directory
  split
  · exact Or.inr rfl
  · exact Or.inr rfl
  · exact Or.inl rfl

theorem mem_writes {f : Path} {context : List (String × String)} {o : AiOptions} {s : State}
    {x : Write} (hx : x ∈ g.writes f context o s) :
    x.force = o.force ∧ ∃ dir cls, TestsSource g.settings g.root g.cwd x.found f dir cls x.path := by
  unfold writes answered? at hx
  split at hx
  · rename_i path text hanswered _
    obtain rfl := List.mem_singleton.mp hx
    split at hanswered
    · rename_i p hplan
      split at hanswered
      · cases hanswered
        exact ⟨rfl, testsSource_of_plan hplan⟩
      · cases hanswered
    · cases hanswered
  · cases hx

end AiGenerator

/-! ### Operations -/

namespace Workbench

/-- What can be asked for to have tests written. -/
inductive Operation where
  | generate (path : Path) (o : GenerateOptions)
  | generateAs (kind : Kind) (path : Path) (force : Bool)
  | generateWithAi (path : Path) (context : List (String × String)) (o : AiOptions)

def Operation.force : Operation → Bool
  | .generate _ o => o.force
  | .generateAs _ _ force => force
  | .generateWithAi _ _ o => o.force

variable {w : Workbench} {s : State}

def perform (w : Workbench) : Operation → State → State
  | .generate path o, s => (w.generate path o s).2
  | .generateAs kind path force, s => (w.generateAs kind path force s).2
  | .generateWithAi path context o, s => (w.generateWithAi path context o s).2

def performAll (w : Workbench) : List Operation → State → State
  | [], s => s
  | op :: ops, s => performAll w ops (w.perform op s)

def writes (w : Workbench) : Operation → State → List Write
  | .generate path o, s => w.generator.writesPath path o ⟨s.written, s.harness.disk⟩
  | .generateAs kind path force, s =>
    w.generator.writes path (some kind) force ⟨s.written, s.harness.disk⟩
  | .generateWithAi path context o, s =>
    w.ai.writes path context o ⟨s.aiWritten, s.harness.disk, s.line⟩

def writesAll (w : Workbench) : List Operation → State → List Write
  | [], _ => []
  | op :: ops, s => w.writes op s ++ writesAll w ops (w.perform op s)

/-- The state in which nothing has been written. -/
def State.fresh (replies : List Reply) (d : Disk) : State where
  harness := { source := .script [], disk := d }
  line := { replies }

/-- What has been written, and the disk. -/
def State.ledger (s : State) : Ledger where
  log
    | .templates => s.written
    | .provider => s.aiWritten
  disk := s.harness.disk

theorem traced_perform (hgenerator : w.generator.cwd = w.cwd) (hai : w.ai.cwd = w.cwd)
    (op : Operation) (s : State) :
    Traced w.cwd s.ledger (w.writes op s) (w.perform op s).ledger := by
  cases op with
  | generate path o =>
    rw [← hgenerator]
    exact w.generator.traced_runPath path o ⟨s.written, s.harness.disk⟩ s.aiWritten
  | generateAs kind path force =>
    rw [← hgenerator]
    exact w.generator.traced_run path (some kind) force ⟨s.written, s.harness.disk⟩ s.aiWritten
  | generateWithAi path context o =>
    rw [← hai]
    exact w.ai.traced_run path context o ⟨s.aiWritten, s.harness.disk, s.line⟩ s.written

/-- Whatever operations do to the disk is in their trace. -/
theorem traced_performAll (hgenerator : w.generator.cwd = w.cwd) (hai : w.ai.cwd = w.cwd)
    (ops : List Operation) (s : State) :
    Traced w.cwd s.ledger (w.writesAll ops s) (w.performAll ops s).ledger := by
  induction ops generalizing s with
  | nil => exact .refl _
  | cons op ops ih => exact (traced_perform hgenerator hai op s).append (ih _)

/-! ### Projects -/

variable {settings : Settings} {root : Path} {cwd : Location} {d : Disk} {ops : List Operation}
  {x : Write}

theorem traced_create (settings : Settings) (root : Path) (cwd : Location) (d : Disk)
    (ops : List Operation) (s : State) :
    Traced cwd s.ledger ((create settings root cwd d).writesAll ops s)
      ((create settings root cwd d).performAll ops s).ledger :=
  traced_performAll (w := create settings root cwd d) rfl rfl ops s

def sourcesOf (w : Workbench) : Operation → Disk → List Path
  | .generate path _, d => w.generator.sourcesOf path d
  | .generateAs _ path _, _ => [path]
  | .generateWithAi path _ _, _ => [path]

/-- Every write is for one of the sources of its operation, and on demand just when that is. -/
theorem mem_writes {op : Operation} (hx : x ∈ w.writes op s) :
    x.force = op.force ∧ ∃ f ∈ w.sourcesOf op s.harness.disk, ∃ dir cls,
      TestsSource w.generator.settings w.generator.root w.generator.cwd x.found f dir cls x.path ∨
        TestsSource w.ai.settings w.ai.root w.ai.cwd x.found f dir cls x.path := by
  cases op with
  | generate path o =>
    obtain ⟨hforce, f, hf, dir, cls, hsource⟩ := Generator.mem_writesPath hx
    exact ⟨hforce, f, hf, dir, cls, Or.inl hsource⟩
  | generateAs kind path force =>
    obtain ⟨hforce, dir, cls, hsource⟩ := Generator.mem_writes hx
    exact ⟨hforce, path, List.mem_singleton_self path, dir, cls, Or.inl hsource⟩
  | generateWithAi path context o =>
    obtain ⟨hforce, dir, cls, hsource⟩ := AiGenerator.mem_writes hx
    exact ⟨hforce, path, List.mem_singleton_self path, dir, cls, Or.inr hsource⟩

/-- A write of operations is one of one of them, in the state that those before it leave. -/
theorem mem_writesAll_split (hx : x ∈ w.writesAll ops s) :
    ∃ front op back, ops = front ++ op :: back ∧ x ∈ w.writes op (w.performAll front s) := by
  induction ops generalizing s with
  | nil => cases hx
  | cons op ops ih =>
    rcases List.mem_append.mp hx with hx | hx
    · exact ⟨[], op, ops, rfl, hx⟩
    · obtain ⟨front, op', back, rfl, hmem⟩ := ih hx
      exact ⟨op :: front, op', back, rfl, hmem⟩

/-- Every write is a test file in one of the suites. -/
theorem mem_writesAll (hx : x ∈ w.writesAll ops s) :
    (∃ op ∈ ops, x.force = op.force) ∧
      (IsDestination w.generator.settings w.generator.root x.path ∨
        IsDestination w.ai.settings w.ai.root x.path) := by
  obtain ⟨front, op, back, rfl, hmem⟩ := mem_writesAll_split hx
  obtain ⟨hforce, f, -, dir, cls, hsource⟩ := mem_writes hmem
  exact ⟨⟨op, List.mem_append_right front List.mem_cons_self, hforce⟩,
    hsource.imp TestsSource.isDestination TestsSource.isDestination⟩

end Workbench
end SuiteForge
