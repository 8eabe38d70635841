import SuiteForge.Proofs.Provider.Validating

/-!
# Errors of a provider's tests

Which errors a run may end with. An error of the settings or of the provider ends the command, as it
should. An error of the disk leaves the run as well, though it concerns one file only: when the
source cannot be read, and when the code of an answer cannot be written. All other failures are told
as `false`.
-/

namespace SuiteForge

/-! ### Errors that end a command -/

theorem Provider.fatal_of_ofText {text : String} {e : Error}
    (h : Provider.ofText text = .error e) : e.fatal = true := by
  unfold Provider.ofText at h
  split at h
  · cases h
  · cases h
  · cases h
    rfl

theorem Provider.fatal_of_endpoint {p : Provider} {baseUrl : Option String} {e : Error}
    (h : p.endpoint baseUrl = .error e) : e.fatal = true := by
  unfold Provider.endpoint at h
  dsimp only at h
  split at h
  · cases h
    rfl
  · split at h
    · cases h
    · cases h
      rfl

theorem Client.fatal_of_ofSettings {settings : AiSettings} {e : Error}
    (h : Client.ofSettings settings = .error e) : e.fatal = true := by
  unfold Client.ofSettings at h
  cases hprovider : Provider.ofText settings.provider with
  | error e' =>
    rw [hprovider] at h
    cases h
    exact Provider.fatal_of_ofText hprovider
  | ok p =>
    rw [hprovider] at h
    cases hendpoint : p.endpoint settings.baseUrl with
    | error e' =>
      simp only [bind, Except.bind, hendpoint] at h
      cases h
      exact Provider.fatal_of_endpoint hendpoint
    | ok address => simp [bind, Except.bind, pure, Except.pure, hendpoint] at h

theorem Client.fatal_of_meaning {c : Client} {reply : Reply} {e : Error}
    (h : c.meaning reply = .error e) : e.fatal = true := by
  unfold Client.meaning at h
  split at h
  · cases h
    rfl
  · split at h
    · split at h <;> cases h
    · cases h
      rfl

/-! ### Errors of a write -/

namespace WriteLog

variable {log : WriteLog} {d : Disk} {cwd : Location} {p : Path} {text : String} {force : Bool}
  {e : Error}

/-- The disk refuses a text at a path: the directory above cannot be made, or the file not be
written. -/
inductive Refused (d : Disk) (cwd : Location) (p : Path) (text : String) : Error → Prop where
  | parent {e : Error} (h : (makeParent d cwd p).1 = .error e) : Refused d cwd p text e
  | file {cause : Disk.Cause} (hparent : (makeParent d cwd p).1 = .ok ())
      (h : (ground d cwd p).write cwd p text.toUTF8 = .error cause) :
      Refused d cwd p text (.disk p cause)

theorem makeParent_error (h : (makeParent d cwd p).1 = .error e) :
    ∃ up cause, p.parent? = some up ∧ e = .disk up cause := by
  unfold makeParent at h
  split at h
  · cases h
  · rename_i up hup
    split at h
    · cases h
    · split at h
      · cases h
      · cases h
        exact ⟨up, _, hup, rfl⟩

theorem Refused.disk (h : Refused d cwd p text e) :
    ∃ q cause, (q = p ∨ p.parent? = some q) ∧ e = .disk q cause := by
  cases h with
  | parent h =>
    obtain ⟨up, cause, hup, rfl⟩ := makeParent_error h
    exact ⟨up, cause, Or.inr hup, rfl⟩
  | file hparent h => exact ⟨p, _, Or.inl rfl, rfl⟩

theorem fits_iff : Fits d cwd p text ↔ ∀ e, ¬ Refused d cwd p text e := by
  constructor
  · rintro ⟨hparent, d', hwrite⟩ e hrefused
    cases hrefused with
    | parent h => rw [hparent] at h; cases h
    | file _ h => rw [hwrite] at h; cases h
  · intro h
    cases hparent : (makeParent d cwd p).1 with
    | error e => exact absurd (.parent hparent) (h e)
    | ok made =>
      refine ⟨hparent, ?_⟩
      cases hwrite : (ground d cwd p).write cwd p text.toUTF8 with
      | error cause => exact absurd (.file hparent hwrite) (h (.disk p cause))
      | ok d' => exact ⟨d', rfl⟩

theorem write_error_iff (hfree : log.ensureFree d cwd p force = .ok ()) :
    (log.write d cwd p text force).1 = .error e ↔ Refused d cwd p text e := by
  constructor
  · intro h
    -- since the path is free, what is left is the directory above and the file itself
    unfold write at h
    rw [hfree] at h
    dsimp only at h
    split at h
    · rename_i e' d₁ hparent
      cases h
      exact .parent (by rw [hparent])
    · rename_i d₁ hparent
      have hd₁ : ground d cwd p = d₁ := by rw [ground, hparent]
      split at h
      · rename_i cause hwrite
        cases h
        exact .file (by rw [hparent]) (by rw [hd₁, hwrite])
      · cases h
  · intro h
    unfold write
    rw [hfree]
    dsimp only
    split
    · rename_i e' d₁ hparent
      cases h with
      | parent h => rw [hparent] at h; cases h; rfl
      | file h _ => rw [hparent] at h; cases h
    · rename_i d₁ hparent
      have hd₁ : ground d cwd p = d₁ := by rw [ground, hparent]
      cases h with
      | parent h => rw [hparent] at h; cases h
      | file _ h => rw [← hd₁, h]

end WriteLog

namespace AiGenerator

open WriteLog (Refused)

variable {g : AiGenerator} {f : Path} {context : List (String × String)} {o : AiOptions}
  {s : State} {client : Client} {text cls answer : String} {p : Plan} {force : Bool} {e : Error}

/-- The errors with which a run may end. -/
inductive Fails (g : AiGenerator) (f : Path) (context : List (String × String)) (o : AiOptions)
    (s : State) : Error → Prop where
  | unsettled {e : Error} (h : g.client = .error e) : Fails g f context o s e
  | unreadable {client : Client} {cause : Disk.Cause} (hclient : g.client = .ok client)
      (h : s.disk.readText g.cwd f = .error cause) : Fails g f context o s (.disk f cause)
  | unanswered {client : Client} {text cls : String} {e : Error}
      (hready : Ready g f o s client text cls)
      (h : client.meaning (s.line.post (g.asks context o client text)).1 = .error e) :
      Fails g f context o s e
  | unwritten {client : Client} {text cls code : String} {e : Error}
      (hready : Ready g f o s client text cls)
      (hbrings : client.Brings (s.line.post (g.asks context o client text)).1 code)
      (h : Refused s.disk g.cwd (g.destination o cls) code e) : Fails g f context o s e

theorem place_error_iff (hfree : s.log.ensureFree s.disk g.cwd p.destination force = .ok ()) :
    (g.place p answer force s).1 = .error e ↔ CodeFence.code answer ≠ "" ∧
      Refused s.disk g.cwd p.destination (CodeFence.code answer) e := by
  rw [← WriteLog.write_error_iff hfree]
  unfold place
  by_cases hcode : CodeFence.code answer = ""
  · simp [hcode]
  · simp only [hcode, if_false]
    split
    · rename_i hwrite
      simp [hwrite]
    · rename_i hwrite
      -- a path that is free is not refused for being taken
      have hrefused := (WriteLog.write_error_iff hfree).mp (by rw [hwrite])
      obtain ⟨q, cause, -, heq⟩ := hrefused.disk
      cases heq
    · rename_i hwrite
      simp [hwrite, hcode]

theorem run_of_unreadable {cause : Disk.Cause} (context : List (String × String)) (o : AiOptions)
    (hclient : g.client = .ok client) (h : s.disk.readText g.cwd f = .error cause) :
    g.run f context o s = (.error (.disk f cause), s) := by
  have hread : Php.Source.read s.disk g.cwd f = .error (.disk f cause) := by
    rw [Php.Source.read, h]
  have hplan : g.plan f context o s = .error (.disk f cause) := by
    unfold plan
    rw [hclient, hread]
    rfl
  rw [run, hplan]

/-- A source without a class and a destination that is taken are no errors. -/
theorem run_of_no_plan (context : List (String × String)) (hclient : g.client = .ok client)
    (hread : s.disk.readText g.cwd f = .ok text)
    (h : ∀ cls, Php.className? text = some cls →
      s.log.ensureFree s.disk g.cwd (g.destination o cls) o.force ≠ .ok ()) :
    g.run f context o s = (.ok false, s) := by
  have hsource := Php.Source.read_ok_iff.mpr ⟨text, hread, rfl⟩
  have hplan : g.plan f context o s = .ok none := by
    simp only [plan, hclient, hsource, bind, Except.bind, pure, Except.pure]
    split
    · rfl
    · rename_i cls hclass
      split
      · rfl
      · rename_i hfree
        exact absurd hfree (h cls hclass)
  rw [run, hplan]

theorem Ready.run_error_iff (h : Ready g f o s client text cls) :
    (g.run f context o s).1 = .error e ↔
      client.meaning (s.line.post (g.asks context o client text)).1 = .error e ∨
        ∃ code, client.Brings (s.line.post (g.asks context o client text)).1 code ∧
          Refused s.disk g.cwd (g.destination o cls) code e := by
  simp only [Client.brings_iff]
  rw [run_of_ready h]
  cases client.meaning (s.line.post (g.asks context o client text)).1 with
  | error e' => simp
  | ok completion =>
    cases completion with
    | none => simp
    | some answer =>
      have hplace : (g.place (g.planned context o client text cls) answer o.force
          (g.replied context o client text s)).1 = .error e ↔ CodeFence.code answer ≠ "" ∧
            Refused s.disk g.cwd (g.destination o cls) (CodeFence.code answer) e :=
        place_error_iff (p := g.planned context o client text cls)
          (s := g.replied context o client text s) h.free
      dsimp only
      rw [hplace]
      constructor
      · rintro ⟨hcode, hrefused⟩
        exact Or.inr ⟨CodeFence.code answer, ⟨answer, rfl, rfl, hcode⟩, hrefused⟩
      · rintro (hmeaning | ⟨code, ⟨answer', hanswer, rfl, hcode⟩, hrefused⟩)
        · cases hmeaning
        · cases hanswer
          exact ⟨hcode, hrefused⟩

/-- A run ends with an error at one of its four exits, and with no other one. -/
theorem run_error_iff : (g.run f context o s).1 = .error e ↔ Fails g f context o s e := by
  constructor
  · intro h
    -- the exits in the order of the run: client, source, plan, answer
    cases hclient : g.client with
    | error e' =>
      rw [run_of_client_error f context o s hclient] at h
      cases h
      exact .unsettled hclient
    | ok client =>
      cases hread : s.disk.readText g.cwd f with
      | error cause =>
        rw [run_of_unreadable context o hclient hread] at h
        cases h
        exact .unreadable hclient hread
      | ok text =>
        by_cases hplan : ∃ cls, Php.className? text = some cls ∧
            s.log.ensureFree s.disk g.cwd (g.destination o cls) o.force = .ok ()
        · obtain ⟨cls, hclass, hfree⟩ := hplan
          have hready : Ready g f o s client text cls :=
            Open.ready ⟨hread, hclass, hfree⟩ hclient
          rcases hready.run_error_iff.mp h with hmeaning | ⟨code, hbrings, hrefused⟩
          · exact .unanswered hready hmeaning
          · exact .unwritten hready hbrings hrefused
        · rw [run_of_no_plan context hclient hread
            fun cls hclass hfree => hplan ⟨cls, hclass, hfree⟩] at h
          cases h
  · intro h
    cases h with
    | unsettled hclient => rw [run_of_client_error f context o s hclient]
    | unreadable hclient hread => rw [run_of_unreadable context o hclient hread]
    | unanswered hready hmeaning => exact hready.run_error_iff.mpr (Or.inl hmeaning)
    | unwritten hready hbrings hrefused =>
      exact hready.run_error_iff.mpr (Or.inr ⟨_, hbrings, hrefused⟩)

/-- The disk fails a run: the source cannot be read, or the code of an answer cannot be put into its
place. -/
inductive DiskFails (g : AiGenerator) (f : Path) (context : List (String × String))
    (o : AiOptions) (s : State) : Prop where
  | reading {client : Client} {cause : Disk.Cause} (hclient : g.client = .ok client)
      (h : s.disk.readText g.cwd f = .error cause)
  | writing {client : Client} {text cls code : String} (hready : Ready g f o s client text cls)
      (hbrings : client.Brings (s.line.post (g.asks context o client text)).1 code)
      (h : ¬ WriteLog.Fits s.disk g.cwd (g.destination o cls) code)

theorem Fails.cases (h : Fails g f context o s e) :
    e.fatal = true ∨ DiskFails g f context o s ∧
      ∃ q cause, e = .disk q cause ∧ (q = f ∨ ∃ cls, q = g.destination o cls ∨
        (g.destination o cls).parent? = some q) := by
  cases h with
  | unsettled h =>
    refine Or.inl ?_
    unfold AiGenerator.client at h
    split at h
    · exact Client.fatal_of_ofSettings h
    · cases h
      rfl
  | unreadable hclient h => exact Or.inr ⟨.reading hclient h, f, _, rfl, Or.inl rfl⟩
  | unanswered hready h => exact Or.inl (Client.fatal_of_meaning h)
  | unwritten hready hbrings h =>
    obtain ⟨q, cause, hq, rfl⟩ := h.disk
    have hfits := fun hfits => WriteLog.fits_iff.mp hfits _ h
    exact Or.inr ⟨.writing hready hbrings hfits, q, cause, rfl, Or.inr ⟨_, hq⟩⟩

theorem DiskFails.fails (h : DiskFails g f context o s) :
    ∃ q cause, Fails g f context o s (.disk q cause) := by
  cases h with
  | reading hclient h => exact ⟨f, _, .unreadable hclient h⟩
  | writing hready hbrings h =>
    rw [WriteLog.fits_iff, not_forall_not] at h
    obtain ⟨e, hrefused⟩ := h
    obtain ⟨q, cause, -, rfl⟩ := hrefused.disk
    exact ⟨q, cause, .unwritten hready hbrings hrefused⟩

/-- What leaves a run as an error, and what is told as `false`. -/
structure Failures (g : AiGenerator) (f : Path) (context : List (String × String))
    (o : AiOptions) (s : State) : Prop where
  error_iff : ∀ e, (g.run f context o s).1 = .error e ↔ Fails g f context o s e
  /-- An error ends the command as long as the disk does not fail. -/
  fatal_iff : ∀ e, (g.run f context o s).1 = .error e →
    (e.fatal = true ↔ ¬ DiskFails g f context o s)
  /-- A failure of the disk always leaves, -/
  leaves : DiskFails g f context o s → ∃ e, (g.run f context o s).1 = .error e
  /-- and names the source, or the test file or the directory above it. -/
  named : ∀ e, (g.run f context o s).1 = .error e → e.fatal = false → ∃ q cause,
    e = .disk q cause ∧ (q = f ∨ ∃ cls, q = g.destination o cls ∨
      (g.destination o cls).parent? = some q)
  /-- A source without a class and a destination that is taken are told as `false`, -/
  planless : ∀ client text, g.client = .ok client → s.disk.readText g.cwd f = .ok text →
    (∀ cls, Php.className? text = some cls →
      s.log.contains (g.destination o cls) = true ∨
        s.disk.isThere g.cwd (g.destination o cls) = true ∧ o.force = false) →
    (g.run f context o s).1 = .ok false
  /-- and so is a reply that is a success and brings no code. -/
  codeless : ∀ client text cls, Ready g f o s client text cls →
    (∀ e, client.meaning (s.line.post (g.asks context o client text)).1 ≠ .error e) →
    (∀ code, ¬ client.Brings (s.line.post (g.asks context o client text)).1 code) →
    (g.run f context o s).1 = .ok false

/-- All errors that leave a run end the command, but for those of the disk. -/
theorem errors_fatal_unless_disk_fails (g : AiGenerator) (f : Path)
    (context : List (String × String)) (o : AiOptions) (s : State) :
    Failures g f context o s := by
  constructor
  case error_iff =>
    intro e
    exact run_error_iff
  case fatal_iff =>
    intro e h
    constructor
    · intro hfatal hdisk
      obtain ⟨q, cause, hfails⟩ := hdisk.fails
      rw [run_error_iff.mpr hfails] at h
      cases h
      cases hfatal
    · intro hdisk
      rcases (run_error_iff.mp h).cases with hfatal | ⟨hfails, -⟩
      · exact hfatal
      · exact absurd hfails hdisk
  case leaves =>
    intro hdisk
    obtain ⟨q, cause, hfails⟩ := hdisk.fails
    exact ⟨_, run_error_iff.mpr hfails⟩
  case named =>
    intro e h hfatal
    rcases (run_error_iff.mp h).cases with hfatal' | ⟨-, hnamed⟩
    · rw [hfatal] at hfatal'
      cases hfatal'
    · exact hnamed
  case planless =>
    intro client text hclient hread htaken
    rw [run_of_no_plan context hclient hread]
    intro cls hclass hfree
    obtain ⟨hnew, habsent⟩ := WriteLog.ensureFree_ok_iff.mp hfree
    rcases htaken cls hclass with hlogged | ⟨hthere, hforce⟩
    · simp [hnew] at hlogged
    · simp [hthere, hforce] at habsent
  case codeless =>
    intro client text cls hready hmeaning hcodeless
    cases hresult : (g.run f context o s).1 with
    | error e =>
      rcases hready.run_error_iff.mp hresult with h | ⟨code, hbrings, -⟩
      · exact absurd h (hmeaning e)
      · exact absurd hbrings (hcodeless code)
    | ok written =>
      cases written with
      | false => rfl
      | true =>
        obtain ⟨code, hbrings, -⟩ := hready.run_true_iff.mp hresult
        exact absurd hbrings (hcodeless code)

/-- The error of a source that is not there leaves the run, and would not end a command. -/
theorem stray_error_missingSource :
    (withKey.run ⟨"Gone.php"⟩ [] {} fencedAnswer).1 = .error (.disk ⟨"Gone.php"⟩ .missing) ∧
      Error.fatal (.disk ⟨"Gone.php"⟩ .missing) = false := by
  have hclient : ∃ client, withKey.client = .ok client :=
    exists_client_iff.mpr ⟨by decide +kernel, fun p _ => Provider.accepts_defaultBase rfl⟩
  obtain ⟨client, hclient⟩ := hclient
  have hread : fencedAnswer.disk.readText withKey.cwd ⟨"Gone.php"⟩ = .error .missing := rfl
  rw [run_of_unreadable [] {} hclient hread]
  exact ⟨rfl, rfl⟩

end AiGenerator
end SuiteForge
