import SuiteForge.Proofs.Generator.Target
import SuiteForge.Proofs.SourceWalk

/-!
# The first source wins

Of the sources of a directory that ask for one destination the first one gets it. After every
source of a run it is known from the disk at the start alone which destinations have been written
and what they hold, and that no other file has changed.
-/

namespace SuiteForge.Generator

open Disk (Grows MadeDirectories)
open WriteLog (Wrote)

variable {g : Generator} {o : GenerateOptions} {d : Disk} {done files rest : List Path}
  {f : Path} {s s' : State} {t : Path × String} {l : Location}

/-! ### Winners -/

/-- A destination that may be written: nothing is there at the start, or it may be replaced. -/
def Open (g : Generator) (o : GenerateOptions) (d : Disk) (t : Path × String) : Prop :=
  o.force = true ∨ d.isThere g.cwd t.1 = false

instance : Decidable (g.Open o d t) := by unfold Open; infer_instance

/-- One of some sources asks for a destination. -/
def Taken (g : Generator) (o : GenerateOptions) (d : Disk) (before : List Path) (p : Path) :
    Prop :=
  ∃ f ∈ before, ∃ t ∈ g.target? d f o.kind?, p.same t.1 = true

instance (before : List Path) (p : Path) : Decidable (g.Taken o d before p) := by
  unfold Taken
  infer_instance

/-- A source behind others wins its target when that may be written and none of the others asks for
the same destination. -/
structure Wins (g : Generator) (o : GenerateOptions) (d : Disk) (before : List Path) (f : Path)
    (t : Path × String) : Prop where
  target : t ∈ g.target? d f o.kind?
  isOpen : g.Open o d t
  first : ¬ g.Taken o d before t.1

instance (before : List Path) : Decidable (∃ t, g.Wins o d before f t) :=
  decidable_of_iff (∃ t ∈ g.target? d f o.kind?, g.Open o d t ∧ ¬ g.Taken o d before t.1)
    ⟨fun ⟨t, ht, hopen, hfirst⟩ => ⟨t, ht, hopen, hfirst⟩,
      fun ⟨t, ht, hopen, hfirst⟩ => ⟨t, ht, hopen, hfirst⟩⟩

/-- The target of one of some sources that wins it from those in front. -/
def Winner (g : Generator) (o : GenerateOptions) (d : Disk) (done : List Path)
    (t : Path × String) : Prop :=
  ∃ before f, before ++ [f] <+: done ∧ g.Wins o d before f t

theorem Winner.target (h : g.Winner o d done t) : ∃ f ∈ done, t ∈ g.target? d f o.kind? := by
  obtain ⟨before, f, hprefix, hwins⟩ := h
  exact ⟨f, hprefix.subset (by simp), hwins.target⟩

theorem winner_concat :
    g.Winner o d (done ++ [f]) t ↔ g.Winner o d done t ∨ g.Wins o d done f t := by
  constructor
  · rintro ⟨before, f', hprefix, hwins⟩
    rcases List.prefix_concat_iff.mp hprefix with heq | hinside
    · obtain ⟨rfl, hf'⟩ := List.append_inj' heq rfl
      obtain rfl : f' = f := by simpa using hf'
      exact Or.inr hwins
    · exact Or.inl ⟨before, f', hinside, hwins⟩
  · rintro (⟨before, f', hprefix, hwins⟩ | hwins)
    · exact ⟨before, f', hprefix.trans (List.prefix_append done [f]), hwins⟩
    · exact ⟨done, f, List.prefix_refl _, hwins⟩

/-! ### What is taken for granted -/

/-- None of some sources lies where the tests of one of them go. -/
def SparesSources (g : Generator) (o : GenerateOptions) (d : Disk) (files : List Path) : Prop :=
  ∀ f ∈ files, ∀ f' ∈ files, ∀ t ∈ g.target? d f o.kind?,
    d.landing? g.cwd t.1 ≠ d.landing? g.cwd f'

instance : Decidable (g.SparesSources o d files) := by unfold SparesSources; infer_instance

/-- The destinations of some sources are apart: each lands somewhere, and none at or above another
one that is not the same path. -/
structure Apart (g : Generator) (o : GenerateOptions) (d : Disk) (files : List Path) : Prop where
  lands : ∀ f ∈ files, ∀ t ∈ g.target? d f o.kind?, (d.landing? g.cwd t.1).isSome
  apart : ∀ f ∈ files, ∀ f' ∈ files, ∀ t ∈ g.target? d f o.kind?,
    ∀ t' ∈ g.target? d f' o.kind?, ∀ l ∈ d.landing? g.cwd t.1, ∀ l' ∈ d.landing? g.cwd t'.1,
      l <+: l' → t.1.same t'.1 = true

/-- A source that has a plan is written. -/
def WriteSucceeds (g : Generator) (o : GenerateOptions) (f : Path) (s : State) : Prop :=
  match g.plan s.log s.disk f o.kind? o.force with
  | .ok (dest, text) => (s.log.write s.disk g.cwd dest text o.force).1.isOk
  | .error _ => True

instance : Decidable (g.WriteSucceeds o f s) := by unfold WriteSucceeds; split <;> infer_instance

theorem WriteSucceeds.cases (h : g.WriteSucceeds o f s) :
    (g.runFile f o s = (false, s) ∧ ∀ t, g.plan s.log s.disk f o.kind? o.force ≠ .ok t) ∨
      ∃ t place, t ∈ g.target? s.disk f o.kind? ∧ (g.runFile f o s).1 = true ∧
        Wrote s.log s.disk g.cwd t.1 t.2 o.force place (g.runFile f o s).2.log
          (g.runFile f o s).2.disk := by
  have hrun : g.runFile f o s = g.run f o.kind? o.force s := rfl
  rw [hrun]
  rcases run_cases g f o.kind? o.force s with
    ⟨hfailed, -, -⟩ | ⟨dest, text, place, hplan, hok, hwrote⟩
  · have hnoPlan : ∀ t, g.plan s.log s.disk f o.kind? o.force ≠ .ok t := by
      rintro ⟨dest, text⟩ hplan
      rw [WriteSucceeds, hplan] at h
      cases hwrite : s.log.write s.disk g.cwd dest text o.force with
      | mk result disk =>
        cases result with
        | error e => simp [hwrite, Except.isOk, Except.toBool] at h
        | ok log' => simp [run_of_write hplan hwrite] at hfailed
    exact Or.inl ⟨run_of_no_plan hnoPlan, hnoPlan⟩
  · exact Or.inr ⟨(dest, text), place, (plan_ok_iff.mp hplan).1, hok, hwrote⟩

/-- Every write of a run over some sources succeeds. -/
def WritesSucceed (g : Generator) (o : GenerateOptions) : List Path → State → Prop
  | [], _ => True
  | f :: files, s => g.WriteSucceeds o f s ∧ WritesSucceed g o files (g.runFile f o s).2

instance decidableWritesSucceed : (files : List Path) → (s : State) →
    Decidable (g.WritesSucceed o files s)
  | [], _ => inferInstanceAs (Decidable True)
  | f :: files, s =>
    have := decidableWritesSucceed files (g.runFile f o s).2
    inferInstanceAs (Decidable (g.WriteSucceeds o f s ∧ g.WritesSucceed o files _))

/-! ### Progress -/

/-- A list and what stands behind its first element. -/
theorem forall_prefix_cons {P : List Path → Path → Prop} :
    (∀ before f', before ++ [f'] <+: f :: rest → P before f') ↔
      P [] f ∧ ∀ before f', before ++ [f'] <+: rest → P (f :: before) f' := by
  constructor
  · intro hall
    exact ⟨hall [] f (by simp), fun before f' hprefix =>
      hall (f :: before) f' (List.cons_prefix_cons.mpr ⟨rfl, hprefix⟩)⟩
  · rintro ⟨hfirst, hothers⟩ before f' hprefix
    cases before with
    | nil =>
      obtain ⟨rfl, -⟩ := List.cons_prefix_cons.mp hprefix
      exact hfirst
    | cons f₀ before =>
      obtain ⟨rfl, hinside⟩ := List.cons_prefix_cons.mp hprefix
      exact hothers before f' hinside

/-- What is known of a run when some sources are done. -/
structure Progress (g : Generator) (o : GenerateOptions) (d : Disk) (done : List Path)
    (s : State) : Prop where
  tree : s.disk.IsTree
  grows : Grows d s.disk
  logged : ∀ p, s.log.contains p = true ↔ ∃ t, g.Winner o d done t ∧ p.same t.1 = true
  asked : ∀ f ∈ done, ∀ t ∈ g.target? d f o.kind?, g.Open o d t → s.log.contains t.1 = true
  held : ∀ t, g.Winner o d done t →
    ∃ l, s.disk.resolve g.cwd t.1 = .ok (.entry l (.file t.2.toUTF8))
  kept : ∀ l, (∀ t, g.Winner o d done t → d.landing? g.cwd t.1 ≠ some l) →
    s.disk.entry? l = d.entry? l ∨
      d.entry? l = none ∧ s.disk.entry? l = some .directory ∧
        ∃ t, g.Winner o d done t ∧ ∃ l' ∈ d.landing? g.cwd t.1, l <+: l'

/-- A destination lands where it leads to on a larger disk. -/
theorem Apart.landing?_eq (hapart : g.Apart o d files) (hf : f ∈ files)
    (ht : t ∈ g.target? d f o.kind?) {d' : Disk} (hgrows : Grows d d') {target : Disk.Target}
    (hresolve : d'.resolve g.cwd t.1 = .ok target) : d.landing? g.cwd t.1 = some target.place := by
  obtain ⟨l, hl⟩ := Option.isSome_iff_exists.mp (hapart.lands f hf t ht)
  have hgrown := Disk.landing?_of_grows hgrows hl
  rwa [Disk.landing?_of_resolve hresolve, ← hl, eq_comm] at hgrown

namespace Progress

theorem start (htree : d.IsTree) : Progress g o d [] ⟨{}, d⟩ where
  tree := htree
  grows := .refl d
  logged p := by simp [WriteLog.contains, Winner]
  asked f hf := by simp at hf
  held t := by simp [Winner]
  kept l _ := Or.inl rfl

/-- A destination that is not logged lands neither at nor above the place of a winner. -/
theorem not_prefix (h : Progress g o d done s) (hapart : g.Apart o d files)
    (hdone : ∀ f' ∈ done, f' ∈ files) (hf : f ∈ files) (ht : t ∈ g.target? d f o.kind?)
    (hlogged : s.log.contains t.1 = false) (hl : d.landing? g.cwd t.1 = some l)
    {t' : Path × String} (hwinner : g.Winner o d done t') {l' : Location}
    (hl' : d.landing? g.cwd t'.1 = some l') : ¬ l <+: l' := by
  intro hprefix
  obtain ⟨f', hf', ht'⟩ := hwinner.target
  have hsame := hapart.apart f hf f' (hdone f' hf') t ht t' ht' l hl l' hl' hprefix
  simp [(h.logged t.1).mpr ⟨t', hwinner, hsame⟩] at hlogged

/-- A source that is not written adds nothing. -/
theorem skip (h : Progress g o d done s)
    (hskip : ∀ t ∈ g.target? d f o.kind?, g.Open o d t → s.log.contains t.1 = true) :
    Progress g o d (done ++ [f]) s := by
  have hwinner (t : Path × String) : g.Winner o d (done ++ [f]) t ↔ g.Winner o d done t := by
    rw [winner_concat, or_iff_left]
    intro hwins
    obtain ⟨t', hwinner, hsame⟩ := (h.logged t.1).mp (hskip t hwins.target hwins.isOpen)
    obtain ⟨f', hf', ht'⟩ := hwinner.target
    exact hwins.first ⟨f', hf', t', ht', hsame⟩
  refine ⟨h.tree, h.grows, ?_, ?_, ?_, ?_⟩
  · simpa only [hwinner] using h.logged
  · intro f' hf'
    rcases List.mem_append.mp hf' with hf' | hf'
    · exact h.asked f' hf'
    · obtain rfl := List.mem_singleton.mp hf'
      exact hskip
  · simpa only [hwinner] using h.held
  · simpa only [hwinner] using h.kept

/-- A source whose target is written adds its target. -/
theorem write (h : Progress g o d done s) (hapart : g.Apart o d files)
    (hdone : ∀ f' ∈ done, f' ∈ files) (hf : f ∈ files) (hwins : g.Wins o d done f t)
    (hwrote : Wrote s.log s.disk g.cwd t.1 t.2 o.force l s'.log s'.disk) :
    Progress g o d (done ++ [f]) s' := by
  have ht := hwins.target
  have hwinner (t' : Path × String) :
      g.Winner o d (done ++ [f]) t' ↔ g.Winner o d done t' ∨ t' = t := by
    rw [winner_concat]
    refine or_congr_right ⟨fun hwins' => ?_, fun heq => heq ▸ hwins⟩
    exact Option.some.inj (hwins'.target.symm.trans ht)
  have hlanding : d.landing? g.cwd t.1 = some l := by
    obtain ⟨target, hresolve, rfl⟩ := hwrote.resolves
    exact hapart.landing?_eq hf ht (h.grows.trans hwrote.made.grows) hresolve
  have hlogged (p : Path) :
      s'.log.contains p = true ↔ p.same t.1 = true ∨ s.log.contains p = true := by
    rw [WriteLog.contains, hwrote.log_eq, List.any_cons, Bool.or_eq_true, ← WriteLog.contains]
  refine ⟨hwrote.isTree h.tree, h.grows.trans hwrote.grows, ?_, ?_, ?_, ?_⟩
  · intro p
    simp only [hlogged, h.logged, hwinner, or_and_right, exists_or, exists_eq_left]
    exact or_comm
  · intro f' hf' t' ht' hopen
    rw [hlogged]
    rcases List.mem_append.mp hf' with hf' | hf'
    · exact Or.inr (h.asked f' hf' t' ht' hopen)
    · obtain rfl := List.mem_singleton.mp hf'
      obtain rfl : t' = t := Option.some.inj (ht'.symm.trans ht)
      exact Or.inl (Path.same_refl t'.1)
  · intro t' ht'
    rcases (hwinner t').mp ht' with hwinner' | rfl
    · obtain ⟨l', hl'⟩ := h.held t' hwinner'
      obtain ⟨f', hf', htarget'⟩ := hwinner'.target
      -- earlier winners keep their texts, since the destinations are apart
      have hne : l' ≠ l := by
        rintro rfl
        exact h.not_prefix hapart hdone hf ht hwrote.not_logged hlanding hwinner'
          (hapart.landing?_eq (hdone f' hf') htarget' h.grows hl') (List.prefix_refl _)
      obtain ⟨e, he, hentry⟩ := Disk.resolve_of_grows hwrote.grows hl'
      rw [hwrote.entry?_of_ne hne, hwrote.made.entry?_eq (Disk.entry?_of_resolve hl')] at hentry
      cases hentry
      exact ⟨l', he⟩
    · exact ⟨l, hwrote.resolve_eq⟩
  · intro m hm
    have hne : m ≠ l := by
      rintro rfl
      exact hm t ((hwinner t).mpr (Or.inr rfl)) hlanding
    rw [hwrote.entry?_of_ne hne]
    rcases h.kept m fun t' ht' => hm t' ((hwinner t').mpr (Or.inl ht')) with
      heq | ⟨hnone, hdir, t', ht', hway⟩
    · rcases hwrote.made m with hsame | ⟨hfree, hmade⟩
      · exact Or.inl (hsame.trans heq)
      · refine Or.inr ⟨heq ▸ hfree, hmade, t, (hwinner t).mpr (Or.inr rfl), l, hlanding, ?_⟩
        exact WriteLog.prefix_of_ground h.tree (Disk.landing?_of_grows h.grows hlanding) hfree
          (by simp [hmade])
    · exact Or.inr ⟨hnone, hwrote.made.entry?_eq hdir, t', (hwinner t').mpr (Or.inl ht'), hway⟩

/-- A source is read as at the start, since nothing is written at a source. -/
theorem read_eq (h : Progress g o d done s) (hspares : g.SparesSources o d files)
    (hdone : ∀ f' ∈ done, f' ∈ files) (hf : f ∈ files)
    (hsource : (∃ l c, d.resolve g.cwd f = .ok (.entry l (.file c))) ∨
      ∀ d' : Disk, d'.resolve g.cwd f = .error .nameTooLong) :
    s.disk.read g.cwd f = d.read g.cwd f := by
  rcases hsource with ⟨l, c, hresolve⟩ | hlong
  · obtain ⟨e, he, hentry⟩ := Disk.resolve_of_grows h.grows hresolve
    have hfile := Disk.entry?_of_resolve hresolve
    have hl : ∀ t, g.Winner o d done t → d.landing? g.cwd t.1 ≠ some l := by
      intro t hwinner hland
      obtain ⟨f', hf', ht⟩ := hwinner.target
      refine hspares f' (hdone f' hf') f hf t ht ?_
      rw [hland, Disk.landing?_of_resolve hresolve]
      rfl
    rcases h.kept l hl with heq | ⟨hnone, -⟩
    · rw [hentry, hfile] at heq
      cases heq
      simp [Disk.read, hresolve, he]
    · simp [hnone] at hfile
  · simp [Disk.read, hlong]

/-- What is found at a destination that is not logged was there at the start. -/
theorem there_at_start (h : Progress g o d done s) (hapart : g.Apart o d files)
    (hdone : ∀ f' ∈ done, f' ∈ files) (hf : f ∈ files) (htree : d.IsTree)
    (ht : t ∈ g.target? d f o.kind?) (hlogged : s.log.contains t.1 = false)
    (hthere : s.disk.isThere g.cwd t.1 = true) : d.isThere g.cwd t.1 = true := by
  obtain ⟨l, e, hresolve⟩ := Disk.isThere_iff.mp hthere
  have hland : d.landing? g.cwd t.1 = some l := hapart.landing?_eq hf ht h.grows hresolve
  have hapart' {t' : Path × String} (hwinner : g.Winner o d done t') {l' : Location}
      (hl' : d.landing? g.cwd t'.1 = some l') : ¬ l <+: l' :=
    h.not_prefix hapart hdone hf ht hlogged hland hwinner hl'
  rcases h.kept l fun t' hwinner hl' => hapart' hwinner hl' (List.prefix_refl l) with
    heq | ⟨-, -, t', hwinner, l', hl', hprefix⟩
  · rw [Disk.entry?_of_resolve hresolve] at heq
    exact Disk.isThere_iff.mpr
      ⟨l, e, Disk.resolve_of_landing htree h.grows hland heq.symm hresolve⟩
  · exact absurd hprefix (hapart' hwinner hl')

/-- A target that is written is won: whoever asked for the path before has found it occupied. -/
theorem wins_of_wrote (h : Progress g o d done s) (ht : t ∈ g.target? d f o.kind?)
    (hwrote : Wrote s.log s.disk g.cwd t.1 t.2 o.force l s'.log s'.disk) :
    g.Wins o d done f t := by
  have hopen : g.Open o d t := by
    refine (WriteLog.ensureFree_ok_iff.mp hwrote.free).2.imp_right fun hthere => ?_
    cases hstart : d.isThere g.cwd t.1 with
    | false => rfl
    | true => simp [Disk.isThere_of_grows h.grows hstart] at hthere
  refine ⟨ht, hopen, ?_⟩
  rintro ⟨f', hf', t', ht', hsame⟩
  -- a source in front that could be written is logged; one that could not has been there
  by_cases hopen' : g.Open o d t'
  · have hlogged := WriteLog.contains_of_same (Path.same_symm hsame) (h.asked f' hf' t' ht' hopen')
    simp [hwrote.not_logged] at hlogged
  · obtain ⟨hforce, hthere⟩ : o.force = false ∧ d.isThere g.cwd t'.1 = true := by
      simpa [Open] using hopen'
    obtain ⟨l', e, hresolve⟩ := Disk.isThere_iff.mp hthere
    obtain ⟨target, hlands, -⟩ := hwrote.resolves
    have hdest := Disk.resolve_of_same (Path.same_symm hsame)
      (h.grows.trans hwrote.made.grows) hresolve hlands
    have hstart := Disk.isThere_iff.mpr ⟨l', e, hdest⟩
    simp [Open, hforce, hstart] at hopen

/-- A source without a plan asks for nothing that may be written and is not yet logged. -/
theorem logged_of_no_plan (h : Progress g o d done s) (hapart : g.Apart o d files)
    (hdone : ∀ f' ∈ done, f' ∈ files) (hf : f ∈ files) (htree : d.IsTree)
    (htarget : g.target? s.disk f o.kind? = g.target? d f o.kind?)
    (hnoPlan : ∀ t, g.plan s.log s.disk f o.kind? o.force ≠ .ok t)
    (ht : t ∈ g.target? d f o.kind?) (hopen : g.Open o d t) : s.log.contains t.1 = true := by
  cases hlogged : s.log.contains t.1 with
  | true => rfl
  | false =>
    refine absurd (plan_ok_iff.mpr ⟨htarget.trans ht, WriteLog.ensureFree_ok_iff.mpr
      ⟨hlogged, hopen.imp_right fun hfree => ?_⟩⟩) (hnoPlan t)
    cases hthere : s.disk.isThere g.cwd t.1 with
    | false => rfl
    | true => simp [h.there_at_start hapart hdone hf htree ht hlogged hthere] at hfree

/-- One more source is done; it goes well just when the source wins. -/
theorem step (h : Progress g o d done s) (hapart : g.Apart o d files)
    (hspares : g.SparesSources o d files) (hdone : ∀ f' ∈ done, f' ∈ files) (hf : f ∈ files)
    (htree : d.IsTree)
    (hsource : (∃ l c, d.resolve g.cwd f = .ok (.entry l (.file c))) ∨
      ∀ d' : Disk, d'.resolve g.cwd f = .error .nameTooLong)
    (hwrite : g.WriteSucceeds o f s) :
    Progress g o d (done ++ [f]) (g.runFile f o s).2 ∧
      ((g.runFile f o s).1 = true ↔ ∃ t, g.Wins o d done f t) := by
  have htarget : g.target? s.disk f o.kind? = g.target? d f o.kind? :=
    target?_congr (h.read_eq hspares hdone hf hsource)
  rcases hwrite.cases with ⟨hrun, hnoPlan⟩ | ⟨t, place, ht, hok, hwrote⟩
  · have hlogged : ∀ t ∈ g.target? d f o.kind?, g.Open o d t → s.log.contains t.1 = true :=
      fun t => h.logged_of_no_plan hapart hdone hf htree htarget hnoPlan
    rw [hrun]
    refine ⟨h.skip hlogged, by simp, ?_⟩
    rintro ⟨t, hwins⟩
    obtain ⟨t', hwinner, hsame⟩ := (h.logged t.1).mp (hlogged t hwins.target hwins.isOpen)
    obtain ⟨f', hf', ht'⟩ := hwinner.target
    exact absurd ⟨f', hf', t', ht', hsame⟩ hwins.first
  · have hwins := h.wins_of_wrote (htarget ▸ ht) hwrote
    exact ⟨h.write hapart hdone hf hwins hwrote, fun _ => ⟨t, hwins⟩, fun _ => hok⟩

/-- A run over the sources that are left. -/
theorem runFiles (h : Progress g o d done s) (hapart : g.Apart o d files)
    (hspares : g.SparesSources o d files) (hfiles : ∀ f ∈ done ++ rest, f ∈ files)
    (htree : d.IsTree)
    (hsources : ∀ f ∈ files, (∃ l c, d.resolve g.cwd f = .ok (.entry l (.file c))) ∨
      ∀ d' : Disk, d'.resolve g.cwd f = .error .nameTooLong)
    (hwrites : g.WritesSucceed o rest s) :
    Progress g o d (done ++ rest) (g.runFiles o rest s).2 ∧
      ((g.runFiles o rest s).1 = true ↔
        ∀ before f, before ++ [f] <+: rest → ∃ t, g.Wins o d (done ++ before) f t) := by
  -- the induction is on the sources that are left; `Progress` carries what the others have done
  induction rest generalizing done s with
  | nil => exact ⟨by simpa [Generator.runFiles] using h, by simp [Generator.runFiles]⟩
  | cons f rest ih =>
    obtain ⟨hwrite, hwrites⟩ := hwrites
    have hsplit : done ++ f :: rest = (done ++ [f]) ++ rest := by simp
    rw [hsplit] at hfiles ⊢
    have hf : f ∈ files := hfiles f (by simp)
    obtain ⟨hstep, hok⟩ := h.step hapart hspares (fun f' hf' => hfiles f' (by simp [hf'])) hf htree
      (hsources f hf) hwrite
    obtain ⟨hrest, hoks⟩ := ih hstep hfiles hwrites
    refine ⟨hrest, ?_⟩
    rw [Generator.runFiles, Bool.and_eq_true, hok, hoks, forall_prefix_cons]
    simp only [List.append_nil, List.append_assoc, List.singleton_append]

end Progress

/-! ### Directories -/

/-- A run over a directory goes well just when each of its sources wins; the winners' texts are
where they belong, all that may be written has a winner, no other file has changed, and what fails
could have been left out. -/
structure FirstWins (g : Generator) (o : GenerateOptions) (d : Disk) (dir : Path)
    (files : List Path) : Prop where
  ok_iff : (g.runDirectory dir o ⟨{}, d⟩).1 = true ↔
    ∀ before f, before ++ [f] <+: files → ∃ t, g.Wins o d before f t
  held : ∀ t, g.Winner o d files t →
    (g.runDirectory dir o ⟨{}, d⟩).2.disk.at? g.cwd t.1 = some (.file t.2.toUTF8)
  won : ∀ f ∈ files, ∀ t ∈ g.target? d f o.kind?, g.Open o d t →
    ∃ t', g.Winner o d files t' ∧ t.1.same t'.1 = true
  untouched : ∀ l c, (∀ t, g.Winner o d files t → d.landing? g.cwd t.1 ≠ some l) →
    ((g.runDirectory dir o ⟨{}, d⟩).2.disk.entry? l = some (.file c) ↔
      d.entry? l = some (.file c))
  failed : ∀ before f after, files = before ++ f :: after →
    (g.runFile f o (g.runFiles o before ⟨{}, d⟩).2).1 = false →
      (g.runFiles o (before ++ after) ⟨{}, d⟩).2 = (g.runDirectory dir o ⟨{}, d⟩).2

/-- A run over the sources of a directory of a tree in which no write fails and no source is
overwritten. -/
structure Granted (g : Generator) (o : GenerateOptions) (d : Disk) (dir : Path)
    (files : List Path) : Prop where
  listed : SourceWalk.sources g.filter d g.cwd dir = files
  tree : d.IsTree
  writes : g.WritesSucceed o files ⟨{}, d⟩
  spares : g.SparesSources o d files

theorem writeSucceeds_of_append {before after : List Path}
    (h : g.WritesSucceed o (before ++ f :: after) s) :
    g.WriteSucceeds o f (g.runFiles o before s).2 := by
  induction before generalizing s with
  | nil => exact h.1
  | cons f₀ before ih => exact ih h.2

/-- The first source wins when the destinations are apart. -/
theorem first_source_wins (g : Generator) (o : GenerateOptions) (d : Disk) (dir : Path)
    (files : List Path) (hgranted : Granted g o d dir files) (hapart : g.Apart o d files) :
    FirstWins g o d dir files := by
  obtain ⟨hlisted, htree, hwrites, hspares⟩ := hgranted
  have hrun : g.runDirectory dir o ⟨{}, d⟩ = g.runFiles o files ⟨{}, d⟩ := by
    rw [runDirectory, hlisted]
  have hsources : ∀ f ∈ files, (∃ l c, d.resolve g.cwd f = .ok (.entry l (.file c))) ∨
      ∀ d' : Disk, d'.resolve g.cwd f = .error .nameTooLong := by
    subst hlisted
    exact fun f hf => SourceWalk.resolve_of_mem_sources htree hf
  obtain ⟨hprogress, hok⟩ := (Progress.start htree).runFiles hapart hspares
    (fun f hf => hf) htree hsources hwrites
  constructor
  · rw [hrun]
    simpa using hok
  · intro t hwinner
    obtain ⟨l, hl⟩ := hprogress.held t hwinner
    simp [hrun, Disk.at?, hl]
  · intro f hf t ht hopen
    exact (hprogress.logged t.1).mp (hprogress.asked f hf t ht hopen)
  · intro l c hl
    rw [hrun]
    rcases hprogress.kept l hl with heq | ⟨hnone, hdir, -⟩
    · rw [← heq]
    · simp [hnone, hdir]
  · rintro before f after rfl hfailed
    rcases (writeSucceeds_of_append hwrites).cases with ⟨hsame, -⟩ | ⟨t, place, -, hok, -⟩
    · rw [hrun, runFiles_append, runFiles_append, runFiles, hsame]
    · simp [hok] at hfailed

/-! ### Two sources -/

def twoSources (first second : String) (others : List (Location × Entry)) : Disk :=
  ⟨[(["app"], .directory), (["app", "A.php"], .file first.toUTF8),
    (["app", "B.php"], .file second.toUTF8), (["unit.stub"], .file "unit test".toUTF8),
    (["feature.stub"], .file "feature test".toUTF8)] ++ others⟩

def bothSources : List Path := [⟨"app/A.php"⟩, ⟨"app/B.php"⟩]

def forTwoSources (testPaths : List String) (d : Disk) : Generator :=
  .create { testPaths, templates :=
    { unitTest := some ⟨"unit.stub"⟩, controllerTest := some ⟨"feature.stub"⟩ } } ⟨"."⟩ [] d

theorem sources_twoSources (testPaths : List String) (first second : String)
    {others : List (Location × Entry)} (hothers : ∀ x ∈ others, x.1.dropLast ≠ ["app"]) :
    SourceWalk.sources (forTwoSources testPaths (twoSources first second others)).filter
      (twoSources first second others) [] ⟨"app"⟩ = bothSources := by
  have hnone : others.filterMap (fun x =>
      if x.1 ≠ [] ∧ x.1.dropLast = ["app"] then x.1.getLast? else none) = [] := by
    rw [List.filterMap_eq_nil_iff]
    intro x hx
    simp [hothers x hx]
  have hnames : (twoSources first second others).entries.filterMap (fun x =>
      if x.1 ≠ [] ∧ x.1.dropLast = ["app"] then x.1.getLast? else none) = ["A.php", "B.php"] := by
    rw [twoSources, List.filterMap_append, hnone]
    rfl
  exact SourceWalk.sources_of_names ["A.php", "B.php"] rfl hnames (by decide +kernel)

def sameClass : Disk :=
  twoSources "<?php class Dup {}" "<?php class Dup { public function later() {} }" []

theorem first_source_wins_sameClass :
    Granted (forTwoSources ["tests/Unit"] sameClass) {} sameClass ⟨"app"⟩ bothSources ∧
      (forTwoSources ["tests/Unit"] sameClass).Apart {} sameClass bothSources ∧
      FirstWins (forTwoSources ["tests/Unit"] sameClass) {} sameClass ⟨"app"⟩ bothSources := by
  have hgranted : Granted (forTwoSources ["tests/Unit"] sameClass) {} sameClass ⟨"app"⟩
      bothSources :=
    ⟨sources_twoSources _ _ _ (by simp), by decide +kernel, by decide +kernel, by decide +kernel⟩
  have hapart : (forTwoSources ["tests/Unit"] sameClass).Apart {} sameClass bothSources :=
    ⟨by decide +kernel, by decide +kernel⟩
  exact ⟨hgranted, hapart, first_source_wins _ _ _ _ _ hgranted hapart⟩

/-! ### Destinations that are not apart -/

/-- A source in front of all others has its text where it belongs. -/
theorem FirstWins.front {dir : Path} (h : FirstWins g o d dir files)
    (hlisted : SourceWalk.sources g.filter d g.cwd dir = files) (hfront : [f] <+: files)
    (ht : t ∈ g.target? d f o.kind?) (hopen : g.Open o d t) :
    (g.runFiles o files ⟨{}, d⟩).2.disk.at? g.cwd t.1 = some (.file t.2.toUTF8) := by
  have hwinner : g.Winner o d files t := ⟨[], f, hfront, ht, hopen, by simp [Taken]⟩
  have hheld := h.held t hwinner
  rwa [runDirectory, hlisted] at hheld

/-- A run over two sources goes well when both win. -/
theorem FirstWins.both {dir f' : Path} (h : FirstWins g o d dir [f, f'])
    (hlisted : SourceWalk.sources g.filter d g.cwd dir = [f, f'])
    (hwins : ∃ t, g.Wins o d [] f t) (hwins' : ∃ t, g.Wins o d [f] f' t) :
    (g.runFiles o [f, f'] ⟨{}, d⟩).1 = true := by
  have hok := h.ok_iff
  rw [runDirectory, hlisted, forall_prefix_cons, forall_prefix_cons] at hok
  exact hok.mpr ⟨hwins, hwins', by simp⟩

/-- Two classes of one name whose suites are one directory under two paths. -/
def oneSuite : Disk :=
  twoSources "<?php class Dup {}" "<?php class Dup extends Controller {}"
    [(["tests"], .directory), (["tests", "x"], .directory)]

def oneSuitePaths : List String := ["tests/Unit", "tests/x/../Unit"]

/-- The second source replaces the text of the first one. -/
theorem first_replaced :
    Granted (forTwoSources oneSuitePaths oneSuite) { force := true } oneSuite ⟨"app"⟩
        bothSources ∧
      ¬ FirstWins (forTwoSources oneSuitePaths oneSuite) { force := true } oneSuite ⟨"app"⟩
        bothSources := by
  have hlisted : SourceWalk.sources (forTwoSources oneSuitePaths oneSuite).filter oneSuite []
      ⟨"app"⟩ = bothSources := sources_twoSources _ _ _ (by simp)
  refine ⟨⟨hlisted, by decide +kernel, by decide +kernel, by decide +kernel⟩, fun h => ?_⟩
  have hreplaced : ∃ t ∈ (forTwoSources oneSuitePaths oneSuite).target? oneSuite ⟨"app/A.php"⟩
      (GenerateOptions.kind? { force := true }),
      ((forTwoSources oneSuitePaths oneSuite).runFiles { force := true } bothSources
        ⟨{}, oneSuite⟩).2.disk.at? (forTwoSources oneSuitePaths oneSuite).cwd t.1 ≠
          some (.file t.2.toUTF8) := by decide +kernel
  obtain ⟨t, ht, hreplaced⟩ := hreplaced
  exact hreplaced (h.front hlisted (by simp [bothSources]) ht (Or.inl rfl))

/-- A test file that is reached through a directory that is not there yet. -/
def behindMissing : Disk :=
  twoSources "<?php class Bar {}" "<?php class Foo {}"
    [(["tests"], .directory), (["tests", "Unit"], .directory),
      (["tests", "Unit", "FooTest.php"], .file "written by hand".toUTF8)]

def behindMissingPaths : List String := ["new/../tests/Unit"]

/-- The second source comes upon a file that could not be found at the start. -/
theorem found_behind_missing :
    Granted (forTwoSources behindMissingPaths behindMissing) {} behindMissing ⟨"app"⟩
        bothSources ∧
      ¬ FirstWins (forTwoSources behindMissingPaths behindMissing) {} behindMissing ⟨"app"⟩
        bothSources := by
  have hlisted : SourceWalk.sources (forTwoSources behindMissingPaths behindMissing).filter
      behindMissing [] ⟨"app"⟩ = bothSources := sources_twoSources _ _ _ (by simp)
  refine ⟨⟨hlisted, by decide +kernel, by decide +kernel, by decide +kernel⟩, fun h => ?_⟩
  have hfailed : ((forTwoSources behindMissingPaths behindMissing).runFiles {} bothSources
      ⟨{}, behindMissing⟩).1 = false := by decide +kernel
  have hok := h.both hlisted (by decide +kernel) (by decide +kernel)
  exact Bool.false_ne_true (hfailed.symm.trans hok)

/-- A suite with the path of a test file of the other suite. -/
def suiteAtFile : Disk :=
  twoSources "<?php class Bar {}" "<?php class Foo extends Controller {}" []

def suiteAtFilePaths : List String := ["tests/FooTest.php", "tests"]

/-- The second source finds a directory in place of its test file. -/
theorem found_suite_at_file :
    Granted (forTwoSources suiteAtFilePaths suiteAtFile) {} suiteAtFile ⟨"app"⟩ bothSources ∧
      ¬ FirstWins (forTwoSources suiteAtFilePaths suiteAtFile) {} suiteAtFile ⟨"app"⟩
        bothSources := by
  have hlisted : SourceWalk.sources (forTwoSources suiteAtFilePaths suiteAtFile).filter
      suiteAtFile [] ⟨"app"⟩ = bothSources := sources_twoSources _ _ _ (by simp)
  refine ⟨⟨hlisted, by decide +kernel, by decide +kernel, by decide +kernel⟩, fun h => ?_⟩
  have hfailed : ((forTwoSources suiteAtFilePaths suiteAtFile).runFiles {} bothSources
      ⟨{}, suiteAtFile⟩).1 = false := by decide +kernel
  have hok := h.both hlisted (by decide +kernel) (by decide +kernel)
  exact Bool.false_ne_true (hfailed.symm.trans hok)

/-- Without destinations that are apart the first source need not win. -/
theorem apart_needed :
    (Granted (forTwoSources oneSuitePaths oneSuite) { force := true } oneSuite ⟨"app"⟩
        bothSources ∧
      ¬ FirstWins (forTwoSources oneSuitePaths oneSuite) { force := true } oneSuite ⟨"app"⟩
        bothSources) ∧
    (Granted (forTwoSources behindMissingPaths behindMissing) {} behindMissing ⟨"app"⟩
        bothSources ∧
      ¬ FirstWins (forTwoSources behindMissingPaths behindMissing) {} behindMissing ⟨"app"⟩
        bothSources) ∧
    (Granted (forTwoSources suiteAtFilePaths suiteAtFile) {} suiteAtFile ⟨"app"⟩ bothSources ∧
      ¬ FirstWins (forTwoSources suiteAtFilePaths suiteAtFile) {} suiteAtFile ⟨"app"⟩
        bothSources) :=
  ⟨first_replaced, found_behind_missing, found_suite_at_file⟩

end SuiteForge.Generator
