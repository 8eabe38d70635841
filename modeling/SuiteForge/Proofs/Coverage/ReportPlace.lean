import SuiteForge.Coverage.Analysis
import SuiteForge.Proofs.Disk.Changing
import SuiteForge.Proofs.Runner.Finding

/-!
# Where coverage reports land

The location of a report begins with the root of the project. Its directory is made where the
location leads from outside, and the runner, which writes the report, follows the same location from
inside the root. So an output directory and a root that are both relative are taken together
twice, and the report lands where it is announced just when the root leads back to itself.
-/

namespace SuiteForge.Coverage

open Runner (Command)
open Runner.Command (LeadsBack)
open SuiteForge.Path (steps)

variable {s : Settings} {root dir : Path} {output : Option Path} {f : Format} {d : Disk}
  {cwd place : Location} {t : Disk.Target}

/-! ### Locations -/

namespace Format

theorem slash_notMem_fileName (f : Format) : '/' ∉ f.fileName.toList := by
  cases f <;> decide

theorem fileName_moves (f : Format) : f.fileName ≠ "" ∧ f.fileName ≠ "." ∧ f.fileName ≠ ".." := by
  cases f <;> decide

theorem isAbsolute_locationIn (f : Format) (dir : Path) :
    (f.locationIn dir).isAbsolute = dir.isAbsolute :=
  Path.isAbsolute_join (Path.isAbsolute_name f.slash_notMem_fileName)

theorem pieces_locationIn (f : Format) (dir : Path) :
    ∃ front, (f.locationIn dir).pieces = front ++ [f.fileName] ∧
      ∀ piece ∈ front, piece ∈ dir.pieces := by
  have hslash := f.slash_notMem_fileName
  by_cases hdir : dir.text = ""
  · refine ⟨[], ?_, by simp⟩
    rw [locationIn, Path.join_of_empty hdir, Path.pieces_name hslash, List.nil_append]
  · rcases Path.pieces_join_name hdir hslash with hpieces | ⟨front, hfront, hpieces⟩
    · exact ⟨dir.pieces, hpieces, fun piece hpiece => hpiece⟩
    · refine ⟨front, hpieces, ?_⟩
      intro piece hpiece
      rw [hfront]
      exact List.mem_append_left _ hpiece

theorem locationIn_moves (f : Format) (dir : Path) :
    ∃ piece ∈ (f.locationIn dir).pieces, piece ≠ "" := by
  obtain ⟨front, hpieces, -⟩ := f.pieces_locationIn dir
  exact ⟨f.fileName, by simp [hpieces], f.fileName_moves.1⟩

theorem up_notMem_locationIn (hup : ".." ∉ dir.pieces) : ".." ∉ (f.locationIn dir).pieces := by
  obtain ⟨front, hpieces, hfront⟩ := f.pieces_locationIn dir
  rw [hpieces, List.mem_append, List.mem_singleton]
  rintro (hmem | hname)
  · exact hup (hfront _ hmem)
  · exact f.fileName_moves.2.2 hname.symm

end Format

/-- Where reports go, as written: a directory that is asked for, or the one of the settings. -/
def outputOf (s : Settings) (output : Option Path) : Path :=
  output.getD s.reports.outputDirectory

/-- The directory of reports, which a command line announces with the root left off. -/
def announced (s : Settings) (root : Path) (output : Option Path) : Path :=
  (output.map root.join).getD (s.reportsDirectory root)

def locationOf (s : Settings) (root : Path) (output : Option Path) (f : Format) : Path :=
  f.locationIn (announced s root output)

theorem announced_eq_join (s : Settings) (root : Path) (output : Option Path) :
    announced s root output = root.join (outputOf s output) := by
  cases output <;> rfl

theorem getD_locationOf (s : Settings) (root : Path) (output : Option Path) (f : Format) :
    ((output.map root.join).map f.locationIn).getD (f.locationIn (s.reportsDirectory root)) =
      locationOf s root output f := by
  cases output <;> rfl

theorem locationOf_eq_join (s : Settings) (root : Path) (output : Option Path) (f : Format) :
    locationOf s root output f = root.join (f.locationIn (outputOf s output)) := by
  rw [locationOf, announced_eq_join]
  exact Path.join_assoc root (outputOf s output) ⟨f.fileName⟩

theorem isAbsolute_locationOf
    (h : root.isAbsolute = true ∨ (outputOf s output).isAbsolute = true) :
    (locationOf s root output f).isAbsolute = true := by
  rw [locationOf, Format.isAbsolute_locationIn, announced_eq_join]
  cases houtput : (outputOf s output).isAbsolute with
  | true => rw [Path.join_of_absolute houtput, houtput]
  | false =>
    rw [Path.isAbsolute_join houtput]
    simpa [houtput] using h

/-! ### Directories for reports -/

theorem isDirectory_of_prepare {a : Analyzer} {location up : Path} {d' : Disk}
    (hup : f.directoryFor? location = some up) (hne : up.components ≠ [])
    (h : a.prepare f location d = (true, d')) : d'.isDirectory a.cwd up = true := by
  simp only [Analyzer.prepare, hup] at h
  split at h
  · rename_i hmade
    cases h
    exact Disk.isDirectory_of_makeDirectories hne hmade
  · cases h

theorem grows_of_prepare {a : Analyzer} {location : Path} {d' : Disk} {ready : Bool}
    (h : a.prepare f location d = (ready, d')) : Disk.Grows d d' := by
  unfold Analyzer.prepare at h
  split at h
  · cases h
    exact .refl d
  · rename_i up _
    have hwidens := d.makeDirectories_widens a.cwd up
    split at h
    · rename_i hmade
      rw [hmade] at hwidens
      cases h
      exact hwidens.made.grows
    · rename_i hmade
      rw [hmade] at hwidens
      cases h
      exact hwidens.made.grows

/-! ### Two readings of a location -/

theorem resolve_eq_of_absolute (h : dir.isAbsolute = true) :
    d.resolve place dir = d.resolve cwd dir := by
  simp [Disk.resolve, h]

theorem landing?_eq_of_absolute (h : dir.isAbsolute = true) :
    d.landing? place dir = d.landing? cwd dir := by
  simp [Disk.landing?, Disk.start, h]

/-- A relative location without steps back leads from the root where it leads from outside just when
the root leads back. -/
theorem resolve_locationOf_iff (hroot : d.resolve cwd root = .ok (.entry place .directory))
    (houtput : (outputOf s output).isAbsolute = false) (hup : ".." ∉ (outputOf s output).pieces)
    (h : d.resolve cwd (locationOf s root output f) = .ok t) :
    d.resolve place (locationOf s root output f) = .ok t ↔ LeadsBack d root place := by
  have hrelative : (f.locationIn (outputOf s output)).isAbsolute = false := by
    rw [Format.isAbsolute_locationIn, houtput]
  have hmoves := f.locationIn_moves (outputOf s output)
  have hup' := f.up_notMem_locationIn hup
  rw [locationOf_eq_join] at h ⊢
  exact Disk.resolve_join_iff_of_no_up hrelative hmoves hup' hroot h

/-- The same holds for where the location will lead when the directories on the way are made. -/
theorem landing?_locationOf_iff (hroot : d.resolve cwd root = .ok (.entry place .directory))
    (houtput : (outputOf s output).isAbsolute = false) (hup : ".." ∉ (outputOf s output).pieces) :
    d.landing? place (locationOf s root output f) = d.landing? cwd (locationOf s root output f) ↔
      d.landing? place root = some place := by
  have hrelative : (f.locationIn (outputOf s output)).isAbsolute = false := by
    rw [Format.isAbsolute_locationIn, houtput]
  have hup' := f.up_notMem_locationIn hup
  have hland : d.landing? cwd root = some place := Disk.landing?_of_resolve hroot
  rw [locationOf_eq_join, Disk.landing?_join hrelative, Disk.landing?_join hrelative, hland]
  cases d.landing? place root with
  | none => simp [Disk.landingFrom?_of_no_up hup']
  | some up => simp [Disk.landingFrom?_of_no_up hup']

/-! ### Reports -/

theorem asked_run (h : Runner.Harness) (cwd : Location) (flags : List String) :
    (h.run cwd flags).2.asked = h.asked ++ [flags] := by
  unfold Runner.Harness.run
  cases h.source <;> rfl

/-- A report is asked for with the location of the report, once its directory is there. -/
theorem asked_report {a : Analyzer} {location : Option Path} {h : Runner.Harness}
    (hready : a.prepare f (location.getD (f.locationIn a.reportsDirectory)) h.disk = (true, d)) :
    (a.report f location h).2.asked = h.asked ++
      [[f.flag (location.getD (f.locationIn a.reportsDirectory)), Analyzer.textFlag]] := by
  have hasked := asked_run { h with disk := d } a.cwd
    [f.flag (location.getD (f.locationIn a.reportsDirectory)), Analyzer.textFlag]
  simp only [Analyzer.report, hready, if_true]
  split
  · rename_i hrun
    rw [hrun] at hasked
    exact hasked
  · rename_i hrun
    rw [hrun] at hasked
    exact hasked

/-- How the location of a report is taken, on the disk `d` on which its directory has been made. -/
structure LocationTaken (s : Settings) (root : Path) (output : Option Path) (f : Format)
    (h : Runner.Harness) (cwd place : Location) (d : Disk) : Prop where
  made : ∀ up, f.directoryFor? (locationOf s root output f) = some up → up.components ≠ [] →
    d.isDirectory cwd up = true
  handed : ((Analyzer.ofSettings s root cwd).report f
      ((output.map root.join).map f.locationIn) h).2.asked =
    h.asked ++ [[f.flag (locationOf s root output f), Analyzer.textFlag]]
  /-- The runner takes it in the root. -/
  taken : ∀ process, (Command.ofSettings s.runner root).start
      [f.flag (locationOf s root output f), Analyzer.textFlag] d cwd = .ok process →
    ∃ name, process = Shell.Process.run name (Runner.programPath s.runner.binary root).text
      (s.runner.args ++ [f.flag (locationOf s root output f), Analyzer.textFlag]) d place
  /-- An absolute root or output directory makes it the same for both. -/
  absolute : root.isAbsolute = true ∨ (outputOf s output).isAbsolute = true →
    d.resolve place (locationOf s root output f) = d.resolve cwd (locationOf s root output f) ∧
      d.landing? place (locationOf s root output f) = d.landing? cwd (locationOf s root output f)
  /-- A relative output directory is taken from where the root leads to from the root. -/
  twice_iff : (outputOf s output).isAbsolute = false → ∀ t,
    d.resolve cwd (locationOf s root output f) = .ok t →
      (d.resolve place (locationOf s root output f) = .ok t ↔
        ∃ up, d.resolve place root = .ok (.entry up .directory) ∧
          d.follow up (f.locationIn (outputOf s output)).pieces = .ok t)
  /-- If it does not step back, both find the same just when the root leads back, -/
  leads_iff : (outputOf s output).isAbsolute = false → ".." ∉ (outputOf s output).pieces → ∀ t,
    d.resolve cwd (locationOf s root output f) = .ok t →
      (d.resolve place (locationOf s root output f) = .ok t ↔ LeadsBack d root place)
  /-- also when directories are still to be made. -/
  lands_iff : (outputOf s output).isAbsolute = false → ".." ∉ (outputOf s output).pieces →
    (d.landing? place (locationOf s root output f) = d.landing? cwd (locationOf s root output f) ↔
      d.landing? place root = some place)
  /-- A relative root that does not step back leads back only if it takes no step at all. -/
  relative : root.isAbsolute = false → ".." ∉ root.pieces →
    (LeadsBack d root place ↔ steps root.pieces = []) ∧
      (d.landing? place root = some place ↔ steps root.pieces = [])

/-- The location of a report is taken outside and inside the root. -/
theorem location_taken_twice (s : Settings) (root : Path) (output : Option Path) (f : Format)
    (h : Runner.Harness) (cwd place : Location) (d : Disk)
    (hroot : h.disk.resolve cwd root = .ok (.entry place .directory))
    (hready : (Analyzer.ofSettings s root cwd).prepare f (locationOf s root output f) h.disk =
      (true, d)) :
    LocationTaken s root output f h cwd place d := by
  -- directories are only added, so the root still leads where it led before
  have hgrows := grows_of_prepare hready
  have hroot' : d.resolve cwd root = .ok (.entry place .directory) := by
    obtain ⟨e, he, hentry⟩ := Disk.resolve_of_grows hgrows hroot
    rw [hgrows.directory place (Disk.entry?_of_resolve hroot)] at hentry
    cases hentry
    exact he
  constructor
  case made =>
    intro up hup hne
    exact isDirectory_of_prepare hup hne hready
  case handed =>
    have hlocation : ((output.map root.join).map f.locationIn).getD
        (f.locationIn (Analyzer.ofSettings s root cwd).reportsDirectory) =
          locationOf s root output f := getD_locationOf s root output f
    rw [← hlocation] at hready ⊢
    exact asked_report hready
  case taken =>
    intro process hstart
    obtain ⟨name, place', hfind, hprocess⟩ := Command.find_of_start hstart
    rw [Command.find_of_enter (Command.enter_ok_iff.mpr hroot')] at hfind
    cases hfound : Runner.Program.find (Command.ofSettings s.runner root).program d place with
    | error cause => simp [hfound, Except.map] at hfind
    | ok program =>
      simp only [hfound, Except.map, Except.ok.injEq, Prod.mk.injEq] at hfind
      obtain ⟨rfl, -⟩ := hfind
      exact ⟨name, hprocess⟩
  case absolute =>
    intro habsolute
    have hlocation := isAbsolute_locationOf (f := f) habsolute
    exact ⟨resolve_eq_of_absolute hlocation, landing?_eq_of_absolute hlocation⟩
  case twice_iff =>
    intro houtput t ht
    rw [locationOf_eq_join] at ht ⊢
    have hrelative : (f.locationIn (outputOf s output)).isAbsolute = false := by
      rw [Format.isAbsolute_locationIn, houtput]
    exact Disk.resolve_join_iff (Disk.resolve_ok_iff.mp hroot).1.1 hrelative
      (f.locationIn_moves _) ht
  case leads_iff =>
    intro houtput hup t ht
    exact resolve_locationOf_iff hroot' houtput hup ht
  case lands_iff =>
    intro houtput hup
    exact landing?_locationOf_iff hroot' houtput hup
  case relative =>
    intro hrelative hup
    refine ⟨Command.leadsBack_iff_of_relative hrelative hup hroot', ?_⟩
    have hland := Disk.landing?_of_resolve hroot'
    have hstart (here : Location) : Disk.start here root = here := by
      simp [Disk.start, hrelative]
    rw [Disk.landing?, hstart, Disk.landingFrom?_of_no_up hup]
    simp

def ownDirectory : Runner.Harness where
  source := .script []
  disk := ⟨[(["sub"], .directory)]⟩

def withReports : Disk :=
  ⟨[(["sub"], .directory), (["sub", "storage"], .directory),
    (["sub", "storage", "app"], .directory),
    (["sub", "storage", "app", "laravel-test-accelerator"], .directory)]⟩

theorem prepare_ownDirectory : (Analyzer.ofSettings {} ⟨"sub"⟩ []).prepare .xml
    (locationOf {} ⟨"sub"⟩ none .xml) ownDirectory.disk = (true, withReports) := by
  rfl

theorem location_taken_twice_ownDirectory :
    ownDirectory.disk.resolve [] ⟨"sub"⟩ = .ok (.entry ["sub"] .directory) ∧
      (Analyzer.ofSettings {} ⟨"sub"⟩ []).prepare .xml (locationOf {} ⟨"sub"⟩ none .xml)
        ownDirectory.disk = (true, withReports) ∧
      LocationTaken {} ⟨"sub"⟩ none .xml ownDirectory [] ["sub"] withReports :=
  ⟨rfl, prepare_ownDirectory, location_taken_twice {} ⟨"sub"⟩ none .xml ownDirectory [] ["sub"]
    withReports rfl prepare_ownDirectory⟩

/-- The location that is prepared and announced is not the one that the runner takes. -/
theorem report_misplaced_ownDirectory :
    (Analyzer.ofSettings {} ⟨"sub"⟩ []).prepare .xml (locationOf {} ⟨"sub"⟩ none .xml)
        ownDirectory.disk = (true, withReports) ∧
      ((Analyzer.ofSettings {} ⟨"sub"⟩ []).report .xml none ownDirectory).2.asked =
        [[Format.xml.flag (locationOf {} ⟨"sub"⟩ none .xml), Analyzer.textFlag]] ∧
      withReports.resolve [] (locationOf {} ⟨"sub"⟩ none .xml) = .ok
        (.free ["sub", "storage", "app", "laravel-test-accelerator", "coverage.xml"] false) ∧
      withReports.resolve ["sub"] (locationOf {} ⟨"sub"⟩ none .xml) = .error .missing ∧
      withReports.landing? ["sub"] (locationOf {} ⟨"sub"⟩ none .xml) =
        some ["sub", "sub", "storage", "app", "laravel-test-accelerator", "coverage.xml"] := by
  refine ⟨prepare_ownDirectory, ?_, rfl, rfl, ?_⟩ <;> decide +kernel

end SuiteForge.Coverage
