import SuiteForge.Proofs.Disk.Landing
import SuiteForge.Proofs.Path.Parent
import SuiteForge.Runner.Command

/-!
# Finding the program of a project

The path of a program that belongs to a project begins with the root of the project, and it is
followed once the root has been entered. So the root is followed twice, and the program is the one
that the path leads to from outside just when the root leads from itself back to itself.
-/

namespace SuiteForge.Runner

open SuiteForge.Path (steps)

variable {s : RunnerSettings} {root p : Path} {d : Disk} {cwd place place' l : Location} {e : Entry}
  {binary : String} {c : Command} {flags : List String}

/-! ### Paths to programs -/

/-- A relative path with a directory in it: the program belongs to the project. -/
def Belongs (binary : String) : Prop :=
  (Path.mk binary).isAbsolute = false ∧ 1 < (Path.mk binary).components.length

theorem programPath_of_belongs (h : Belongs binary) :
    programPath binary root = root.join ⟨binary⟩ := by
  simp [programPath, h.1, h.2]

theorem Belongs.moves (h : Belongs binary) : ∃ piece ∈ (Path.mk binary).pieces, piece ≠ "" := by
  obtain ⟨hrelative, hlength⟩ := h
  have hplaced : (Path.mk binary).placed ≠ [] := by
    intro hnil
    simp [Path.components, hrelative, hnil] at hlength
  obtain ⟨⟨i, component⟩, others, hcons⟩ := List.exists_cons_of_ne_nil hplaced
  obtain ⟨piece, hpiece, hcomponent⟩ :=
    Path.piece_of_mem_placed (hcons ▸ List.mem_cons_self : (i, component) ∈ (Path.mk binary).placed)
  refine ⟨piece, List.mem_of_getElem? hpiece, ?_⟩
  rintro rfl
  rw [Path.component?_empty] at hcomponent
  cases hcomponent

/-! ### What a path leads to -/

namespace Program

theorem find_onDisk_iff (hslash : '/' ∈ p.text.toList) : find p d place = .ok (.onDisk l e) ↔
    Shell.Program.nameAt? p.text = none ∧ d.resolve place p = .ok (.entry l e) := by
  have hcontains : p.text.toList.contains '/' = true := by simpa using hslash
  unfold find
  rw [if_pos hcontains]
  cases Shell.Program.nameAt? p.text with
  | some name => simp
  | none =>
    cases d.resolve place p with
    | error cause => simp
    | ok target => cases target <;> simp

theorem find_congr (hslash : '/' ∈ p.text.toList) (h : d.resolve place p = d.resolve place' p) :
    find p d place = find p d place' := by
  have hcontains : p.text.toList.contains '/' = true := by simpa using hslash
  rw [find, find, if_pos hcontains, if_pos hcontains, h]

end Program

/-! ### Running from inside the root -/

namespace Command

theorem enter_ok_iff :
    c.enter d cwd = .ok place ↔ d.resolve cwd c.root = .ok (.entry place .directory) := by
  unfold enter
  cases d.resolve cwd c.root with
  | error cause => simp
  | ok target =>
    cases target with
    | free l slash => simp
    | entry l e => cases e <;> simp

theorem find_of_enter (h : c.enter d cwd = .ok place) :
    c.find d cwd = (Program.find c.program d place).map (place, ·) := by
  simp only [find, h, bind, Except.bind, pure, Except.pure]
  cases Program.find c.program d place <;> rfl

theorem start_of_find_error {cause : Disk.Cause} (hended : c.hasEndedText flags = false)
    (h : c.find d cwd = .error cause) : c.start flags d cwd = .error cause := by
  simp [start, hended, h, bind, Except.bind]

/-- Only a program that has been found is started, and only one of the system's. -/
theorem find_of_start {process : Shell.Process} (h : c.start flags d cwd = .ok process) :
    ∃ name place, c.find d cwd = .ok (place, .ofSystem name) ∧
      process = Shell.Process.run name c.program.text (c.args ++ flags) d place := by
  unfold start at h
  cases hended : c.hasEndedText flags with
  | true => simp [hended, throw, throwThe, MonadExceptOf.throw, bind, Except.bind] at h
  | false =>
    cases hfind : c.find d cwd with
    | error cause => simp [hended, hfind, bind, Except.bind] at h
    | ok found =>
      obtain ⟨place, program⟩ := found
      simp only [hended, hfind, bind, Except.bind, pure, Except.pure] at h
      cases program with
      | onDisk l e => simp [throw, throwThe, MonadExceptOf.throw] at h
      | ofSystem name => exact ⟨name, place, rfl, (Except.ok.inj h).symm⟩

/-! ### Programs of the project -/

/-- A root leads from itself back to itself. -/
def LeadsBack (d : Disk) (root : Path) (place : Location) : Prop :=
  d.resolve place root = .ok (.entry place .directory)

theorem leadsBack_of_absolute (habsolute : root.isAbsolute = true)
    (h : d.resolve cwd root = .ok (.entry place .directory)) : LeadsBack d root place := by
  unfold LeadsBack
  simpa [Disk.resolve, habsolute] using h

/-- Without steps back a relative root leads back only if it takes no step at all. -/
theorem leadsBack_iff_of_relative (hrelative : root.isAbsolute = false)
    (hup : ".." ∉ root.pieces) (h : d.resolve cwd root = .ok (.entry place .directory)) :
    LeadsBack d root place ↔ steps root.pieces = [] := by
  have hland {here l : Location} (h : d.resolve here root = .ok (.entry l .directory)) :
      l = here ++ steps root.pieces := by
    have hfollow := (Disk.resolve_ok_iff.mp h).2
    rw [Disk.start, hrelative] at hfollow
    have hlands := Disk.landingFrom?_of_follow hfollow
    rw [Disk.landingFrom?_of_no_up hup] at hlands
    exact (Option.some.inj hlands).symm
  constructor
  · intro hback
    exact List.append_right_eq_self.mp (hland hback).symm
  · intro hsteps
    have hplace := hland h
    rw [hsteps, List.append_nil] at hplace
    subst hplace
    exact h

/-- Which program is found for a project whose root leads to a place. -/
structure Finds (s : RunnerSettings) (root : Path) (d : Disk) (cwd place : Location) : Prop where
  /-- The path below the root is followed from inside the root. -/
  inside : (ofSettings s root).find d cwd =
    (Program.find (root.join ⟨s.binary⟩) d place).map (place, ·)
  /-- It leads where it leads from outside, if the root leads back. -/
  outside : LeadsBack d root place →
    Program.find (root.join ⟨s.binary⟩) d place = Program.find (root.join ⟨s.binary⟩) d cwd
  /-- A program that is there from outside is found just when its path leads to it from where the
  root leads when it is followed twice. -/
  twice_iff : ∀ l e, Program.find (root.join ⟨s.binary⟩) d cwd = .ok (.onDisk l e) →
    (Program.find (root.join ⟨s.binary⟩) d place = .ok (.onDisk l e) ↔
      ∃ up, d.resolve place root = .ok (.entry up .directory) ∧
        d.follow up (Path.mk s.binary).pieces = .ok (.entry l e))
  /-- If its path does not step back, it is found only when the root leads back. -/
  outside_iff : ".." ∉ (Path.mk s.binary).pieces → ∀ l e,
    Program.find (root.join ⟨s.binary⟩) d cwd = .ok (.onDisk l e) →
      (Program.find (root.join ⟨s.binary⟩) d place = .ok (.onDisk l e) ↔ LeadsBack d root place)
  /-- An absolute root leads back. -/
  absolute : root.isAbsolute = true → LeadsBack d root place
  /-- A relative one that does not step back does so only if it takes no step at all. -/
  relative : root.isAbsolute = false → ".." ∉ root.pieces →
    (LeadsBack d root place ↔ steps root.pieces = [])
  /-- Whatever is started has been found so. -/
  started : ∀ flags process, (ofSettings s root).start flags d cwd = .ok process →
    ∃ name, Program.find (root.join ⟨s.binary⟩) d place = .ok (.ofSystem name) ∧
      process = Shell.Process.run name (root.join ⟨s.binary⟩).text (s.args ++ flags) d place

/-- The program of a project is looked for with its root followed twice. -/
theorem finds_program (s : RunnerSettings) (root : Path) (d : Disk) (cwd place : Location)
    (hbelongs : Belongs s.binary) (hroot : d.resolve cwd root = .ok (.entry place .directory)) :
    Finds s root d cwd place := by
  have hprogram : (ofSettings s root).program = root.join ⟨s.binary⟩ :=
    programPath_of_belongs hbelongs
  have hinside : (ofSettings s root).find d cwd =
      (Program.find (root.join ⟨s.binary⟩) d place).map (place, ·) := by
    rw [← hprogram]
    exact find_of_enter (enter_ok_iff.mpr hroot)
  have htext : root.text ≠ "" := (Disk.resolve_ok_iff.mp hroot).1.1
  have hslash := Path.slash_mem_join htext hbelongs.1
  have houtside (hback : LeadsBack d root place) :
      Program.find (root.join ⟨s.binary⟩) d place = Program.find (root.join ⟨s.binary⟩) d cwd :=
    Program.find_congr hslash (Disk.resolve_join_congr hbelongs.1 hback hroot)
  have htwice (l : Location) (e : Entry)
      (hthere : Program.find (root.join ⟨s.binary⟩) d cwd = .ok (.onDisk l e)) :
      Program.find (root.join ⟨s.binary⟩) d place = .ok (.onDisk l e) ↔
        ∃ up, d.resolve place root = .ok (.entry up .directory) ∧
          d.follow up (Path.mk s.binary).pieces = .ok (.entry l e) := by
    obtain ⟨hname, hout⟩ := (Program.find_onDisk_iff hslash).mp hthere
    rw [Program.find_onDisk_iff hslash, and_iff_right hname]
    exact Disk.resolve_join_iff htext hbelongs.1 hbelongs.moves hout
  constructor
  case inside => exact hinside
  case outside => exact houtside
  case twice_iff => exact htwice
  case outside_iff =>
    intro hup l e hthere
    obtain ⟨hname, hout⟩ := (Program.find_onDisk_iff hslash).mp hthere
    rw [Program.find_onDisk_iff hslash, and_iff_right hname]
    exact Disk.resolve_join_iff_of_no_up hbelongs.1 hbelongs.moves hup hroot hout
  case absolute =>
    intro habsolute
    exact leadsBack_of_absolute habsolute hroot
  case relative =>
    intro hrelative hup
    exact leadsBack_iff_of_relative hrelative hup hroot
  case started =>
    intro flags process hstart
    obtain ⟨name, place', hfind, hprocess⟩ := find_of_start hstart
    rw [hinside] at hfind
    cases hfound : Program.find (root.join ⟨s.binary⟩) d place with
    | error cause => simp [hfound, Except.map] at hfind
    | ok program =>
      simp only [hfound, Except.map, Except.ok.injEq, Prod.mk.injEq] at hfind
      obtain ⟨rfl, rfl⟩ := hfind
      rw [hprogram] at hprocess
      exact ⟨name, rfl, hprocess⟩

/-- A project in a directory of its own, with the program that runs its tests. -/
def inSub : Disk :=
  ⟨[(["sub"], .directory), (["sub", "vendor"], .directory), (["sub", "vendor", "bin"], .directory),
    (["sub", "vendor", "bin", "pest"], .file "#!/bin/sh\necho hi\n".toUTF8)]⟩

theorem find_inSub : Program.find (Path.join ⟨"sub"⟩ ⟨"vendor/bin/pest"⟩) inSub [] =
    .ok (.onDisk ["sub", "vendor", "bin", "pest"] (.file "#!/bin/sh\necho hi\n".toUTF8)) := by
  rfl

theorem enter_inSub : inSub.resolve [] ⟨"sub"⟩ = .ok (.entry ["sub"] .directory) :=
  rfl

/-- It is not found, since the root does not lead back. -/
theorem finds_program_inSub : Belongs ({} : RunnerSettings).binary ∧
    inSub.resolve [] ⟨"sub"⟩ = .ok (.entry ["sub"] .directory) ∧
    (Program.find (Path.join ⟨"sub"⟩ ⟨"vendor/bin/pest"⟩) inSub ["sub"] =
      .ok (.onDisk ["sub", "vendor", "bin", "pest"] (.file "#!/bin/sh\necho hi\n".toUTF8)) ↔
        LeadsBack inSub ⟨"sub"⟩ ["sub"]) ∧
    ¬ LeadsBack inSub ⟨"sub"⟩ ["sub"] := by
  have hbelongs : Belongs ({} : RunnerSettings).binary := by
    constructor <;> decide +kernel
  have hfinds := finds_program {} ⟨"sub"⟩ inSub [] ["sub"] hbelongs enter_inSub
  refine ⟨hbelongs, enter_inSub, hfinds.outside_iff (by decide +kernel) _ _ find_inSub, ?_⟩
  rw [hfinds.relative (by decide +kernel) (by decide +kernel)]
  decide +kernel

/-- The file that the path denotes from outside is there, and nothing is found. -/
theorem misses_program_inSub : Belongs ({} : RunnerSettings).binary ∧
    inSub.resolve [] ⟨"sub"⟩ = .ok (.entry ["sub"] .directory) ∧
    Program.find (Path.join ⟨"sub"⟩ ⟨"vendor/bin/pest"⟩) inSub [] =
      .ok (.onDisk ["sub", "vendor", "bin", "pest"] (.file "#!/bin/sh\necho hi\n".toUTF8)) ∧
    (ofSettings {} ⟨"sub"⟩).find inSub [] = .error .missing ∧
    (ofSettings {} ⟨"sub"⟩).start [] inSub [] = .error .missing := by
  have hmissing : (ofSettings {} ⟨"sub"⟩).find inSub [] = .error .missing := by rfl
  have hended : (ofSettings {} ⟨"sub"⟩).hasEndedText [] = false := by decide +kernel
  have hbelongs : Belongs ({} : RunnerSettings).binary := by
    constructor <;> decide +kernel
  exact ⟨hbelongs, enter_inSub, find_inSub, hmissing, start_of_find_error hended hmissing⟩

end Command
end SuiteForge.Runner
