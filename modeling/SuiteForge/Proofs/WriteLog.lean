import SuiteForge.Proofs.Disk.Changing
import SuiteForge.TestFile

/-!
# One write of a test file

What a write that goes through has found, made and left behind, and that a write that fails changes
no file. Everything that the generators do to a disk is made of such writes.
-/

namespace SuiteForge.WriteLog

open Disk (Grows MadeDirectories Widens)

variable {log log' : WriteLog} {d d' : Disk} {cwd : Location} {p : Path} {text : String}
  {force : Bool} {e : Error}

/-! ### Free paths -/

theorem contains_iff : log.contains p = true ↔ ∃ q ∈ log.paths, p.same q = true := by
  simp [contains]

theorem contains_of_same {q : Path} (h : p.same q = true) (hp : log.contains p = true) :
    log.contains q = true := by
  obtain ⟨r, hr, hsame⟩ := contains_iff.mp hp
  exact contains_iff.mpr ⟨r, hr, Path.same_trans (Path.same_symm h) hsame⟩

theorem ensureFree_ok_iff : log.ensureFree d cwd p force = .ok () ↔
    log.contains p = false ∧ (force = true ∨ d.isThere cwd p = false) := by
  unfold ensureFree
  cases hlog : log.contains p <;> cases hthere : d.isThere cwd p <;> cases force <;> simp

theorem ensureFree_error_iff : log.ensureFree d cwd p force = .error e ↔
    e = .destinationExists p ∧
      (log.contains p = true ∨ d.isThere cwd p = true ∧ force = false) := by
  unfold ensureFree
  cases hlog : log.contains p <;> cases hthere : d.isThere cwd p <;> cases force <;>
    simp [eq_comm]

theorem sorted_perm (log : WriteLog) : log.sorted.Perm log.paths := List.mergeSort_perm _ _

/-- A path that has been written is refused, on every disk. -/
theorem ensureFree_of_contains (h : log.contains p = true) :
    log.ensureFree d cwd p force = .error (.destinationExists p) := by
  simp [ensureFree, h]

theorem write_of_contains (h : log.contains p = true) :
    log.write d cwd p text force = (.error (.destinationExists p), d) := by
  simp [write, ensureFree_of_contains h]

/-! ### Parents -/

/-- At most the directory above a path is made, with the ones above that. -/
theorem makeParent_cases (d : Disk) (cwd : Location) (p : Path) :
    (makeParent d cwd p).2 = d ∨
      ∃ up, p.parent? = some up ∧ (makeParent d cwd p).2 = (d.makeDirectories cwd up).2 := by
  unfold makeParent
  split
  · exact Or.inl rfl
  · rename_i up hup
    split
    · exact Or.inl rfl
    · refine Or.inr ⟨up, hup, ?_⟩
      split <;> simp_all

theorem makeParent_widens (d : Disk) (cwd : Location) (p : Path) :
    Widens d (makeParent d cwd p).2 := by
  rcases makeParent_cases d cwd p with h | ⟨up, -, h⟩
  · rw [h]
    exact .refl d
  · rw [h]
    exact d.makeDirectories_widens cwd up

/-! ### Writing -/

/-- The disk on which a path is written, with the directories above the path. -/
def ground (d : Disk) (cwd : Location) (p : Path) : Disk := (makeParent d cwd p).2

/-- The directories that are new lie on the way to where the path lands. -/
theorem prefix_of_ground (htree : d.IsTree) {l m : Location} (hp : d.landing? cwd p = some l)
    (hm : d.entry? m = none) (hnew : Disk.entry? (ground d cwd p) m ≠ none) : m <+: l := by
  unfold ground at hnew
  rcases makeParent_cases d cwd p with h | ⟨up, hup, h⟩
  · rw [h] at hnew
    exact absurd hm hnew
  · rw [h] at hnew
    obtain ⟨l', rest, hl', hrest⟩ := Disk.landing?_parent hup hp
    exact Disk.prefix_of_new htree hm
      (Disk.makeDirectoriesFrom_prefix htree _ up hl' hm hnew) hrest

/-- The directories that are new are where paths above lead. -/
theorem ground_new {m : Location} (hm : d.entry? m = none)
    (hnew : Disk.entry? (ground d cwd p) m ≠ none) :
    ∃ up, Path.Above up p ∧
      Disk.resolve (ground d cwd p) cwd up = .ok (.entry m .directory) := by
  unfold ground at hnew ⊢
  rcases makeParent_cases d cwd p with h | ⟨up, hup, h⟩
  · rw [h] at hnew
    exact absurd hm hnew
  · rw [h] at hnew ⊢
    obtain ⟨q, hq, hleads⟩ := Disk.makeDirectoriesFrom_new _ up hm hnew
    rcases hq with rfl | hq
    · exact ⟨q, .parent hup, hleads⟩
    · exact ⟨q, .higher hup hq, hleads⟩

/-- A write that goes through: the path was free, led to a file or a free place once its directories
were made, and the text was put there. -/
structure Wrote (log : WriteLog) (d : Disk) (cwd : Location) (p : Path) (text : String)
    (force : Bool) (place : Location) (log' : WriteLog) (d' : Disk) : Prop where
  free : log.ensureFree d cwd p force = .ok ()
  leads : (∃ c, (ground d cwd p).resolve cwd p = .ok (.entry place (.file c))) ∨
    (ground d cwd p).resolve cwd p = .ok (.free place false)
  log_eq : log'.paths = p :: log.paths
  disk_eq : d' = (ground d cwd p).put place (.file text.toUTF8)

/-- A write goes through, or fails, at the latest when its directories have been made. -/
theorem write_cases (log : WriteLog) (d : Disk) (cwd : Location) (p : Path) (text : String)
    (force : Bool) :
    (∃ e, (log.write d cwd p text force).1 = .error e ∧
        ((log.write d cwd p text force).2 = d ∨
          (log.write d cwd p text force).2 = ground d cwd p)) ∨
      ∃ log' place, (log.write d cwd p text force).1 = .ok log' ∧
        Wrote log d cwd p text force place log' (log.write d cwd p text force).2 := by
  unfold write
  split
  · exact Or.inl ⟨_, rfl, Or.inl rfl⟩
  · rename_i hfree
    split
    · rename_i e d₁ hparent
      have hd₁ : ground d cwd p = d₁ := by rw [ground, hparent]
      exact Or.inl ⟨e, rfl, Or.inr hd₁.symm⟩
    · rename_i d₁ hparent
      have hd₁ : ground d cwd p = d₁ := by rw [ground, hparent]
      split
      · exact Or.inl ⟨_, rfl, Or.inr hd₁.symm⟩
      · rename_i d' hwrite
        obtain ⟨place, hleads, rfl⟩ := Disk.write_ok hwrite
        exact Or.inr ⟨_, place, rfl, hfree, by rwa [hd₁], rfl, by rw [hd₁]⟩

theorem disk_of_write_error (h : log.write d cwd p text force = (.error e, d')) :
    d' = d ∨ d' = ground d cwd p := by
  rcases write_cases log d cwd p text force with ⟨_, -, hdisk⟩ | ⟨_, _, hok, -⟩
  · rwa [h] at hdisk
  · simp [h] at hok

/-- A write that fails makes directories at most. -/
theorem widens_of_write_error (h : log.write d cwd p text force = (.error e, d')) :
    Widens d d' := by
  rcases disk_of_write_error h with rfl | rfl
  · exact .refl d'
  · exact makeParent_widens d cwd p

/-- The directories that are new after a write that fails are where paths above its path lead. -/
theorem above_of_write_error (h : log.write d cwd p text force = (.error e, d')) {m : Location}
    (hm : d.entry? m = none) (hnew : d'.entry? m ≠ none) :
    ∃ up, Path.Above up p ∧ d'.resolve cwd up = .ok (.entry m .directory) := by
  rcases disk_of_write_error h with rfl | rfl
  · exact absurd hm hnew
  · exact ground_new hm hnew

/-- What is at a place is what was there, or a directory that is new and that a path above `p` leads
to. -/
def KeptOrAbove (cwd : Location) (p : Path) (d d' : Disk) (l : Location) : Prop :=
  d'.entry? l = d.entry? l ∨
    d.entry? l = none ∧ ∃ up, Path.Above up p ∧ d'.resolve cwd up = .ok (.entry l .directory)

theorem KeptOrAbove.file_iff {l : Location} (h : KeptOrAbove cwd p d d' l) (c : ByteArray) :
    d'.entry? l = some (.file c) ↔ d.entry? l = some (.file c) := by
  rcases h with hkept | ⟨hfree, up, -, hleads⟩
  · rw [hkept]
  · simp [hfree, Disk.entry?_of_resolve hleads]

theorem keptOrAbove_of_write_error (h : log.write d cwd p text force = (.error e, d'))
    (l : Location) : KeptOrAbove cwd p d d' l := by
  rcases (widens_of_write_error h).made l with hkept | ⟨hfree, hmade⟩
  · exact Or.inl hkept
  · exact Or.inr ⟨hfree, above_of_write_error h hfree (by simp [hmade])⟩

theorem wrote_of_write_ok (h : log.write d cwd p text force = (.ok log', d')) :
    ∃ place, Wrote log d cwd p text force place log' d' := by
  rcases write_cases log d cwd p text force with ⟨_, herror, -⟩ | ⟨_, place, hok, hwrote⟩
  · simp [h] at herror
  · rw [h] at hok hwrote
    cases hok
    exact ⟨place, hwrote⟩

/-- The disk takes a text at a path: the directories above can be made, and the file written. -/
def Fits (d : Disk) (cwd : Location) (p : Path) (text : String) : Prop :=
  (makeParent d cwd p).1 = .ok () ∧ ∃ d', (ground d cwd p).write cwd p text.toUTF8 = .ok d'

/-- A write goes through just when the path is free and the disk takes the text there. -/
theorem write_ok_iff : (∃ log' d', log.write d cwd p text force = (.ok log', d')) ↔
    log.ensureFree d cwd p force = .ok () ∧ Fits d cwd p text := by
  unfold write Fits ground
  generalize text.toUTF8 = content
  split
  · rename_i hfree
    simp [hfree]
  · rename_i hfree
    split
    · rename_i hparent
      simp [hparent]
    · rename_i d₁ hparent
      split
      · rename_i hwrite
        simp [hparent, hwrite]
      · rename_i hwrite
        simp [hfree, hparent, hwrite]

namespace Wrote

variable {place l : Location}

theorem not_logged (h : Wrote log d cwd p text force place log' d') : log.contains p = false :=
  (ensureFree_ok_iff.mp h.free).1

/-- Without force nothing was found at the path. -/
theorem not_there (h : Wrote log d cwd p text false place log' d') : d.isThere cwd p = false := by
  simpa using (ensureFree_ok_iff.mp h.free).2

theorem made (_ : Wrote log d cwd p text force place log' d') :
    MadeDirectories d (ground d cwd p) :=
  (makeParent_widens d cwd p).made

theorem resolves (h : Wrote log d cwd p text force place log' d') :
    ∃ t, (ground d cwd p).resolve cwd p = .ok t ∧ t.place = place := by
  rcases h.leads with ⟨c, hleads⟩ | hleads
  · exact ⟨_, hleads, rfl⟩
  · exact ⟨_, hleads, rfl⟩

theorem place_ne_nil (h : Wrote log d cwd p text force place log' d') : place ≠ [] :=
  Disk.place_ne_nil_of_leads h.leads

theorem entry?_place (h : Wrote log d cwd p text force place log' d') :
    d'.entry? place = some (.file text.toUTF8) := by
  rw [h.disk_eq, Disk.entry?_put_self h.place_ne_nil]

theorem entry?_of_ne (h : Wrote log d cwd p text force place log' d') (hl : l ≠ place) :
    d'.entry? l = Disk.entry? (ground d cwd p) l := by
  rw [h.disk_eq, Disk.entry?_put_ne h.place_ne_nil hl]

/-- Files elsewhere are not touched. -/
theorem file_iff (h : Wrote log d cwd p text force place log' d') (hl : l ≠ place)
    (c : ByteArray) : d'.entry? l = some (.file c) ↔ d.entry? l = some (.file c) := by
  rw [h.entry?_of_ne hl, h.made.file_iff]

theorem grows_ground (h : Wrote log d cwd p text force place log' d') :
    Grows (ground d cwd p) d' := by
  rw [h.disk_eq]
  exact Disk.grows_of_leads h.leads _

theorem grows (h : Wrote log d cwd p text force place log' d') : Grows d d' :=
  h.made.grows.trans h.grows_ground

/-- Where a write goes there was nothing, or a file. -/
theorem free_or_file (h : Wrote log d cwd p text force place log' d') :
    d.entry? place = none ∨ ∃ c, d.entry? place = some (.file c) := by
  rcases h.leads with ⟨c, hleads⟩ | hleads
  · exact Or.inr ⟨c, (h.made.file_iff c).mp (Disk.entry?_of_resolve hleads)⟩
  · have hfree := (Disk.free_of_resolve hleads).2
    rcases h.made place with hkept | ⟨hold, -⟩
    · exact Or.inl (hkept ▸ hfree)
    · exact Or.inl hold

theorem keptOrAbove (h : Wrote log d cwd p text force place log' d') (hl : l ≠ place) :
    KeptOrAbove cwd p d d' l := by
  rw [KeptOrAbove, h.entry?_of_ne hl]
  rcases h.made l with hkept | ⟨hfree, hmade⟩
  · exact Or.inl hkept
  · have hnew : Disk.entry? (ground d cwd p) l ≠ none := by simp [hmade]
    obtain ⟨up, habove, hleads⟩ := ground_new hfree hnew
    -- the path above leads to the directory still when the file is there
    obtain ⟨e, hresolve, hentry⟩ := Disk.resolve_of_grows h.grows_ground hleads
    rw [h.entry?_of_ne hl, hmade] at hentry
    cases hentry
    exact Or.inr ⟨hfree, up, habove, hresolve⟩

/-- The path leads to the text now. -/
theorem resolve_eq (h : Wrote log d cwd p text force place log' d') :
    d'.resolve cwd p = .ok (.entry place (.file text.toUTF8)) := by
  rw [h.disk_eq]
  exact Disk.resolve_of_leads h.leads _

theorem isTree (h : Wrote log d cwd p text force place log' d') (htree : d.IsTree) :
    d'.IsTree := by
  have hground : (ground d cwd p).IsTree := (makeParent_widens d cwd p).tree htree
  rw [h.disk_eq]
  rcases h.leads with ⟨c, hleads⟩ | hleads
  · have hentry := Disk.entry?_of_resolve hleads
    rw [← List.dropLast_concat_getLast h.place_ne_nil] at hentry ⊢
    obtain ⟨hname, hup⟩ := hground.of_entry? hentry
    exact hground.put hup hname (by simp [hentry])
  · exact hground.put_free hleads _

end Wrote

end SuiteForge.WriteLog
