import SuiteForge.Proofs.Disk.Following
import SuiteForge.Proofs.Path.Pieces

/-!
# Where a path will lead

Only some pieces of a path lead somewhere else; repeated slashes and dots stay where they are. From
these pieces it is known beforehand where a path leads once the directories that are missing on its
way have been made, as long as it does not step back out of a directory that is not there.
-/

namespace SuiteForge.Disk

open SuiteForge.Path (steps steps_stay steps_move)

variable {d d' : Disk} {here l m : Location} {e : Entry} {piece : String}
  {rest pieces pieces' : List String}

/-! ### Steps -/

theorem follow_steps (h : d.follow here pieces = .ok (.entry l e)) :
    d.follow here (steps pieces) = .ok (.entry l e) := by
  rw [← leads_iff] at h ⊢
  generalize ht : Target.entry l e = t at h ⊢
  induction h with
  | entry hhere => exact .entry hhere
  | stay _ hpiece _ ih =>
    rw [steps_stay hpiece]
    exact ih ht
  | up hhere _ ih =>
    rw [steps_move (by simp)]
    exact .up hhere (ih ht)
  | name hhere hnames hsome _ ih =>
    rw [steps_move (by simp [hnames.1])]
    exact .name hhere hnames hsome (ih ht)
  | free => cases ht

/-- The other pieces matter only behind a file. -/
theorem follow_of_steps (h : d.follow here (steps pieces) = .ok (.entry l e)) :
    d.follow here pieces = .ok (.entry l e) ∨ d.follow here pieces = .error .notDirectory := by
  induction pieces generalizing here with
  | nil => exact Or.inl h
  | cons piece rest ih =>
    by_cases hpiece : piece = "" ∨ piece = "."
    · rw [steps_stay hpiece] at h
      have hsome : (d.entry? here).isSome := by
        cases hhere : d.entry? here with
        | some found => rfl
        | none =>
          cases hrest : steps rest with
          | nil => simp [hrest, follow_nil_free hhere] at h
          | cons next others =>
            rw [hrest, follow_cons_of_ne (by simp [hhere])] at h
            cases h
      obtain ⟨found, hfound⟩ := Option.isSome_iff_exists.mp hsome
      cases found with
      | file c =>
        rw [follow_cons_of_ne (by simp [hfound]), hfound]
        exact Or.inr rfl
      | directory =>
        rw [follow_stay hfound hpiece]
        exact ih h
    · rw [steps_move hpiece, ← leads_iff] at h
      cases h with
      | stay _ hstay => exact absurd hstay hpiece
      | up hhere h =>
        rw [follow_up hhere]
        exact ih (leads_iff.mp h)
      | name hhere hnames hsome h =>
        rw [follow_name hhere hnames, if_pos hsome]
        exact ih (leads_iff.mp h)

/-- Two ways to write the same steps lead to the same entry, if both lead anywhere at all on some
larger disk. -/
theorem follow_of_same_steps (hsteps : steps pieces = steps pieces') (hgrows : Grows d d')
    (h : d.follow here pieces = .ok (.entry l e)) {t : Target}
    (h' : d'.follow here pieces' = .ok t) : d.follow here pieces' = .ok (.entry l e) := by
  -- both are followed by their steps, where nothing tells them apart
  have hfollow := follow_steps h
  rw [hsteps] at hfollow
  rcases follow_of_steps hfollow with hentry | hrefused
  · exact hentry
  · rw [follow_notDirectory_of_grows hgrows hrefused] at h'
    cases h'

/-! ### Landing -/

/-- Where a path leads once the directories that are missing on its way have been made; nothing if
it steps back out of what is no directory. -/
def landingFrom? (d : Disk) : Location → List String → Option Location
  | here, [] => some here
  | here, piece :: rest =>
    if piece = "" ∨ piece = "." then landingFrom? d here rest
    else if piece = ".." then
      if d.entry? here = some .directory then landingFrom? d here.dropLast rest else none
    else landingFrom? d (here ++ [piece]) rest

theorem landingFrom?_nil (here : Location) : d.landingFrom? here [] = some here := rfl

theorem landingFrom?_stay (hpiece : piece = "" ∨ piece = ".") :
    d.landingFrom? here (piece :: rest) = d.landingFrom? here rest :=
  if_pos hpiece

theorem landingFrom?_up : d.landingFrom? here (".." :: rest) =
    if d.entry? here = some .directory then d.landingFrom? here.dropLast rest else none := rfl

theorem landingFrom?_name (hmoves : piece ≠ "" ∧ piece ≠ "." ∧ piece ≠ "..") :
    d.landingFrom? here (piece :: rest) = d.landingFrom? (here ++ [piece]) rest :=
  (if_neg (not_or.mpr ⟨hmoves.1, hmoves.2.1⟩)).trans (if_neg hmoves.2.2)

theorem landingFrom?_append (here : Location) (pieces pieces' : List String) :
    d.landingFrom? here (pieces ++ pieces') =
      (d.landingFrom? here pieces).bind fun there => d.landingFrom? there pieces' := by
  induction pieces generalizing here with
  | nil => rfl
  | cons piece rest ih =>
    rw [List.cons_append]
    rcases step_cases piece with hstay | rfl | hmoves
    · rw [landingFrom?_stay hstay, landingFrom?_stay hstay, ih]
    · rw [landingFrom?_up, landingFrom?_up, ih]
      split <;> rfl
    · rw [landingFrom?_name hmoves, landingFrom?_name hmoves, ih]

theorem landingFrom?_steps (here : Location) (pieces : List String) :
    d.landingFrom? here (steps pieces) = d.landingFrom? here pieces := by
  induction pieces generalizing here with
  | nil => rfl
  | cons piece rest ih =>
    rcases step_cases piece with hstay | rfl | hmoves
    · rw [steps_stay hstay, landingFrom?_stay hstay, ih]
    · rw [steps_move (by simp), landingFrom?_up, landingFrom?_up, ih]
    · rw [steps_move (by simp [hmoves]), landingFrom?_name hmoves, landingFrom?_name hmoves, ih]

/-- A landing place stays the same while the disk grows. -/
theorem landingFrom?_of_grows (hgrows : Grows d d') (h : d.landingFrom? here pieces = some l) :
    d'.landingFrom? here pieces = some l := by
  induction pieces generalizing here with
  | nil => exact h
  | cons piece rest ih =>
    rcases step_cases piece with hstay | rfl | hmoves
    · rw [landingFrom?_stay hstay] at h ⊢
      exact ih h
    · rw [landingFrom?_up] at h ⊢
      split at h
      · rename_i hhere
        rw [if_pos (hgrows.directory _ hhere)]
        exact ih h
      · cases h
    · rw [landingFrom?_name hmoves] at h ⊢
      exact ih h

/-- A path that leads somewhere lands there. -/
theorem landingFrom?_of_follow {t : Target} (h : d.follow here pieces = .ok t) :
    d.landingFrom? here pieces = some t.place := by
  rw [← leads_iff] at h
  induction h with
  | entry => rfl
  | stay _ hpiece _ ih => rwa [landingFrom?_stay hpiece]
  | up hhere _ ih => rwa [landingFrom?_up, if_pos hhere]
  | name _ hnames _ _ ih => rwa [landingFrom?_name hnames.1]
  | @free here piece rest _ hnames _ hall =>
    have hsteps : steps rest = [] := by
      simp only [List.all_eq_true, decide_eq_true_eq] at hall
      simp only [steps, List.filter_eq_nil_iff]
      intro x hx
      simp [hall x hx]
    rw [landingFrom?_name hnames.1, ← landingFrom?_steps, hsteps]
    rfl

/-- Without steps back a path lands below where it starts. -/
theorem landingFrom?_of_no_up (hup : ".." ∉ pieces) :
    d.landingFrom? here pieces = some (here ++ steps pieces) := by
  induction pieces generalizing here with
  | nil => simp [steps, landingFrom?_nil]
  | cons piece rest ih =>
    have hrest := List.not_mem_of_not_mem_cons hup
    rcases step_cases piece with hstay | rfl | hmoves
    · rw [landingFrom?_stay hstay, steps_stay hstay]
      exact ih hrest
    · exact absurd List.mem_cons_self hup
    · rw [landingFrom?_name hmoves, steps_move (by simp [hmoves]), ih hrest, List.append_assoc,
        List.singleton_append]

/-! ### Landing places on trees -/

/-- From a place that is not there a path can only go further in. -/
theorem prefix_landing (htree : d.IsTree) (hfree : d.entry? here = none)
    (h : d.landingFrom? here pieces = some l) : here <+: l := by
  induction pieces generalizing here with
  | nil => exact Option.some.inj h ▸ List.prefix_refl here
  | cons piece rest ih =>
    rcases step_cases piece with hstay | rfl | hmoves
    · rw [landingFrom?_stay hstay] at h
      exact ih hfree h
    · rw [landingFrom?_up, hfree, if_neg (by simp)] at h
      cases h
    · rw [landingFrom?_name hmoves] at h
      exact (List.prefix_append here [piece]).trans (ih (htree.free_append hfree [piece]) h)

theorem not_there_of_landing (htree : d.IsTree) (hfree : d.entry? here = none)
    (h : d.landingFrom? here pieces = some l) : d.entry? l = none := by
  obtain ⟨rest, rfl⟩ := prefix_landing htree hfree h
  exact htree.free_append hfree rest

/-- What is at the landing place is found there. -/
theorem follow_steps_of_landing (htree : d.IsTree) (h : d.landingFrom? here pieces = some l)
    (hfound : d.entry? l = some e) : d.follow here (steps pieces) = .ok (.entry l e) := by
  induction pieces generalizing here with
  | nil =>
    obtain rfl := Option.some.inj h
    exact follow_nil_entry hfound
  | cons piece rest ih =>
    rcases step_cases piece with hstay | rfl | hmoves
    · rw [landingFrom?_stay hstay] at h
      rw [steps_stay hstay]
      exact ih h
    · rw [landingFrom?_up] at h
      split at h
      · rename_i hhere
        rw [steps_move (by simp), follow_up hhere]
        exact ih h
      · cases h
    · rw [landingFrom?_name hmoves] at h
      -- below what is not there nothing could be found at the landing place
      have hsome : (d.entry? (here ++ [piece])).isSome := by
        cases hinside : d.entry? (here ++ [piece]) with
        | some found => rfl
        | none => simp [not_there_of_landing htree hinside h] at hfound
      obtain ⟨found, hinside⟩ := Option.isSome_iff_exists.mp hsome
      obtain ⟨hname, hhere⟩ := htree.of_entry? hinside
      rw [steps_move (by simp [hmoves]), follow_name hhere hname.names, if_pos hsome]
      exact ih h

/-- What a path finds on a larger disk it found before, if it was at the landing place then. -/
theorem follow_of_landing (htree : d.IsTree) (hgrows : Grows d d')
    (h : d.landingFrom? here pieces = some l) (hfound : d.entry? l = some e) {t : Target}
    (h' : d'.follow here pieces = .ok t) : d.follow here pieces = .ok (.entry l e) := by
  rcases follow_of_steps (follow_steps_of_landing htree h hfound) with hentry | hrefused
  · exact hentry
  · rw [follow_notDirectory_of_grows hgrows hrefused] at h'
    cases h'

/-! ### Whole paths -/

variable {cwd : Location} {p q : Path} {t : Target}

/-- Where a path lands from a working directory. -/
def landing? (d : Disk) (cwd : Location) (p : Path) : Option Location :=
  d.landingFrom? (start cwd p) p.pieces

theorem resolve_of_grows (hgrows : Grows d d') (h : d.resolve cwd p = .ok (.entry l e)) :
    ∃ e', d'.resolve cwd p = .ok (.entry l e') ∧ d'.entry? l = some e' := by
  obtain ⟨htakes, hfollow⟩ := resolve_ok_iff.mp h
  obtain ⟨e', he'⟩ := follow_of_grows hgrows hfollow
  exact ⟨e', resolve_ok_iff.mpr ⟨htakes, he'⟩, entry?_of_follow he'⟩

theorem entry?_of_resolve (h : d.resolve cwd p = .ok (.entry l e)) : d.entry? l = some e :=
  entry?_of_follow (resolve_ok_iff.mp h).2

theorem landing?_of_resolve (h : d.resolve cwd p = .ok t) : d.landing? cwd p = some t.place :=
  landingFrom?_of_follow (resolve_ok_iff.mp h).2

theorem landing?_of_grows (hgrows : Grows d d') (h : d.landing? cwd p = some l) :
    d'.landing? cwd p = some l :=
  landingFrom?_of_grows hgrows h

theorem start_eq_of_same (h : p.same q = true) : start cwd p = start cwd q := by
  rw [start, start, Path.isAbsolute_eq_of_same h]

theorem start_join (hq : q.isAbsolute = false) : start cwd (p.join q) = start cwd p := by
  rw [start, start, Path.isAbsolute_join hq]

/-- A joined path goes on from where its first part lands. -/
theorem landing?_join (hq : q.isAbsolute = false) :
    d.landing? cwd (p.join q) =
      (d.landing? cwd p).bind fun l => d.landingFrom? l q.pieces := by
  rw [landing?, start_join hq, ← landingFrom?_steps, Path.steps_join hq, landingFrom?_append,
    landingFrom?_steps]
  simp only [landingFrom?_steps]
  rfl

theorem landing?_join_name {name : String} (hslash : '/' ∉ name.toList)
    (hname : name ≠ "" ∧ name ≠ "." ∧ name ≠ "..") :
    d.landing? cwd (p.join ⟨name⟩) = (d.landing? cwd p).map (· ++ [name]) := by
  rw [landing?_join (Path.isAbsolute_name hslash), Path.pieces_name hslash]
  cases d.landing? cwd p with
  | none => rfl
  | some l => simp [landingFrom?_name hname, landingFrom?_nil]

/-! ### Joined paths -/

theorem takes_of_join (hp : p.text ≠ "") (hq : q.isAbsolute = false) (h : Takes (p.join q)) :
    Takes p := by
  obtain ⟨-, hsize, hended⟩ := h
  rcases Path.join_text (p := p) hq with ⟨hempty, -⟩ | ⟨-, hjoin⟩ | ⟨-, hjoin⟩
  · exact absurd hempty hp
  · rw [hjoin] at hsize hended
    simp only [String.utf8ByteSize_append, String.toList_append, List.mem_append,
      not_or] at hsize hended
    exact ⟨hp, by omega, hended.1⟩
  · rw [hjoin] at hsize hended
    simp only [String.utf8ByteSize_append, String.toList_append, List.mem_append,
      not_or] at hsize hended
    exact ⟨hp, by omega, hended.1.1⟩

/-- A joined path goes on from where its first part leads. -/
theorem follow_join (hp : p.text ≠ "") (hq : q.isAbsolute = false)
    (h : d.follow (start cwd p) p.pieces = .ok (.entry l e)) :
    d.follow (start cwd (p.join q)) (p.join q).pieces = d.follow l q.pieces := by
  rw [start_join hq]
  rcases Path.pieces_join hp hq with hpieces | ⟨front, hfront, hpieces⟩
  · rw [hpieces, follow_append h]
  · rw [hfront] at h
    rw [hpieces, follow_append (follow_of_append_empty h)]

/-- A path joined with one that goes somewhere leads there from where its first part leads. -/
theorem resolve_join_ok (hp : p.text ≠ "") (hq : q.isAbsolute = false)
    (hmoves : ∃ piece ∈ q.pieces, piece ≠ "") (h : d.resolve cwd (p.join q) = .ok t) :
    ∃ up, d.resolve cwd p = .ok (.entry up .directory) ∧ d.follow up q.pieces = .ok t := by
  obtain ⟨htakes, hfollow⟩ := resolve_ok_iff.mp h
  have htakes' := takes_of_join hp hq htakes
  rw [start_join hq] at hfollow
  rcases Path.pieces_join hp hq with hpieces | ⟨front, hfront, hpieces⟩
  · rw [hpieces] at hfollow
    obtain ⟨up, hup, hrest⟩ := follow_append_ok hmoves hfollow
    exact ⟨up, resolve_ok_iff.mpr ⟨htakes', hup⟩, hrest⟩
  · rw [hpieces] at hfollow
    obtain ⟨up, hup, hrest⟩ := follow_append_ok hmoves hfollow
    have hdirectory : d.follow (start cwd p) p.pieces = .ok (.entry up .directory) := by
      rw [hfront, follow_append hup]
      exact follow_empties (entry?_of_follow hup) (by simp)
    exact ⟨up, resolve_ok_iff.mpr ⟨htakes', hdirectory⟩, hrest⟩

/-- A joined path leads from another directory to the same target just when its second part does,
from where the first part leads. -/
theorem resolve_join_iff {place : Location} (hp : p.text ≠ "") (hq : q.isAbsolute = false)
    (hmoves : ∃ piece ∈ q.pieces, piece ≠ "") (h : d.resolve cwd (p.join q) = .ok t) :
    d.resolve place (p.join q) = .ok t ↔
      ∃ up, d.resolve place p = .ok (.entry up .directory) ∧ d.follow up q.pieces = .ok t := by
  constructor
  · intro hplace
    exact resolve_join_ok hp hq hmoves hplace
  · rintro ⟨up, hup, hfollow⟩
    rw [← follow_join hp hq (resolve_ok_iff.mp hup).2] at hfollow
    exact resolve_ok_iff.mpr ⟨(resolve_ok_iff.mp h).1, hfollow⟩

/-- Without steps back in its second part it does so just when its first part leads to the same
directory. -/
theorem resolve_join_iff_of_no_up {place up : Location} (hq : q.isAbsolute = false)
    (hmoves : ∃ piece ∈ q.pieces, piece ≠ "") (hup : ".." ∉ q.pieces)
    (hfront : d.resolve cwd p = .ok (.entry up .directory))
    (h : d.resolve cwd (p.join q) = .ok t) :
    d.resolve place (p.join q) = .ok t ↔ d.resolve place p = .ok (.entry up .directory) := by
  have hp : p.text ≠ "" := (resolve_ok_iff.mp hfront).1.1
  obtain ⟨up', hentered, hfollow⟩ := resolve_join_ok hp hq hmoves h
  rw [hfront] at hentered
  cases hentered
  rw [resolve_join_iff hp hq hmoves h]
  constructor
  · rintro ⟨up', hback, hfollow'⟩
    -- both ways end with the same steps, so they begin in the same directory
    have hland := landingFrom?_of_follow hfollow
    have hland' := landingFrom?_of_follow hfollow'
    rw [landingFrom?_of_no_up hup] at hland hland'
    have hplaces : up = up' :=
      List.append_cancel_right ((Option.some.inj hland).trans (Option.some.inj hland').symm)
    exact hplaces ▸ hback
  · intro hback
    exact ⟨up, hback, hfollow⟩

/-- A path to a name leads to one in the directory that its front leads to. -/
theorem resolve_join_name {name : String} (hslash : '/' ∉ name.toList)
    (hname : name ≠ "" ∧ name ≠ "." ∧ name ≠ "..") (h : d.resolve cwd (p.join ⟨name⟩) = .ok t) :
    ∃ up, t.place = up ++ [name] ∧
      (p.text = "" ∧ up = cwd ∨ d.resolve cwd p = .ok (.entry up .directory)) := by
  have hrelative := Path.isAbsolute_name hslash
  have hpieces := Path.pieces_name hslash
  have hplace {up : Location} (hlast : d.follow up [name] = .ok t) : t.place = up ++ [name] := by
    have hland := landingFrom?_of_follow hlast
    rw [landingFrom?_name hname, landingFrom?_nil] at hland
    exact (Option.some.inj hland).symm
  by_cases hp : p.text = ""
  · have hjoin : p.join ⟨name⟩ = ⟨name⟩ := by simp [Path.join, hp]
    have hfollow := (resolve_ok_iff.mp h).2
    rw [hjoin, hpieces, start, hrelative] at hfollow
    exact ⟨cwd, hplace hfollow, Or.inl ⟨hp, rfl⟩⟩
  · have hmoves : ∃ piece ∈ (Path.mk name).pieces, piece ≠ "" := by simp [hpieces, hname.1]
    obtain ⟨up, hup, hlast⟩ := resolve_join_ok hp hrelative hmoves h
    rw [hpieces] at hlast
    exact ⟨up, hplace hlast, Or.inr hup⟩

/-- From two directories from which its first part leads to the same one a joined path leads to
the same. -/
theorem resolve_join_congr {cwd' : Location} (hq : q.isAbsolute = false)
    (h : d.resolve cwd p = .ok (.entry l .directory))
    (h' : d.resolve cwd' p = .ok (.entry l .directory)) :
    d.resolve cwd (p.join q) = d.resolve cwd' (p.join q) := by
  obtain ⟨⟨hp, -, -⟩, hout⟩ := resolve_ok_iff.mp h
  obtain ⟨-, hin⟩ := resolve_ok_iff.mp h'
  have hfollow := (follow_join hp hq hout).trans (follow_join hp hq hin).symm
  unfold start at hfollow
  rw [resolve, resolve, hfollow]

/-- The same path leads to the same entry, if it is one that can be followed. -/
theorem resolve_of_same (hsame : p.same q = true) (hgrows : Grows d d')
    (h : d.resolve cwd p = .ok (.entry l e)) (h' : d'.resolve cwd q = .ok t) :
    d.resolve cwd q = .ok (.entry l e) := by
  obtain ⟨-, hfollow⟩ := resolve_ok_iff.mp h
  obtain ⟨htakes, hfollow'⟩ := resolve_ok_iff.mp h'
  rw [start_eq_of_same hsame] at hfollow
  exact resolve_ok_iff.mpr
    ⟨htakes, follow_of_same_steps (Path.steps_eq_of_same hsame) hgrows hfollow hfollow'⟩

/-- What a path finds on a larger disk it found before, if it was where the path lands. -/
theorem resolve_of_landing (htree : d.IsTree) (hgrows : Grows d d')
    (h : d.landing? cwd p = some l) (hfound : d.entry? l = some e)
    (h' : d'.resolve cwd p = .ok t) : d.resolve cwd p = .ok (.entry l e) := by
  obtain ⟨htakes, hfollow'⟩ := resolve_ok_iff.mp h'
  exact resolve_ok_iff.mpr ⟨htakes, follow_of_landing htree hgrows h hfound hfollow'⟩

/-! ### Looking -/

theorem isThere_iff : d.isThere cwd p = true ↔ ∃ l e, d.resolve cwd p = .ok (.entry l e) := by
  unfold isThere at?
  constructor
  · intro h
    split at h
    · rename_i l e hresolve
      exact ⟨l, e, hresolve⟩
    · cases h
  · rintro ⟨l, e, h⟩
    simp [h]

theorem isDirectory_iff :
    d.isDirectory cwd p = true ↔ ∃ l, d.resolve cwd p = .ok (.entry l .directory) := by
  unfold isDirectory at?
  cases d.resolve cwd p with
  | error cause => simp
  | ok target => cases target <;> simp

theorem isThere_of_grows (hgrows : Grows d d') (h : d.isThere cwd p = true) :
    d'.isThere cwd p = true := by
  obtain ⟨l, e, hresolve⟩ := isThere_iff.mp h
  obtain ⟨e', he', -⟩ := resolve_of_grows hgrows hresolve
  exact isThere_iff.mpr ⟨l, e', he'⟩

end SuiteForge.Disk
