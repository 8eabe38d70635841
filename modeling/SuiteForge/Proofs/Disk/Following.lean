import SuiteForge.Proofs.Disk.Entries

/-!
# Following paths

A path that leads to an entry leads to the same place on every larger disk. Where a path will lead
once its missing directories have been made is known beforehand, unless it steps back out of a
directory that is not there: such a path passes through a place that does not exist yet.
-/

namespace SuiteForge.Disk

variable {d d' : Disk} {cwd here l : Location} {e : Entry} {piece : String}
  {rest pieces pieces' : List String} {t : Target}

/-! ### One piece -/

theorem follow_nil_entry (h : d.entry? here = some e) :
    d.follow here [] = .ok (.entry here e) := by
  simp [follow, h]

theorem follow_nil_free (h : d.entry? here = none) : d.follow here [] = .error .missing := by
  simp [follow, h]

theorem follow_nil_ok (h : d.follow here [] = .ok t) :
    ∃ e, d.entry? here = some e ∧ t = .entry here e := by
  cases hhere : d.entry? here with
  | none =>
    rw [follow_nil_free hhere] at h
    cases h
  | some e =>
    rw [follow_nil_entry hhere] at h
    exact ⟨e, rfl, (Except.ok.inj h).symm⟩

theorem follow_cons (hhere : d.entry? here = some .directory) : d.follow here (piece :: rest) =
    if piece = "" ∨ piece = "." then d.follow here rest
    else if piece = ".." then d.follow here.dropLast rest
    else if nameLimit < piece.utf8ByteSize then .error .nameTooLong
    else if (d.entry? (here ++ [piece])).isSome then d.follow (here ++ [piece]) rest
    else if rest.all (· = "") then .ok (.free (here ++ [piece]) (rest ≠ []))
    else .error .missing := by
  simp only [follow, hhere]

/-- Nothing is behind a file, or behind what is not there. -/
theorem follow_cons_of_ne (hhere : d.entry? here ≠ some .directory) :
    d.follow here (piece :: rest) =
      .error (if (d.entry? here).isSome then .notDirectory else .missing) := by
  cases hfound : d.entry? here with
  | none => simp [follow, hfound]
  | some e =>
    cases e with
    | directory => exact absurd hfound hhere
    | file c => simp [follow, hfound]

theorem follow_stay (hhere : d.entry? here = some .directory) (hpiece : piece = "" ∨ piece = ".") :
    d.follow here (piece :: rest) = d.follow here rest := by
  rw [follow_cons hhere, if_pos hpiece]

theorem follow_up (hhere : d.entry? here = some .directory) :
    d.follow here (".." :: rest) = d.follow here.dropLast rest := by
  rw [follow_cons hhere, if_neg (by decide), if_pos rfl]

/-- A piece that names an entry of a directory. -/
def Names (piece : String) : Prop :=
  (piece ≠ "" ∧ piece ≠ "." ∧ piece ≠ "..") ∧ piece.utf8ByteSize ≤ nameLimit

theorem IsName.names (h : IsName piece) : Names piece := ⟨h.1, h.2.2.2⟩

theorem follow_name (hhere : d.entry? here = some .directory) (hpiece : Names piece) :
    d.follow here (piece :: rest) =
      if (d.entry? (here ++ [piece])).isSome then d.follow (here ++ [piece]) rest
      else if rest.all (· = "") then .ok (.free (here ++ [piece]) (rest ≠ []))
      else .error .missing := by
  obtain ⟨⟨hempty, hdot, hdots⟩, hsize⟩ := hpiece
  rw [follow_cons hhere, if_neg (not_or.mpr ⟨hempty, hdot⟩), if_neg hdots,
    if_neg (Nat.not_lt.mpr hsize)]

theorem follow_long (hhere : d.entry? here = some .directory)
    (hsize : nameLimit < piece.utf8ByteSize) (hmoves : piece ≠ "" ∧ piece ≠ "." ∧ piece ≠ "..") :
    d.follow here (piece :: rest) = .error .nameTooLong := by
  obtain ⟨hempty, hdot, hdots⟩ := hmoves
  rw [follow_cons hhere, if_neg (not_or.mpr ⟨hempty, hdot⟩), if_neg hdots, if_pos hsize]

/-- A piece stays, steps back or goes further in. -/
theorem step_cases (piece : String) :
    (piece = "" ∨ piece = ".") ∨ piece = ".." ∨ piece ≠ "" ∧ piece ≠ "." ∧ piece ≠ ".." := by
  by_cases hstay : piece = "" ∨ piece = "."
  · exact Or.inl hstay
  · by_cases hup : piece = ".."
    · exact Or.inr (Or.inl hup)
    · obtain ⟨hempty, hdot⟩ := not_or.mp hstay
      exact Or.inr (Or.inr ⟨hempty, hdot, hup⟩)

/-- A piece that goes further in names something, or is too long for that. -/
theorem piece_cases (piece : String) : (piece = "" ∨ piece = ".") ∨ piece = ".." ∨ Names piece ∨
    nameLimit < piece.utf8ByteSize ∧ piece ≠ "" ∧ piece ≠ "." ∧ piece ≠ ".." := by
  rcases step_cases piece with hstay | hup | hmoves
  · exact Or.inl hstay
  · exact Or.inr (Or.inl hup)
  · rcases Nat.lt_or_ge nameLimit piece.utf8ByteSize with hlong | hshort
    · exact Or.inr (Or.inr (Or.inr ⟨hlong, hmoves⟩))
    · exact Or.inr (Or.inr (Or.inl ⟨hmoves, hshort⟩))

/-! ### Entries and free places -/

/-- A path leads to a target: each piece but the last is passed, and there it ends at an entry, or
at a name that is free, with slashes behind it at most. -/
inductive Leads (d : Disk) : Location → List String → Target → Prop where
  | entry {here : Location} {e : Entry} (hhere : d.entry? here = some e) :
      Leads d here [] (.entry here e)
  | stay {here : Location} {piece : String} {rest : List String} {t : Target}
      (hhere : d.entry? here = some .directory) (hpiece : piece = "" ∨ piece = ".")
      (h : Leads d here rest t) : Leads d here (piece :: rest) t
  | up {here : Location} {rest : List String} {t : Target}
      (hhere : d.entry? here = some .directory) (h : Leads d here.dropLast rest t) :
      Leads d here (".." :: rest) t
  | name {here : Location} {piece : String} {rest : List String} {t : Target}
      (hhere : d.entry? here = some .directory) (hnames : Names piece)
      (hsome : (d.entry? (here ++ [piece])).isSome) (h : Leads d (here ++ [piece]) rest t) :
      Leads d here (piece :: rest) t
  | free {here : Location} {piece : String} {rest : List String}
      (hhere : d.entry? here = some .directory) (hnames : Names piece)
      (hnone : d.entry? (here ++ [piece]) = none) (hall : rest.all (· = "") = true) :
      Leads d here (piece :: rest) (.free (here ++ [piece]) (rest ≠ []))

theorem leads_iff : Leads d here pieces t ↔ d.follow here pieces = .ok t := by
  constructor
  · intro h
    induction h with
    | entry hhere => exact follow_nil_entry hhere
    | stay hhere hpiece _ ih => rwa [follow_stay hhere hpiece]
    | up hhere _ ih => rwa [follow_up hhere]
    | name hhere hnames hsome _ ih => rwa [follow_name hhere hnames, if_pos hsome]
    | free hhere hnames hnone hall =>
      rw [follow_name hhere hnames, if_neg (by simp [hnone]), if_pos hall]
  · intro h
    induction pieces generalizing here with
    | nil =>
      obtain ⟨e, hhere, rfl⟩ := follow_nil_ok h
      exact .entry hhere
    | cons piece rest ih =>
      by_cases hhere : d.entry? here = some .directory
      · rcases piece_cases piece with hstay | rfl | hnames | ⟨hsize, hnot⟩
        · rw [follow_stay hhere hstay] at h
          exact .stay hhere hstay (ih h)
        · rw [follow_up hhere] at h
          exact .up hhere (ih h)
        · rw [follow_name hhere hnames] at h
          split at h
          · rename_i hsome
            exact .name hhere hnames hsome (ih h)
          · rename_i hnone
            split at h
            · rename_i hall
              cases h
              exact .free hhere hnames (by simpa using hnone) hall
            · cases h
        · rw [follow_long hhere hsize hnot] at h
          cases h
      · rw [follow_cons_of_ne hhere] at h
        cases h

/-- A path with any pieces starts in a directory. -/
theorem Leads.directory (h : Leads d here (piece :: rest) t) : d.entry? here = some .directory := by
  cases h with
  | stay hhere | up hhere | name hhere | free hhere => exact hhere

theorem entry?_of_follow (h : d.follow here pieces = .ok (.entry l e)) : d.entry? l = some e := by
  rw [← leads_iff] at h
  generalize ht : Target.entry l e = t at h
  induction h with
  | entry hhere =>
    cases ht
    exact hhere
  | stay _ _ _ ih | up _ _ ih | name _ _ _ _ ih => exact ih ht
  | free => cases ht

/-- A free place is a name in a directory. -/
theorem free_of_follow {slash : Bool} (h : d.follow here pieces = .ok (.free l slash)) :
    ∃ up name, l = up ++ [name] ∧ name ∈ pieces ∧ Names name ∧ d.entry? l = none ∧
      d.entry? up = some .directory := by
  rw [← leads_iff] at h
  generalize ht : Target.free l slash = t at h
  induction h with
  | entry => cases ht
  | stay _ _ _ ih | up _ _ ih | name _ _ _ _ ih =>
    obtain ⟨up, name, hl, hname, hrest⟩ := ih ht
    exact ⟨up, name, hl, List.mem_cons_of_mem _ hname, hrest⟩
  | free hhere hnames hnone =>
    cases ht
    exact ⟨_, _, rfl, List.mem_cons_self, hnames, hnone, hhere⟩

/-! ### Longer paths -/

theorem follow_append (h : d.follow here pieces = .ok (.entry l e)) (rest : List String) :
    d.follow here (pieces ++ rest) = d.follow l rest := by
  rw [← leads_iff] at h
  generalize ht : Target.entry l e = t at h
  induction h with
  | entry =>
    cases ht
    rfl
  | stay hhere hpiece _ ih =>
    rw [List.cons_append, follow_stay hhere hpiece]
    exact ih ht
  | up hhere _ ih =>
    rw [List.cons_append, follow_up hhere]
    exact ih ht
  | name hhere hnames hsome _ ih =>
    rw [List.cons_append, follow_name hhere hnames, if_pos hsome]
    exact ih ht
  | free => cases ht

/-- Pieces in front of a name lead to a directory, and the rest goes on from there. -/
theorem follow_append_ok (hrest : ∃ piece ∈ rest, piece ≠ "")
    (h : d.follow here (pieces ++ rest) = .ok t) :
    ∃ up, d.follow here pieces = .ok (.entry up .directory) ∧ d.follow up rest = .ok t := by
  induction pieces generalizing here with
  | nil =>
    obtain ⟨piece, hpiece, -⟩ := hrest
    -- the rest has a piece, and that can only be followed from a directory
    obtain ⟨first, others, rfl⟩ := List.exists_cons_of_ne_nil (List.ne_nil_of_mem hpiece)
    exact ⟨here, follow_nil_entry (leads_iff.mpr h).directory, h⟩
  | cons piece pieces ih =>
    rw [List.cons_append, ← leads_iff] at h
    cases h with
    | stay hhere hstay h =>
      rw [follow_stay hhere hstay]
      exact ih (leads_iff.mp h)
    | up hhere h =>
      rw [follow_up hhere]
      exact ih (leads_iff.mp h)
    | name hhere hnames hsome h =>
      rw [follow_name hhere hnames, if_pos hsome]
      exact ih (leads_iff.mp h)
    | free _ _ _ hall =>
      obtain ⟨piece, hpiece, hne⟩ := hrest
      have hempty := List.all_eq_true.mp hall piece (List.mem_append_right pieces hpiece)
      exact absurd (of_decide_eq_true hempty) hne

/-- A slash at the end may be left out. -/
theorem follow_of_append_empty (h : d.follow here (pieces ++ [""]) = .ok (.entry l e)) :
    d.follow here pieces = .ok (.entry l e) := by
  induction pieces generalizing here with
  | nil =>
    have hhere : d.entry? here = some .directory := (leads_iff.mpr h).directory
    rwa [List.nil_append, follow_stay hhere (Or.inl rfl)] at h
  | cons piece pieces ih =>
    rw [List.cons_append, ← leads_iff] at h
    cases h with
    | stay hhere hpiece h =>
      rw [follow_stay hhere hpiece]
      exact ih (leads_iff.mp h)
    | up hhere h =>
      rw [follow_up hhere]
      exact ih (leads_iff.mp h)
    | name hhere hnames hsome h =>
      rw [follow_name hhere hnames, if_pos hsome]
      exact ih (leads_iff.mp h)

/-- Slashes at the end lead to the directory itself. -/
theorem follow_empties (hhere : d.entry? here = some .directory)
    (hall : rest.all (· = "") = true) : d.follow here rest = .ok (.entry here .directory) := by
  induction rest with
  | nil => exact follow_nil_entry hhere
  | cons piece rest ih =>
    simp only [List.all_cons, Bool.and_eq_true, decide_eq_true_eq] at hall
    rw [follow_stay hhere (Or.inl hall.1)]
    exact ih hall.2

/-! ### Larger disks -/

def Target.place : Target → Location
  | .entry place _ => place
  | .free place _ => place

/-- On a larger disk that has something where a path leads, the path leads there; behind a slash it
has to be a directory. -/
theorem Leads.of_grows (hgrows : Grows d d') (h : Leads d here pieces t)
    (hfound : d'.entry? t.place = some e) (hslash : t = .free t.place true → e = .directory) :
    Leads d' here pieces (.entry t.place e) := by
  induction h with
  | entry => exact .entry hfound
  | stay hhere hpiece _ ih => exact .stay (hgrows.directory _ hhere) hpiece (ih hfound hslash)
  | up hhere _ ih => exact .up (hgrows.directory _ hhere) (ih hfound hslash)
  | name hhere hnames hsome _ ih =>
    exact .name (hgrows.directory _ hhere) hnames (hgrows.isSome hsome) (ih hfound hslash)
  | @free here piece rest hhere hnames _ hall =>
    refine .name (hgrows.directory _ hhere) hnames (Option.isSome_of_eq_some hfound) ?_
    by_cases hend : rest = []
    · rw [hend]
      exact .entry hfound
    · obtain rfl : e = .directory := hslash (by simp [hend, Target.place])
      exact leads_iff.mpr (follow_empties hfound hall)

/-- A path leads to the same entry on a larger disk. -/
theorem follow_of_grows (hgrows : Grows d d') (h : d.follow here pieces = .ok (.entry l e)) :
    ∃ e', d'.follow here pieces = .ok (.entry l e') := by
  obtain ⟨e', he'⟩ := Option.isSome_iff_exists.mp
    (hgrows.isSome (Option.isSome_of_eq_some (entry?_of_follow h)))
  exact ⟨e', leads_iff.mp ((leads_iff.mpr h).of_grows hgrows he' (by simp))⟩

/-- A free place is found as soon as something has been put there; behind a slash it has to be a
directory. -/
theorem follow_free_of_grows {slash : Bool} (hgrows : Grows d d') (hfound : d'.entry? l = some e)
    (hslash : slash = true → e = .directory) (h : d.follow here pieces = .ok (.free l slash)) :
    d'.follow here pieces = .ok (.entry l e) := by
  refine leads_iff.mp ((leads_iff.mpr h).of_grows hgrows hfound fun heq => hslash ?_)
  exact (Target.free.inj heq).2

/-- A path through a file is refused on every larger disk. -/
theorem follow_notDirectory_of_grows (hgrows : Grows d d')
    (h : d.follow here pieces = .error .notDirectory) :
    d'.follow here pieces = .error .notDirectory := by
  induction pieces generalizing here with
  | nil =>
    cases hhere : d.entry? here with
    | none => simp [follow_nil_free hhere, Cause.missing, Cause.notDirectory] at h
    | some e => simp [follow_nil_entry hhere] at h
  | cons piece rest ih =>
    by_cases hhere : d.entry? here = some .directory
    · have hhere' := hgrows.directory _ hhere
      rcases piece_cases piece with hstay | rfl | hnames | ⟨hsize, hnot⟩
      · rw [follow_stay hhere hstay] at h
        rw [follow_stay hhere' hstay]
        exact ih h
      · rw [follow_up hhere] at h
        rw [follow_up hhere']
        exact ih h
      · rw [follow_name hhere hnames] at h
        split at h
        · rename_i hsome
          rw [follow_name hhere' hnames, if_pos (hgrows.isSome hsome)]
          exact ih h
        · split at h <;> simp [Cause.missing, Cause.notDirectory] at h
      · rw [follow_long hhere hsize hnot] at h
        simp [Cause.nameTooLong, Cause.notDirectory] at h
    · rw [follow_cons_of_ne hhere] at h
      cases hfound : d.entry? here with
      | none => simp [hfound, Cause.missing, Cause.notDirectory] at h
      | some found =>
        cases found with
        | directory => exact absurd hfound hhere
        | file c =>
          obtain ⟨c', hc'⟩ := hgrows.file _ c hfound
          rw [follow_cons_of_ne (by simp [hc']), hc']
          rfl

/-! ### Whole paths -/

variable {p : Path}

/-- Where a path starts. -/
def start (cwd : Location) (p : Path) : Location := if p.isAbsolute then [] else cwd

/-- A path that can be followed at all: there is some text, not too much, and no `NUL` in it. -/
def Takes (p : Path) : Prop :=
  p.text ≠ "" ∧ p.text.utf8ByteSize ≤ pathLimit ∧ '\x00' ∉ p.text.toList

theorem resolve_ok_iff :
    d.resolve cwd p = .ok t ↔ Takes p ∧ d.follow (start cwd p) p.pieces = .ok t := by
  unfold resolve Takes
  by_cases hempty : p.text = ""
  · simp [hempty]
  · by_cases hlong : pathLimit < p.text.utf8ByteSize
    · simp [hempty, hlong, Nat.not_le.mpr hlong]
    · by_cases hended : '\x00' ∈ p.text.toList
      · simp [hempty, hlong, hended]
      · simp [hempty, hlong, hended, start, Nat.not_lt.mp hlong]

end SuiteForge.Disk
