import SuiteForge.Disk.Basic

/-!
# Entries of a disk

Putting an entry changes what is at one location and nothing else. A disk grows when what was there
stays there, as a directory or as a file; the contents of files may change. The trees are the disks
on which every entry lies in a directory, under a name that a path can spell.
-/

namespace SuiteForge.Disk

variable {d d' d'' : Disk} {l k : Location} {e : Entry}

/-! ### Putting -/

@[simp] theorem entry?_root (d : Disk) : d.entry? [] = some .directory := if_pos rfl

theorem entry?_of_ne_nil (hl : l ≠ []) : d.entry? l = d.entries.lookup l := if_neg hl

theorem lookup_put_go (l k : Location) (e : Entry) (entries : List (Location × Entry)) :
    (put.go l e entries).lookup k = if k = l then some e else entries.lookup k := by
  induction entries with
  | nil =>
    by_cases hk : k = l
    · simp [put.go, hk]
    · simp [put.go, hk]
  | cons head rest ih =>
    obtain ⟨place, found⟩ := head
    by_cases hplace : place = l
    · subst hplace
      by_cases hk : k = place
      · simp [put.go, hk]
      · simp [put.go, hk, List.lookup_cons, beq_eq_false_iff_ne.mpr hk]
    · by_cases hk : k = place
      · subst hk
        simp [put.go, hplace]
      · simp [put.go, hplace, List.lookup_cons, beq_eq_false_iff_ne.mpr hk, ih]

/-- Putting an entry changes one location. -/
theorem entry?_put (hl : l ≠ []) (k : Location) (e : Entry) (d : Disk) :
    entry? (d.put l e) k = if k = l then some e else d.entry? k := by
  by_cases hk : k = []
  · subst hk
    simp [hl.symm]
  · rw [entry?_of_ne_nil hk, entry?_of_ne_nil hk]
    exact lookup_put_go l k e d.entries

@[simp] theorem entry?_put_self (hl : l ≠ []) (e : Entry) (d : Disk) :
    entry? (d.put l e) l = some e := by
  rw [entry?_put hl, if_pos rfl]

theorem entry?_put_ne (hl : l ≠ []) (hk : k ≠ l) (e : Entry) (d : Disk) :
    entry? (d.put l e) k = d.entry? k := by
  rw [entry?_put hl, if_neg hk]

theorem mem_put_go {entries : List (Location × Entry)} {x : Location × Entry}
    (hx : x ∈ put.go l e entries) : x = (l, e) ∨ x ∈ entries := by
  induction entries with
  | nil => exact Or.inl (List.mem_singleton.mp hx)
  | cons head rest ih =>
    simp only [put.go] at hx
    split at hx
    · rcases List.mem_cons.mp hx with hx | hx
      · exact Or.inl hx
      · exact Or.inr (List.mem_cons_of_mem _ hx)
    · rcases List.mem_cons.mp hx with hx | hx
      · exact Or.inr (hx ▸ List.mem_cons_self)
      · rcases ih hx with hx | hx
        · exact Or.inl hx
        · exact Or.inr (List.mem_cons_of_mem _ hx)

theorem mem_of_lookup {entries : List (Location × Entry)} (h : entries.lookup l = some e) :
    (l, e) ∈ entries := by
  induction entries with
  | nil => simp at h
  | cons head rest ih =>
    obtain ⟨place, found⟩ := head
    by_cases hl : l = place
    · subst hl
      have hfound : found = e := by simpa using h
      exact hfound ▸ List.mem_cons_self
    · rw [List.lookup_cons, beq_eq_false_iff_ne.mpr hl] at h
      exact List.mem_cons_of_mem _ (ih h)

theorem mem_names_iff {name : String} : name ∈ d.names l ↔ (d.entry? (l ++ [name])).isSome := by
  rw [entry?_of_ne_nil (by simp), List.lookup_isSome_iff, names, List.mem_mergeSort,
    List.mem_filterMap]
  constructor
  · rintro ⟨⟨k, e⟩, hmem, hname⟩
    dsimp only at hname
    split at hname
    · rename_i hk
      obtain ⟨front, rfl⟩ := List.getLast?_eq_some_iff.mp hname
      obtain rfl : front = l := by simpa using hk.2
      exact ⟨(front ++ [name], e), hmem, by simp⟩
    · cases hname
  · rintro ⟨⟨k, e⟩, hmem, hk⟩
    obtain rfl : l ++ [name] = k := by simpa using hk
    exact ⟨(l ++ [name], e), hmem, by simp⟩

/-! ### Growing -/

/-- What was there is there: directories as directories, files as files. -/
structure Grows (d d' : Disk) : Prop where
  directory : ∀ l, d.entry? l = some .directory → d'.entry? l = some .directory
  file : ∀ l c, d.entry? l = some (.file c) → ∃ c', d'.entry? l = some (.file c')

theorem Grows.refl (d : Disk) : Grows d d := ⟨fun _ h => h, fun _ c h => ⟨c, h⟩⟩

theorem Grows.trans (h : Grows d d') (h' : Grows d' d'') : Grows d d'' where
  directory l hl := h'.directory l (h.directory l hl)
  file l c hl := by
    obtain ⟨c', hc'⟩ := h.file l c hl
    exact h'.file l c' hc'

theorem Grows.isSome (h : Grows d d') (hl : (d.entry? l).isSome) : (d'.entry? l).isSome := by
  obtain ⟨found, hfound⟩ := Option.isSome_iff_exists.mp hl
  cases found with
  | directory => simp [h.directory l hfound]
  | file c =>
    obtain ⟨c', hc'⟩ := h.file l c hfound
    simp [hc']

theorem Grows.put_free (hl : l ≠ []) (hfree : d.entry? l = none) (e : Entry) :
    Grows d (d.put l e) where
  directory k hk := by
    rw [entry?_put_ne hl (by rintro rfl; simp [hfree] at hk)]
    exact hk
  file k c hk := by
    refine ⟨c, ?_⟩
    rw [entry?_put_ne hl (by rintro rfl; simp [hfree] at hk)]
    exact hk

theorem Grows.put_file {c : ByteArray} (hl : d.entry? l = some (.file c)) (c' : ByteArray) :
    Grows d (d.put l (.file c')) := by
  have hne : l ≠ [] := by
    rintro rfl
    simp at hl
  constructor
  · intro k hk
    rw [entry?_put_ne hne (by rintro rfl; simp [hl] at hk)]
    exact hk
  · intro k c hk
    by_cases hkl : k = l
    · exact ⟨c', by rw [hkl, entry?_put_self hne]⟩
    · exact ⟨c, by rw [entry?_put_ne hne hkl]; exact hk⟩

/-- At most directories have been made, at places that were free. -/
def MadeDirectories (d d' : Disk) : Prop :=
  ∀ l, d'.entry? l = d.entry? l ∨ d.entry? l = none ∧ d'.entry? l = some .directory

theorem MadeDirectories.refl (d : Disk) : MadeDirectories d d := fun _ => Or.inl rfl

theorem MadeDirectories.trans (h : MadeDirectories d d') (h' : MadeDirectories d' d'') :
    MadeDirectories d d'' := by
  intro l
  rcases h l with hl | ⟨hfree, hmade⟩ <;> rcases h' l with hl' | ⟨hfree', hmade'⟩
  · exact Or.inl (hl'.trans hl)
  · exact Or.inr ⟨hl ▸ hfree', hmade'⟩
  · exact Or.inr ⟨hfree, hl'.trans hmade⟩
  · exact Or.inr ⟨hfree, hmade'⟩

theorem MadeDirectories.put (hl : l ≠ []) (hfree : d.entry? l = none) :
    MadeDirectories d (d.put l .directory) := by
  intro k
  by_cases hk : k = l
  · exact Or.inr ⟨hk ▸ hfree, by rw [hk, entry?_put_self hl]⟩
  · exact Or.inl (entry?_put_ne hl hk _ _)

theorem MadeDirectories.entry?_eq (h : MadeDirectories d d') (hl : d.entry? l = some e) :
    d'.entry? l = some e := by
  rcases h l with hl' | ⟨hfree, -⟩
  · exact hl'.trans hl
  · simp [hfree] at hl

/-- Files are not touched while directories are made. -/
theorem MadeDirectories.file_iff (h : MadeDirectories d d') (c : ByteArray) :
    d'.entry? l = some (.file c) ↔ d.entry? l = some (.file c) := by
  rcases h l with hl | ⟨hfree, hmade⟩
  · rw [hl]
  · simp [hfree, hmade]

theorem MadeDirectories.grows (h : MadeDirectories d d') : Grows d d' where
  directory _ hl := h.entry?_eq hl
  file _ c hl := ⟨c, h.entry?_eq hl⟩

/-! ### Trees -/

/-- A name that a path can spell. -/
def IsName (name : String) : Prop :=
  (name ≠ "" ∧ name ≠ "." ∧ name ≠ "..") ∧ '/' ∉ name.toList ∧ '\x00' ∉ name.toList ∧
    name.utf8ByteSize ≤ nameLimit

instance (name : String) : Decidable (IsName name) := by unfold IsName; infer_instance

/-- Every entry has a name and lies in a directory. -/
def IsTree (d : Disk) : Prop :=
  ∀ x ∈ d.entries, x.1 ≠ [] ∧ IsName (x.1.getLast?.getD "") ∧
    d.entry? x.1.dropLast = some .directory

instance (d : Disk) : Decidable d.IsTree := by unfold IsTree; infer_instance

theorem IsTree.of_entry? (htree : d.IsTree) {name : String}
    (h : d.entry? (l ++ [name]) = some e) : IsName name ∧ d.entry? l = some .directory := by
  rw [entry?_of_ne_nil (by simp)] at h
  obtain ⟨-, hname, hup⟩ := htree _ (mem_of_lookup h)
  exact ⟨by simpa using hname, by simpa using hup⟩

/-- Nothing is inside what is not there. -/
theorem IsTree.free_append (htree : d.IsTree) (hfree : d.entry? l = none) (rest : Location) :
    d.entry? (l ++ rest) = none := by
  induction rest generalizing l with
  | nil => simpa using hfree
  | cons name rest ih =>
    have hinside : d.entry? (l ++ [name]) = none := by
      cases hfound : d.entry? (l ++ [name]) with
      | none => rfl
      | some found => simpa [hfree] using (htree.of_entry? hfound).2
    simpa using ih hinside

/-- What something is inside of is a directory. -/
theorem IsTree.directory_of_append (htree : d.IsTree) {rest : Location} (hrest : rest ≠ [])
    (h : d.entry? (l ++ rest) = some e) : d.entry? l = some .directory := by
  obtain ⟨name, rest, rfl⟩ := List.exists_cons_of_ne_nil hrest
  cases hinside : d.entry? (l ++ [name]) with
  | some found => exact (htree.of_entry? hinside).2
  | none =>
    rw [List.append_cons, htree.free_append hinside rest] at h
    cases h

/-- A tree stays one when an entry is put into a directory of it; a directory is not replaced by a
file. -/
theorem IsTree.put (htree : d.IsTree) {name : String} (hup : d.entry? l = some .directory)
    (hname : IsName name)
    (hkind : d.entry? (l ++ [name]) = some .directory → e = .directory) :
    (d.put (l ++ [name]) e).IsTree := by
  have hne : l ++ [name] ≠ [] := by simp
  have hdirectory : ∀ k, d.entry? k = some .directory →
      entry? (d.put (l ++ [name]) e) k = some .directory := by
    intro k hk
    by_cases hkl : k = l ++ [name]
    · subst hkl
      rw [entry?_put_self hne, hkind hk]
    · rw [entry?_put_ne hne hkl, hk]
  intro x hx
  rcases mem_put_go hx with rfl | hx
  · exact ⟨hne, by simpa using hname, by simpa using hdirectory l hup⟩
  · obtain ⟨hx, hxname, hxup⟩ := htree x hx
    exact ⟨hx, hxname, hdirectory _ hxup⟩

end SuiteForge.Disk
