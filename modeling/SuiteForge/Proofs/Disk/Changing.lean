import SuiteForge.Proofs.Disk.Landing
import SuiteForge.Proofs.Path.Parent

/-!
# Changing a disk

Making directories makes nothing else, and only at free places. A write puts its content where its
path leads, at a free place or over a file; after that the path leads to the content.
-/

namespace SuiteForge.Disk

variable {d d' : Disk} {cwd l : Location} {p : Path}

/-! ### Free places -/

/-- A tree stays one when something is put at a free place that a path leads to. -/
theorem IsTree.put_free (htree : d.IsTree) {slash : Bool}
    (h : d.resolve cwd p = .ok (.free l slash)) (e : Entry) : (d.put l e).IsTree := by
  obtain ⟨⟨-, -, hended⟩, hfollow⟩ := resolve_ok_iff.mp h
  obtain ⟨up, name, rfl, hname, hnames, hfree, hup⟩ := free_of_follow hfollow
  refine htree.put hup ⟨hnames.1, ?_, ?_, hnames.2⟩ (by simp [hfree])
  · intro hslash
    exact (Path.mem_of_mem_piece hname hslash).2 rfl
  · intro hnul
    exact hended (Path.mem_of_mem_piece hname hnul).1

theorem free_of_resolve {slash : Bool} (h : d.resolve cwd p = .ok (.free l slash)) :
    l ≠ [] ∧ d.entry? l = none := by
  obtain ⟨up, name, rfl, -, -, hfree, -⟩ := free_of_follow (resolve_ok_iff.mp h).2
  exact ⟨by simp, hfree⟩

/-! ### Making directories -/

theorem makeDirectory_ok (h : d.makeDirectory cwd p = .ok d') :
    ∃ place slash, d.resolve cwd p = .ok (.free place slash) ∧ d' = d.put place .directory := by
  unfold makeDirectory at h
  split at h
  · rename_i place slash hresolve
    exact ⟨place, slash, hresolve, (Except.ok.inj h).symm⟩
  · cases h
  · cases h

/-- A directory that has been made is where its path leads. -/
theorem resolve_of_makeDirectory (h : d.makeDirectory cwd p = .ok d') {m : Location}
    (hm : d.entry? m = none) (hnew : d'.entry? m ≠ none) :
    d'.resolve cwd p = .ok (.entry m .directory) := by
  obtain ⟨place, slash, hresolve, rfl⟩ := makeDirectory_ok h
  obtain ⟨hne, hfree⟩ := free_of_resolve hresolve
  by_cases hplace : m = place
  · subst hplace
    obtain ⟨htakes, hfollow⟩ := resolve_ok_iff.mp hresolve
    have hgrows : Grows d (d.put m .directory) := .put_free hne hfree _
    have hfound : entry? (d.put m .directory) m = some .directory := entry?_put_self hne _ d
    exact resolve_ok_iff.mpr
      ⟨htakes, follow_free_of_grows hgrows hfound (fun _ => rfl) hfollow⟩
  · rw [entry?_put_ne hne hplace] at hnew
    exact absurd hm hnew

theorem isDirectory_of_makeDirectory (h : d.makeDirectory cwd p = .ok d') :
    d'.isDirectory cwd p = true := by
  obtain ⟨place, slash, hresolve, rfl⟩ := makeDirectory_ok h
  obtain ⟨hne, hfree⟩ := free_of_resolve hresolve
  exact isDirectory_iff.mpr ⟨place, resolve_of_makeDirectory h hfree (by simp [hne])⟩

theorem isDirectory_of_makeDirectories (hp : p.components ≠ [])
    (h : d.makeDirectories cwd p = (.ok (), d')) : d'.isDirectory cwd p = true := by
  unfold makeDirectories at h
  rw [makeDirectoriesFrom, if_neg hp] at h
  split at h
  · rename_i d₁ hmade
    cases h
    exact isDirectory_of_makeDirectory hmade
  · split at h
    · split at h
      · cases h
      · split at h
        · cases h
        · split at h
          · rename_i d₂ hmade
            cases h
            exact isDirectory_of_makeDirectory hmade
          · split at h
            · rename_i hthere
              cases h
              exact hthere
            · cases h
    · split at h
      · rename_i hthere
        cases h
        exact hthere
      · cases h

/-- One level of making directories: nothing is made, or the directory itself, or first the ones
above it. -/
theorem makeDirectoriesFrom_cases (cwd : Location) (fuel : Nat) (p : Path) (d : Disk) :
    (makeDirectoriesFrom cwd (fuel + 1) p d).2 = d ∨
      d.makeDirectory cwd p = .ok (makeDirectoriesFrom cwd (fuel + 1) p d).2 ∨
      ∃ up, p.parent? = some up ∧
        ((makeDirectoriesFrom cwd (fuel + 1) p d).2 = (makeDirectoriesFrom cwd fuel up d).2 ∨
          makeDirectory (makeDirectoriesFrom cwd fuel up d).2 cwd p =
            .ok (makeDirectoriesFrom cwd (fuel + 1) p d).2) := by
  rw [makeDirectoriesFrom]
  split
  · exact Or.inl rfl
  · split
    · rename_i d' hmade
      exact Or.inr (Or.inl hmade)
    · split
      · split
        · exact Or.inl rfl
        · rename_i up hup
          refine Or.inr (Or.inr ⟨up, hup, ?_⟩)
          split
          · rename_i cause d₁ hrest
            rw [hrest]
            exact Or.inl rfl
          · rename_i d₁ hrest
            rw [hrest]
            split
            · rename_i d₂ hmade
              exact Or.inr hmade
            · split <;> exact Or.inl rfl
      · split <;> exact Or.inl rfl

/-- What holds between the disks before and after each directory that is made holds between the
disks before and after all of them. -/
theorem makeDirectoriesFrom_induction {R : Disk → Disk → Prop} (hrefl : ∀ d, R d d)
    (htrans : ∀ {d d' d''}, R d d' → R d' d'' → R d d'')
    (hstep : ∀ {d d' p}, d.makeDirectory cwd p = .ok d' → R d d') (fuel : Nat) (p : Path)
    (d : Disk) : R d (makeDirectoriesFrom cwd fuel p d).2 := by
  induction fuel generalizing p d with
  | zero => exact hrefl d
  | succ fuel ih =>
    rcases makeDirectoriesFrom_cases cwd fuel p d with h | h | ⟨up, -, h | h⟩
    · rw [h]
      exact hrefl d
    · exact hstep h
    · rw [h]
      exact ih up d
    · exact htrans (ih up d) (hstep h)

/-- At most directories have been made, and a tree has stayed one. -/
structure Widens (d d' : Disk) : Prop where
  made : MadeDirectories d d'
  tree : d.IsTree → d'.IsTree

theorem Widens.refl (d : Disk) : Widens d d := ⟨.refl d, fun htree => htree⟩

theorem Widens.trans {d'' : Disk} (h : Widens d d') (h' : Widens d' d'') : Widens d d'' :=
  ⟨h.made.trans h'.made, fun htree => h'.tree (h.tree htree)⟩

theorem widens_of_makeDirectory (h : d.makeDirectory cwd p = .ok d') : Widens d d' := by
  obtain ⟨place, slash, hresolve, rfl⟩ := makeDirectory_ok h
  obtain ⟨hne, hfree⟩ := free_of_resolve hresolve
  exact ⟨MadeDirectories.put hne hfree, fun htree => htree.put_free hresolve _⟩

theorem makeDirectoriesFrom_widens (cwd : Location) (fuel : Nat) (p : Path) (d : Disk) :
    Widens d (makeDirectoriesFrom cwd fuel p d).2 :=
  makeDirectoriesFrom_induction .refl .trans widens_of_makeDirectory fuel p d

theorem makeDirectories_widens (d : Disk) (cwd : Location) (p : Path) :
    Widens d (d.makeDirectories cwd p).2 :=
  makeDirectoriesFrom_widens cwd _ p d

/-- Every directory that is new is where the path leads now, or a path above it. -/
theorem makeDirectoriesFrom_new (fuel : Nat) (p : Path) {m : Location} (hm : d.entry? m = none)
    (hnew : entry? (makeDirectoriesFrom cwd fuel p d).2 m ≠ none) :
    ∃ q, (q = p ∨ Path.Above q p) ∧
      resolve (makeDirectoriesFrom cwd fuel p d).2 cwd q = .ok (.entry m .directory) := by
  induction fuel generalizing p with
  | zero => exact absurd hm hnew
  | succ fuel ih =>
    have hhigher {q up : Path} (hup : p.parent? = some up) (hq : q = up ∨ Path.Above q up) :
        q = p ∨ Path.Above q p := by
      rcases hq with rfl | hq
      · exact Or.inr (.parent hup)
      · exact Or.inr (.higher hup hq)
    rcases makeDirectoriesFrom_cases cwd fuel p d with h | h | ⟨up, hup, h | h⟩
    · rw [h] at hnew
      exact absurd hm hnew
    · exact ⟨p, Or.inl rfl, resolve_of_makeDirectory h hm hnew⟩
    · rw [h] at hnew ⊢
      obtain ⟨q, hq, hleads⟩ := ih up hnew
      exact ⟨q, hhigher hup hq, hleads⟩
    · by_cases hbelow : entry? (makeDirectoriesFrom cwd fuel up d).2 m = none
      · exact ⟨p, Or.inl rfl, resolve_of_makeDirectory h hbelow hnew⟩
      · obtain ⟨q, hq, hleads⟩ := ih up hbelow
        have hgrows := (widens_of_makeDirectory h).made.grows
        obtain ⟨e, he, hentry⟩ := resolve_of_grows hgrows hleads
        rw [hgrows.directory m (entry?_of_resolve hleads)] at hentry
        cases hentry
        exact ⟨q, hhigher hup hq, he⟩

/-- A path goes on from where its parent lands. -/
theorem landing?_parent {up : Path} (hup : p.parent? = some up)
    (h : d.landing? cwd p = some l) :
    ∃ l' rest, d.landing? cwd up = some l' ∧ d.landingFrom? l' rest = some l := by
  rcases Path.parent_cases hup with rfl | ⟨habs, rest, hpieces⟩
  · refine ⟨start cwd p, p.pieces, ?_, h⟩
    rw [start]
    cases p.isAbsolute <;>
      simp [landing?, start, Path.isAbsolute, Path.pieces, Text.splitOn, landingFrom?]
  · rw [landing?, hpieces, landingFrom?_append] at h
    obtain ⟨l', hl', hrest⟩ := Option.bind_eq_some_iff.mp h
    exact ⟨l', rest, by rw [landing?, start, habs]; exact hl', hrest⟩

/-- What is new above a place lies above every place that a path goes on to from there. -/
theorem prefix_of_new (htree : d.IsTree) {m l' : Location} {rest : List String}
    (hm : d.entry? m = none) (habove : m <+: l') (h : d.landingFrom? l' rest = some l) :
    m <+: l := by
  obtain ⟨inside, rfl⟩ := habove
  exact (List.prefix_append m inside).trans
    (prefix_landing htree (htree.free_append hm inside) h)

theorem makeDirectory_prefix (hp : d.landing? cwd p = some l)
    (h : d.makeDirectory cwd p = .ok d') {m : Location} (hm : d.entry? m = none)
    (hnew : d'.entry? m ≠ none) : m <+: l := by
  obtain ⟨place, slash, hresolve, rfl⟩ := makeDirectory_ok h
  have hplace : l = place := Option.some.inj (hp.symm.trans (landing?_of_resolve hresolve))
  by_cases hml : m = place
  · exact hml.trans hplace.symm ▸ List.prefix_refl m
  · rw [entry?_put_ne (free_of_resolve hresolve).1 hml] at hnew
    exact absurd hm hnew

/-- Directories are made on the way to where the path lands only. -/
theorem makeDirectoriesFrom_prefix (htree : d.IsTree) (fuel : Nat) (p : Path)
    (hp : d.landing? cwd p = some l) {m : Location} (hm : d.entry? m = none)
    (hnew : entry? (makeDirectoriesFrom cwd fuel p d).2 m ≠ none) : m <+: l := by
  induction fuel generalizing p l with
  | zero => exact absurd hm hnew
  | succ fuel ih =>
    have habove {up : Path} (hup : p.parent? = some up)
        (hnew : entry? (makeDirectoriesFrom cwd fuel up d).2 m ≠ none) : m <+: l := by
      obtain ⟨l', rest, hl', hrest⟩ := landing?_parent hup hp
      exact prefix_of_new htree hm (ih up hl' hnew) hrest
    rcases makeDirectoriesFrom_cases cwd fuel p d with h | h | ⟨up, hup, h | h⟩
    · rw [h] at hnew
      exact absurd hm hnew
    · exact makeDirectory_prefix hp h hm hnew
    · rw [h] at hnew
      exact habove hup hnew
    · have hgrows := (makeDirectoriesFrom_widens cwd fuel up d).made.grows
      by_cases hm₁ : entry? (makeDirectoriesFrom cwd fuel up d).2 m = none
      · exact makeDirectory_prefix (landing?_of_grows hgrows hp) h hm₁ hnew
      · exact habove hup hm₁

/-! ### Writing -/

theorem place_ne_nil_of_leads (h : (∃ c, d.resolve cwd p = .ok (.entry l (.file c))) ∨
    d.resolve cwd p = .ok (.free l false)) : l ≠ [] := by
  rcases h with ⟨c, hleads⟩ | hleads
  · rintro rfl
    simpa using entry?_of_resolve hleads
  · exact (free_of_resolve hleads).1

theorem grows_of_leads (h : (∃ c, d.resolve cwd p = .ok (.entry l (.file c))) ∨
    d.resolve cwd p = .ok (.free l false)) (content : ByteArray) :
    Grows d (d.put l (.file content)) := by
  rcases h with ⟨c, hleads⟩ | hleads
  · exact .put_file (entry?_of_resolve hleads) _
  · obtain ⟨hne, hfree⟩ := free_of_resolve hleads
    exact .put_free hne hfree _

/-- A path that leads to a file or a free place leads to what is put there. -/
theorem resolve_of_leads (h : (∃ c, d.resolve cwd p = .ok (.entry l (.file c))) ∨
    d.resolve cwd p = .ok (.free l false)) (content : ByteArray) :
    Disk.resolve (d.put l (.file content)) cwd p = .ok (.entry l (.file content)) := by
  have hgrows := grows_of_leads h content
  have hput : entry? (d.put l (.file content)) l = some (.file content) :=
    entry?_put_self (place_ne_nil_of_leads h) _ d
  rcases h with ⟨c, hleads⟩ | hleads
  · obtain ⟨e, he, hentry⟩ := resolve_of_grows hgrows hleads
    rw [hput] at hentry
    cases hentry
    exact he
  · obtain ⟨htakes, hfollow⟩ := resolve_ok_iff.mp hleads
    exact resolve_ok_iff.mpr ⟨htakes, follow_free_of_grows hgrows hput (by simp) hfollow⟩

/-- A write goes to a file or to a free place. -/
theorem write_ok {content : ByteArray} (h : d.write cwd p content = .ok d') :
    ∃ place, ((∃ c, d.resolve cwd p = .ok (.entry place (.file c))) ∨
        d.resolve cwd p = .ok (.free place false)) ∧
      d' = d.put place (.file content) := by
  unfold write at h
  split at h
  · rename_i place c hresolve
    exact ⟨place, Or.inl ⟨c, hresolve⟩, (Except.ok.inj h).symm⟩
  · cases h
  · rename_i place slash hresolve
    split at h
    · cases h
    · rename_i hslash
      obtain rfl : slash = false := by simpa using hslash
      exact ⟨place, Or.inr hresolve, (Except.ok.inj h).symm⟩
  · cases h

theorem read_of_write {content : ByteArray} (h : d.write cwd p content = .ok d') :
    d'.read cwd p = .ok content := by
  obtain ⟨place, hleads, rfl⟩ := write_ok h
  simp [read, resolve_of_leads hleads]

end SuiteForge.Disk
