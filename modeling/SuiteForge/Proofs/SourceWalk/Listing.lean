import SuiteForge.Proofs.Disk.Listing
import SuiteForge.Proofs.SourceWalk
import SuiteForge.Proofs.Text.ByteOrder

/-!
# What a walk lists

A walk through a directory lists the files that its settings ask for, all of them and each once. It
goes depth first, and through every directory in the order of the bytes of the names in it.
-/

namespace SuiteForge.SourceWalk

open Text (Parts bytes)

variable {filter : Filter} {s : Settings} {d : Disk} {cwd here : Location} {dir path : Path}
  {fuel : Nat} {name : String} {names way : List String}

/-! ### The order of a walk -/

/-- Two ways part at two neighbours, of which the first has the smaller bytes. -/
def Ahead (way way' : List String) : Prop := Parts (fun a b => bytes a < bytes b) way way'

theorem Ahead.ne {way way' : List String} (h : Ahead way way') : way ≠ way' :=
  Parts.ne (fun _ => List.lt_irrefl _) h

theorem pairwise_listedAt {below : List (List String)} (h : below.Pairwise Ahead)
    (e : Option Entry) : (listedAt filter path name below e).Pairwise Ahead := by
  have hmap : (below.map (name :: ·)).Pairwise Ahead := List.pairwise_map.mpr (h.imp .later)
  rcases e with _ | c | _
  · exact .nil
  · rw [listedAt]
    split
    · exact List.pairwise_singleton _ _
    · exact .nil
  · rw [listedAt]
    split
    · exact .nil
    · exact hmap

theorem exists_cons_of_mem_listedAt {below : List (List String)} {e : Option Entry}
    (h : way ∈ listedAt filter path name below e) : ∃ rest, way = name :: rest := by
  obtain ⟨-, -, rest, -, rfl⟩ | ⟨-, -, rfl⟩ := mem_listedAt.mp h
  · exact ⟨rest, rfl⟩
  · exact ⟨[], rfl⟩

/-- What is listed below a name stands before what is listed below a later one. -/
theorem pairwise_listedFrom (hone : d.OneEach) :
    (listedFrom filter d fuel here path).Pairwise Ahead := by
  induction fuel generalizing here path with
  | zero => exact .nil
  | succ fuel ih =>
    rw [listedFrom, List.pairwise_flatMap]
    refine ⟨fun name _ => pairwise_listedAt ih _, (hone.names_ascend here).imp ?_⟩
    intro a b hlt way hway way' hway'
    obtain ⟨rest, rfl⟩ := exists_cons_of_mem_listedAt hway
    obtain ⟨rest', rfl⟩ := exists_cons_of_mem_listedAt hway'
    exact .here (Text.bytes_lt hlt)

/-! ### Which files the settings ask for -/

/-- The settings ask for a file below a directory. The directory that a walk starts from is not
asked whether it is left out. -/
structure AskedFor (s : Settings) (d : Disk) (here : Location) (dir : Path) (names : List String)
    (name : String) : Prop where
  file : ∃ c, d.entry? (here ++ names ++ [name]) = some (.file c)
  extension : Path.extensionOf? name = some s.generation.extension
  included : ∀ pattern ∈ s.generation.excludePatterns, ∀ tokens ∈ Text.globOf? pattern.toList,
    Text.Glob.fits tokens name.toList = false
  kept : ∀ front, front ≠ [] → front <+: names → ∀ ignored ∈ s.ignoreDirectories,
    ¬ (Path.mk ignored).components <:+ (inside dir front).components

theorem ignores_ofSettings : (Filter.ofSettings s).ignores path = false ↔
    ∀ ignored ∈ s.ignoreDirectories, ¬ (Path.mk ignored).components <:+ path.components := by
  simp [Filter.ignores, Filter.ofSettings, Path.endsWith]

theorem keepsName_ofSettings : (Filter.ofSettings s).keepsName name = true ↔
    ∀ pattern ∈ s.generation.excludePatterns, ∀ tokens ∈ Text.globOf? pattern.toList,
      Text.Glob.fits tokens name.toList = false := by
  rw [Filter.keepsName, Bool.not_eq_true', List.any_eq_false]
  simp only [Filter.ofSettings, List.mem_filterMap, Bool.not_eq_true]
  constructor
  · exact fun h pattern hpattern tokens htokens => h tokens ⟨pattern, hpattern, htokens⟩
  · rintro h tokens ⟨pattern, hpattern, htokens⟩
    exact h pattern hpattern tokens htokens

/-- A walk goes down where every directory on the way is kept. -/
theorem visits_iff : Visits filter d here path names ↔ ∀ front, front ≠ [] → front <+: names →
    d.entry? (here ++ front) = some .directory ∧ filter.ignores (inside path front) = false := by
  constructor
  · intro h
    induction h with
    | here => exact fun front hne hprefix => absurd (List.prefix_nil.mp hprefix) hne
    | @down here path name names hdir hkept _ ih =>
      intro front hne hprefix
      obtain ⟨first, rest, rfl⟩ := List.exists_cons_of_ne_nil hne
      obtain ⟨rfl, hinside⟩ := List.cons_prefix_cons.mp hprefix
      by_cases hrest : rest = []
      · exact hrest ▸ ⟨hdir, hkept⟩
      · have hbelow := ih rest hrest hinside
        rwa [List.append_assoc] at hbelow
  · intro h
    induction names generalizing here path with
    | nil => exact .here
    | cons name names ih =>
      obtain ⟨hdir, hkept⟩ := h [name] (by simp) (by simp)
      refine .down hdir hkept (ih fun front hne hprefix => ?_)
      have hrest := h (name :: front) (by simp) (List.cons_prefix_cons.mpr ⟨rfl, hprefix⟩)
      rwa [List.append_cons] at hrest

/-- A walk takes in just the files that its settings ask for. -/
theorem takesIn_iff (htree : d.IsTree) :
    TakesIn (.ofSettings s) d here dir names name ↔ AskedFor s d here dir names name := by
  have hkeeps (c : ByteArray) (hfile : d.entry? (here ++ names ++ [name]) = some (.file c)) :
      (Filter.ofSettings s).keeps ((inside dir names).join ⟨name⟩) name = true ↔
        Path.extensionOf? name = some s.generation.extension ∧
          (Filter.ofSettings s).keepsName name = true := by
    obtain ⟨⟨hmoves, hslash, -⟩, -⟩ := htree.of_entry? hfile
    rw [Filter.keeps, Bool.and_eq_true, decide_eq_true_iff,
      Path.extension?_join_name hslash hmoves]
    rfl
  constructor
  · rintro ⟨hvisits, ⟨c, hfile⟩, hkept⟩
    obtain ⟨hextension, hincluded⟩ := (hkeeps c hfile).mp hkept
    exact ⟨⟨c, hfile⟩, hextension, keepsName_ofSettings.mp hincluded, fun front hne hprefix =>
      ignores_ofSettings.mp (visits_iff.mp hvisits front hne hprefix).2⟩
  · rintro ⟨⟨c, hfile⟩, hextension, hincluded, hkept⟩
    refine ⟨visits_iff.mpr fun front hne hprefix => ⟨?_, ?_⟩, ⟨c, hfile⟩,
      (hkeeps c hfile).mpr ⟨hextension, keepsName_ofSettings.mpr hincluded⟩⟩
    · -- what holds a file is a directory
      obtain ⟨rest, rfl⟩ := hprefix
      have hbelow : d.entry? (here ++ front ++ (rest ++ [name])) = some (.file c) := by
        simpa using hfile
      exact htree.directory_of_append (by simp) hbelow
    · exact ignores_ofSettings.mpr (hkept front hne hprefix)

/-! ### What a walk lists -/

/-- A walk from a directory lists its sources by the ways to them. -/
structure Lists (s : Settings) (d : Disk) (cwd here : Location) (dir : Path)
    (ways : List (List String)) : Prop where
  sources_eq : sources (.ofSettings s) d cwd dir = ways.map (inside dir)
  nodup : (sources (.ofSettings s) d cwd dir).Nodup
  ahead : ways.Pairwise Ahead
  mem_iff : ∀ way, way ∈ ways ↔
    ∃ names name, AskedFor s d here dir names name ∧ way = names ++ [name]
  reaches : ∀ way ∈ ways, ∃ c, Reaches d cwd (inside dir way) (here ++ way) (.file c)

/-- The sources of a directory of a tree are the files that the settings ask for, each once, in the
order of the bytes of their names. -/
theorem sources_listed (s : Settings) (d : Disk) (cwd here : Location) (dir : Path)
    (htree : d.IsTree) (hone : d.OneEach)
    (hdir : d.resolve cwd dir = .ok (.entry here .directory)) :
    ∃ ways, Lists s d cwd here dir ways := by
  have hways : sources (.ofSettings s) d cwd dir =
      (listed (.ofSettings s) d here dir).map (inside dir) := sources_eq_map hdir
  have hahead : (listed (.ofSettings s) d here dir).Pairwise Ahead := pairwise_listedFrom hone
  have hmem (way : List String) : way ∈ listed (.ofSettings s) d here dir ↔
      ∃ names name, AskedFor s d here dir names name ∧ way = names ++ [name] := by
    simp only [mem_listed_iff, takesIn_iff htree]
  have hreaches : ∀ way ∈ listed (.ofSettings s) d here dir,
      ∃ c, Reaches d cwd (inside dir way) (here ++ way) (.file c) := by
    intro way hway
    obtain ⟨names, name, htakes, rfl⟩ := mem_listed_iff.mp hway
    rw [inside_concat, ← List.append_assoc]
    exact htakes.reaches htree (.of_resolve hdir)
  refine ⟨listed (.ofSettings s) d here dir, hways, ?_, hahead, hmem, hreaches⟩
  -- a path leads to one place, so two ways have two paths
  rw [hways]
  refine List.Nodup.map_on ?_ (hahead.imp Ahead.ne)
  intro way hway way' hway' hpath
  obtain ⟨c, hc⟩ := hreaches way hway
  obtain ⟨c', hc'⟩ := hreaches way' hway'
  rw [hpath] at hc
  exact List.append_cancel_left (hc.unique hc')

/-- A directory that has one of its own name in it, and a directory whose name comes before that of
a file. -/
def shop : Disk :=
  ⟨[(["app"], .directory), (["app", "Zoo.php"], .file "<?php class Zoo".toUTF8),
    (["app", "app"], .directory), (["app", "app", "Lost.php"], .file "".toUTF8),
    (["app", "Models"], .directory), (["app", "Models", "User.php"], .file "".toUTF8),
    (["app", "Models", "UserTest.php"], .file "".toUTF8)]⟩

theorem sources_listed_shop : shop.IsTree ∧ shop.OneEach ∧
    shop.resolve [] ⟨"app"⟩ = .ok (.entry ["app"] .directory) ∧
      ∃ ways, Lists { ignoreDirectories := ["app"] } shop [] ["app"] ⟨"app"⟩ ways := by
  have htree : shop.IsTree := by decide +kernel
  have hone : shop.OneEach := by decide +kernel
  have hdir : shop.resolve [] ⟨"app"⟩ = .ok (.entry ["app"] .directory) := rfl
  exact ⟨htree, hone, hdir, sources_listed _ _ _ _ _ htree hone hdir⟩

end SuiteForge.SourceWalk
