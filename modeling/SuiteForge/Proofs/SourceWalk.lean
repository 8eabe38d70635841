import SuiteForge.Proofs.Disk.Landing
import SuiteForge.SourceWalk

/-!
# The sources of a directory

Every source that a walk finds is a file where its path leads, unless the path has become too long
to be followed on any disk.
-/

namespace SuiteForge.SourceWalk

open Disk (start Takes IsName)

variable {filter : Filter} {d : Disk} {cwd here : Location} {dir path : Path} {fuel : Nat}

/-- A path whose pieces lead to a directory, and that has some text and no `NUL` in it. -/
structure Reaches (d : Disk) (cwd : Location) (path : Path) (here : Location) (e : Entry) :
    Prop where
  nonempty : path.text ≠ ""
  unended : '\x00' ∉ path.text.toList
  follows : d.follow (start cwd path) path.pieces = .ok (.entry here e)

/-- A path that reaches an entry leads there, unless it is too long. -/
theorem Reaches.resolve {e : Entry} (h : Reaches d cwd path here e) :
    d.resolve cwd path = .ok (.entry here e) ∨
      ∀ d' : Disk, d'.resolve cwd path = .error .nameTooLong := by
  by_cases hlong : Disk.pathLimit < path.text.utf8ByteSize
  · exact Or.inr fun d' => by simp [Disk.resolve, h.nonempty, hlong]
  · exact Or.inl (Disk.resolve_ok_iff.mpr ⟨⟨h.nonempty, Nat.not_lt.mp hlong, h.unended⟩, h.follows⟩)

theorem Reaches.of_resolve {e : Entry} (h : d.resolve cwd path = .ok (.entry here e)) :
    Reaches d cwd path here e := by
  obtain ⟨⟨hnonempty, -, hunended⟩, hfollows⟩ := Disk.resolve_ok_iff.mp h
  exact ⟨hnonempty, hunended, hfollows⟩

/-- From a directory a name reaches what is inside. -/
theorem Reaches.join (htree : d.IsTree) {name : String} {e : Entry}
    (h : Reaches d cwd path here .directory) (hinside : d.entry? (here ++ [name]) = some e) :
    Reaches d cwd (path.join ⟨name⟩) (here ++ [name]) e := by
  obtain ⟨hname, hhere⟩ := htree.of_entry? hinside
  have hnames := hname.names
  obtain ⟨-, hslash, hnul, -⟩ := hname
  have hrelative := Path.isAbsolute_name hslash
  have hlast : d.follow here [name] = .ok (.entry (here ++ [name]) e) := by
    rw [Disk.follow_name hhere hnames, if_pos (Option.isSome_of_eq_some hinside)]
    exact Disk.follow_nil_entry hinside
  refine ⟨?_, ?_, ?_⟩
  · rcases Path.join_text (p := path) hrelative with ⟨hempty, -⟩ | ⟨-, hjoin⟩ | ⟨-, hjoin⟩
    · exact absurd hempty h.nonempty
    · simp [hjoin, h.nonempty]
    · simp [hjoin, h.nonempty]
  · rcases Path.join_text (p := path) hrelative with ⟨hempty, -⟩ | ⟨-, hjoin⟩ | ⟨-, hjoin⟩
    · exact absurd hempty h.nonempty
    · simp [hjoin, String.toList_append, h.unended, hnul]
    · simp [hjoin, String.toList_append, h.unended, hnul]
  · rw [Disk.follow_join h.nonempty hrelative h.follows, Path.pieces_name hslash, hlast]

/-! ### Which files a walk takes in -/

/-- The path that names lead to from a path. -/
def inside (path : Path) (names : List String) : Path :=
  names.foldl (fun path name => path.join ⟨name⟩) path

/-- A walk goes down by names: each is a directory that is not left out. -/
inductive Visits (filter : Filter) (d : Disk) : Location → Path → List String → Prop where
  | here {here : Location} {path : Path} : Visits filter d here path []
  | down {here : Location} {path : Path} {name : String} {names : List String}
      (hdir : d.entry? (here ++ [name]) = some .directory)
      (hkept : filter.ignores (path.join ⟨name⟩) = false)
      (hrest : Visits filter d (here ++ [name]) (path.join ⟨name⟩) names) :
      Visits filter d here path (name :: names)

/-- A walk takes in a file: it gets to the directory around it, and the filter keeps the file. -/
structure TakesIn (filter : Filter) (d : Disk) (here : Location) (path : Path)
    (names : List String) (name : String) : Prop where
  visits : Visits filter d here path names
  file : ∃ c, d.entry? (here ++ names ++ [name]) = some (.file c)
  keeps : filter.keeps ((inside path names).join ⟨name⟩) name = true

/-- What a walk lists at a name: the file, or the ways on through the directory. -/
def listedAt (filter : Filter) (path : Path) (name : String) (below : List (List String)) :
    Option Entry → List (List String)
  | some .directory => if filter.ignores (path.join ⟨name⟩) then [] else below.map (name :: ·)
  | some (.file _) => if filter.keeps (path.join ⟨name⟩) name then [[name]] else []
  | none => []

/-- The names that lead from a directory to its sources, in the order of the walk. -/
def listedFrom (filter : Filter) (d : Disk) : Nat → Location → Path → List (List String)
  | 0, _, _ => []
  | fuel + 1, here, path =>
    (d.names here).flatMap fun name =>
      listedAt filter path name (listedFrom filter d fuel (here ++ [name]) (path.join ⟨name⟩))
        (d.entry? (here ++ [name]))

theorem sourcesFrom_eq_map : sourcesFrom filter d fuel here path =
    (listedFrom filter d fuel here path).map (inside path) := by
  induction fuel generalizing here path with
  | zero => rfl
  | succ fuel ih =>
    rw [sourcesFrom, listedFrom, List.map_flatMap]
    congr 1
    funext name
    dsimp only
    rcases d.entry? (here ++ [name]) with _ | c | _
    · rfl
    · by_cases hkeeps : filter.keeps (path.join ⟨name⟩) name = true
      · simp [listedAt, hkeeps, inside]
      · simp [listedAt, hkeeps]
    · by_cases hignores : filter.ignores (path.join ⟨name⟩) = true
      · simp [listedAt, hignores]
      · simp [listedAt, hignores, ih, inside]

theorem mem_listedAt {e : Option Entry} {name : String} {below : List (List String)}
    {way : List String} : way ∈ listedAt filter path name below e ↔
      (e = some .directory ∧ filter.ignores (path.join ⟨name⟩) = false ∧
        ∃ rest ∈ below, name :: rest = way) ∨
      (∃ c, e = some (.file c)) ∧ filter.keeps (path.join ⟨name⟩) name = true ∧ way = [name] := by
  rcases e with _ | c | _
  · simp [listedAt]
  · simp [listedAt]
  · cases hignores : filter.ignores (path.join ⟨name⟩) <;> simp [listedAt, hignores]

/-- A walk with enough fuel lists just the files that it takes in. -/
theorem mem_listedFrom_iff {way : List String} : way ∈ listedFrom filter d fuel here path ↔
    ∃ names name, names.length < fuel ∧ TakesIn filter d here path names name ∧
      way = names ++ [name] := by
  induction fuel generalizing here path way with
  | zero => simp [listedFrom]
  | succ fuel ih =>
    simp only [listedFrom, List.mem_flatMap, Disk.mem_names_iff, mem_listedAt, ih]
    constructor
    · rintro ⟨name, -, ⟨hdir, hkept, _, ⟨names, last, hfuel, htakes, rfl⟩, rfl⟩ |
        ⟨hfile, hkeeps, rfl⟩⟩
      · obtain ⟨hvisits, hfile, hkeeps⟩ := htakes
        exact ⟨name :: names, last, Nat.succ_lt_succ hfuel,
          ⟨.down hdir hkept hvisits, by simpa using hfile, hkeeps⟩, rfl⟩
      · exact ⟨[], name, Nat.succ_pos fuel, ⟨.here, by simpa using hfile, hkeeps⟩, rfl⟩
    · rintro ⟨names, last, hfuel, ⟨hvisits, hfile, hkeeps⟩, rfl⟩
      cases hvisits with
      | here =>
        have hfile : ∃ c, d.entry? (here ++ [last]) = some (.file c) := by simpa using hfile
        obtain ⟨c, hinside⟩ := hfile
        exact ⟨last, Option.isSome_of_eq_some hinside, Or.inr ⟨⟨c, hinside⟩, hkeeps, rfl⟩⟩
      | @down _ _ name names hdir hkept hrest =>
        exact ⟨name, Option.isSome_of_eq_some hdir, Or.inl ⟨hdir, hkept, _,
          ⟨names, last, Nat.lt_of_succ_lt_succ hfuel, ⟨hrest, by simpa using hfile, hkeeps⟩, rfl⟩,
          rfl⟩⟩

theorem inside_concat (path : Path) (names : List String) (name : String) :
    inside path (names ++ [name]) = (inside path names).join ⟨name⟩ :=
  List.foldl_concat _ _ _ _

theorem le_foldl_max (ns : List Nat) (n : Nat) :
    n ≤ ns.foldl max n ∧ ∀ m ∈ ns, m ≤ ns.foldl max n := by
  induction ns generalizing n with
  | nil => simp
  | cons a ns ih =>
    obtain ⟨hstart, hall⟩ := ih (max n a)
    rw [List.foldl_cons]
    refine ⟨Nat.le_trans (Nat.le_max_left n a) hstart, ?_⟩
    intro m hm
    rcases List.mem_cons.mp hm with rfl | hm
    · exact Nat.le_trans (Nat.le_max_right n m) hstart
    · exact hall m hm

theorem length_le_depth {l : Location} (h : (d.entry? l).isSome) : l.length ≤ depth d := by
  by_cases hl : l = []
  · simp [hl]
  · rw [Disk.entry?_of_ne_nil hl, List.lookup_isSome_iff] at h
    obtain ⟨⟨k, e⟩, hmem, hk⟩ := h
    obtain rfl : l = k := by simpa using hk
    exact (le_foldl_max _ 0).2 _ (List.mem_map.mpr ⟨(l, e), hmem, rfl⟩)

/-- The names that lead from a directory to its sources. -/
def listed (filter : Filter) (d : Disk) (here : Location) (path : Path) : List (List String) :=
  listedFrom filter d (depth d + 1) here path

theorem sources_eq_map (hdir : d.resolve cwd dir = .ok (.entry here .directory)) :
    sources filter d cwd dir = (listed filter d here dir).map (inside dir) := by
  simp only [sources, hdir]
  exact sourcesFrom_eq_map

/-- The walk goes deep enough for every file that it takes in. -/
theorem mem_listed_iff {way : List String} : way ∈ listed filter d here path ↔
    ∃ names name, TakesIn filter d here path names name ∧ way = names ++ [name] := by
  rw [listed, mem_listedFrom_iff]
  constructor
  · rintro ⟨names, name, -, htakes, hway⟩
    exact ⟨names, name, htakes, hway⟩
  · rintro ⟨names, name, htakes, hway⟩
    obtain ⟨c, hfile⟩ := htakes.file
    have hdepth := length_le_depth (Option.isSome_of_eq_some hfile)
    rw [List.length_append, List.length_append, List.length_singleton] at hdepth
    exact ⟨names, name, by omega, htakes, hway⟩

/-- The sources of a directory are the files that the walk takes in. -/
theorem mem_sources_iff {f : Path} (hdir : d.resolve cwd dir = .ok (.entry here .directory)) :
    f ∈ sources filter d cwd dir ↔ ∃ names name, TakesIn filter d here dir names name ∧
      f = (inside dir names).join ⟨name⟩ := by
  rw [sources_eq_map hdir, List.mem_map]
  constructor
  · rintro ⟨way, hway, rfl⟩
    obtain ⟨names, name, htakes, rfl⟩ := mem_listed_iff.mp hway
    exact ⟨names, name, htakes, inside_concat dir names name⟩
  · rintro ⟨names, name, htakes, rfl⟩
    exact ⟨names ++ [name], mem_listed_iff.mpr ⟨names, name, htakes, rfl⟩,
      inside_concat dir names name⟩

theorem Reaches.inside (htree : d.IsTree) {names : List String}
    (h : Reaches d cwd path here .directory) (hvisits : Visits filter d here path names) :
    Reaches d cwd (inside path names) (here ++ names) .directory := by
  induction hvisits with
  | here => simpa [SourceWalk.inside] using h
  | @down here path name names hdir _ _ ih =>
    have hnext := ih (h.join htree hdir)
    rwa [List.append_assoc] at hnext

/-- The path that a file is taken in by reaches the file. -/
theorem TakesIn.reaches (htree : d.IsTree) {names : List String} {name : String}
    (h : TakesIn filter d here path names name) (hpath : Reaches d cwd path here .directory) :
    ∃ c, Reaches d cwd ((inside path names).join ⟨name⟩) (here ++ names ++ [name]) (.file c) := by
  obtain ⟨c, hfile⟩ := h.file
  exact ⟨c, (hpath.inside htree h.visits).join htree hfile⟩

/-- A path reaches one entry only. -/
theorem Reaches.unique {l l' : Location} {e e' : Entry} (h : Reaches d cwd path l e)
    (h' : Reaches d cwd path l' e') : l = l' := by
  have hfollows := h.follows.symm.trans h'.follows
  cases hfollows
  rfl

/-! ### Sources as files -/

/-- Only a directory has sources. -/
theorem resolve_of_source {f : Path} (hf : f ∈ sources filter d cwd dir) :
    ∃ here, d.resolve cwd dir = .ok (.entry here .directory) := by
  unfold sources at hf
  split at hf
  · exact ⟨_, ‹_›⟩
  · cases hf

/-- A source is a file where its path leads, unless the path is too long for any disk. -/
theorem resolve_of_mem_sources (htree : d.IsTree) {f : Path}
    (hf : f ∈ sources filter d cwd dir) :
    (∃ l c, d.resolve cwd f = .ok (.entry l (.file c))) ∨
      ∀ d' : Disk, d'.resolve cwd f = .error .nameTooLong := by
  obtain ⟨here, hdir⟩ := resolve_of_source hf
  obtain ⟨names, name, htakes, rfl⟩ := (mem_sources_iff hdir).mp hf
  obtain ⟨c, hreaches⟩ := htakes.reaches htree (.of_resolve hdir)
  rcases hreaches.resolve with hresolve | hlong
  · exact Or.inl ⟨_, c, hresolve⟩
  · exact Or.inr hlong

/-- The sources of a directory whose names stand in order on the disk. -/
theorem sources_of_names (names : List String)
    (hdir : d.resolve cwd dir = .ok (.entry here .directory))
    (hnames : d.entries.filterMap (fun (k, _) =>
      if k ≠ [] ∧ k.dropLast = here then k.getLast? else none) = names)
    (hsorted : names.Pairwise fun a b => !(b < a)) :
    sources filter d cwd dir = names.flatMap fun name =>
      match d.entry? (here ++ [name]) with
      | some .directory =>
        if filter.ignores (dir.join ⟨name⟩) then []
        else sourcesFrom filter d (depth d) (here ++ [name]) (dir.join ⟨name⟩)
      | some (.file _) => if filter.keeps (dir.join ⟨name⟩) name then [dir.join ⟨name⟩] else []
      | none => [] := by
  have hinside : d.names here = names := by
    rw [Disk.names, hnames]
    exact List.mergeSort_of_pairwise hsorted
  subst hinside
  calc
    sources filter d cwd dir = sourcesFrom filter d (depth d + 1) here dir := by
      simp only [sources, hdir]
    _ = _ := rfl

end SuiteForge.SourceWalk
