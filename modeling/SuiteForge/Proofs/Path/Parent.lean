import SuiteForge.Proofs.Path.Pieces

/-!
# Parents

The pieces of a path begin with the pieces of its parent, except that a path of one component has
the empty path or the root as its parent.
-/

namespace SuiteForge.Path

variable {p q up : Path} {piece : String} {i : Nat} {component : Component}

theorem pieces_ne_nil (p : Path) : p.pieces ≠ [] := by
  simp [pieces, Text.splitOn_ne_nil]

/-- Pieces without slashes are the pieces of their joined text. -/
theorem pieces_intercalate {ps : List String} (hne : ps ≠ [])
    (hps : ∀ piece ∈ ps, '/' ∉ piece.toList) : (Path.mk ("/".intercalate ps)).pieces = ps := by
  have hround : String.ofList ∘ String.toList = id := by
    funext s
    simp
  have hslash : "/".toList = ['/'] := rfl
  rw [pieces, String.toList_intercalate, Text.splitOn_eq, hslash,
    List.splitOn_intercalate '/' (by simpa using hps) (by simpa using hne), List.map_map, hround,
    List.map_id]

theorem piece_of_mem_placed (h : (i, component) ∈ p.placed) :
    ∃ piece, p.pieces[i]? = some piece ∧
      component? (i = 0 && !p.isAbsolute) piece = some component := by
  obtain ⟨⟨piece, j⟩, hmem, hpiece⟩ := List.mem_filterMap.mp h
  obtain ⟨found, hfound, hpair⟩ := Option.map_eq_some_iff.mp hpiece
  obtain ⟨rfl, rfl⟩ := Prod.mk.inj hpair
  exact ⟨piece, List.mem_zipIdx_iff_getElem?.mp hmem, hfound⟩

/-- An absolute path has an empty piece in front of another one. -/
theorem isAbsolute_iff_pieces :
    p.isAbsolute = true ↔ ∃ second rest, p.pieces = "" :: second :: rest := by
  unfold isAbsolute pieces
  cases htext : p.text.toList with
  | nil => simp [Text.splitOn]
  | cons c cs =>
    cases hcs : Text.splitOn '/' cs with
    | nil => exact absurd hcs Text.splitOn_ne_nil
    | cons first rest =>
      by_cases hc : c = '/'
      · simp [Text.splitOn, hc, hcs]
      · simp [Text.splitOn, hc, hcs]

/-- A parent is the root or the empty path, or its pieces are the first ones of the path. -/
theorem parent_cases (h : p.parent? = some up) :
    up = ⟨if p.isAbsolute then "/" else ""⟩ ∨
      up.isAbsolute = p.isAbsolute ∧ ∃ rest, p.pieces = up.pieces ++ rest := by
  unfold parent? at h
  split at h
  · cases h
  · exact Or.inl (Option.some.inj h).symm
  · rename_i last i component front hplaced
    obtain rfl : (⟨p.slice 0 i⟩ : Path) = up := Option.some.inj h
    have hmem : (i, component) ∈ p.placed := by
      rw [← List.mem_reverse, hplaced]
      exact List.mem_cons_of_mem _ List.mem_cons_self
    obtain ⟨piece, hpiece, hcomponent⟩ := piece_of_mem_placed hmem
    have hslice : p.slice 0 i = "/".intercalate (p.pieces.take (i + 1)) := by simp [slice]
    have hpieces : (Path.mk (p.slice 0 i)).pieces = p.pieces.take (i + 1) := by
      rw [hslice]
      refine pieces_intercalate (by simpa using pieces_ne_nil p) ?_
      intro piece hpiece hslash
      exact (mem_of_mem_piece (List.mem_of_mem_take hpiece) hslash).2 rfl
    refine Or.inr ⟨?_, p.pieces.drop (i + 1), by rw [hpieces, List.take_append_drop]⟩
    rw [Bool.eq_iff_iff, isAbsolute_iff_pieces, isAbsolute_iff_pieces, hpieces]
    constructor
    · rintro ⟨second, rest, htake⟩
      refine ⟨second, rest ++ p.pieces.drop (i + 1), ?_⟩
      have hall := List.take_append_drop (i + 1) p.pieces
      rw [htake] at hall
      exact hall.symm
    · rintro ⟨second, rest, habs⟩
      cases i with
      | zero =>
        -- an absolute path begins with an empty piece, which is no component
        obtain rfl : "" = piece := by simpa [habs] using hpiece
        simp [component?_empty] at hcomponent
      | succ i => exact ⟨second, rest.take i, by simp [habs]⟩

/-- A path is above another one that it is reached from by going to the parent again and again. -/
inductive Above : Path → Path → Prop where
  | parent {p up : Path} (h : p.parent? = some up) : Above up p
  | higher {p up top : Path} (h : p.parent? = some up) (habove : Above top up) : Above top p

end SuiteForge.Path
