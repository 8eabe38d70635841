import SuiteForge.Path
import SuiteForge.Proofs.Text.Lines

/-!
# Pieces and components

The pieces of a joined path are those of its parts. Two paths are the same when they start at the
same end and take the same steps; repeated slashes and inner dots do not count.
-/

namespace SuiteForge

namespace Path

variable {p q : Path} {piece : String} {pieces pieces' : List String}

/-! ### Pieces that lead somewhere else -/

/-- The pieces of a path without the empty ones and the dots. -/
def steps (pieces : List String) : List String :=
  pieces.filter fun piece => piece ≠ "" ∧ piece ≠ "."

theorem steps_stay (h : piece = "" ∨ piece = ".") : steps (piece :: pieces) = steps pieces := by
  rcases h with rfl | rfl <;> simp [steps]

theorem steps_move (h : ¬ (piece = "" ∨ piece = ".")) :
    steps (piece :: pieces) = piece :: steps pieces := by
  have hpiece := not_or.mp h
  simp [steps, hpiece.1, hpiece.2]

@[simp] theorem steps_append : steps (pieces ++ pieces') = steps pieces ++ steps pieces' :=
  List.filter_append _ _

theorem mem_of_mem_piece {c : Char} (h : piece ∈ p.pieces) (hc : c ∈ piece.toList) :
    c ∈ p.text.toList ∧ c ≠ '/' := by
  obtain ⟨chars, hchars, rfl⟩ := List.mem_map.mp h
  exact Text.mem_of_mem_splitOn hchars (by simpa using hc)

/-! ### Joining -/

theorem join_text (hq : q.isAbsolute = false) :
    p.text = "" ∧ p.join q = q ∨
      (∃ front, p.text.toList = front ++ ['/']) ∧ p.join q = ⟨p.text ++ q.text⟩ ∨
      p.text ≠ "" ∧ p.join q = ⟨p.text ++ "/" ++ q.text⟩ := by
  unfold join
  by_cases hp : p.text = ""
  · exact Or.inl ⟨hp, by simp [hp]⟩
  · by_cases hend : p.text.toList.getLast? = some '/'
    · exact Or.inr (Or.inl ⟨List.getLast?_eq_some_iff.mp hend, by simp [hq, hp, hend]⟩)
    · exact Or.inr (Or.inr ⟨hp, by simp [hq, hp, hend]⟩)

theorem slash_mem_join (hp : p.text ≠ "") (hq : q.isAbsolute = false) :
    '/' ∈ (p.join q).text.toList := by
  rcases join_text (p := p) hq with ⟨hempty, -⟩ | ⟨⟨front, hfront⟩, hjoin⟩ | ⟨-, hjoin⟩
  · exact absurd hempty hp
  · simp [hjoin, String.toList_append, hfront]
  · simp [hjoin, String.toList_append]

theorem pieces_name {name : String} (hname : '/' ∉ name.toList) :
    (Path.mk name).pieces = [name] := by
  rw [pieces, Text.splitOn_of_notMem hname]
  simp

theorem isAbsolute_name {name : String} (hname : '/' ∉ name.toList) :
    (Path.mk name).isAbsolute = false := by
  simp only [isAbsolute, decide_eq_false_iff_not]
  exact fun hhead => hname (List.mem_of_mem_head? hhead)

/-- The pieces of a path joined with a relative one. A slash at the end of the path is not
doubled. -/
theorem pieces_join (hp : p.text ≠ "") (hq : q.isAbsolute = false) :
    (p.join q).pieces = p.pieces ++ q.pieces ∨
      ∃ front, p.pieces = front ++ [""] ∧ (p.join q).pieces = front ++ q.pieces := by
  rcases join_text (p := p) hq with ⟨hempty, -⟩ | ⟨⟨front, hfront⟩, hjoin⟩ | ⟨-, hjoin⟩
  · exact absurd hempty hp
  · refine Or.inr ⟨(Text.splitOn '/' front).map String.ofList, ?_, ?_⟩
    · rw [pieces, hfront, Text.splitOn_append]
      simp [Text.splitOn]
    · have htext : (p.text ++ q.text).toList = front ++ '/' :: q.text.toList := by
        simp [String.toList_append, hfront]
      rw [hjoin, pieces, htext, Text.splitOn_append, List.map_append, pieces]
  · have htext : (p.text ++ "/" ++ q.text).toList = p.text.toList ++ '/' :: q.text.toList := by
      simp [String.toList_append]
    refine Or.inl ?_
    rw [hjoin, pieces, htext, Text.splitOn_append, List.map_append, pieces, pieces]

theorem steps_join (hq : q.isAbsolute = false) :
    steps (p.join q).pieces = steps p.pieces ++ steps q.pieces := by
  by_cases hp : p.text = ""
  · simp [join, pieces, hp, Text.splitOn, steps]
  · rcases pieces_join hp hq with hpieces | ⟨front, hfront, hpieces⟩
    · rw [hpieces, steps_append]
    · rw [hpieces, hfront, steps_append, steps_append, steps_stay (Or.inl rfl)]
      simp [steps]

theorem pieces_join_name (hp : p.text ≠ "") {name : String} (hname : '/' ∉ name.toList) :
    (p.join ⟨name⟩).pieces = p.pieces ++ [name] ∨
      ∃ front, p.pieces = front ++ [""] ∧ (p.join ⟨name⟩).pieces = front ++ [name] := by
  have hjoin := pieces_join hp (isAbsolute_name hname)
  rwa [pieces_name hname] at hjoin

theorem isAbsolute_join (hq : q.isAbsolute = false) : (p.join q).isAbsolute = p.isAbsolute := by
  have hhead {x y : List Char} (hx : x ≠ []) : (x ++ y).head? = x.head? := by
    cases x with
    | nil => exact absurd rfl hx
    | cons c cs => rfl
  rcases join_text (p := p) hq with ⟨hp, hjoin⟩ | ⟨⟨front, hfront⟩, hjoin⟩ | ⟨hp, hjoin⟩
  · simpa [hjoin, hq] using (by simp [isAbsolute, hp] : p.isAbsolute = false).symm
  · simp [hjoin, isAbsolute, String.toList_append, hhead (x := p.text.toList) (by simp [hfront])]
  · have hp : p.text.toList ≠ [] := by simpa using hp
    simp [hjoin, isAbsolute, String.toList_append, hhead hp]

theorem join_of_absolute (hq : q.isAbsolute = true) : p.join q = q := by
  simp [join, hq]

theorem join_of_empty (hp : p.text = "") : p.join q = q := by
  simp [join, hp]

theorem join_of_relative (hp : p.text ≠ "") (hq : q.isAbsolute = false) : p.join q =
    ⟨p.text ++ (if p.text.toList.getLast? = some '/' then "" else "/") ++ q.text⟩ := by
  by_cases hslash : p.text.toList.getLast? = some '/'
  · simp [join, hp, hq, hslash]
  · simp [join, hp, hq, hslash]

theorem join_assoc (p q r : Path) : (p.join q).join r = p.join (q.join r) := by
  cases hr : r.isAbsolute with
  | true => rw [join_of_absolute hr, join_of_absolute hr, join_of_absolute hr]
  | false =>
    have hinner : (q.join r).isAbsolute = q.isAbsolute := isAbsolute_join hr
    cases hq : q.isAbsolute with
    | true => rw [join_of_absolute hq, join_of_absolute (hinner.trans hq)]
    | false =>
      by_cases hp : p.text = ""
      · rw [join_of_empty hp, join_of_empty hp]
      · have hpq := join_of_relative hp hq
        have hne : (p.join q).text ≠ "" := by simp [hpq, hp]
        rw [join_of_relative hp (hinner.trans hq), join_of_relative hne hr, hpq]
        by_cases hempty : q.text = ""
        · by_cases hslash : p.text.toList.getLast? = some '/'
          · simp [join_of_empty, hempty, hslash]
          · simp [join_of_empty, hempty, hslash]
        · -- what stands at the end of the joined path stands at the end of its second part
          rw [join_of_relative hempty hr]
          simp [List.getLast?_append, hempty, String.append_assoc]

/-! ### Components -/

/-- The step that a component stands for. -/
def Component.step? : Component → Option String
  | .root => none
  | .current => none
  | .parent => some ".."
  | .name text => some text

theorem step?_component? (atStart : Bool) (piece : String) :
    (component? atStart piece).bind Component.step? =
      if piece = "" ∨ piece = "." then none else some piece := by
  unfold component?
  by_cases hempty : piece = ""
  · simp [hempty]
  · by_cases hdot : piece = "."
    · cases atStart <;> simp [hdot, Component.step?]
    · by_cases hdots : piece = ".." <;> simp [hempty, hdot, hdots, Component.step?]

theorem root_ne_component? (atStart : Bool) (piece : String) :
    component? atStart piece ≠ some .root := by
  unfold component?
  split
  · simp
  · split
    · split <;> simp
    · split <;> simp

/-- The steps of a path are told by its components. -/
theorem steps_pieces (p : Path) : steps p.pieces = p.components.filterMap Component.step? := by
  have hplaced : ∀ xs : List (String × Nat),
      ((xs.filterMap fun x =>
        (component? (x.2 = 0 && !p.isAbsolute) x.1).map (x.2, ·)).map Prod.snd).filterMap
          Component.step? = steps (xs.map Prod.fst) := by
    intro xs
    induction xs with
    | nil => rfl
    | cons x xs ih =>
      obtain ⟨piece, i⟩ := x
      have hstep := step?_component? (i = 0 && !p.isAbsolute) piece
      rw [List.map_cons]
      by_cases hpiece : piece = "" ∨ piece = "."
      · rw [steps_stay hpiece, ← ih]
        rw [if_pos hpiece] at hstep
        cases hcomponent : component? (i = 0 && !p.isAbsolute) piece with
        | none => simp [hcomponent]
        | some component =>
          rw [hcomponent] at hstep
          simp [hcomponent, show component.step? = none from hstep]
      · rw [steps_move hpiece, ← ih]
        rw [if_neg hpiece] at hstep
        cases hcomponent : component? (i = 0 && !p.isAbsolute) piece with
        | none => simp [hcomponent] at hstep
        | some component =>
          rw [hcomponent] at hstep
          simp [hcomponent, show component.step? = some piece from hstep]
  have hroot : (if p.isAbsolute then [Component.root] else []).filterMap Component.step? = [] := by
    split <;> rfl
  rw [components, List.filterMap_append, hroot, List.nil_append, placed, hplaced,
    List.zipIdx_map_fst]

theorem root_mem_components : Component.root ∈ p.components ↔ p.isAbsolute = true := by
  have hplaced : Component.root ∉ p.placed.map Prod.snd := by
    intro hmem
    obtain ⟨⟨i, component⟩, hmem, hroot⟩ := List.mem_map.mp hmem
    obtain ⟨⟨piece, j⟩, -, hpiece⟩ := List.mem_filterMap.mp hmem
    obtain ⟨found, hfound, hpair⟩ := Option.map_eq_some_iff.mp hpiece
    obtain ⟨-, rfl⟩ := Prod.mk.inj hpair
    obtain rfl : found = .root := hroot
    exact root_ne_component? _ _ hfound
  rw [components, List.mem_append]
  cases p.isAbsolute <;> simp [hplaced]

theorem component?_empty (atStart : Bool) : component? atStart "" = none := by
  simp [component?]

theorem components_join_name {name : String} (hslash : '/' ∉ name.toList)
    (hname : name ≠ "" ∧ name ≠ "." ∧ name ≠ "..") :
    (p.join ⟨name⟩).components = p.components ++ [.name name] := by
  have hcomponent (atStart : Bool) : component? atStart name = some (.name name) := by
    simp [component?, hname]
  have habsolute : (p.join ⟨name⟩).isAbsolute = p.isAbsolute :=
    isAbsolute_join (isAbsolute_name hslash)
  by_cases hp : p.text = ""
  · have hjoin : p.join ⟨name⟩ = ⟨name⟩ := by simp [join, hp]
    have hempty : p.components = [] := by
      simp [components, placed, pieces, isAbsolute, hp, Text.splitOn, component?_empty]
    rw [hjoin, hempty]
    simp [components, placed, pieces_name hslash, isAbsolute_name hslash, hcomponent]
  · rw [components, components, placed, placed, habsolute]
    rcases pieces_join_name hp hslash with hpieces | ⟨front, hfront, hpieces⟩
    · simp [hpieces, List.zipIdx_append, hcomponent]
    · -- the empty piece behind a slash at the end is no component
      simp [hpieces, hfront, List.zipIdx_append, hcomponent, component?_empty]

/-! ### File names -/

/-- The extension is what follows the last point, unless that comes first. -/
theorem extensionOf?_iff {name extension : String} : extensionOf? name = some extension ↔
    '.' ∉ extension.toList ∧ ∃ front ≠ [], name.toList = front ++ '.' :: extension.toList := by
  unfold extensionOf?
  constructor
  · intro h
    split at h
    · rename_i rest c front hsplit
      obtain ⟨hpoint, hreverse⟩ := Text.splitOnce_singleton_iff.mp hsplit
      obtain rfl := Option.some.inj h
      refine ⟨by simpa using hpoint, (c :: front).reverse, by simp, ?_⟩
      rw [← List.reverse_reverse name.toList, hreverse]
      simp
    · cases h
  · rintro ⟨hpoint, front, hfront, hname⟩
    have hsplit : Text.splitOnce ['.'] name.toList.reverse =
        some (extension.toList.reverse, front.reverse) := by
      rw [Text.splitOnce_singleton_iff, hname]
      simpa using hpoint
    rw [hsplit]
    cases hreverse : front.reverse with
    | nil => exact absurd (List.reverse_eq_nil_iff.mp hreverse) hfront
    | cons c cs => simp

theorem extension?_join_name {name : String} (hslash : '/' ∉ name.toList)
    (hname : name ≠ "" ∧ name ≠ "." ∧ name ≠ "..") :
    (p.join ⟨name⟩).extension? = extensionOf? name := by
  simp [extension?, fileName?, components_join_name hslash hname]

/-! ### The same path -/

/-- The same path starts at the same end and takes the same steps. -/
theorem same_iff : p.same q = true ↔ p.components = q.components := by
  simp [same]

theorem isAbsolute_eq_of_same (h : p.same q = true) : p.isAbsolute = q.isAbsolute := by
  rw [same_iff] at h
  rw [Bool.eq_iff_iff, ← root_mem_components, ← root_mem_components, h]

theorem steps_eq_of_same (h : p.same q = true) : steps p.pieces = steps q.pieces := by
  rw [same_iff] at h
  rw [steps_pieces, steps_pieces, h]

theorem same_refl (p : Path) : p.same p = true := by
  rw [same_iff]

theorem same_symm (h : p.same q = true) : q.same p = true := by
  rw [same_iff] at h ⊢
  exact h.symm

theorem same_trans {r : Path} (h : p.same q = true) (h' : q.same r = true) :
    p.same r = true := by
  rw [same_iff] at h h' ⊢
  exact h.trans h'

end Path
end SuiteForge
