import SuiteForge.Proofs.Association
import SuiteForge.Proofs.Template

/-!
# All markers at once

Markers in a template never overlap, so they can all be replaced at once: each position of the
template gives the value of the marker that begins there, or nothing if it is inside a marker that
has a value, or else its own character. Filling a template is that, whatever the braces around the
markers and in the values.
-/

namespace SuiteForge.Template

open Text

variable {values values' : Placeholders} {c : Char} {value : String} {i j : Nat}
  {s front back rest key key' piece piece' out out' : List Char}

/-! ### Markers -/

/-- A key in double braces, itself free of braces, stands at a position of a text. -/
structure MarkerAt (s : List Char) (i : Nat) (key : List Char) : Prop where
  bare : Bare key
  stands : marker key <+: s.drop i

theorem markerAt_append (front s : List Char) (i : Nat) (key : List Char) :
    MarkerAt (front ++ s) (front.length + i) key ↔ MarkerAt s i key := by
  constructor
  · rintro ⟨hbare, hstands⟩
    exact ⟨hbare, by rwa [List.drop_length_add_append] at hstands⟩
  · rintro ⟨hbare, hstands⟩
    exact ⟨hbare, by rwa [List.drop_length_add_append]⟩

theorem markerAt_zero_iff : MarkerAt s 0 key ↔ Bare key ∧ ∃ rest, s = marker key ++ rest := by
  constructor
  · rintro ⟨hbare, rest, hrest⟩
    exact ⟨hbare, rest, hrest.symm⟩
  · rintro ⟨hbare, rest, rfl⟩
    exact ⟨hbare, List.prefix_append _ _⟩

/-- No marker begins behind the first brace of a marker, whatever follows. -/
theorem inert_placeholderAt? (hkey : Bare key) :
    Inert placeholderAt? ('\x7b' :: (key ++ ['\x7d', '\x7d'])) := by
  intro y z rest h hz
  cases hfound : placeholderAt? (z ++ rest) with
  | none => rfl
  | some found =>
    obtain ⟨-, hbegins⟩ := placeholderAt?_eq_some_iff.mp hfound
    exfalso
    cases z with
    | nil => exact hz rfl
    | cons b z =>
      obtain ⟨rfl, hnext⟩ := List.cons.inj hbegins
      cases y with
      | nil =>
        -- the second brace of the marker would be in the key or behind it
        obtain rfl : key ++ ['\x7d', '\x7d'] = z := (List.cons.inj h).2
        cases hkey' : key ++ ['\x7d', '\x7d'] with
        | nil => simp at hkey'
        | cons d more =>
          rw [hkey'] at hnext
          obtain rfl : d = '\x7b' := (List.cons.inj hnext).1
          exact hkey.not_mem (hkey' ▸ List.mem_cons_self)
      | cons a y =>
        have hinside : key ++ ['\x7d', '\x7d'] = y ++ '\x7b' :: z := (List.cons.inj h).2
        exact hkey.not_mem (hinside ▸ List.mem_append_right y List.mem_cons_self)

theorem MarkerAt.placeholderAt? (h : MarkerAt s i key) :
    ∃ rest, placeholderAt? (s.drop i) = some (key, rest) ∧ s.drop i = marker key ++ rest := by
  obtain ⟨rest, hrest⟩ := h.stands
  exact ⟨rest, placeholderAt?_eq_some_iff.mpr ⟨h.bare, hrest.symm⟩, hrest.symm⟩

theorem MarkerAt.unique (h : MarkerAt s i key) (h' : MarkerAt s i key') : key = key' := by
  obtain ⟨rest, hfound, -⟩ := h.placeholderAt?
  obtain ⟨rest', hfound', -⟩ := h'.placeholderAt?
  rw [hfound] at hfound'
  exact (Prod.mk.inj (Option.some.inj hfound')).1

/-- Markers never overlap. -/
theorem MarkerAt.disjoint (h : MarkerAt s i key) (h' : MarkerAt s j key') (hij : i < j) :
    i + (marker key).length ≤ j := by
  refine Nat.le_of_not_lt fun hinside => ?_
  obtain ⟨m, rfl⟩ : ∃ m, j = i + (m + 1) := ⟨j - i - 1, by omega⟩
  obtain ⟨rest, -, hrest⟩ := h.placeholderAt?
  obtain ⟨rest', hfound', -⟩ := h'.placeholderAt?
  have hm : m < ('\x7b' :: (key ++ ['\x7d', '\x7d'])).length := by
    simp only [length_marker, List.length_cons, List.length_append, List.length_nil] at hinside ⊢
    omega
  have hdrop : s.drop (i + (m + 1)) =
      ('\x7b' :: (key ++ ['\x7d', '\x7d'])).drop m ++ rest := by
    rw [← List.drop_drop, hrest, ← List.drop_append_of_le_length (Nat.le_of_lt hm)]
    rfl
  have hnone := inert_placeholderAt? h.bare _ _ rest (List.take_append_drop m _).symm
    (fun hnil => Nat.not_le.mpr hm (List.drop_eq_nil_iff.mp hnil))
  rw [hdrop, hnone] at hfound'
  cases hfound'

/-! ### Filling, a character at a time -/

theorem inert_filledAt (hkey : Bare key) :
    Inert (filledAt values) ('\x7b' :: (key ++ ['\x7d', '\x7d'])) := by
  intro y z rest h hz
  rw [filledAt, inert_placeholderAt? hkey y z rest h hz]

theorem fill_nil : replaceMatches (filledAt values) [] = [] := rfl

/-- A character at which no marker with a value begins stays as it is. -/
theorem fill_kept (h : ∀ key, MarkerAt (c :: s) 0 key → values.get? (String.ofList key) = none) :
    replaceMatches (filledAt values) (c :: s) = c :: replaceMatches (filledAt values) s := by
  cases hfound : placeholderAt? (c :: s) with
  | none => simp [replaceMatches, replaceFrom, filledAt, hfound]
  | some found =>
    obtain ⟨key, rest⟩ := found
    obtain ⟨hkey, heq⟩ := placeholderAt?_eq_some_iff.mp hfound
    have hvalue := h key (markerAt_zero_iff.mpr ⟨hkey, rest, heq⟩)
    obtain ⟨rfl, rfl⟩ := List.cons.inj heq
    have hmatch : filledAt values (marker key ++ rest) = some (marker key, rest) := by
      simp only [filledAt, placeholderAt?_eq_some_iff.mpr ⟨hkey, rfl⟩, hvalue]
      rfl
    -- the scan goes on behind the whole marker, where it would find nothing before
    calc
      replaceMatches (filledAt values) (marker key ++ rest) =
          marker key ++ replaceMatches (filledAt values) rest := replaceMatches_of_match hmatch
      _ = '\x7b' :: replaceMatches (filledAt values)
          ('\x7b' :: (key ++ ['\x7d', '\x7d']) ++ rest) := by
        rw [(inert_filledAt hkey).replaceMatches_append]
        rfl

/-- A template is read from the left: it begins with a marker that has a value, or with a character
at which none begins. -/
@[elab_as_elim]
theorem induction_parts (values : Placeholders) {motive : List Char → Prop} (nil : motive [])
    (filled : ∀ key value rest, Bare key → values.get? (String.ofList key) = some value →
      motive rest → motive (marker key ++ rest))
    (kept : ∀ c s, (∀ key, MarkerAt (c :: s) 0 key → values.get? (String.ofList key) = none) →
      motive s → motive (c :: s))
    (s : List Char) : motive s := by
  induction hn : s.length using Nat.strongRecOn generalizing s with
  | _ n ih =>
    cases s with
    | nil => exact nil
    | cons c s =>
      by_cases h : ∃ key value, MarkerAt (c :: s) 0 key ∧
          values.get? (String.ofList key) = some value
      · obtain ⟨key, value, hmarker, hvalue⟩ := h
        obtain ⟨hkey, rest, hrest⟩ := markerAt_zero_iff.mp hmarker
        have hshorter : rest.length < n := by
          rw [← hn, hrest, List.length_append, length_marker]
          omega
        exact hrest ▸ filled key value rest hkey hvalue (ih _ hshorter rest rfl)
      · refine kept c s (fun key hmarker => ?_) (ih s.length (by simp [← hn]) s rfl)
        cases hvalue : values.get? (String.ofList key) with
        | none => rfl
        | some value => exact absurd ⟨key, value, hmarker, hvalue⟩ h

/-! ### Filling, all markers at once -/

/-- What a position of a template gives when all markers that have a value are replaced at once. -/
inductive Gives (values : Placeholders) (s : List Char) (i : Nat) : List Char → Prop where
  | replaced {key : List Char} {value : String} (hmarker : MarkerAt s i key)
      (hvalue : values.get? (String.ofList key) = some value) : Gives values s i value.toList
  | covered {j : Nat} {key : List Char} {value : String} (hmarker : MarkerAt s j key)
      (hvalue : values.get? (String.ofList key) = some value) (hbehind : j < i)
      (hinside : i < j + (marker key).length) : Gives values s i []
  | kept {c : Char} (hc : s[i]? = some c)
      (hfree : ∀ j key value, MarkerAt s j key → values.get? (String.ofList key) = some value →
        j ≤ i → j + (marker key).length ≤ i) : Gives values s i [c]

/-- A text is put together from what each position of the template gives. -/
def Filled (values : Placeholders) (s out : List Char) : Prop :=
  ∃ pieces : List (List Char), pieces.length = s.length ∧
    (∀ i piece, pieces[i]? = some piece → Gives values s i piece) ∧ out = pieces.flatten

theorem Gives.unique (h : Gives values s i piece) (h' : Gives values s i piece') :
    piece = piece' := by
  -- a marker at the position, a marker around it and a free position exclude each other
  cases h with
  | replaced hmarker hvalue =>
    cases h' with
    | replaced hmarker' hvalue' =>
      obtain rfl := hmarker.unique hmarker'
      rw [hvalue] at hvalue'
      rw [Option.some.inj hvalue']
    | covered hmarker' _ hbehind hinside =>
      exact absurd (hmarker'.disjoint hmarker hbehind) (Nat.not_le.mpr hinside)
    | kept _ hfree =>
      have hend := hfree _ _ _ hmarker hvalue (Nat.le_refl i)
      rw [length_marker] at hend
      omega
  | covered hmarker hvalue hbehind hinside =>
    cases h' with
    | replaced hmarker' _ =>
      exact absurd (hmarker.disjoint hmarker' hbehind) (Nat.not_le.mpr hinside)
    | covered => rfl
    | kept _ hfree =>
      exact absurd (hfree _ _ _ hmarker hvalue (Nat.le_of_lt hbehind)) (Nat.not_le.mpr hinside)
  | kept hc hfree =>
    cases h' with
    | replaced hmarker' hvalue' =>
      have hend := hfree _ _ _ hmarker' hvalue' (Nat.le_refl i)
      rw [length_marker] at hend
      omega
    | covered hmarker' hvalue' hbehind hinside =>
      exact absurd (hfree _ _ _ hmarker' hvalue' (Nat.le_of_lt hbehind)) (Nat.not_le.mpr hinside)
    | kept hc' _ =>
      rw [hc] at hc'
      rw [Option.some.inj hc']

theorem Filled.unique (h : Filled values s out) (h' : Filled values s out') : out = out' := by
  obtain ⟨pieces, hlength, hgives, rfl⟩ := h
  obtain ⟨pieces', hlength', hgives', rfl⟩ := h'
  refine congrArg List.flatten (List.ext_getElem (hlength.trans hlength'.symm) ?_)
  intro i hi hi'
  exact (hgives i _ (List.getElem?_eq_getElem hi)).unique
    (hgives' i _ (List.getElem?_eq_getElem hi'))

/-- No marker that has a value reaches out of a front of a template. -/
def Closed (values : Placeholders) (front s : List Char) : Prop :=
  ∀ j key value, MarkerAt (front ++ s) j key → values.get? (String.ofList key) = some value →
    j < front.length → j + (marker key).length ≤ front.length

/-- What is behind such a front gives what it gives alone. -/
theorem Gives.shift (hfront : Closed values front s) (h : Gives values s i piece) :
    Gives values (front ++ s) (front.length + i) piece := by
  cases h with
  | replaced hmarker hvalue => exact .replaced ((markerAt_append front s i _).mpr hmarker) hvalue
  | @covered j _ _ hmarker hvalue hbehind hinside =>
    exact .covered ((markerAt_append front s j _).mpr hmarker) hvalue (by omega) (by omega)
  | kept hc hfree =>
    have hshifted : (front ++ s)[front.length + i]? = s[i]? := by
      rw [List.getElem?_append_right (Nat.le_add_right _ i), Nat.add_sub_cancel_left]
    refine .kept (hshifted.trans hc) ?_
    intro j key value hmarker hvalue hj
    by_cases hjfront : j < front.length
    · exact Nat.le_trans (hfront j key value hmarker hvalue hjfront) (Nat.le_add_right _ i)
    · obtain ⟨n, rfl⟩ := Nat.exists_eq_add_of_le (Nat.not_lt.mp hjfront)
      have hend := hfree n key value ((markerAt_append front s n key).mp hmarker) hvalue (by omega)
      omega

/-- Pieces for such a front and what is behind it make up pieces for the whole. -/
theorem Filled.append (hfront : Closed values front s) {pieces : List (List Char)}
    (hlength : pieces.length = front.length)
    (hgives : ∀ i piece, pieces[i]? = some piece → Gives values (front ++ s) i piece)
    (h : Filled values s out) : Filled values (front ++ s) (pieces.flatten ++ out) := by
  obtain ⟨more, hmore, hgivesMore, rfl⟩ := h
  refine ⟨pieces ++ more, by simp [hlength, hmore], fun i piece hpiece => ?_, by simp⟩
  by_cases hi : i < pieces.length
  · rw [List.getElem?_append_left hi] at hpiece
    exact hgives i piece hpiece
  · obtain ⟨n, rfl⟩ := Nat.exists_eq_add_of_le (Nat.not_lt.mp hi)
    rw [List.getElem?_append_right (Nat.le_add_right _ n), Nat.add_sub_cancel_left] at hpiece
    rw [hlength]
    exact (hgivesMore n piece hpiece).shift hfront

theorem closed_marker (hkey : Bare key) (s : List Char) : Closed values (marker key) s := by
  have hhere : MarkerAt (marker key ++ s) 0 key := markerAt_zero_iff.mpr ⟨hkey, s, rfl⟩
  intro j key' value hmarker _ hj
  cases j with
  | zero => exact Nat.le_of_eq (by rw [hmarker.unique hhere, Nat.zero_add])
  | succ j =>
    have hend := hhere.disjoint hmarker (Nat.succ_pos j)
    omega

theorem closed_kept (h : ∀ key, MarkerAt (c :: s) 0 key → values.get? (String.ofList key) = none) :
    Closed values [c] s := by
  intro j key value hmarker hvalue hj
  obtain rfl : j = 0 := by simpa using hj
  rw [h key hmarker] at hvalue
  cases hvalue

/-- Filling a template replaces all its markers at once. -/
theorem filled_fill (s : List Char) : Filled values s (replaceMatches (filledAt values) s) := by
  induction s using induction_parts values with
  | nil => exact ⟨[], rfl, by simp, rfl⟩
  | filled key value rest hkey hvalue ih =>
    have hhere : MarkerAt (marker key ++ rest) 0 key := markerAt_zero_iff.mpr ⟨hkey, rest, rfl⟩
    have hpieces : (value.toList :: List.replicate (key.length + 3) []).flatten = value.toList := by
      simp
    rw [fill_marker hkey hvalue, ← hpieces]
    refine ih.append (closed_marker hkey rest) (by simp) fun i piece hpiece => ?_
    cases i with
    | zero =>
      obtain rfl : value.toList = piece := by simpa using hpiece
      exact .replaced hhere hvalue
    | succ i =>
      rw [List.getElem?_cons_succ, List.getElem?_replicate] at hpiece
      split at hpiece
      · obtain rfl := Option.some.inj hpiece
        exact .covered hhere hvalue (Nat.succ_pos i) (by rw [length_marker]; omega)
      · cases hpiece
  | kept c s h ih =>
    have hpieces : [[c]].flatten ++ replaceMatches (filledAt values) s =
        c :: replaceMatches (filledAt values) s := rfl
    rw [fill_kept h, ← hpieces]
    refine ih.append (closed_kept h) rfl fun i piece hpiece => ?_
    obtain ⟨rfl, rfl⟩ : i = 0 ∧ [c] = piece := by
      cases i with
      | zero => simpa using hpiece
      | succ i => simp at hpiece
    refine .kept rfl fun j key value hmarker hvalue hj => ?_
    obtain rfl := Nat.le_zero.mp hj
    rw [h key hmarker] at hvalue
    cases hvalue

/-! ### What follows -/

/-- Every marker with a value is replaced, whatever stands around it. -/
theorem fill_append_marker (hkey : Bare key)
    (hvalue : values.get? (String.ofList key) = some value) (front back : List Char) :
    replaceMatches (filledAt values) (front ++ (marker key ++ back)) =
      replaceMatches (filledAt values) front ++
        (value.toList ++ replaceMatches (filledAt values) back) := by
  induction front using induction_parts values with
  | nil => exact fill_marker hkey hvalue back
  | filled key' value' rest hkey' hvalue' ih =>
    rw [List.append_assoc, fill_marker hkey' hvalue', fill_marker hkey' hvalue', ih,
      List.append_assoc]
  | kept c front h ih =>
    -- a marker that begins in front of the other one ends in front of it
    have hkept : ∀ key', MarkerAt (c :: (front ++ (marker key ++ back))) 0 key' →
        values.get? (String.ofList key') = none := by
      intro key' hmarker
      have hbehind : MarkerAt (c :: front ++ (marker key ++ back)) (c :: front).length key :=
        (markerAt_append (c :: front) _ 0 key).mpr (markerAt_zero_iff.mpr ⟨hkey, back, rfl⟩)
      have hend := hmarker.disjoint hbehind (Nat.succ_pos _)
      rw [Nat.zero_add] at hend
      exact h key' ⟨hmarker.bare,
        List.prefix_of_prefix_length_le hmarker.stands (List.prefix_append _ _) hend⟩
    rw [List.cons_append, fill_kept hkept, fill_kept h, ih, List.cons_append]

/-- The value of a placeholder is the one that has been given last. -/
theorem get?_eq_getLast? (values : Placeholders) (key : String) :
    values.get? key = ((values.filter (·.1 = key)).getLast?).map Prod.snd :=
  lookup_reverse values key

theorem fill_congr (h : ∀ key, values'.get? key = values.get? key) (s : List Char) :
    replaceMatches (filledAt values') s = replaceMatches (filledAt values) s := by
  have hsame : filledAt values' = filledAt values := by
    funext s
    simp only [filledAt, h]
  rw [hsame]

/-- Every double brace of a template opens a marker that has a value. -/
def Resolved (values : Placeholders) (s : List Char) : Prop :=
  ∀ i, ['\x7b', '\x7b'] <+: s.drop i →
    ∃ key value, MarkerAt s i key ∧ values.get? (String.ofList key) = some value

theorem Resolved.of_append (h : Resolved values (front ++ s)) : Resolved values s := by
  intro i hi
  have hdrop : (front ++ s).drop (front.length + i) = s.drop i :=
    List.drop_length_add_append i
  rw [← hdrop] at hi
  obtain ⟨key, value, hmarker, hvalue⟩ := h _ hi
  exact ⟨key, value, (markerAt_append front s i key).mp hmarker, hvalue⟩

theorem infix_of_append {front s : List Char} (hfront : '\x7b' ∉ front)
    (h : ['\x7b', '\x7b'] <:+: front ++ s) : ['\x7b', '\x7b'] <:+: s := by
  induction front with
  | nil => exact h
  | cons c front ih =>
    obtain ⟨hc, hrest⟩ : '\x7b' ≠ c ∧ '\x7b' ∉ front := by simpa using hfront
    rcases List.infix_cons_iff.mp h with hprefix | hinfix
    · exact absurd (List.cons_prefix_cons.mp hprefix).1 hc
    · exact ih hrest hinfix

/-- No double brace is left where each one opens a marker that has a value. -/
theorem no_double_brace (hresolved : Resolved values s)
    (hvalues : ∀ key value, values.get? key = some value → '\x7b' ∉ value.toList) :
    ¬ ['\x7b', '\x7b'] <:+: replaceMatches (filledAt values) s := by
  induction s using induction_parts values with
  | nil => simp [fill_nil]
  | filled key value rest hkey hvalue ih =>
    rw [fill_marker hkey hvalue]
    intro hinfix
    exact ih hresolved.of_append (infix_of_append (hvalues _ value hvalue) hinfix)
  | kept c s h ih =>
    rw [fill_kept h, List.infix_cons_iff]
    rintro (hfirst | hinfix)
    · obtain ⟨rfl, hnext⟩ := List.cons_prefix_cons.mp hfirst
      cases s with
      | nil => simp [fill_nil] at hnext
      | cons d s =>
        -- a second brace right behind would open a marker, and any other character stays
        have hd : d ≠ '\x7b' := by
          rintro rfl
          obtain ⟨key, value, hmarker, hvalue⟩ := hresolved 0 (by simp)
          rw [h key hmarker] at hvalue
          cases hvalue
        have hkept : ∀ key, MarkerAt (d :: s) 0 key →
            values.get? (String.ofList key) = none := by
          intro key hmarker
          exact absurd (List.cons_prefix_cons.mp hmarker.stands).1.symm hd
        rw [fill_kept hkept] at hnext
        exact hd (List.cons_prefix_cons.mp hnext).1.symm
    · have hrest : Resolved values ([c] ++ s) := hresolved
      exact ih hrest.of_append hinfix

/-- All markers of a template that have a value are replaced at once, each of them wherever it
stands, whatever the order in which the values were given; and what is put in is not looked at
again. -/
theorem fill_simultaneous (values : Placeholders) (template : String) :
    (∀ i j key key', MarkerAt template.toList i key → MarkerAt template.toList j key' → i < j →
      i + (marker key).length ≤ j) ∧
    (∀ out, Filled values template.toList out ↔ out = (fill values template).toList) ∧
    (∀ (front key back value : String), Bare key.toList → values.get? key = some value →
      fill values (front ++ "\x7b\x7b" ++ key ++ "\x7d\x7d" ++ back) =
        fill values front ++ value ++ fill values back) ∧
    (∀ values' : Placeholders,
      (∀ key, values'.filter (·.1 = key) = values.filter (·.1 = key)) →
        fill values' template = fill values template) ∧
    (Resolved values template.toList →
      (∀ key value, values.get? key = some value → '\x7b' ∉ value.toList) →
        ¬ "\x7b\x7b".toList <:+: (fill values template).toList) := by
  have hfill (values : Placeholders) (s : String) :
      (fill values s).toList = replaceMatches (filledAt values) s.toList := by
    rw [fill, String.toList_ofList]
  refine ⟨fun i j key key' h h' hij => h.disjoint h' hij, ?_, ?_, ?_, ?_⟩
  · intro out
    rw [hfill]
    constructor
    · exact fun h => h.unique (filled_fill template.toList)
    · rintro rfl
      exact filled_fill template.toList
  · intro front key back value hkey hvalue
    have hparts : (front ++ "\x7b\x7b" ++ key ++ "\x7d\x7d" ++ back).toList =
        front.toList ++ (marker key.toList ++ back.toList) := by
      simp [marker, String.toList_append]
    refine String.toList_inj.mp ?_
    rw [hfill, hparts, fill_append_marker hkey (by rwa [String.ofList_toList]),
      String.toList_append, String.toList_append, hfill, hfill, List.append_assoc]
  · intro values' h
    refine congrArg String.ofList (fill_congr (fun key => ?_) template.toList)
    rw [get?_eq_getLast?, get?_eq_getLast?, h key]
  · intro hresolved hvalues
    rw [hfill]
    exact no_double_brace hresolved hvalues

-- braces around a marker stay, and a value that looks like a marker stays as well
example : fill [("A", "\x7b\x7bB\x7d\x7d"), ("B", "b")]
    "\x7b\x7b\x7bA\x7d\x7d\x7d\x7b\x7bB\x7d\x7d" = "\x7b\x7b\x7bB\x7d\x7d\x7db" := by
  decide

def pair : String := "\x7b\x7bA\x7d\x7d\x7b\x7bB\x7d\x7d"

def pairValues : Placeholders := [("A", "a"), ("B", "\x7d")]

theorem fill_simultaneous_pair : Resolved pairValues pair.toList ∧
    (∀ key value, pairValues.get? key = some value → '\x7b' ∉ value.toList) ∧
    ¬ "\x7b\x7b".toList <:+: (fill pairValues pair).toList := by
  have hresolved : Resolved pairValues pair.toList := by
    intro i hi
    match i with
    | 0 => exact ⟨['A'], "a", ⟨by decide, by decide⟩, rfl⟩
    | 5 => exact ⟨['B'], "\x7d", ⟨by decide, by decide⟩, rfl⟩
    | 1 | 2 | 3 | 4 | 6 | 7 | 8 | 9 => exact absurd hi (by decide)
    | i + 10 =>
      have hend : pair.toList.drop (i + 10) = [] := List.drop_eq_nil_of_le (by simp [pair])
      simp [hend] at hi
  have hvalues : ∀ key value, pairValues.get? key = some value → '\x7b' ∉ value.toList := by
    intro key value hvalue
    rw [get?_eq_getLast?] at hvalue
    obtain ⟨x, hx, rfl⟩ := Option.map_eq_some_iff.mp hvalue
    have hall : ∀ x ∈ pairValues, '\x7b' ∉ x.2.toList := by decide
    exact hall x (List.mem_filter.mp (List.mem_of_getLast? hx)).1
  exact ⟨hresolved, hvalues, (fill_simultaneous pairValues pair).2.2.2.2 hresolved hvalues⟩

end SuiteForge.Template
