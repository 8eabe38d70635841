import Mathlib.Data.List.DropRight
import SuiteForge.Proofs.Web.Control

/-!
# Extending an address

A text with a slash in front is put behind an address. Its scheme and its authority stay what they
were, unless the authority runs to the end of the address and a control character stands there: at
the end of the address it is passed over, and in front of the text it is a part of the host.
-/

namespace SuiteForge.Web

open Text

variable {s t text : List Char} {c : Char} {q r : Parts}

/-! ### What is passed over -/

/-- A character that is not passed over in the middle of an address. -/
def isKept (c : Char) : Bool := c ≠ '\t' && c ≠ '\n' && c ≠ '\r'

/-- The text without control characters and blanks at its start, and without tabs and line
breaks. -/
def opened (s : List Char) : List Char := (s.dropWhile isEdge).filter isKept

theorem exists_opened_eq (s : List Char) :
    ∃ back, (∀ c ∈ back, isEdge c = true) ∧ opened s = cleaned s ++ back := by
  refine ⟨((s.dropWhile isEdge).rtakeWhile isEdge).filter isKept, ?_, ?_⟩
  · intro c hc
    exact List.mem_rtakeWhile_imp (List.mem_of_mem_filter hc)
  · have hcleaned : cleaned s = ((s.dropWhile isEdge).rdropWhile isEdge).filter isKept := rfl
    rw [hcleaned, ← List.filter_append, List.rdropWhile_append_rtakeWhile]
    rfl

theorem getLast?_dropWhile {p : Char → Bool} (h : s.dropWhile p ≠ []) :
    (s.dropWhile p).getLast? = s.getLast? := by
  obtain ⟨front, hfront⟩ := List.dropWhile_suffix p (l := s)
  rw [← congrArg List.getLast? hfront, List.getLast?_append_of_ne_nil front h]

theorem getLast?_opened (h : opened s ≠ []) (hlast : s.getLast? = some c) (hc : isKept c = true) :
    (opened s).getLast? = some c := by
  have hne : s.dropWhile isEdge ≠ [] := by
    intro hnil
    rw [opened, hnil] at h
    exact h rfl
  rw [← getLast?_dropWhile hne] at hlast
  obtain ⟨front, hfront⟩ := List.getLast?_eq_some_iff.mp hlast
  rw [opened, hfront, List.filter_append, List.filter_cons_of_pos hc, List.filter_nil,
    List.getLast?_concat]

theorem cleaned_eq_opened (hlast : s.getLast? = some c) (hc : isEdge c = false) :
    cleaned s = opened s := by
  have hend : (s.dropWhile isEdge).rdropWhile isEdge = s.dropWhile isEdge := by
    rw [List.rdropWhile_eq_self_iff]
    intro hne hedge
    rw [← getLast?_dropWhile hne, List.getLast?_eq_some_getLast hne] at hlast
    rw [Option.some.inj hlast, hc] at hedge
    cases hedge
  change ((s.dropWhile isEdge).rdropWhile isEdge).filter isKept = _
  rw [hend, opened]

theorem isKept_of {p : Char → Bool} (htab : p '\t' = true) (hfeed : p '\n' = true)
    (hreturn : p '\r' = true) (hc : p c = false) : isKept c = true := by
  rw [← Bool.not_eq_false]
  intro hnot
  have hbreak : c = '\t' ∨ c = '\n' ∨ c = '\r' := by
    by_contra hother
    push Not at hother
    simp [isKept, hother] at hnot
  rcases hbreak with rfl | rfl | rfl
  · rw [htab] at hc
    cases hc
  · rw [hfeed] at hc
    cases hc
  · rw [hreturn] at hc
    cases hc

theorem isKept_of_not_isEdge (hc : isEdge c = false) : isKept c = true :=
  isKept_of (by decide) (by decide) (by decide) hc

theorem isKept_of_not_isBlank (hc : isBlank c = false) : isKept c = true :=
  isKept_of (by decide) (by decide) (by decide) hc

theorem mem_opened_iff (hc : isEdge c = false) : c ∈ opened s ↔ c ∈ s := by
  rw [opened, List.mem_filter, and_iff_left (isKept_of_not_isEdge hc)]
  constructor
  · intro h
    exact (List.dropWhile_suffix isEdge).mem h
  · intro h
    rw [← List.takeWhile_append_dropWhile (p := isEdge) (l := s), List.mem_append] at h
    rcases h with h | h
    · have hedge := List.all_eq_true.mp List.all_takeWhile c h
      rw [hc] at hedge
      cases hedge
    · exact h

theorem opened_append (hc : isEdge c = false) (h : c ∈ s) (t : List Char) :
    opened (s ++ t) = opened s ++ t.filter isKept := by
  have hne : s.dropWhile isEdge ≠ [] := by
    intro hnil
    have hedge := List.dropWhile_eq_nil_iff.mp hnil c h
    rw [hc] at hedge
    cases hedge
  rw [opened, dropWhile_append_of_end hne, List.filter_append, opened]

theorem filter_isKept (ht : ∀ c ∈ t, isEdge c = false) : t.filter isKept = t := by
  rw [List.filter_eq_self]
  intro c hc
  exact isKept_of_not_isEdge (ht c hc)

theorem cleaned_append (hc : isEdge c = false) (h : c ∈ s) (hne : t ≠ [])
    (ht : ∀ c ∈ t, isEdge c = false) : cleaned (s ++ t) = opened s ++ t := by
  have hlast : (s ++ t).getLast? = some (t.getLast hne) := by
    rw [List.getLast?_append_of_ne_nil s hne, List.getLast?_eq_some_getLast hne]
  rw [cleaned_eq_opened hlast (ht _ (List.getLast_mem hne)), opened_append hc h, filter_isKept ht]

/-! ### Addresses that run out -/

/-- The authority of an address reaches its end, where a control character stands. -/
def RunsOut (text : List Char) : Prop :=
  (∃ c ∈ text.getLast?, isEdge c = true) ∧ ∃ q, parts? text = some q ∧ q.behind = []

/-- The parts of an address of the web, and those that it has when its end is not passed over. -/
structure Opens (text : List Char) (q r : Parts) : Prop where
  parts : parts? text = some q
  http : q.scheme = "http" ∨ q.scheme = "https"
  checked : IsAuthority q.authority
  spells : r.Spells (opened text)
  scheme : r.scheme = q.scheme
  behind : ∃ back, (∀ c ∈ back, isEdge c = true) ∧ r.behind = q.behind ++ back
  authority : ¬ RunsOut text → r.authority = q.authority
  control : RunsOut text → ∃ c ∈ r.authority.getLast?, isEdge c = true

theorem not_endsAuthority_of_isEdge (hc : isEdge c = true) : endsAuthority true c = false :=
  forall_isEdge (p := fun c => endsAuthority true c = false) (by decide) hc

theorem not_isEdge_of_opensQuery (hc : opensQuery c = true) : isEdge c = false := by
  have hmark : c = '?' ∨ c = '#' := by simpa [opensQuery] using hc
  rcases hmark with rfl | rfl
  · decide
  · decide

/-- An address is taken apart with what is passed over at its end: that goes to its authority if
nothing stands behind the authority, and else to what does. -/
theorem exists_opens (h : IsHttp text) (hlast : text.getLast? = some c)
    (hkept : isKept c = true) : ∃ q r, Opens text q r := by
  obtain ⟨q, hparts, hhttp, hchecked⟩ := isHttp_iff.mp h
  have hspells : q.Spells (cleaned text) := spells_iff.mpr ⟨hparts, hchecked.ne_nil⟩
  obtain ⟨back, hback, heq⟩ := exists_opened_eq text
  have hopened : opened text ≠ [] := by
    rw [heq]
    exact List.append_ne_nil_of_left_ne_nil (List.ne_nil_of_mem hspells.colon_mem) back
  refine ⟨q, ?_⟩
  by_cases hbehind : q.behind = []
  · have hopen : ∀ d ∈ back, endsAuthority true d = false := by
      intro d hd
      exact not_endsAuthority_of_isEdge (hback d hd)
    have hlonger := hspells.append_open hbehind hopen
    rw [← heq] at hlonger
    refine ⟨_, hparts, hhttp, hchecked, hlonger, rfl, ⟨[], by simp, by simp⟩, ?_, ?_⟩
    · intro hnot
      have hc : isEdge c = false := by
        rw [← Bool.not_eq_true]
        intro hc
        exact hnot ⟨⟨c, hlast, hc⟩, q, hparts, hbehind⟩
      rw [cleaned_eq_opened hlast hc] at heq
      simpa using heq
    · rintro ⟨⟨d, hd, hedge⟩, -⟩
      refine ⟨d, ?_, hedge⟩
      obtain rfl : c = d := Option.some.inj (hlast ▸ hd)
      rw [Option.mem_def, ← hlonger.getLast?_of_behind hbehind]
      exact getLast?_opened hopened hlast hkept
  · have hlonger := hspells.append_of_behind hbehind back
    rw [← heq] at hlonger
    refine ⟨_, hparts, hhttp, hchecked, hlonger, rfl, ⟨back, hback, rfl⟩, fun _ => rfl, ?_⟩
    rintro ⟨-, q', hq', hnone⟩
    obtain rfl : q = q' := Option.some.inj (hparts ▸ hq')
    exact absurd hnone hbehind

namespace Opens

theorem isAuthority_iff (h : Opens text q r) : IsAuthority r.authority ↔ ¬ RunsOut text := by
  constructor
  · intro hr hout
    obtain ⟨c, hlast, hedge⟩ := h.control hout
    rw [hr.last hlast] at hedge
    cases hedge
  · intro hnot
    rw [h.authority hnot]
    exact h.checked

/-- An address with the same scheme and authority is accepted unless that one runs out. -/
theorem isHttp_iff (h : Opens text q r) {behind : List Char}
    (hparts : parts? s = some { r with behind }) : IsHttp s ↔ ¬ RunsOut text := by
  rw [Web.isHttp_iff, hparts, ← h.isAuthority_iff]
  constructor
  · rintro ⟨found, hfound, -, hauthority⟩
    cases hfound
    exact hauthority
  · intro hauthority
    exact ⟨_, rfl, h.scheme ▸ h.http, hauthority⟩

theorem colon_mem (h : Opens text q r) : ':' ∈ text :=
  (mem_opened_iff (by decide)).mp h.spells.colon_mem

theorem mem_iff (h : Opens text q r) (hc : opensQuery c = true) : c ∈ text ↔ c ∈ r.behind := by
  rw [← h.spells.mem_iff hc, mem_opened_iff (not_isEdge_of_opensQuery hc)]

/-- The slashes at the end of an address may be left out. -/
theorem of_append_slashes (h : Opens (text ++ t) q r) (ht : ∀ c ∈ t, c = '/') :
    ∃ behind, r.behind = behind ++ t ∧ Parts.Spells { r with behind } (opened text) := by
  have hcolon : ':' ∈ text := by
    rcases List.mem_append.mp h.colon_mem with hmem | hmem
    · exact hmem
    · exact absurd (ht ':' hmem) (by decide)
  have hedges : ∀ c ∈ t, isEdge c = false := by
    intro c hc
    rw [ht c hc]
    decide
  have hspells := h.spells
  rw [opened_append (by decide) hcolon, filter_isKept hedges] at hspells
  exact hspells.of_append_slashes ht

/-- Behind a query or a fragment nothing is added to the path. -/
theorem beforeQuery_of_query (h : Opens text q r) {behind slashes : List Char}
    (hslashes : ∀ c ∈ slashes, c = '/') (hbehind : r.behind = behind ++ slashes)
    (hquery : ∃ c ∈ text, opensQuery c = true) (t : List Char) :
    beforeQuery (behind ++ t) = q.path := by
  obtain ⟨c, hc, hopens⟩ := hquery
  obtain ⟨back, hback, hrest⟩ := h.behind
  have hmem : c ∈ r.behind := (h.mem_iff hopens).mp hc
  have hinBehind : ∃ c ∈ behind, opensQuery c = true := by
    rw [hbehind, List.mem_append] at hmem
    refine ⟨c, hmem.resolve_right fun hslash => ?_, hopens⟩
    obtain rfl := hslashes c hslash
    exact absurd hopens (by decide)
  have hinOld : ∃ c ∈ q.behind, opensQuery c = true := by
    rw [hrest, List.mem_append] at hmem
    refine ⟨c, hmem.resolve_right fun hedge => ?_, hopens⟩
    have hnot := not_isEdge_of_opensQuery hopens
    rw [hback c hedge] at hnot
    cases hnot
  calc
    beforeQuery (behind ++ t) = beforeQuery behind := beforeQuery_append hinBehind t
    _ = beforeQuery (behind ++ slashes) := (beforeQuery_append hinBehind slashes).symm
    _ = beforeQuery (q.behind ++ back) := by rw [← hbehind, hrest]
    _ = q.path := beforeQuery_append hinOld back

theorem not_opensQuery_append (h : Opens text q r) {path behind slashes : List Char}
    (hbehind : r.behind = behind ++ slashes) (hnone : ∀ c ∈ text, opensQuery c = false)
    (hpath : ∀ c ∈ path, opensQuery c = false) :
    ∀ c ∈ behind ++ '/' :: path, opensQuery c = false := by
  intro c hc
  simp only [List.mem_append, List.mem_cons] at hc
  rcases hc with hc | rfl | hc
  · rw [← Bool.not_eq_true]
    intro hopens
    have hmem : c ∈ r.behind := hbehind ▸ List.mem_append_left slashes hc
    have hnot := hnone c ((h.mem_iff hopens).mpr hmem)
    rw [hopens] at hnot
    cases hnot
  · decide
  · exact hpath c hc

/-- The path ends with what is put behind the address, unless that has a query or a fragment. -/
theorem suffix_beforeQuery_iff (h : Opens text q r) {path behind slashes : List Char}
    (hslashes : ∀ c ∈ slashes, c = '/') (hbehind : r.behind = behind ++ slashes)
    (hpath : ∀ c ∈ path, opensQuery c = false) :
    path <:+ beforeQuery (behind ++ '/' :: path) ↔
      (∀ c ∈ text, opensQuery c = false) ∨ path <:+ q.path := by
  by_cases hquery : ∃ c ∈ text, opensQuery c = true
  · rw [h.beforeQuery_of_query hslashes hbehind hquery]
    constructor
    · intro hsuffix
      exact Or.inr hsuffix
    · rintro (hnone | hsuffix)
      · obtain ⟨c, hc, hopens⟩ := hquery
        rw [hnone c hc] at hopens
        cases hopens
      · exact hsuffix
  · have hnone : ∀ c ∈ text, opensQuery c = false := by
      intro c hc
      rw [← Bool.not_eq_true]
      intro hopens
      exact hquery ⟨c, hc, hopens⟩
    rw [beforeQuery_eq_self (h.not_opensQuery_append hbehind hnone hpath)]
    refine iff_of_true ?_ (Or.inl hnone)
    exact (List.suffix_cons '/' path).trans (List.suffix_append behind ('/' :: path))

end Opens

/-- With a slash in front a text is put behind the authority. -/
theorem parts?_append_slash (h : r.Spells (opened text)) (ht : ∀ c ∈ t, isEdge c = false) :
    parts? (text ++ '/' :: t) = some { r with behind := r.behind ++ '/' :: t } := by
  have hcolon : ':' ∈ text := (mem_opened_iff (by decide)).mp h.colon_mem
  have hedges : ∀ c ∈ '/' :: t, isEdge c = false := by
    intro c hc
    rcases List.mem_cons.mp hc with rfl | hc
    · decide
    · exact ht c hc
  rw [parts?, cleaned_append (by decide) hcolon (List.cons_ne_nil '/' t) hedges]
  exact (spells_iff.mp (h.append_slash t)).1

end SuiteForge.Web
