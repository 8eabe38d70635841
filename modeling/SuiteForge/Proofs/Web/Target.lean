import SuiteForge.Proofs.Web.Parts

/-!
# What a request asks its host for

The target of a request is the path of its address, with dots followed and unusual characters
encoded. Plain pieces at the end of a path are left alone, whatever stands in front of them, so the
target ends with a plain path that is put behind an address without a query.
-/

namespace SuiteForge.Web

open Text

variable {done pieces plain ps : List (List Char)} {piece path : List Char} {q : Parts}

def encodePiece (piece : List Char) : List Char := piece.flatMap (percentEncode "\"#<>?^`\x7b\x7d")

/-- A piece of a path with no dots to follow and nothing to encode. -/
def isPlain (piece : List Char) : Bool :=
  !([".", "%2e", "..", ".%2e", "%2e.", "%2e%2e"].contains (String.ofList (piece.map lower))) &&
    encodePiece piece = piece

/-! ### Dots -/

theorem resolveDots_cons (hpiece : isPlain piece = true) (done pieces : List (List Char)) :
    resolveDots done (piece :: pieces) = resolveDots (piece :: done) pieces := by
  have hnamed := (Bool.and_eq_true_iff.mp hpiece).1
  simp only [List.contains_eq_mem, List.mem_cons, List.not_mem_nil, or_false,
    Bool.not_eq_eq_eq_not, Bool.not_true, decide_eq_false_iff_not, not_or] at hnamed
  obtain ⟨hdot, hcoded, hnamed⟩ := hnamed
  simp [resolveDots, hdot, hcoded, hnamed]

theorem resolveDots_of_plain (hplain : ∀ piece ∈ plain, isPlain piece = true)
    (done : List (List Char)) : resolveDots done plain = done.reverse ++ plain := by
  induction plain generalizing done with
  | nil => simp [resolveDots]
  | cons piece plain ih =>
    obtain ⟨hpiece, hplain⟩ := List.forall_mem_cons.mp hplain
    rw [resolveDots_cons hpiece, ih hplain, List.reverse_cons, List.append_assoc]
    rfl

/-- Dots in front of plain pieces do not reach them. -/
theorem exists_resolveDots_append (hplain : ∀ piece ∈ plain, isPlain piece = true)
    (hne : plain ≠ []) (done pieces : List (List Char)) :
    ∃ front, resolveDots done (pieces ++ plain) = front ++ plain := by
  induction pieces generalizing done with
  | nil => exact ⟨done.reverse, resolveDots_of_plain hplain done⟩
  | cons piece pieces ih =>
    have hrest : pieces ++ plain ≠ [] := List.append_ne_nil_of_right_ne_nil pieces hne
    rw [List.cons_append]
    unfold resolveDots
    dsimp only
    split
    · exact ih done
    · split
      · exact ih done.tail
      · exact ih (piece :: done)

/-! ### Targets -/

theorem suffix_intercalate_append (hne : ps ≠ []) (front : List (List Char)) :
    '/' :: ['/'].intercalate ps <:+ '/' :: ['/'].intercalate (front ++ ps) := by
  induction front with
  | nil => exact List.suffix_rfl
  | cons piece front ih =>
    have hrest : front ++ ps ≠ [] := List.append_ne_nil_of_right_ne_nil front hne
    have hlonger : '/' :: ['/'].intercalate (piece :: (front ++ ps)) =
        ('/' :: piece) ++ '/' :: ['/'].intercalate (front ++ ps) := by
      rw [List.intercalate_cons_of_ne_nil hrest]
      simp
    rw [List.cons_append, hlonger]
    exact ih.trans (List.suffix_append ('/' :: piece) _)

/-- The pieces of a path; a slash in front opens none. -/
def piecesOf (path : List Char) : List (List Char) :=
  match path with
  | '/' :: more => splitOn '/' more
  | more => splitOn '/' more

theorem exists_piecesOf_append (front path : List Char) :
    ∃ pieces, piecesOf (front ++ '/' :: path) = pieces ++ splitOn '/' path := by
  cases front with
  | nil => exact ⟨[], rfl⟩
  | cons c front =>
    by_cases hc : c = '/'
    · subst hc
      exact ⟨splitOn '/' front, splitOn_append '/' front path⟩
    · have hpieces : piecesOf (c :: front ++ '/' :: path) =
          splitOn '/' (c :: front ++ '/' :: path) := by
        unfold piecesOf
        split
        · rename_i heq
          exact absurd (List.cons.inj heq).1 hc
        · rfl
      rw [hpieces]
      exact ⟨splitOn '/' (c :: front), splitOn_append '/' (c :: front) path⟩

theorem requestTarget_of_no_query {text : List Char} (hparts : parts? text = some q)
    (hquery : ∀ c ∈ q.behind, opensQuery c = false) :
    requestTarget text = '/' :: ['/'].intercalate ((resolveDots []
      (piecesOf (q.behind.map fun c => if c = '\\' then '/' else c))).map encodePiece) := by
  obtain ⟨⟨scheme, rest⟩, hscheme, rfl⟩ := Option.map_eq_some_iff.mp hparts
  have hbehind : ((((scheme? (cleaned text)).map Prod.snd).getD []).dropWhile fun c =>
      c = '/' || c = '\\').dropWhile (!endsAuthority true ·) =
        (rest.dropWhile isSlash).dropWhile (!endsAuthority true ·) := by
    rw [hscheme]
    rfl
  unfold requestTarget
  dsimp only at hquery ⊢
  rw [hbehind]
  generalize (rest.dropWhile isSlash).dropWhile (!endsAuthority true ·) = behind at hquery
  have hmarks : ∀ c ∈ behind, c ≠ '?' ∧ c ≠ '#' := by
    intro c hc
    simpa [opensQuery] using hquery c hc
  have hfragment : behind.takeWhile (· ≠ '#') = behind := by
    rw [List.takeWhile_eq_self_iff]
    intro c hc
    simp [hmarks c hc]
  have hpath : behind.takeWhile (· ≠ '?') = behind := by
    rw [List.takeWhile_eq_self_iff]
    intro c hc
    simp [hmarks c hc]
  have hnone : behind.dropWhile (· ≠ '?') = [] := by
    rw [List.dropWhile_eq_nil_iff]
    intro c hc
    simp [hmarks c hc]
  rw [hfragment, hpath, hnone]
  rw [List.append_nil]
  rfl

/-- The target ends with a plain path behind an address without a query. -/
theorem suffix_requestTarget {text front : List Char} (hparts : parts? text = some q)
    (hbehind : q.behind = front ++ '/' :: path) (hquery : ∀ c ∈ q.behind, opensQuery c = false)
    (hplain : ∀ piece ∈ splitOn '/' path, isPlain piece = true) (hslash : '\\' ∉ path) :
    '/' :: path <:+ requestTarget text := by
  have hkept : path.map (fun c => if c = '\\' then '/' else c) = path := by
    rw [List.map_congr_left, List.map_id]
    intro c hc
    have hne : c ≠ '\\' := by
      rintro rfl
      exact hslash hc
    exact if_neg hne
  obtain ⟨pieces, hpieces⟩ :=
    exists_piecesOf_append (front.map fun c => if c = '\\' then '/' else c) path
  obtain ⟨dotless, hdotless⟩ := exists_resolveDots_append hplain splitOn_ne_nil [] pieces
  have hencoded : (splitOn '/' path).map encodePiece = splitOn '/' path := by
    rw [List.map_congr_left, List.map_id]
    intro piece hpiece
    exact of_decide_eq_true (Bool.and_eq_true_iff.mp (hplain piece hpiece)).2
  have hjoined : ['/'].intercalate (splitOn '/' path) = path := by
    rw [splitOn_eq]
    exact List.intercalate_splitOn '/'
  have hsuffix := suffix_intercalate_append (splitOn_ne_nil (s := path) (d := '/'))
    (dotless.map encodePiece)
  rw [requestTarget_of_no_query hparts hquery, hbehind, List.map_append, List.map_cons, hkept,
    if_neg (by decide), hpieces, hdotless, List.map_append, hencoded]
  rwa [hjoined] at hsuffix

end SuiteForge.Web
