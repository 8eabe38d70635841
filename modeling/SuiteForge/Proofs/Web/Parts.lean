import Mathlib.Data.List.TakeWhile
import SuiteForge.Proofs.Text.Lines
import SuiteForge.Web.Address

/-!
# The parts of an address

An address of the web has a scheme, an authority and what stands behind it. The first two decide
whether it is accepted, so a text may be put behind an authority that has ended, or end it with a
slash, and neither the host nor the answer of the check changes.
-/

namespace SuiteForge.Web

open Text

variable {s t word rest authority behind : List Char} {scheme : String} {c : Char}

/-! ### Schemes -/

def isSchemeChar (c : Char) : Bool := isLetter c || isDigit c || c = '+' || c = '-' || c = '.'

/-- A letter, and then letters, digits, plus signs, hyphens and dots. -/
structure IsScheme (word : List Char) : Prop where
  letter : ∃ c ∈ word.head?, isLetter c = true
  chars : ∀ c ∈ word, isSchemeChar c = true

theorem not_isSchemeChar_colon : isSchemeChar ':' = false := by decide

theorem scheme?_cons (hletter : isLetter c = true) (cs : List Char) :
    scheme? (c :: cs) = match (c :: cs).dropWhile isSchemeChar with
      | ':' :: rest => some (String.ofList (((c :: cs).takeWhile isSchemeChar).map lower), rest)
      | _ => none := by
  simp only [scheme?, hletter, Bool.not_true, Bool.false_eq_true, if_false]
  rfl

theorem scheme?_eq_some_iff : scheme? s = some (scheme, rest) ↔
    ∃ word, IsScheme word ∧ s = word ++ ':' :: rest ∧ scheme = String.ofList (word.map lower) := by
  constructor
  · intro h
    cases s with
    | nil => cases h
    | cons c cs =>
      by_cases hletter : isLetter c = true
      · rw [scheme?_cons hletter] at h
        split at h
        · rename_i rest' hdrop
          cases h
          refine ⟨(c :: cs).takeWhile isSchemeChar, ⟨⟨c, ?_, hletter⟩, ?_⟩, ?_, rfl⟩
          · rw [List.takeWhile_cons_of_pos (by simp [isSchemeChar, hletter])]
            rfl
          · exact List.all_eq_true.mp List.all_takeWhile
          · rw [← hdrop, List.takeWhile_append_dropWhile]
        · cases h
      · simp [scheme?, hletter] at h
  · rintro ⟨word, ⟨⟨c, hc, hletter⟩, hchars⟩, rfl, rfl⟩
    have htake : (word ++ ':' :: rest).takeWhile isSchemeChar = word :=
      takeWhile_run hchars (by simp [not_isSchemeChar_colon])
    have hdrop : (word ++ ':' :: rest).dropWhile isSchemeChar = ':' :: rest :=
      dropWhile_run hchars (by simp [not_isSchemeChar_colon])
    obtain ⟨cs, rfl⟩ : ∃ cs, word = c :: cs := List.head?_eq_some_iff.mp hc
    rw [List.cons_append] at htake hdrop ⊢
    rw [scheme?_cons hletter, htake, hdrop]
    rfl

/-! ### Scheme, authority and the rest -/

def isSlash (c : Char) : Bool := c = '/' || c = '\\'

/-- A character that opens a query or a fragment. -/
def opensQuery (c : Char) : Bool := c = '?' || c = '#'

/-- What stands in front of a query or a fragment. -/
def beforeQuery (s : List Char) : List Char := s.takeWhile (!opensQuery ·)

/-- What is put behind a query or a fragment is a part of that. -/
theorem beforeQuery_append (h : ∃ c ∈ s, opensQuery c = true) (t : List Char) :
    beforeQuery (s ++ t) = beforeQuery s := by
  have hend : s.dropWhile (!opensQuery ·) ≠ [] := by
    obtain ⟨c, hc, hquery⟩ := h
    intro hnil
    have hpath := List.dropWhile_eq_nil_iff.mp hnil c hc
    simp [hquery] at hpath
  exact takeWhile_append_of_end hend t

theorem beforeQuery_eq_self (h : ∀ c ∈ s, opensQuery c = false) : beforeQuery s = s := by
  rw [beforeQuery, List.takeWhile_eq_self_iff]
  intro c hc
  simp [h c hc]

structure Parts where
  scheme : String
  authority : List Char
  behind : List Char
  deriving DecidableEq

namespace Parts

/-- The path: what stands behind the authority, up to a query or a fragment. -/
def path (q : Parts) : List Char := beforeQuery q.behind

/-- A text that is put together from the parts of an address, with slashes in front of the
authority. -/
inductive Spells : Parts → List Char → Prop
  | mk {word slashes authority behind : List Char} (hword : IsScheme word)
      (hslashes : ∀ c ∈ slashes, isSlash c = true) (hne : authority ≠ [])
      (hauthority : ∀ c ∈ authority, endsAuthority true c = false)
      (hbehind : ∀ c ∈ behind.head?, endsAuthority true c = true) :
      Spells ⟨String.ofList (word.map lower), authority, behind⟩
        (word ++ ':' :: (slashes ++ (authority ++ behind)))

end Parts

/-- The parts of a text that is clean. -/
def cleanParts? (s : List Char) : Option Parts :=
  (scheme? s).map fun found => {
    scheme := found.1
    authority := (found.2.dropWhile isSlash).takeWhile (!endsAuthority true ·)
    behind := (found.2.dropWhile isSlash).dropWhile (!endsAuthority true ·) }

/-- The parts of an address. -/
def parts? (text : List Char) : Option Parts := cleanParts? (cleaned text)

variable {q : Parts}

theorem endsAuthority_of_isSlash (h : isSlash c = true) : endsAuthority true c = true := by
  have hslash : c = '/' ∨ c = '\\' := by simpa [isSlash] using h
  rcases hslash with rfl | rfl
  · rfl
  · rfl

/-- A text with an authority is put together from its parts, and from no others. -/
theorem spells_iff : q.Spells s ↔ cleanParts? s = some q ∧ q.authority ≠ [] := by
  constructor
  · rintro ⟨hword, hslashes, hne, hauthority, hbehind⟩
    rename_i word slashes authority behind
    have hscheme : scheme? (word ++ ':' :: (slashes ++ (authority ++ behind))) =
        some (String.ofList (word.map lower), slashes ++ (authority ++ behind)) :=
      scheme?_eq_some_iff.mpr ⟨word, hword, rfl, rfl⟩
    -- an authority does not begin with a slash, so the slashes in front of it end there
    have hdrop : (slashes ++ (authority ++ behind)).dropWhile isSlash = authority ++ behind := by
      apply dropWhile_run hslashes
      intro c hc
      rw [List.head?_append_of_ne_nil authority hne] at hc
      by_contra hslash
      have hends := endsAuthority_of_isSlash (by simpa using hslash)
      rw [hauthority c (List.mem_of_mem_head? hc)] at hends
      cases hends
    have hopen : ∀ c ∈ authority, (!endsAuthority true c) = true := by
      intro c hc
      simp [hauthority c hc]
    have hend : ∀ c, behind.head? = some c → (!endsAuthority true c) = false := by
      intro c hc
      simp [hbehind c hc]
    refine ⟨?_, hne⟩
    simp only [cleanParts?, hscheme, Option.map_some, hdrop, takeWhile_run hopen hend,
      dropWhile_run hopen hend]
  · rintro ⟨h, hne⟩
    obtain ⟨⟨scheme, rest⟩, hscheme, rfl⟩ := Option.map_eq_some_iff.mp h
    obtain ⟨word, hword, rfl, rfl⟩ := scheme?_eq_some_iff.mp hscheme
    have hopen : ∀ c ∈ (rest.dropWhile isSlash).takeWhile (!endsAuthority true ·),
        endsAuthority true c = false := by
      intro c hc
      simpa using List.all_eq_true.mp List.all_takeWhile c hc
    have hend : ∀ c ∈ ((rest.dropWhile isSlash).dropWhile (!endsAuthority true ·)).head?,
        endsAuthority true c = true := by
      intro c hc
      have hnot := List.head?_dropWhile_not (!endsAuthority true ·) (rest.dropWhile isSlash)
      rw [Option.mem_def.mp hc] at hnot
      simpa using hnot
    have hslashes : ∀ c ∈ rest.takeWhile isSlash, isSlash c = true :=
      List.all_eq_true.mp List.all_takeWhile
    have hspells := Parts.Spells.mk hword hslashes hne hopen hend
    rwa [List.takeWhile_append_dropWhile, List.takeWhile_append_dropWhile] at hspells

/-! ### What is accepted -/

/-- What an authority tells of its host and its port. -/
def hostPort (authority : List Char) : List Char × Option (List Char) :=
  splitPort false ((behindUserinfo? authority).getD authority)

structure IsAuthority (authority : List Char) : Prop where
  nonempty : (hostPort authority).1 ≠ []
  host : Host.check (hostPort authority).1 = .ok ()
  port : ∀ port ∈ (hostPort authority).2, isPort port = true

theorem IsAuthority.ne_nil (h : IsAuthority authority) : authority ≠ [] := by
  rintro rfl
  exact h.nonempty rfl

theorem isAuthority_iff : IsAuthority authority ↔ (hostPort authority).1 ≠ [] ∧
    Host.check (hostPort authority).1 = .ok () ∧
    ∀ port ∈ (hostPort authority).2, isPort port = true := by
  constructor
  · intro h
    exact ⟨h.nonempty, h.host, h.port⟩
  · rintro ⟨hnonempty, hhost, hport⟩
    exact ⟨hnonempty, hhost, hport⟩

theorem checkAuthority_ok_iff : checkAuthority true s = .ok () ↔
    IsAuthority (s.takeWhile (!endsAuthority true ·)) := by
  rw [isAuthority_iff]
  unfold checkAuthority hostPort
  dsimp only
  generalize s.takeWhile (!endsAuthority true ·) = authority
  generalize (behindUserinfo? authority).getD authority = behind
  cases hhost : (splitPort false behind).1 with
  | nil =>
    -- without a host an authority is refused, wherever that is noticed
    simp [throw, throwThe, MonadExceptOf.throw, bind, Except.bind]
  | cons c host =>
    have hbehind : behind ≠ [] := by
      rintro rfl
      cases hhost
    cases hcheck : Host.check (c :: host) with
    | error fault => simp [hbehind, bind, Except.bind]
    | ok found =>
      cases (splitPort false behind).2 with
      | none => simp [hbehind, bind, Except.bind, pure, Except.pure]
      | some port =>
        cases hport : isPort port <;>
          simp [hbehind, hport, throw, throwThe, MonadExceptOf.throw, bind, Except.bind, pure,
            Except.pure]

theorem then_eq_ok_iff {check : Except Fault Unit} {word : String} :
    (check >>= fun _ => pure word) = .ok scheme ↔ word = scheme ∧ check = .ok () := by
  cases check with
  | error fault => simp [bind, Except.bind]
  | ok found => simp [bind, Except.bind, pure, Except.pure]

/-- Only the scheme and the authority of an address are looked at. -/
theorem checkAddress_ok_iff {text : List Char} (hweb : isWebScheme scheme = true) :
    checkAddress text = .ok scheme ↔
      ∃ q, parts? text = some q ∧ q.scheme = scheme ∧ IsAuthority q.authority := by
  unfold checkAddress parts? cleanParts?
  cases hscheme : scheme? (cleaned text) with
  | none => simp
  | some found =>
    obtain ⟨word, rest⟩ := found
    simp only [Option.map_some, Option.some.injEq, exists_eq_left']
    by_cases hword : isWebScheme word = true
    · rw [if_pos hword, ← checkAuthority_ok_iff]
      exact then_eq_ok_iff
    · have hne : word ≠ scheme := by
        rintro rfl
        exact hword hweb
      -- every other kind of address has a scheme of its own
      rw [if_neg hword]
      refine iff_of_false ?_ fun h => hne h.1
      intro h
      split at h
      · exact hne (then_eq_ok_iff.mp h).1
      · split at h
        · exact hne (then_eq_ok_iff.mp h).1
        · cases h
          exact hne rfl

/-- The check accepts a text as an address of the web. -/
def IsHttp (text : List Char) : Prop :=
  ∃ scheme, checkAddress text = .ok scheme ∧ (scheme = "http" ∨ scheme = "https")

theorem exists_mem_toOption_iff {text : List Char} :
    (∃ scheme ∈ (checkAddress text).toOption, scheme = "http" ∨ scheme = "https") ↔
      IsHttp text := by
  unfold IsHttp
  cases checkAddress text with
  | error fault => simp [Except.toOption]
  | ok scheme => simp [Except.toOption]

instance (text : List Char) : Decidable (IsHttp text) := decidable_of_iff _ exists_mem_toOption_iff

theorem isHttp_iff {text : List Char} : IsHttp text ↔ ∃ q, parts? text = some q ∧
    (q.scheme = "http" ∨ q.scheme = "https") ∧ IsAuthority q.authority := by
  have hweb : ∀ scheme, scheme = "http" ∨ scheme = "https" → isWebScheme scheme = true := by
    rintro scheme (rfl | rfl)
    · decide
    · decide
  constructor
  · rintro ⟨scheme, hcheck, hhttp⟩
    obtain ⟨q, hparts, rfl, hauthority⟩ := (checkAddress_ok_iff (hweb scheme hhttp)).mp hcheck
    exact ⟨q, hparts, hhttp, hauthority⟩
  · rintro ⟨q, hparts, hhttp, hauthority⟩
    exact ⟨q.scheme, (checkAddress_ok_iff (hweb _ hhttp)).mpr ⟨q, hparts, rfl, hauthority⟩, hhttp⟩

/-! ### What is put behind -/

namespace Parts.Spells

theorem append (h : q.Spells s) (ht : ∀ c ∈ (q.behind ++ t).head?, endsAuthority true c = true) :
    Spells { q with behind := q.behind ++ t } (s ++ t) := by
  obtain ⟨hword, hslashes, hne, hauthority, -⟩ := h
  have happended := mk hword hslashes hne hauthority ht
  simpa only [List.append_assoc, List.cons_append] using happended

theorem append_of_behind (h : q.Spells s) (hne : q.behind ≠ []) (t : List Char) :
    Spells { q with behind := q.behind ++ t } (s ++ t) := by
  have hends : ∀ c ∈ (q.behind ++ t).head?, endsAuthority true c = true := by
    cases h with
    | mk hword hslashes hauthority hopen hbehind =>
      rwa [List.head?_append_of_ne_nil _ hne]
  exact h.append hends

theorem append_slash (h : q.Spells s) (t : List Char) :
    Spells { q with behind := q.behind ++ '/' :: t } (s ++ '/' :: t) := by
  by_cases hne : q.behind = []
  · apply h.append
    simp [hne, endsAuthority]
  · exact h.append_of_behind hne _

theorem append_open (h : q.Spells s) (hbehind : q.behind = [])
    (ht : ∀ c ∈ t, endsAuthority true c = false) :
    Spells { q with authority := q.authority ++ t } (s ++ t) := by
  obtain ⟨hword, hslashes, hne, hauthority, -⟩ := h
  cases hbehind
  have hnone : ∀ c ∈ ([] : List Char).head?, endsAuthority true c = true := by simp
  have happended := mk hword hslashes (List.append_ne_nil_of_left_ne_nil hne t)
    (List.forall_mem_append.mpr ⟨hauthority, ht⟩) hnone
  simpa only [List.append_assoc, List.cons_append, List.append_nil] using happended

/-- Slashes at the end of an address stand behind its authority. -/
theorem of_append_slashes (h : q.Spells (s ++ t)) (ht : ∀ c ∈ t, c = '/') :
    ∃ behind, q.behind = behind ++ t ∧ Spells { q with behind } s := by
  generalize htext : s ++ t = text at h
  obtain ⟨hword, hslashes, hne, hauthority, hbehind⟩ := h
  rename_i word slashes authority behind
  have hsplit : s ++ t = ((word ++ ':' :: slashes) ++ authority) ++ behind := by
    simpa only [List.append_assoc, List.cons_append] using htext
  rcases List.append_eq_append_iff.mp hsplit with ⟨more, hfront, hback⟩ | ⟨more, hfront, hback⟩
  · rcases List.eq_nil_or_concat more with rfl | ⟨front, c, rfl⟩
    · refine ⟨[], hback.symm, ?_⟩
      have hnone : ∀ c ∈ ([] : List Char).head?, endsAuthority true c = true := by simp
      have hspells := mk hword hslashes hne hauthority hnone
      rw [List.append_nil] at hfront
      rw [← hfront]
      simpa only [List.append_assoc, List.cons_append, List.append_nil] using hspells
    · -- the authority would end in one of the slashes
      exfalso
      have hlast : authority.getLast? = some c := by
        have hends := congrArg List.getLast? hfront
        rwa [List.concat_eq_append, ← List.append_assoc, List.getLast?_concat,
          List.getLast?_append_of_ne_nil _ hne] at hends
      obtain rfl : c = '/' := ht c (by simp [hback])
      have hopen := hauthority '/' (List.mem_of_getLast? hlast)
      exact absurd hopen (by decide)
  · refine ⟨more, hback, ?_⟩
    have hopen : ∀ c ∈ more.head?, endsAuthority true c = true := by
      intro c hc
      apply hbehind
      rw [hback, List.head?_append, Option.mem_def.mp hc]
      rfl
    have hspells := mk hword hslashes hne hauthority hopen
    rw [hfront]
    simpa only [List.append_assoc, List.cons_append] using hspells

theorem getLast?_of_behind (h : q.Spells s) (hbehind : q.behind = []) :
    s.getLast? = q.authority.getLast? := by
  obtain ⟨hword, hslashes, hne, hauthority, -⟩ := h
  cases hbehind
  rename_i word slashes authority
  have htext : word ++ ':' :: (slashes ++ (authority ++ [])) =
      (word ++ ':' :: slashes) ++ authority := by simp
  rw [htext, List.getLast?_append_of_ne_nil _ hne]

theorem colon_mem (h : q.Spells s) : ':' ∈ s := by
  obtain ⟨hword, hslashes, hne, hauthority, hbehind⟩ := h
  simp

/-- A query or a fragment stands behind the authority. -/
theorem mem_iff (h : q.Spells s) (hc : opensQuery c = true) : c ∈ s ↔ c ∈ q.behind := by
  obtain ⟨hword, hslashes, hne, hauthority, hbehind⟩ := h
  rename_i word slashes authority behind
  have hmark : c = '?' ∨ c = '#' := by simpa [opensQuery] using hc
  have hkinds : isSchemeChar c = false ∧ c ≠ ':' ∧ isSlash c = false ∧
      endsAuthority true c = true := by
    rcases hmark with rfl | rfl
    · decide
    · decide
  obtain ⟨hchar, hcolon, hslash, hends⟩ := hkinds
  have hinWord : c ∉ word := fun hmem => by simp [hword.chars c hmem] at hchar
  have hinSlashes : c ∉ slashes := fun hmem => by simp [hslashes c hmem] at hslash
  have hinAuthority : c ∉ authority := fun hmem => by simp [hauthority c hmem] at hends
  simp [hinWord, hcolon, hinSlashes, hinAuthority]

end Parts.Spells

end SuiteForge.Web
