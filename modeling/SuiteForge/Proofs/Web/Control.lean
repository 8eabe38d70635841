import SuiteForge.Proofs.Text.ByteOrder
import SuiteForge.Proofs.Web.Parts

/-!
# Control characters in an address

The check of an address passes over control characters and blanks at its ends, and a host refuses
them.
-/

namespace SuiteForge.Web

open Text

variable {s authority host : List Char} {c : Char}

/-- A control character of ASCII or a space: what is passed over at the ends of an address. -/
def isEdge (c : Char) : Bool := c.toNat ≤ 0x20

/-- There are few of these characters, so they can be counted up. -/
theorem forall_isEdge {p : Char → Prop} (h : ∀ n < 33, p (Char.ofNat n)) (hc : isEdge c = true) :
    p c := by
  rw [← Char.ofNat_toNat c]
  exact h c.toNat (Nat.lt_succ_of_le (of_decide_eq_true hc))

/-! ### Bytes -/

theorem bytes_of_isEdge (hc : isEdge c = true) :
    (String.singleton c).toUTF8.toList = [UInt8.ofNat c.toNat] :=
  forall_isEdge (p := fun c => (String.singleton c).toUTF8.toList = [UInt8.ofNat c.toNat])
    (by decide +kernel) hc

theorem not_isHexDigit_of_isEdge (hc : isEdge c = true) : isHexDigit c = false :=
  forall_isEdge (p := fun c => isHexDigit c = false) (by decide) hc

/-- Bytes of a character outside ASCII are outside ASCII. -/
theorem le_of_mem_spread {mark values n v : Nat} {b : UInt8} (hmark : 128 ≤ mark)
    (hfits : values + mark ≤ 256) (hvalues : 0 < values) (hb : b ∈ spread mark values n v) :
    128 ≤ b.toNat := by
  induction n generalizing v with
  | zero =>
    obtain rfl : b = UInt8.ofNat (v % values + mark) := by simpa [spread] using hb
    have hlt : v % values < values := Nat.mod_lt v hvalues
    rw [UInt8.toNat_ofNat_of_lt' (by simp [UInt8.size]; omega)]
    omega
  | succ n ih =>
    rw [spread, List.mem_append, List.mem_singleton] at hb
    rcases hb with hb | rfl
    · exact ih hb
    · rw [UInt8.toNat_ofNat_of_lt' (by simp [UInt8.size]; omega)]
      omega

theorem eq_of_mem_utf8EncodeChar {d : Char} (hc : isEdge c = true)
    (h : UInt8.ofNat c.toNat ∈ String.utf8EncodeChar d) : d = c := by
  have hsmall : c.toNat ≤ 0x20 := of_decide_eq_true hc
  have hbyte : (UInt8.ofNat c.toNat).toNat = c.toNat :=
    UInt8.toNat_ofNat_of_lt' (by simp [UInt8.size]; omega)
  have houtside : ∀ {mark values n : Nat}, 128 ≤ mark → values + mark ≤ 256 → 0 < values →
      UInt8.ofNat c.toNat ∉ spread mark values n d.toNat := by
    intro mark values n hmark hfits hvalues hmem
    have hle := le_of_mem_spread hmark hfits hvalues hmem
    omega
  rw [utf8EncodeChar_eq] at h
  split_ifs at h with hascii
  · have hvalue : UInt8.ofNat c.toNat = UInt8.ofNat d.toNat := by
      simpa [spread, Nat.mod_eq_of_lt (Nat.lt_succ_of_le hascii)] using h
    have hnat := congrArg UInt8.toNat hvalue
    rw [hbyte, UInt8.toNat_ofNat_of_lt' (by simp [UInt8.size]; omega)] at hnat
    rw [← Char.ofNat_toNat d, ← hnat, Char.ofNat_toNat]
  · exact absurd h (houtside (by omega) (by omega) (by omega))
  · exact absurd h (houtside (by omega) (by omega) (by omega))
  · exact absurd h (houtside (by omega) (by omega) (by omega))

/-- A control character is read back wherever its byte stands. -/
theorem mem_of_fromUTF8? {bs : List UInt8} {text : String}
    (htext : String.fromUTF8? ⟨bs.toArray⟩ = some text) (hc : isEdge c = true)
    (h : UInt8.ofNat c.toNat ∈ bs) : c ∈ text.toList := by
  have hbytes : bytes text = bs := by
    unfold String.fromUTF8? at htext
    split at htext
    · cases htext
      rfl
    · cases htext
  rw [← hbytes, bytes_eq] at h
  obtain ⟨d, hd, hmem⟩ := List.mem_flatMap.mp h
  rw [← eq_of_mem_utf8EncodeChar hc hmem]
  exact hd

/-! ### Hosts -/

namespace Host

/-- The byte of a control character is not lost among percent signs. -/
theorem mem_percentDecode (hc : isEdge c = true) (h : c ∈ s) :
    UInt8.ofNat c.toNat ∈ percentDecode s := by
  have hpercent : c ≠ '%' := by
    rintro rfl
    exact absurd hc (by decide)
  induction s using percentDecode.induct with
  | case1 => cases h
  | case2 a b rest hhex ih =>
    obtain ⟨ha, hb⟩ : isHexDigit a = true ∧ isHexDigit b = true := by simpa using hhex
    have hnot := not_isHexDigit_of_isEdge hc
    have hrest : c ∈ rest := by
      simp only [List.mem_cons] at h
      rcases h with rfl | rfl | rfl | h
      · exact absurd rfl hpercent
      · exact absurd ha (by simp [hnot])
      · exact absurd hb (by simp [hnot])
      · exact h
    rw [percentDecode, if_pos hhex]
    exact List.mem_cons_of_mem _ (ih hrest)
  | case3 a b rest hhex ih =>
    have hrest : c ∈ a :: b :: rest := by
      rcases List.mem_cons.mp h with rfl | h
      · exact absurd rfl hpercent
      · exact h
    rw [percentDecode, if_neg hhex]
    exact List.mem_cons_of_mem _ (ih hrest)
  | case4 d rest hrest ih =>
    rw [percentDecode, List.mem_append]
    · rcases List.mem_cons.mp h with rfl | h
      · rw [bytes_of_isEdge hc]
        exact Or.inl (List.mem_singleton_self _)
      · exact Or.inr (ih h)
    · exact hrest

theorem canonical?_of_isEdge (hc : isEdge c = true) : canonical? c = some [c] :=
  forall_isEdge (p := fun c => canonical? c = some [c]) (by decide +kernel) hc

theorem exists_of_mem_mapM {α β : Type} {f : α → Option β} {l : List α} {mapped : List β} {a : α}
    (h : l.mapM f = some mapped) (ha : a ∈ l) : ∃ b ∈ mapped, f a = some b := by
  induction l generalizing mapped with
  | nil => cases ha
  | cons first l ih =>
    rw [List.mapM_cons] at h
    obtain ⟨b, hb, h⟩ := Option.bind_eq_some_iff.mp h
    obtain ⟨rest, hrest, h⟩ := Option.bind_eq_some_iff.mp h
    cases h
    rcases List.mem_cons.mp ha with rfl | ha
    · exact ⟨b, List.mem_cons_self, hb⟩
    · obtain ⟨found, hmem, hfound⟩ := ih hrest ha
      exact ⟨found, List.mem_cons_of_mem b hmem, hfound⟩

/-- No name holds a control character. -/
theorem domain?_eq_none (hc : isEdge c = true) (h : c ∈ s) : domain? s = none := by
  rw [Option.eq_none_iff_forall_ne_some]
  intro name hname
  obtain ⟨text, htext, hname⟩ := Option.bind_eq_some_iff.mp hname
  obtain ⟨mapped, hmapped, hname⟩ := Option.bind_eq_some_iff.mp hname
  have hmem : c ∈ text.toList := mem_of_fromUTF8? htext hc (mem_percentDecode hc h)
  obtain ⟨canonical, hcanonical, hself⟩ := exists_of_mem_mapM hmapped hmem
  obtain rfl : [c] = canonical := Option.some.inj (canonical?_of_isEdge hc ▸ hself)
  have hforbidden : mapped.flatten.any isForbidden = true := by
    rw [List.any_eq_true]
    exact ⟨c, List.mem_flatten.mpr ⟨[c], hcanonical, List.mem_singleton_self c⟩,
      by simp [isForbidden, of_decide_eq_true hc]⟩
  simp [hforbidden] at hname

theorem last_of_check (h : check s = .ok ()) (hlast : s.getLast? = some c) : isEdge c = false := by
  unfold check at h
  split at h
  · rename_i rest
    split at h
    · rename_i hbracket
      obtain rfl : c = ']' := by
        rw [List.getLast?_cons, hbracket] at hlast
        exact (Option.some.inj hlast).symm
      decide
    · cases h
  · rename_i hname
    rw [← Bool.not_eq_true]
    intro hc
    rw [domain?_eq_none hc (List.mem_of_getLast? hlast)] at h
    cases h

end Host

/-! ### Authorities -/

theorem suffix_of_behindUserinfo? (h : behindUserinfo? authority = some host) :
    host <:+ authority := by
  obtain ⟨⟨behind, front⟩, hsplit, rfl⟩ := Option.map_eq_some_iff.mp h
  have hreverse := (splitOnce_singleton_iff.mp hsplit).2
  refine ⟨front.reverse ++ ['@'], ?_⟩
  rw [← List.reverse_reverse authority, hreverse]
  simp

theorem splitPort_cases (inBrackets : Bool) (s : List Char) :
    splitPort inBrackets s = (s, none) ∨
      ∃ host port, splitPort inBrackets s = (host, some port) ∧ s = host ++ ':' :: port := by
  induction s generalizing inBrackets with
  | nil => exact Or.inl rfl
  | cons c cs ih =>
    unfold splitPort
    split
    · rename_i hcolon
      obtain rfl : c = ':' := by simp at hcolon; exact hcolon.1
      exact Or.inr ⟨[], cs, rfl, rfl⟩
    · rcases ih (c = '[' || (inBrackets && c ≠ ']')) with hnone | ⟨host, port, hport, hcs⟩
      · left
        rw [hnone]
      · right
        rw [hport]
        exact ⟨c :: host, port, rfl, by rw [hcs]; rfl⟩

/-- An authority does not end in a control character: neither a host nor a port does. -/
theorem IsAuthority.last (h : IsAuthority authority) (hlast : authority.getLast? = some c) :
    isEdge c = false := by
  obtain ⟨hnonempty, hcheck, hport⟩ := h
  unfold hostPort at hnonempty hcheck hport
  have hsuffix : (behindUserinfo? authority).getD authority <:+ authority := by
    cases hbehind : behindUserinfo? authority with
    | none => exact List.suffix_refl authority
    | some behind => exact suffix_of_behindUserinfo? hbehind
  generalize (behindUserinfo? authority).getD authority = behind at *
  have hne : behind ≠ [] := by
    rintro rfl
    exact hnonempty rfl
  obtain ⟨front, rfl⟩ := hsuffix
  rw [List.getLast?_append_of_ne_nil front hne] at hlast
  rcases splitPort_cases false behind with hnone | ⟨host, port, hsplit, rfl⟩
  · rw [hnone] at hcheck
    exact Host.last_of_check hcheck hlast
  · rw [hsplit] at hport
    have hdigits : isPort port = true := hport port rfl
    rw [List.getLast?_append_cons] at hlast
    rcases List.eq_nil_or_concat port with rfl | ⟨front, d, rfl⟩
    · obtain rfl : ':' = c := Option.some.inj hlast
      decide
    · rw [List.concat_eq_append, ← List.cons_append, List.getLast?_concat] at hlast
      obtain rfl : d = c := Option.some.inj hlast
      have hdigit : isDigit d = true := by
        have hall := (Bool.and_eq_true_iff.mp hdigits).1
        exact List.all_eq_true.mp hall d (by simp)
      rw [← Bool.not_eq_true]
      intro hc
      have hnot := not_isHexDigit_of_isEdge hc
      simp [isHexDigit, hdigit] at hnot

end SuiteForge.Web
