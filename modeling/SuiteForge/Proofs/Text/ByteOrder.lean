import Mathlib.Algebra.Group.Nat.Defs
import Mathlib.Tactic.SplitIfs

/-!
# The order of bytes

Texts are ordered by their characters. The bytes that they are stored in are ordered in the same
way, since the encoding of a smaller character is smaller at the first byte that differs and neither
encoding is the beginning of the other.
-/

namespace SuiteForge.Text

variable {α β : Type} {r : α → α → Prop} {l m : List α}

/-! ### Lists that part -/

/-- Two lists part at two elements, of which the first stands before the second. -/
inductive Parts (r : α → α → Prop) : List α → List α → Prop where
  | here {a b : α} {as bs : List α} (h : r a b) : Parts r (a :: as) (b :: bs)
  | later {a : α} {as bs : List α} (h : Parts r as bs) : Parts r (a :: as) (a :: bs)

namespace Parts

theorem append (h : Parts r l m) (l' m' : List α) : Parts r (l ++ l') (m ++ m') := by
  induction h with
  | here h => exact .here h
  | later _ ih => exact .later ih

theorem append_left (h : Parts r l m) (front : List α) : Parts r (front ++ l) (front ++ m) := by
  induction front with
  | nil => exact h
  | cons a front ih => exact .later ih

theorem lt [LT α] (h : Parts (· < ·) l m) : l < m := by
  induction h with
  | here h => exact .rel h
  | later _ ih => exact .cons ih

theorem ne (hr : ∀ a, ¬ r a a) (h : Parts r l m) : l ≠ m := by
  induction h with
  | here h =>
    intro heq
    obtain ⟨rfl, -⟩ := List.cons.inj heq
    exact hr _ h
  | later _ ih => exact fun heq => ih (List.cons.inj heq).2

end Parts

/-- Lists are ordered as what their elements are written out to. -/
theorem flatMap_lt [LT α] [LT β] {f : α → List β} (hne : ∀ a, f a ≠ [])
    (hparts : ∀ a b, a < b → Parts (· < ·) (f a) (f b)) (h : l < m) :
    l.flatMap f < m.flatMap f := by
  induction h with
  | @nil b m =>
    obtain ⟨first, rest, hb⟩ := List.exists_cons_of_ne_nil (hne b)
    rw [List.flatMap_nil, List.flatMap_cons, hb]
    exact List.nil_lt_cons _ _
  | rel h =>
    rw [List.flatMap_cons, List.flatMap_cons]
    exact ((hparts _ _ h).append _ _).lt
  | cons _ ih => exact List.append_left_lt ih

/-! ### Encodings of characters -/

theorem byte_lt {v w : Nat} (h : v < w) (hw : w < 256) : UInt8.ofNat v < UInt8.ofNat w :=
  (UInt8.ofNat_lt_iff_lt (Nat.lt_trans h hw) hw).mpr h

/-- A marked byte with the high bits of a number, and a byte for every six bits below them. -/
def spread (mark values : Nat) : Nat → Nat → List UInt8
  | 0, v => [UInt8.ofNat (v % values + mark)]
  | n + 1, v => spread mark values n (v / 64) ++ [UInt8.ofNat (v % 64 + 128)]

theorem parts_spread {mark values n v w : Nat} (hmark : values + mark ≤ 256) (h : v < w)
    (hw : w < values * 64 ^ n) :
    Parts (· < ·) (spread mark values n v) (spread mark values n w) := by
  induction n generalizing v w with
  | zero =>
    rw [Nat.pow_zero, Nat.mul_one] at hw
    rw [spread, spread, Nat.mod_eq_of_lt hw, Nat.mod_eq_of_lt (Nat.lt_trans h hw)]
    exact .here (byte_lt (by omega) (by omega))
  | succ n ih =>
    have hhigh : w / 64 < values * 64 ^ n := by
      rw [Nat.div_lt_iff_lt_mul (by decide), Nat.mul_assoc, ← Nat.pow_succ]
      exact hw
    rw [spread, spread]
    rcases Nat.lt_or_ge (v / 64) (w / 64) with hlt | hge
    · exact (ih hlt hhigh).append _ _
    · have heq : v / 64 = w / 64 := by omega
      rw [heq]
      exact Parts.append_left (.here (byte_lt (by omega) (by omega))) _

theorem utf8EncodeChar_eq (c : Char) : String.utf8EncodeChar c =
    if c.toNat ≤ 0x7f then spread 0 128 0 c.toNat
    else if c.toNat ≤ 0x7ff then spread 192 32 1 c.toNat
    else if c.toNat ≤ 0xffff then spread 224 16 2 c.toNat
    else spread 240 8 3 c.toNat := by
  have hvalue : c.val.toNat = c.toNat := rfl
  simp only [String.utf8EncodeChar, spread, hvalue, List.cons_append, List.nil_append,
    Nat.div_div_eq_div_mul]
  split
  · rw [Nat.mod_eq_of_lt (by omega), Nat.add_zero]
  · rfl

theorem toNat_lt (c : Char) : c.toNat < 0x110000 := by
  rcases c.valid with hlow | hhigh
  · exact Nat.lt_trans hlow (by decide)
  · exact hhigh.2

/-- The encodings of two characters part as the characters do. -/
theorem parts_utf8EncodeChar {c d : Char} (h : c < d) :
    Parts (· < ·) (String.utf8EncodeChar c) (String.utf8EncodeChar d) := by
  have hlt : c.toNat < d.toNat := h
  have hd := toNat_lt d
  rw [utf8EncodeChar_eq, utf8EncodeChar_eq]
  -- of two encodings that are not of one length the longer one has the larger first byte
  split_ifs
  all_goals first
    | omega
    | exact .here (byte_lt (by omega) (by omega))
    | exact parts_spread (by decide) hlt (by omega)

/-! ### Bytes of texts -/

/-- The bytes that a text is stored in. -/
def bytes (s : String) : List UInt8 := s.toUTF8.data.toList

theorem bytes_eq (s : String) : bytes s = s.toList.flatMap String.utf8EncodeChar := by
  rw [bytes, String.toUTF8_eq_toByteArray, ← String.utf8Encode_toList, List.utf8Encode,
    List.toList_data_toByteArray]

/-- The order of texts is that of their bytes. -/
theorem bytes_lt {s t : String} (h : s < t) : bytes s < bytes t := by
  rw [bytes_eq, bytes_eq]
  exact flatMap_lt (fun _ => String.utf8EncodeChar_ne_nil) (fun _ _ => parts_utf8EncodeChar) h

end SuiteForge.Text
