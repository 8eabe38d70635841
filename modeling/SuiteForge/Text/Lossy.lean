/-!
Bytes read as UTF-8 text, whatever they are.

Bytes that belong to no character are replaced: the start of a character that does not go on gives
one replacement character, and so does a byte that starts none.
-/

namespace SuiteForge.Text

namespace Lossy

def replacement : Char := '\ufffd'

/-- A character that has begun: how many bytes are missing, the range that the next one has to be
in, and the bits so far. -/
structure Begun where
  missing : Nat
  low : Nat := 0x80
  high : Nat := 0xBF
  bits : Nat

def begin? (b : Nat) : Option Begun :=
  if 0xC2 ≤ b ∧ b ≤ 0xDF then some { missing := 1, bits := b - 0xC0 }
  else if b = 0xE0 then some { missing := 2, low := 0xA0, bits := 0 }
  else if b = 0xED then some { missing := 2, high := 0x9F, bits := 13 }
  else if 0xE1 ≤ b ∧ b ≤ 0xEF then some { missing := 2, bits := b - 0xE0 }
  else if b = 0xF0 then some { missing := 3, low := 0x90, bits := 0 }
  else if b = 0xF4 then some { missing := 3, high := 0x8F, bits := 4 }
  else if 0xF1 ≤ b ∧ b ≤ 0xF3 then some { missing := 3, bits := b - 0xF0 }
  else none

/-- A byte that stands where a character starts: what it gives at once and what it begins. -/
def first (b : Nat) : List Char × Option Begun :=
  if b < 0x80 then ([Char.ofNat b], none)
  else match begin? b with
    | some p => ([], some p)
    | none => ([replacement], none)

/-- The text of bytes behind a character that has begun. -/
def decode : Option Begun → List UInt8 → List Char
  | none, [] => []
  | some _, [] => [replacement]
  | none, b :: bs =>
    let (cs, begun) := first b.toNat
    cs ++ decode begun bs
  | some p, b :: bs =>
    if p.low ≤ b.toNat ∧ b.toNat ≤ p.high then
      let bits := p.bits * 64 + (b.toNat - 0x80)
      if p.missing = 1 then Char.ofNat bits :: decode none bs
      else decode (some { missing := p.missing - 1, bits }) bs
    else
      let (cs, begun) := first b.toNat
      replacement :: (cs ++ decode begun bs)

end Lossy

def ofBytes (bytes : ByteArray) : String :=
  match String.fromUTF8? bytes with
  | some s => s
  | none => String.ofList (Lossy.decode none bytes.toList)

end SuiteForge.Text
