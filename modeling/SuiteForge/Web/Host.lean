import SuiteForge.Number.Decimal
import SuiteForge.Text.Blank

/-!
The hosts of web addresses: names, IPv4 and IPv6 addresses.

A name is percent-decoded, mapped to its canonical form (small letters, full-width forms and
ideographic stops to ASCII, invisible characters dropped) and checked. A name whose last label is a
number has to be an IPv4 address.
-/

namespace SuiteForge.Web

inductive Fault where
  | noBase
  | emptyHost
  | badPort
  | badIpv4
  | badIpv6
  | badDomain
  | badCharacter
  deriving DecidableEq, Repr

def Fault.message : Fault → String
  | .noBase => "relative URL without a base"
  | .emptyHost => "empty host"
  | .badPort => "invalid port number"
  | .badIpv4 => "invalid IPv4 address"
  | .badIpv6 => "invalid IPv6 address"
  | .badDomain => "invalid international domain name"
  | .badCharacter => "invalid domain character"

namespace Host

open Text

/-! ### Numbers -/

def numberIn (base : Nat) (ds : List Char) : Nat :=
  ds.foldl (fun n d => n * base + hexValue d) 0

/-- A part of an IPv4 address: octal behind a zero, hexadecimal behind `0x`. -/
def ipv4Part? : List Char → Option Nat
  | [] => none
  | '0' :: 'x' :: ds => if ds.all isHexDigit then some (numberIn 16 ds) else none
  | '0' :: 'X' :: ds => if ds.all isHexDigit then some (numberIn 16 ds) else none
  | ['0'] => some 0
  | '0' :: ds => if ds.all fun c => '0' ≤ c && c ≤ '7' then some (numberIn 8 ds) else none
  | ds => if ds.all isDigit then some (numberIn 10 ds) else none

/-- The labels of a name; a stop at the end opens no label. -/
def labels (s : List Char) : List (List Char) :=
  let ls := splitOn '.' s
  if ls.length > 1 ∧ ls.getLast? = some [] then ls.dropLast else ls

/-- The last label is a number. -/
def endsInNumber (s : List Char) : Bool :=
  match (labels s).getLast? with
  | none => false
  | some [] => false
  | some l => l.all isDigit || (ipv4Part? l).isSome

/-- The parts fit an address: at most four, all but the last below 256, the last filling up. -/
def isIpv4 (s : List Char) : Bool :=
  let parts := (labels s).map ipv4Part?
  match parts.getLast? with
  | some (some last) =>
    parts.length ≤ 4 && last < Nat.pow 256 (5 - parts.length) &&
      parts.dropLast.all fun p => match p with
        | some n => n < 256
        | none => false
  | _ => false

/-- One to four hexadecimal digits. -/
def isGroup (s : List Char) : Bool := s ≠ [] && s.length ≤ 4 && s.all isHexDigit

/-- Four decimal numbers below 256 without leading zeros. -/
def isDottedQuad (s : List Char) : Bool :=
  let parts := splitOn '.' s
  parts.length = 4 && parts.all fun p =>
    p ≠ [] && p.length ≤ 3 && p.all isDigit && numberIn 10 p < 256 &&
      (p.length = 1 || p.head? ≠ some '0')

/-- How many groups of an IPv6 address a text between double colons holds, if it is well formed.
Only the last part of the address may end in four decimal numbers. -/
def groups? (isLast : Bool) (s : List Char) : Option Nat :=
  if s = [] then some 0
  else
    let parts := splitOn ':' s
    match parts.getLast? with
    | none => none
    | some last =>
      if parts.dropLast.all isGroup then
        if isGroup last then some parts.length
        else if isLast && isDottedQuad last then some (parts.length + 1)
        else none
      else none

/-- Eight groups, or fewer around one double colon. -/
def isIpv6 (s : List Char) : Bool :=
  match splitOnce "::".toList s with
  | none => groups? true s = some 8
  | some (front, back) =>
    match groups? false front, groups? true back with
    | some a, some b => a + b ≤ 7
    | _, _ => false

/-! ### Names -/

/-- The bytes behind percent signs, and all other characters as they are written in UTF-8. -/
def percentDecode : List Char → List UInt8
  | [] => []
  | '%' :: a :: b :: rest =>
    if isHexDigit a && isHexDigit b then
      UInt8.ofNat (hexValue a * 16 + hexValue b) :: percentDecode rest
    else 37 :: percentDecode (a :: b :: rest)
  | c :: rest => (String.singleton c).toUTF8.toList ++ percentDecode rest

/-- The canonical form of a character of a name; none when it may not stand there. -/
def canonical? (c : Char) : Option (List Char) :=
  let n := c.toNat
  if n < 0x80 then some [lower c]
  else if n = 0x3002 ∨ n = 0xFF0E ∨ n = 0xFF61 then some ['.']
  else if 0xFF01 ≤ n ∧ n ≤ 0xFF5E then some [lower (Char.ofNat (n - 0xFEE0))]
  else if n = 0xAD ∨ n = 0x200B ∨ n = 0x2060 ∨ n = 0xFEFF ∨ n = 0x34F ∨ (0xFE00 ≤ n ∧ n ≤ 0xFE0F) ∨
      (0x180B ≤ n ∧ n ≤ 0x180D) then some []
  else if n < 0xA0 ∨ isBlank c ∨ (0x200E ≤ n ∧ n ≤ 0x200F) ∨ (0x2028 ≤ n ∧ n ≤ 0x202F) ∨
      (0x2061 ≤ n ∧ n ≤ 0x206F) ∨ (0xE000 ≤ n ∧ n ≤ 0xF8FF) ∨ (0xFFF0 ≤ n ∧ n ≤ 0xFFFF) ∨
      0xE0000 ≤ n then none
  else some [c]

/-- ASCII characters that no name may hold. -/
def isForbidden (c : Char) : Bool :=
  c.toNat ≤ 0x20 || c.toNat = 0x7F || "#/:<>?@[\\]^|%".toList.contains c

/-- Where the reading of an encoded label stands: `length` characters are known, the next delta is
added to `index` behind code point `point`. -/
structure Decoding where
  length : Nat
  point : Nat := 128
  index : Nat := 0
  start : Nat := 0
  weight : Nat := 1
  step : Nat := 36
  bias : Nat := 72

/-- Divides a delta down until it is small; `fuel` bounds the divisions. -/
def shrink : Nat → Nat → Nat → Nat
  | 0, delta, k => k + 36 * delta / (delta + 38)
  | fuel + 1, delta, k =>
    if 455 < delta then shrink fuel (delta / 35) (k + 36) else k + 36 * delta / (delta + 38)

/-- The bias for the next delta. -/
def adaptBias (delta length : Nat) (first : Bool) : Nat :=
  let delta := if first then delta / 700 else delta / 2
  shrink 64 (delta + delta / length) 0

/-- The digits are whole deltas, and each leads to a character. -/
def isEncoding (st : Decoding) : List Char → Bool
  | [] => st.step = 36
  | c :: cs =>
    let digit? := if isLowerLetter c then some (c.toNat - 97)
      else if isDigit c then some (c.toNat - 22) else none
    match digit? with
    | none => false
    | some digit =>
      let index := st.index + digit * st.weight
      let threshold :=
        if st.step ≤ st.bias then 1 else if st.bias + 26 ≤ st.step then 26 else st.step - st.bias
      if digit < threshold then
        let length := st.length + 1
        let point := st.point + index / length
        let next := index % length + 1
        Nat.isValidChar point && isEncoding
          { length, point, index := next, start := next
            bias := adaptBias (index - st.start) length (st.start = 0) } cs
      else
        isEncoding
          { st with index, weight := st.weight * (36 - threshold), step := st.step + 36 } cs

/-- A label with the mark of an encoded name holds an encoding. -/
def isEncodedLabel (l : List Char) : Bool :=
  match after? "xn--".toList l with
  | none => true
  | some rest =>
    let (plain, encoded) := match splitOnce ['-'] rest.reverse with
      | some (tail, front) => (front.length, tail.reverse)
      | none => (0, rest)
    encoded ≠ [] && isEncoding { length := plain } encoded

def domain? (s : List Char) : Option (List Char) := do
  let decoded ← String.fromUTF8? ⟨(percentDecode s).toArray⟩
  let mapped ← decoded.toList.mapM canonical?
  let name := mapped.flatten
  if name.any isForbidden || !(splitOn '.' name).all isEncodedLabel then none else some name

def check (s : List Char) : Except Fault Unit :=
  match s with
  | '[' :: rest =>
    match rest.getLast? with
    | some ']' => if isIpv6 rest.dropLast then .ok () else .error .badIpv6
    | _ => .error .badIpv6
  | s =>
    match domain? s with
    | none => .error .badDomain
    | some [] => .error .emptyHost
    | some name => if endsInNumber name && !isIpv4 name then .error .badIpv4 else .ok ()

/-- Checks the host of an address with a scheme of its own rules. -/
def checkOpaque (s : List Char) : Except Fault Unit :=
  match s with
  | '[' :: rest =>
    match rest.getLast? with
    | some ']' => if isIpv6 rest.dropLast then .ok () else .error .badIpv6
    | _ => .error .badIpv6
  | s =>
    if s.any fun c => c.toNat = 0 || "\t\n\r #/:<>?@[\\]^|".toList.contains c then
      .error .badCharacter
    else .ok ()

end Host

end SuiteForge.Web
