import SuiteForge.Text.Ascii
import SuiteForge.Text.Lowercase.Table
import SuiteForge.Text.Ranges

/-!
Full lower-casing of Unicode text, independent of language.

Two characters do not follow the simple mapping: a capital I with a dot keeps its dot as a
combining mark, and a capital sigma becomes the final form when it ends a word.
-/

namespace SuiteForge.Text

namespace Lowercase

def isCased (c : Char) : Bool := isLetter c || inRanges casedRanges c.toNat

def isIgnorable (c : Char) : Bool := !isLetter c && inRanges ignorableRanges c.toNat

/-- A cased character comes first once case-ignorable ones are skipped. -/
def casedFirst (s : List Char) : Bool :=
  match s.dropWhile isIgnorable with
  | [] => false
  | c :: _ => isCased c

/-- A sigma between `before` (nearest character first) and `after` ends its word. -/
def endsWord (before after : List Char) : Bool := casedFirst before && !casedFirst after

def CaseRun.covers (r : CaseRun) (n : Nat) : Bool :=
  r.first ≤ n && n ≤ r.last && (n - r.first) % r.step == 0

/-- The lower-case form of a character outside every context. -/
def ofChar (c : Char) : List Char :=
  if c.toNat < 0x80 then [lower c]
  else if c.toNat == 0x130 then ['i', '\u0307']
  else match caseRuns.find? (·.covers c.toNat) with
    | some r => [Char.ofNat (Int.toNat (c.toNat + r.shift))]
    | none => [c]

/-- Lower-cases a text that follows `before` (nearest character first). -/
def after (before : List Char) : List Char → List Char
  | [] => []
  | c :: cs =>
    let small := if c = 'Σ' then [if endsWord before cs then 'ς' else 'σ'] else ofChar c
    small ++ after (c :: before) cs

end Lowercase

def lowercase (s : List Char) : List Char := Lowercase.after [] s

end SuiteForge.Text
