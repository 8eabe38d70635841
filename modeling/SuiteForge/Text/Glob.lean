import SuiteForge.Text.Ranges
import SuiteForge.Text.Scan

/-!
Wildcard patterns on file names.

`?` stands for one character, `*` for any run of characters, a bracket for one character inside or
(with `!`) outside a set. `**` has to be a whole component of a path and stands for any number of
components. A pattern that breaks these rules is no pattern at all.
-/

namespace SuiteForge.Text

/-- A part of a pattern. A set is given by the ranges it is made of. -/
inductive GlobToken where
  | char (c : Char)
  | anyChar
  | within (ranges : List (Char × Char))
  | outside (ranges : List (Char × Char))
  | anyRun
  | anyComponents
  deriving DecidableEq

namespace Glob

/-- The ranges that the inside of a bracket names. -/
def ranges : List Char → List (Char × Char)
  | a :: '-' :: b :: rest => (a, b) :: ranges rest
  | a :: rest => (a, a) :: ranges rest
  | [] => []

/-- A bracket after its `[`: its first character is inside even when it is a closing bracket. -/
def bracket? : List Char → Option (GlobToken × List Char)
  | '!' :: c :: rest =>
    match splitOnce [']'] rest with
    | some (more, rest) => some (.outside (ranges (c :: more)), rest)
    | none => none
  | '!' :: [] => none
  | c :: rest =>
    match splitOnce [']'] rest with
    | some (more, rest) => some (.within (ranges (c :: more)), rest)
    | none => none
  | [] => none

/-- Reads a pattern; `atStart` says that a component begins here, `skip` characters belong to the
token before. -/
def tokens? (atStart : Bool) : Nat → List Char → Option (List GlobToken)
  | _, [] => some []
  | skip + 1, _ :: cs => tokens? atStart skip cs
  | 0, '*' :: '*' :: cs =>
    if atStart then
      match cs with
      | [] => some [.anyComponents]
      | '/' :: _ => (tokens? true 2 ('*' :: cs)).map fun ts =>
          if ts.head? = some .anyComponents then ts else .anyComponents :: ts
      | _ => none
    else none
  | 0, '*' :: cs => (tokens? false 0 cs).map (.anyRun :: ·)
  | 0, '?' :: cs => (tokens? false 0 cs).map (.anyChar :: ·)
  | 0, '[' :: cs =>
    match bracket? cs with
    | some (t, rest) => (tokens? false (cs.length - rest.length) cs).map (t :: ·)
    | none => none
  | 0, c :: cs => (tokens? (c = '/') 0 cs).map (.char c :: ·)

def accepts : GlobToken → Char → Bool
  | .char d, c => c = d
  | .anyChar, _ => true
  | .within rs, c => inRanges rs c
  | .outside rs, c => !inRanges rs c
  | _, _ => false

/-- A text and everything that is left of it from some position on. -/
def suffixes : List Char → List (List Char)
  | [] => [[]]
  | c :: cs => (c :: cs) :: suffixes cs

/-- What is left of a text behind each of its slashes. -/
def behindSlashes : List Char → List (List Char)
  | [] => []
  | c :: cs => if c = '/' then cs :: behindSlashes cs else behindSlashes cs

def fits : List GlobToken → List Char → Bool
  | [], s => s = []
  | .anyRun :: ts, s => (suffixes s).any (fits ts)
  | .anyComponents :: ts, s => (s :: [] :: behindSlashes s).any (fits ts)
  | _ :: _, [] => false
  | t :: ts, c :: cs => accepts t c && fits ts cs

end Glob

def globOf? (s : List Char) : Option (List GlobToken) := Glob.tokens? true 0 s

end SuiteForge.Text
