import SuiteForge.Text.Ranges
import SuiteForge.Text.Scan

/-!
Patterns that a line of bytes is searched for.

A pattern is a tree; `ends` gives every position at which a match that starts at a given position
can end. Two ways to write patterns differ in which signs need a backslash: in the plain way the
brackets of a group, the bar, the plus and the question mark do, in the extended way they do not.
-/

namespace SuiteForge.Shell

/-- A pattern. A set of bytes is given by ranges, and can be turned around. -/
inductive LinePattern where
  | empty
  | byte (turned : Bool) (ranges : List (UInt8 × UInt8))
  | lineStart
  | lineEnd
  | both (a b : LinePattern)
  | either (a b : LinePattern)
  | many (a : LinePattern)
  deriving Inhabited

namespace LinePattern

/-! ### Matching -/

def lowered (b : UInt8) : UInt8 := if 65 ≤ b && b ≤ 90 then b + 32 else b

def raised (b : UInt8) : UInt8 := if 97 ≤ b && b ≤ 122 then b - 32 else b

/-- A byte belongs to a set; `folded` says that the case of letters does not count. -/
def accepts (folded turned : Bool) (ranges : List (UInt8 × UInt8)) (b : UInt8) : Bool :=
  let found := Text.inRanges ranges b ||
    (folded && (Text.inRanges ranges (lowered b) || Text.inRanges ranges (raised b)))
  found != turned

/-- All positions that any number of steps, at most `fuel`, leads to. -/
def reach (step : Nat → List Nat) : Nat → List Nat → List Nat → List Nat
  | 0, _, seen => seen
  | fuel + 1, frontier, seen =>
    let new := ((frontier.flatMap step).eraseDups).filter (!seen.contains ·)
    if new.isEmpty then seen else reach step fuel new (seen ++ new)

/-- Where a match that starts at a position can end. -/
def ends (folded : Bool) (bytes : Array UInt8) : LinePattern → Nat → List Nat
  | .empty, i => [i]
  | .byte turned ranges, i =>
    match bytes[i]? with
    | some b => if accepts folded turned ranges b then [i + 1] else []
    | none => []
  | .lineStart, i => if i = 0 then [i] else []
  | .lineEnd, i => if i = bytes.size then [i] else []
  | .both a b, i => ((ends folded bytes a i).flatMap (ends folded bytes b)).eraseDups
  | .either a b, i => (ends folded bytes a i ++ ends folded bytes b i).eraseDups
  | .many a, i => reach (ends folded bytes a) (bytes.size + 1) [i] [i]

/-! ### Reading -/

inductive Sign where
  | opening
  | closing
  | bar
  | star
  | plus
  | question
  | byte (turned : Bool) (ranges : List (UInt8 × UInt8))
  | lineStart
  | lineEnd
  deriving DecidableEq

def single (b : UInt8) : Sign := .byte false [(b, b)]

/-- The bytes of a named class. -/
def classes : List (List UInt8 × List (UInt8 × UInt8)) := [
  ("alpha", [(65, 90), (97, 122)]), ("digit", [(48, 57)]), ("upper", [(65, 90)]),
  ("lower", [(97, 122)]), ("space", [(9, 13), (32, 32)]), ("blank", [(9, 9), (32, 32)]),
  ("alnum", [(48, 57), (65, 90), (97, 122)]), ("cntrl", [(0, 31), (127, 127)]),
  ("punct", [(33, 47), (58, 64), (91, 96), (123, 126)]), ("print", [(32, 126)]),
  ("graph", [(33, 126)]), ("xdigit", [(48, 57), (65, 70), (97, 102)])
].map fun (name, ranges) => (name.toUTF8.toList, ranges)

/-- The bytes that a word is made of. -/
def wordBytes : List (UInt8 × UInt8) := [(48, 57), (65, 90), (95, 95), (97, 122)]

def blankBytes : List (UInt8 × UInt8) := [(9, 13), (32, 32)]

/-- The class that starts behind its bracket and colon, and how long it is with what ends it. -/
def class? (s : List UInt8) : Option (List (UInt8 × UInt8) × Nat) :=
  let name := s.takeWhile fun b => 97 ≤ b && b ≤ 122
  match s.drop name.length, classes.lookup name with
  | 58 :: 93 :: _, some ranges => some (ranges, name.length + 2)
  | _, _ => none

/-- The inside of a set up to the bracket that closes it: its ranges and how long it is. The first
byte never closes the set. -/
def set? : Nat → Bool → List UInt8 → Option (List (UInt8 × UInt8) × Nat)
  | 0, _, _ => none
  | _, _, [] => none
  | fuel + 1, first, b :: s =>
    if b = 93 ∧ !first then some ([], 1)
    else
      let go (ranges : List (UInt8 × UInt8)) (taken : Nat) :=
        (set? fuel false ((b :: s).drop taken)).map fun (more, n) => (ranges ++ more, taken + n)
      match b, s with
      | 91, 58 :: name =>
        match class? name with
        | some (ranges, n) => go ranges (n + 2)
        | none => go [(b, b)] 1
      | _, 45 :: high :: _ => if high = 93 then go [(b, b)] 1 else go [(b, high)] 3
      | _, _ => go [(b, b)] 1

def bracketed? (s : List UInt8) : Option (Sign × Nat) :=
  match s with
  | 94 :: s => (set? (s.length + 1) true s).map fun (ranges, n) => (.byte true ranges, n + 1)
  | s => (set? (s.length + 1) true s).map fun (ranges, n) => (.byte false ranges, n)

/-- The signs that a backslash gives or takes away, by their bytes. -/
def groupSigns : List (UInt8 × Sign) :=
  [(40, .opening), (41, .closing), (124, .bar), (43, .plus), (63, .question)]

/-- The sign of a byte behind a backslash. -/
def escaped (extended : Bool) (b : UInt8) : Sign :=
  match b with
  | 119 => .byte false wordBytes
  | 87 => .byte true wordBytes
  | 115 => .byte false blankBytes
  | 83 => .byte true blankBytes
  | b => if extended then single b else (groupSigns.lookup b).getD (single b)

/-- The sign at a byte in front of others, and how many of those belong to it. `opens` says that
nothing stands in front within the group. -/
def signAt? (extended opens : Bool) (b : UInt8) (s : List UInt8) : Option (Sign × Nat) :=
  match b with
  | 92 =>
    match s with
    | c :: _ => some (escaped extended c, 1)
    | [] => none
  | 91 => bracketed? s
  | 46 => some (.byte true [], 0)
  | 42 => some (if opens then single b else .star, 0)
  | 94 => some (if extended || opens then .lineStart else single b, 0)
  | 36 =>
    let closes := match s with
      | [] => true
      | 92 :: c :: _ => c = 41 || c = 124
      | _ => false
    some (if extended || closes then .lineEnd else single b, 0)
  | b => some (if extended then (groupSigns.lookup b).getD (single b) else single b, 0)

def signs? (extended : Bool) : Bool → Nat → List UInt8 → Option (List Sign)
  | _, _, [] => some []
  | opens, skip + 1, _ :: s => signs? extended opens skip s
  | opens, 0, b :: s => do
    let (sign, length) ← signAt? extended opens b s
    let before := sign = .opening || sign = .bar || (sign = .lineStart && !extended)
    return sign :: (← signs? extended before length s)

/-- The pattern with the signs behind it that repeat it. -/
def repeated (p : LinePattern) : List Sign → LinePattern × List Sign
  | .star :: s => repeated (.many p) s
  | .plus :: s => repeated (.both p (.many p)) s
  | .question :: s => repeated (.either p .empty) s
  | s => (p, s)

/-- Alternatives up to the end of their group; `before` is what the current one has so far. -/
def alternatives? : Nat → LinePattern → List Sign → Option (LinePattern × List Sign)
  | 0, _, _ => none
  | _, before, [] => some (before, [])
  | _, before, .closing :: s => some (before, .closing :: s)
  | fuel + 1, before, .bar :: s => do
    let (other, rest) ← alternatives? fuel .empty s
    return (.either before other, rest)
  | fuel + 1, before, .opening :: s => do
    match ← alternatives? fuel .empty s with
    | (inside, .closing :: rest) =>
      let (p, rest) := repeated inside rest
      alternatives? fuel (.both before p) rest
    | _ => none
  | fuel + 1, before, sign :: s =>
    let item : LinePattern := match sign with
      | .byte turned ranges => .byte turned ranges
      | .lineStart => .lineStart
      | .lineEnd => .lineEnd
      | _ => .empty
    let (p, rest) := repeated item s
    alternatives? fuel (.both before p) rest

def ofBytes? (extended : Bool) (s : List UInt8) : Option LinePattern := do
  let signs ← signs? extended true 0 s
  match ← alternatives? (signs.length + 1) .empty signs with
  | (p, []) => some p
  | _ => none

/-- The pattern of a text that stands for itself. -/
def literally (s : List UInt8) : LinePattern :=
  s.foldr (fun b p => .both (.byte false [(b, b)]) p) .empty

end LinePattern

end SuiteForge.Shell
