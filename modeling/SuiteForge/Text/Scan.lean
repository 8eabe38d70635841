/-!
Scanning a text for what a recogniser accepts.

A recogniser looks at the front of a text; on success it gives a value and what is left. The
scans below try it at every position from the left. `allMatches` and `replaceMatches` go on after
the end of a match, so matches never overlap; both count down the characters that a match still
covers, so they recurse on the text itself.
-/

namespace SuiteForge.Text

/-- What stands at the front of a text: a value and the rest, or nothing. -/
abbrev Recogniser (α : Type) := List Char → Option (α × List Char)

/-- What follows `w`, when the text starts with `w`. -/
def after? : List Char → List Char → Option (List Char)
  | [], s => some s
  | _ :: _, [] => none
  | p :: ps, c :: cs => if p = c then after? ps cs else none

/-- The leftmost value that `r` accepts at some position. -/
def firstMatch (r : Recogniser α) : List Char → Option α
  | [] => (r []).map Prod.fst
  | c :: cs =>
    match r (c :: cs) with
    | some (a, _) => some a
    | none => firstMatch r cs

/-- The values of the leftmost matches that do not overlap, after `skip` characters. -/
def allMatchesFrom (r : Recogniser α) : Nat → List Char → List α
  | _, [] => []
  | skip + 1, _ :: cs => allMatchesFrom r skip cs
  | 0, c :: cs =>
    match r (c :: cs) with
    | some (a, rest) => a :: allMatchesFrom r (cs.length - rest.length) cs
    | none => allMatchesFrom r 0 cs

/-- The values of the leftmost matches that do not overlap. -/
def allMatches (r : Recogniser α) (s : List Char) : List α := allMatchesFrom r 0 s

/-- Replaces matches by the text the recogniser gives for them, after `skip` characters. -/
def replaceFrom (r : Recogniser (List Char)) : Nat → List Char → List Char
  | _, [] => []
  | skip + 1, _ :: cs => replaceFrom r skip cs
  | 0, c :: cs =>
    match r (c :: cs) with
    | some (new, rest) => new ++ replaceFrom r (cs.length - rest.length) cs
    | none => c :: replaceFrom r 0 cs

/-- Replaces every leftmost match that does not overlap an earlier one; what is put in is not
scanned again. -/
def replaceMatches (r : Recogniser (List Char)) (s : List Char) : List Char := replaceFrom r 0 s

/-- Replaces the leftmost match only. -/
def replaceFirst (r : Recogniser (List Char)) : List Char → List Char
  | [] => match r [] with
    | some (new, rest) => new ++ rest
    | none => []
  | c :: cs =>
    match r (c :: cs) with
    | some (new, rest) => new ++ rest
    | none => c :: replaceFirst r cs

/-- Recognises the word `w` and stands for `new`. -/
def word (w new : List Char) : Recogniser (List Char) := fun s => (after? w s).map (new, ·)

/-- Some position of the text starts with `w`. -/
def contains (w s : List Char) : Bool := (firstMatch (word w []) s).isSome

/-- Cuts a text around the first `w`: what is before it and what is after it. -/
def splitOnce (w : List Char) : List Char → Option (List Char × List Char)
  | [] => (after? w []).map ([], ·)
  | c :: cs =>
    match after? w (c :: cs) with
    | some rest => some ([], rest)
    | none => (splitOnce w cs).map fun (before, rest) => (c :: before, rest)

/-- The text without its occurrences of a nonempty word `w`. -/
def eraseAll (w : List Char) (s : List Char) : List Char := replaceMatches (word w []) s

/-- The text without its first occurrence of `w`. -/
def eraseFirst (w : List Char) (s : List Char) : List Char := replaceFirst (word w []) s

/-- The text without its last occurrence of `w`. -/
def eraseLast (w : List Char) (s : List Char) : List Char :=
  (eraseFirst w.reverse s.reverse).reverse

/-- The pieces between the characters `d`. -/
def splitOn (d : Char) : List Char → List (List Char)
  | [] => [[]]
  | c :: cs =>
    if c = d then [] :: splitOn d cs
    else match splitOn d cs with
      | [] => [[c]]
      | p :: ps => (c :: p) :: ps

end SuiteForge.Text
