import SuiteForge.Json.Value

/-!
Reading JSON.

The reader follows the grammar and keeps nothing but the document: numbers stay as written, and
the halves of a surrogate pair are joined. Nesting may be as deep as the text is long.
-/

namespace SuiteForge.Json

/-- Drops blanks, tabs and line breaks. -/
def skipSpace (s : List Char) : List Char :=
  s.dropWhile fun c => c = ' ' || c = '\n' || c = '\r' || c = '\t'

/-! ### Strings -/

/-- Joins pairs of surrogates; a half of a pair alone is no text. -/
def joinSurrogates : List Nat → Option (List Char)
  | [] => some []
  | [n] => if 0xD800 ≤ n ∧ n ≤ 0xDFFF then none else some [Char.ofNat n]
  | a :: b :: rest =>
    if 0xD800 ≤ a ∧ a ≤ 0xDBFF ∧ 0xDC00 ≤ b ∧ b ≤ 0xDFFF then
      (joinSurrogates rest).map
        (Char.ofNat (0x10000 + (a - 0xD800) * 0x400 + (b - 0xDC00)) :: ·)
    else if 0xD800 ≤ a ∧ a ≤ 0xDFFF then none
    else (joinSurrogates (b :: rest)).map (Char.ofNat a :: ·)

def escaped? (c : Char) : Option Nat :=
  match c with
  | '"' => some 34
  | '\\' => some 92
  | '/' => some 47
  | 'b' => some 8
  | 'f' => some 12
  | 'n' => some 10
  | 'r' => some 13
  | 't' => some 9
  | _ => none

/-- The code units of a string up to its closing quote, and the rest. -/
def units? : List Char → Option (List Nat × List Char)
  | [] => none
  | '"' :: rest => some ([], rest)
  | '\\' :: 'u' :: a :: b :: c :: d :: rest =>
    if [a, b, c, d].all Text.isHexDigit then
      let n := [a, b, c, d].foldl (fun n x => n * 16 + Text.hexValue x) 0
      (units? rest).map fun (us, rest) => (n :: us, rest)
    else none
  | '\\' :: c :: rest =>
    match escaped? c with
    | some n => (units? rest).map fun (us, rest) => (n :: us, rest)
    | none => none
  | c :: rest =>
    if c.toNat < 0x20 ∨ c = '\\' then none
    else (units? rest).map fun (us, rest) => (c.toNat :: us, rest)

/-- A string after its opening quote. -/
def string? (s : List Char) : Option (Option String × List Char) :=
  (units? s).map fun (us, rest) => ((joinSurrogates us).map String.ofList, rest)

/-! ### Numbers -/

/-- At least one digit. -/
def digits? (s : List Char) : Option (List Char × List Char) :=
  match Decimal.digitRun s with
  | ([], _) => none
  | run => some run

/-- A whole part without a leading zero. -/
def whole? : List Char → Option (List Char × List Char)
  | '0' :: rest => some (['0'], rest)
  | s => digits? s

/-- A fraction, if a point comes first. -/
def fraction? : List Char → Option (List Char × List Char)
  | '.' :: rest => (digits? rest).map fun (ds, rest) => ('.' :: ds, rest)
  | s => some ([], s)

def exponent? : List Char → Option (List Char × List Char)
  | c :: rest =>
    if c = 'e' ∨ c = 'E' then
      match rest with
      | '+' :: more => (digits? more).map fun (ds, rest) => (c :: '+' :: ds, rest)
      | '-' :: more => (digits? more).map fun (ds, rest) => (c :: '-' :: ds, rest)
      | more => (digits? more).map fun (ds, rest) => (c :: ds, rest)
    else some ([], c :: rest)
  | [] => some ([], [])

def number? (s : List Char) : Option (List Char × List Char) := do
  let (sign, rest) := match s with
    | '-' :: rest => (['-'], rest)
    | rest => ([], rest)
  let (whole, rest) ← whole? rest
  let (fraction, rest) ← fraction? rest
  let (exponent, rest) ← exponent? rest
  return (sign ++ whole ++ fraction ++ exponent, rest)

/-! ### Documents -/

mutual

/-- A value at the front of a text; `fuel` bounds the steps. -/
def value? : Nat → List Char → Option (Json × List Char)
  | 0, _ => none
  | fuel + 1, s =>
    match skipSpace s with
    | '[' :: rest =>
      match skipSpace rest with
      | ']' :: rest => some (.array [], rest)
      | rest => (elements? fuel rest).map fun (vs, rest) => (.array vs, rest)
    | '\x7b' :: rest =>
      match skipSpace rest with
      | '\x7d' :: rest => some (.object [], rest)
      | rest => (members? fuel rest).map fun (ms, rest) => (.object ms, rest)
    | '"' :: rest => (string? rest).map fun (t, rest) => (.string t, rest)
    | 't' :: 'r' :: 'u' :: 'e' :: rest => some (.bool true, rest)
    | 'f' :: 'a' :: 'l' :: 's' :: 'e' :: rest => some (.bool false, rest)
    | 'n' :: 'u' :: 'l' :: 'l' :: rest => some (.null, rest)
    | s => (number? s).map fun (n, rest) => (.number n, rest)

def elements? : Nat → List Char → Option (List Json × List Char)
  | 0, _ => none
  | fuel + 1, s =>
    match value? fuel s with
    | none => none
    | some (v, rest) =>
      match skipSpace rest with
      | ',' :: rest => (elements? fuel rest).map fun (vs, rest) => (v :: vs, rest)
      | ']' :: rest => some ([v], rest)
      | _ => none

def members? : Nat → List Char → Option (List (Option String × Json) × List Char)
  | 0, _ => none
  | fuel + 1, s =>
    match skipSpace s with
    | '"' :: rest =>
      match string? rest with
      | none => none
      | some (name, rest) =>
        match skipSpace rest with
        | ':' :: rest =>
          match value? fuel rest with
          | none => none
          | some (v, rest) =>
            match skipSpace rest with
            | ',' :: rest => (members? fuel rest).map fun (ms, rest) => ((name, v) :: ms, rest)
            | '\x7d' :: rest => some ([(name, v)], rest)
            | _ => none
        | _ => none
    | _ => none

end

/-- Reads a whole text as one document. -/
def parse? (s : List Char) : Option Json :=
  match value? (2 * s.length + 2) s with
  | some (v, rest) => if skipSpace rest = [] then some v else none
  | none => none

end SuiteForge.Json
