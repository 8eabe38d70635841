import SuiteForge.Toml.Value

/-!
Reading TOML 1.0.

The readers take a value from the front of a text and give the rest. A document is read line by
line into a table under construction, which refuses what is defined twice.
-/

namespace SuiteForge.Toml

/-- Values may be nested less deep than this, and a dotted key has fewer parts. -/
def nestingLimit : Nat := 80

/-! ### Blanks and line ends -/

def skipBlanks (s : List Char) : List Char := s.dropWhile fun c => c = ' ' || c = '\t'

/-- A tab, or any character that is not a control character. -/
def isPlain (c : Char) : Bool := c = '\t' || (0x20 ≤ c.toNat && c.toNat ≠ 0x7F)

/-- What follows a line break. -/
def afterNewline? : List Char → Option (List Char)
  | '\n' :: rest => some rest
  | '\r' :: '\n' :: rest => some rest
  | _ => none

/-- What follows a comment, if there is one. -/
def skipComment : List Char → List Char
  | '#' :: rest => rest.dropWhile isPlain
  | s => s

/-- Ends a line: blanks, perhaps a comment, and a line break or the end of the text. -/
def endLine? (s : List Char) : Option (List Char) :=
  match skipComment (skipBlanks s) with
  | [] => some []
  | rest => afterNewline? rest

/-- Skips blanks, comments and line breaks, at most `fuel` of each. -/
def skipLines : Nat → List Char → List Char
  | 0, s => s
  | fuel + 1, s =>
    match skipComment (skipBlanks s) with
    | '\n' :: rest => skipLines fuel rest
    | '\r' :: '\n' :: rest => skipLines fuel rest
    | rest => rest

/-! ### Strings -/

def escapedChar? (c : Char) : Option Char :=
  match c with
  | 'b' => some '\x08'
  | 't' => some '\t'
  | 'n' => some '\n'
  | 'f' => some '\x0c'
  | 'r' => some '\r'
  | '"' => some '"'
  | '\\' => some '\\'
  | _ => none

/-- The character whose code point is written in hexadecimal. -/
def codePoint? (ds : List Char) : Option Char :=
  let n := ds.foldl (fun n d => n * 16 + Text.hexValue d) 0
  if ds.all Text.isHexDigit ∧ n.isValidChar then some (Char.ofNat n) else none

def escape? : List Char → Option (Char × List Char)
  | 'u' :: a :: b :: c :: d :: rest => (codePoint? [a, b, c, d]).map (·, rest)
  | 'U' :: a :: b :: c :: d :: e :: f :: g :: h :: rest =>
    (codePoint? [a, b, c, d, e, f, g, h]).map (·, rest)
  | c :: rest => (escapedChar? c).map (·, rest)
  | [] => none

/-- A basic string after its opening quote, past `skip` characters of an escape. -/
def basicString? : Nat → List Char → Option (List Char × List Char)
  | _, [] => none
  | skip + 1, _ :: rest => basicString? skip rest
  | 0, '"' :: rest => some ([], rest)
  | 0, '\\' :: rest =>
    match escape? rest with
    | none => none
    | some (c, after) =>
      (basicString? (rest.length - after.length) rest).map fun (cs, rest) => (c :: cs, rest)
  | 0, c :: rest =>
    if isPlain c then (basicString? 0 rest).map fun (cs, rest) => (c :: cs, rest) else none

def literalString? : List Char → Option (List Char × List Char)
  | [] => none
  | '\'' :: rest => some ([], rest)
  | c :: rest =>
    if isPlain c then (literalString? rest).map fun (cs, rest) => (c :: cs, rest) else none

/-- The line break right after the opening quotes does not belong to the string. -/
def skipFirstNewline (s : List Char) : List Char := (afterNewline? s).getD s

/-- Inside a string of several lines: past some characters of an escape, or joining lines. -/
inductive Inside
  | text
  | escape (skip : Nat)
  | joining

/-- A backslash ends this line. -/
def endsInNewline (s : List Char) : Bool := (afterNewline? (skipBlanks s)).isSome

/-- A basic string of several lines. Up to two quotes may come before the closing three, and a
backslash at the end of a line drops all blanks and line breaks that follow. -/
def longBasicString? : Inside → List Char → Option (List Char × List Char)
  | _, [] => none
  | .escape (skip + 1), _ :: rest => longBasicString? (.escape skip) rest
  | _, '"' :: '"' :: '"' :: '"' :: '"' :: rest => some (['"', '"'], rest)
  | _, '"' :: '"' :: '"' :: '"' :: rest => some (['"'], rest)
  | _, '"' :: '"' :: '"' :: rest => some ([], rest)
  | .joining, ' ' :: rest => longBasicString? .joining rest
  | .joining, '\t' :: rest => longBasicString? .joining rest
  | .joining, '\n' :: rest => longBasicString? .joining rest
  | .joining, '\r' :: '\n' :: rest => longBasicString? .joining rest
  | _, '\\' :: rest =>
    if endsInNewline rest then longBasicString? .joining rest
    else match escape? rest with
      | none => none
      | some (c, after) =>
        (longBasicString? (.escape (rest.length - after.length)) rest).map
          fun (cs, rest) => (c :: cs, rest)
  | _, '\r' :: '\n' :: rest =>
    (longBasicString? .text rest).map fun (cs, rest) => ('\n' :: cs, rest)
  | _, c :: rest =>
    if isPlain c || c = '\n' then
      (longBasicString? .text rest).map fun (cs, rest) => (c :: cs, rest)
    else none

def longLiteralString? : List Char → Option (List Char × List Char)
  | [] => none
  | '\'' :: '\'' :: '\'' :: '\'' :: '\'' :: rest => some (['\'', '\''], rest)
  | '\'' :: '\'' :: '\'' :: '\'' :: rest => some (['\''], rest)
  | '\'' :: '\'' :: '\'' :: rest => some ([], rest)
  | '\r' :: '\n' :: rest =>
    (longLiteralString? rest).map fun (cs, rest) => ('\n' :: cs, rest)
  | c :: rest =>
    if isPlain c || c = '\n' then
      (longLiteralString? rest).map fun (cs, rest) => (c :: cs, rest)
    else none

/-! ### Keys -/

def isBareKeyChar (c : Char) : Bool := Text.isWordChar c || c = '-'

def keyPart? : List Char → Option (String × List Char)
  | '"' :: rest => (basicString? 0 rest).map fun (cs, rest) => (String.ofList cs, rest)
  | '\'' :: rest => (literalString? rest).map fun (cs, rest) => (String.ofList cs, rest)
  | s =>
    match s.takeWhile isBareKeyChar with
    | [] => none
    | cs => some (String.ofList cs, s.dropWhile isBareKeyChar)

/-- The parts of a dotted key, with blanks around them; at most `fuel` parts. -/
def keyParts? : Nat → List Char → Option (List String × List Char)
  | 0, _ => none
  | fuel + 1, s =>
    match keyPart? (skipBlanks s) with
    | none => none
    | some (part, rest) =>
      match skipBlanks rest with
      | '.' :: rest => (keyParts? fuel rest).map fun (parts, rest) => (part :: parts, rest)
      | rest => some ([part], rest)

/-- A key: the path to its table and its last part. -/
def key? (s : List Char) : Option (List String × String × List Char) :=
  match keyParts? (nestingLimit - 1) s with
  | some (parts, rest) => parts.getLast?.map fun last => (parts.dropLast, last, rest)
  | none => none

/-! ### Numbers, dates and times -/

/-- Digits of a class with single underscores between them, without the underscores. -/
def groupedDigits? (isDigit : Char → Bool) : List Char → Option (List Char × List Char)
  | [] => none
  | c :: rest =>
    if isDigit c then
      match rest with
      | '_' :: d :: more =>
        if isDigit d then
          (groupedDigits? isDigit (d :: more)).map fun (ds, rest) => (c :: ds, rest)
        else none
      | ['_'] => none
      | d :: more =>
        if isDigit d then
          (groupedDigits? isDigit (d :: more)).map fun (ds, rest) => (c :: ds, rest)
        else some ([c], d :: more)
      | [] => some ([c], [])
    else none

/-- A decimal whole number without a leading zero. -/
def decimal? : List Char → Option (List Char × List Char)
  | '0' :: rest => some (['0'], rest)
  | s => groupedDigits? Text.isDigit s

def signOf : List Char → List Char × List Char
  | '-' :: rest => (['-'], rest)
  | '+' :: rest => ([], rest)
  | rest => ([], rest)

/-- An exponent with its letter, if there is one. -/
def floatExponent? : List Char → Option (List Char × List Char)
  | c :: rest =>
    if c = 'e' ∨ c = 'E' then
      let (sign, rest) := signOf rest
      (groupedDigits? Text.isDigit rest).map fun (ds, rest) => ('e' :: sign ++ ds, rest)
    else some ([], c :: rest)
  | [] => some ([], [])

/-- A number with a fraction or an exponent. One too large for a positive number is refused. -/
def float? (s : List Char) : Option (Value × List Char) := do
  let (sign, rest) := signOf s
  match rest with
  | 'i' :: 'n' :: 'f' :: rest => return (.float (.infinite (sign ≠ [])), rest)
  | 'n' :: 'a' :: 'n' :: rest => return (.float .nan, rest)
  | rest =>
    let (whole, rest) ← decimal? rest
    let (fraction, rest) ← match rest with
      | '.' :: rest =>
        (groupedDigits? Text.isDigit rest).map fun (ds, rest) => ('.' :: ds, rest)
      | rest => some ([], rest)
    let (exponent, rest) ← floatExponent? rest
    if fraction = [] ∧ exponent = [] then none
    else
      let x ← Binary64.ofText? (sign ++ whole ++ fraction ++ exponent)
      if x = .infinite false then none else return (.float x, rest)

/-- The integers that a document may hold. -/
def integerOf? (n : Int) : Option Value :=
  if -(Nat.pow 2 63 : Int) ≤ n ∧ n < Nat.pow 2 63 then some (.integer n) else none

/-- A whole number in base `base`. -/
def based? (base : Nat) (isDigit : Char → Bool) (s : List Char) : Option (Value × List Char) := do
  let (ds, rest) ← groupedDigits? isDigit s
  let value ← integerOf? (ds.foldl (fun n d => n * base + Text.hexValue d) 0 : Nat)
  return (value, rest)

def integer? : List Char → Option (Value × List Char)
  | '0' :: 'x' :: rest => based? 16 Text.isHexDigit rest
  | '0' :: 'o' :: rest => based? 8 (fun c => '0' ≤ c && c ≤ '7') rest
  | '0' :: 'b' :: rest => based? 2 (fun c => c = '0' || c = '1') rest
  | s => do
    let (sign, rest) := signOf s
    let (ds, rest) ← decimal? rest
    let n : Int := Decimal.digitsValue 0 ds
    let value ← integerOf? (if sign = [] then n else -n)
    return (value, rest)

/-- Exactly two digits with a value in a range. -/
def twoDigits? (low high : Nat) : List Char → Option (Nat × List Char)
  | a :: b :: rest =>
    let n := Decimal.digitsValue 0 [a, b]
    if Text.isDigit a ∧ Text.isDigit b ∧ low ≤ n ∧ n ≤ high then some (n, rest) else none
  | _ => none

def daysInMonth (year month : Nat) : Nat :=
  if month = 2 then
    if (year % 4 = 0 ∧ year % 100 ≠ 0) ∨ year % 400 = 0 then 29 else 28
  else if month = 4 ∨ month = 6 ∨ month = 9 ∨ month = 11 then 30
  else 31

/-- What follows a date. -/
def afterDate? : List Char → Option (List Char)
  | a :: b :: c :: d :: '-' :: rest => do
    if !([a, b, c, d].all Text.isDigit) then none
    let year := Decimal.digitsValue 0 [a, b, c, d]
    let (month, rest) ← twoDigits? 1 12 rest
    match rest with
    | '-' :: rest =>
      let (_, rest) ← twoDigits? 1 (daysInMonth year month) rest
      return rest
    | _ => none
  | _ => none

/-- What follows a time of day. -/
def afterTime? (s : List Char) : Option (List Char) := do
  let (_, rest) ← twoDigits? 0 23 s
  match rest with
  | ':' :: rest =>
    let (_, rest) ← twoDigits? 0 59 rest
    match rest with
    | ':' :: rest =>
      let (_, rest) ← twoDigits? 0 60 rest
      match rest with
      | '.' :: more =>
        match Decimal.digitRun more with
        | ([], _) => none
        | (_, rest) => return rest
      | rest => return rest
    | _ => none
  | _ => none

/-- What follows an offset from universal time, if there is one. -/
def afterOffset? : List Char → Option (List Char)
  | 'Z' :: rest => some rest
  | 'z' :: rest => some rest
  | c :: rest =>
    if c = '+' ∨ c = '-' then do
      let (_, rest) ← twoDigits? 0 23 rest
      match rest with
      | ':' :: rest =>
        let (_, rest) ← twoDigits? 0 59 rest
        return rest
      | _ => none
    else some (c :: rest)
  | [] => some []

/-- A date, a time, or both. A blank may divide them if a time really follows. -/
def moment? (s : List Char) : Option (Value × List Char) := do
  let rest ← match afterDate? s with
    | some (c :: rest) =>
      if c = 'T' ∨ c = 't' then (afterTime? rest).bind afterOffset?
      else if c = ' ' then
        match afterTime? rest with
        | some rest => afterOffset? rest
        | none => some (c :: rest)
      else some (c :: rest)
    | some [] => some []
    | none => afterTime? s
  return (.moment (String.ofList (s.take (s.length - rest.length))), rest)

/-! ### Values -/

/-- A value that is no array and no table. -/
def scalar? (s : List Char) : Option (Value × List Char) :=
  match s with
  | '"' :: '"' :: '"' :: rest =>
    (longBasicString? .text (skipFirstNewline rest)).map
      fun (cs, rest) => (.string (String.ofList cs), rest)
  | '"' :: rest => (basicString? 0 rest).map fun (cs, rest) => (.string (String.ofList cs), rest)
  | '\'' :: '\'' :: '\'' :: rest =>
    (longLiteralString? (skipFirstNewline rest)).map
      fun (cs, rest) => (.string (String.ofList cs), rest)
  | '\'' :: rest => (literalString? rest).map fun (cs, rest) => (.string (String.ofList cs), rest)
  | 't' :: 'r' :: 'u' :: 'e' :: rest => some (.boolean true, rest)
  | 'f' :: 'a' :: 'l' :: 's' :: 'e' :: rest => some (.boolean false, rest)
  | s => moment? s <|> float? s <|> integer? s

mutual

/-- A value at the front of a text, inside `depth` arrays and tables. -/
def value? : Nat → Nat → List Char → Option (Value × List Char)
  | 0, _, _ => none
  | fuel + 1, depth, s =>
    match s with
    | '[' :: rest =>
      if nestingLimit ≤ depth + 1 then none
      else match skipLines rest.length rest with
        | ']' :: rest => some (.array [], rest)
        | rest => (elements? fuel (depth + 1) rest).map fun (vs, rest) => (.array vs, rest)
    | '\x7b' :: rest =>
      if nestingLimit ≤ depth + 1 then none
      else match skipBlanks rest with
        | '\x7d' :: rest => some (.table [], rest)
        | rest =>
          (pairs? fuel (depth + 1) [] rest).map
            fun (members, rest) => (.table (membersToValues members), rest)
    | s => scalar? s

/-- The elements of an array; a comma may come after the last. -/
def elements? : Nat → Nat → List Char → Option (List Value × List Char)
  | 0, _, _ => none
  | fuel + 1, depth, s =>
    match value? fuel depth s with
    | none => none
    | some (v, rest) =>
      match skipLines rest.length rest with
      | ']' :: rest => some ([v], rest)
      | ',' :: rest =>
        match skipLines rest.length rest with
        | ']' :: rest => some ([v], rest)
        | rest => (elements? fuel depth rest).map fun (vs, rest) => (v :: vs, rest)
      | _ => none

/-- The pairs of an inline table, added to those before. -/
def pairs? : Nat → Nat → Members → List Char → Option (Members × List Char)
  | 0, _, _, _ => none
  | fuel + 1, depth, before, s =>
    match key? s with
    | some (path, last, '=' :: rest) =>
      match value? fuel depth (skipBlanks rest) with
      | none => none
      | some (v, rest) =>
        match define path last (.value v) .header before with
        | none => none
        | some members =>
          match skipBlanks rest with
          | ',' :: rest => pairs? fuel depth members rest
          | '\x7d' :: rest => some (members, rest)
          | _ => none
    | _ => none

end

/-! ### Documents -/

/-- The table that new pairs go into: the root, or one that a header opened. -/
structure Reading where
  root : Members
  current : List String

def Reading.define (r : Reading) (path : List String) (key : String) (v : Value) :
    Option Reading :=
  (descend .onTheWay (Toml.define path key (.value v)) r.current .header r.root).map
    fun root => { r with root }

/-- Reads one line that is not blank: a header or a pair. -/
def line? (r : Reading) (s : List Char) : Option (Reading × List Char) :=
  match s with
  | '[' :: '[' :: rest =>
    match key? rest with
    | some (path, last, ']' :: ']' :: rest) => do
      let root ← openArrayTable path last r.root
      let rest ← endLine? rest
      return (⟨root, path ++ [last]⟩, rest)
    | _ => none
  | '[' :: rest =>
    match key? rest with
    | some (path, last, ']' :: rest) => do
      let root ← openTable path last r.root
      let rest ← endLine? rest
      return (⟨root, path ++ [last]⟩, rest)
    | _ => none
  | s =>
    match key? s with
    | some (path, last, '=' :: rest) => do
      let (v, rest) ← value? (2 * s.length + 2) 0 (skipBlanks rest)
      let r ← r.define path last v
      let rest ← endLine? rest
      return (r, rest)
    | _ => none

/-- Reads lines up to the end of the text, at most `fuel`. -/
def lines? : Nat → Reading → List Char → Option Reading
  | 0, r, s => if s = [] then some r else none
  | fuel + 1, r, s =>
    match skipLines s.length s with
    | [] => some r
    | rest =>
      match line? r rest with
      | some (r, rest) => lines? fuel r rest
      | none => none

/-- Reads a document; a byte order mark may come first. -/
def parse? (s : List Char) : Option (List (String × Value)) :=
  let s := match s with
    | '\ufeff' :: rest => rest
    | s => s
  (lines? (s.length + 1) ⟨[], []⟩ s).map fun r => membersToValues r.root

end SuiteForge.Toml
