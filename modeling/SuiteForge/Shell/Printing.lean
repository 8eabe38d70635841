import SuiteForge.Number.Shortest
import SuiteForge.Shell.Arithmetic

/-!
What `echo` and `printf` write.

Both give bytes, since an escape may stand for a single byte. An escape that ends the output cuts
everything behind it.
-/

namespace SuiteForge.Shell.Printing

open Text

abbrev Bytes := List UInt8

def bytesOf (s : List Char) : Bytes := (String.ofList s).toUTF8.toList

/-- Output, and whether an escape has ended it. -/
abbrev Output := Bytes × Bool

def Output.followedBy (a b : Output) : Output := if a.2 then a else (a.1 ++ b.1, b.2)

def letterEscapes : List (Char × UInt8) := [
  ('a', 7), ('b', 8), ('e', 27), ('f', 12), ('n', 10), ('r', 13), ('t', 9), ('v', 11), ('\\', 92)]

def isOctalDigit (c : Char) : Bool := '0' ≤ c && c ≤ '7'

def octalValue (s : List Char) : Nat := s.foldl (fun n c => n * 8 + (c.toNat - 48)) 0

def hexadecimalValue (s : List Char) : Nat := s.foldl (fun n c => n * 16 + hexValue c) 0

/-- How escapes are written: octal numbers with a zero in front or without, and hexadecimal ones or
none. -/
structure Escapes where
  octalBehindZero : Bool
  hexadecimal : Bool

/-- What the text behind a backslash stands for: bytes, how many characters it takes, and whether
it ends the output. -/
def Escapes.read (e : Escapes) (s : List Char) : Bytes × Nat × Bool :=
  match s with
  | [] => ([92], 0, false)
  | c :: rest =>
    match letterEscapes.lookup c with
    | some b => ([b], 1, false)
    | none =>
      if c = 'c' then ([], 1, true)
      else if c = '0' ∧ e.octalBehindZero then
        let ds := (rest.takeWhile isOctalDigit).take 3
        ([UInt8.ofNat (octalValue ds)], 1 + ds.length, false)
      else if isOctalDigit c ∧ !e.octalBehindZero then
        let ds := (s.takeWhile isOctalDigit).take 3
        ([UInt8.ofNat (octalValue ds)], ds.length, false)
      else if c = 'x' ∧ e.hexadecimal ∧ (rest.take 1).all isHexDigit ∧ rest ≠ [] then
        let ds := (rest.takeWhile isHexDigit).take 2
        ([UInt8.ofNat (hexadecimalValue ds)], 1 + ds.length, false)
      else (92 :: bytesOf [c], 1, false)

/-- A text with its escapes read, after `skipped` characters. -/
def Escapes.text (e : Escapes) : Nat → List Char → Output
  | _, [] => ([], false)
  | skipped + 1, _ :: s => e.text skipped s
  | 0, '\\' :: s =>
    let (bytes, length, ends) := e.read s
    if ends then (bytes, true) else Output.followedBy (bytes, false) (e.text length s)
  | 0, c :: s => Output.followedBy (bytesOf [c], false) (e.text 0 s)

/-! ### Echo -/

def joined (args : List (List Char)) : List Char :=
  List.intercalate [' '] args

/-- The `echo` of the shell: it always reads escapes and knows one option. -/
def shellEcho (args : List (List Char)) : Bytes :=
  let (args, ending) : List (List Char) × Bytes := match args with
    | ['-', 'n'] :: args => (args, [])
    | args => (args, [10])
  let (out, ended) := Escapes.text ⟨true, false⟩ 0 (joined args)
  if ended then out else out ++ ending

/-- The letters of leading options of the `echo` program, and what follows them. -/
def echoOptions : List (List Char) → List Char × List (List Char)
  | [] => ([], [])
  | arg :: args =>
    match arg with
    | '-' :: c :: cs =>
      if (c :: cs).all ("neE".toList.contains ·) then
        let (letters, rest) := echoOptions args
        (c :: cs ++ letters, rest)
      else ([], arg :: args)
    | _ => ([], arg :: args)

/-- The `echo` program: it reads escapes only when asked to. -/
def programEcho (args : List (List Char)) : Bytes :=
  let (letters, args) := echoOptions args
  let ending : Bytes := if letters.contains 'n' then [] else [10]
  let escapes := (letters.filter (· ≠ 'n')).getLast? = some 'e'
  if escapes then
    let (out, ended) := Escapes.text ⟨true, true⟩ 0 (joined args)
    if ended then out else out ++ ending
  else bytesOf (joined args) ++ ending

/-! ### Printf -/

/-- A directive of a format: its flags, width, precision and letter. -/
structure Directive where
  flags : List Char
  width : Nat
  precision : Option Nat
  letter : Char

inductive Piece where
  | bytes (b : Bytes)
  | directive (d : Directive)
  | cut

/-- A directive at the front of a text, behind its percent sign. -/
def directiveAt (s : List Char) : Option (Directive × List Char) :=
  let flags := s.takeWhile ("-+ #0".toList.contains ·)
  let s := s.drop flags.length
  let width := s.takeWhile isDigit
  let s := s.drop width.length
  let (precision, s) := match s with
    | '.' :: s => (some (Decimal.digitsValue 0 (s.takeWhile isDigit)), s.dropWhile isDigit)
    | s => (none, s)
  match s with
  | [] => none
  | letter :: s => some ({ flags, width := Decimal.digitsValue 0 width, precision, letter }, s)

def pieces : Nat → List Char → List Piece
  | 0, _ => []
  | _, [] => []
  | fuel + 1, '%' :: '%' :: s => .bytes [37] :: pieces fuel s
  | fuel + 1, '%' :: s =>
    match directiveAt s with
    | some (d, s) => .directive d :: pieces fuel s
    | none => [.bytes [37]]
  | fuel + 1, '\\' :: '\x22' :: s => .bytes [34] :: pieces fuel s
  | fuel + 1, '\\' :: s =>
    let (bytes, length, ends) := (Escapes.mk false true).read s
    if ends then [.bytes bytes, .cut] else .bytes bytes :: pieces fuel (s.drop length)
  | fuel + 1, c :: s => .bytes (bytesOf [c]) :: pieces fuel s

/-- Fills up to a width, on the left unless the flags say otherwise. -/
def Directive.fill (d : Directive) (b : Bytes) : Bytes :=
  let blanks := List.replicate (d.width - b.length) 32
  if d.flags.contains '-' then b ++ blanks else blanks ++ b

/-- A number with its sign, filled with zeros where the directive asks for them. -/
def Directive.number (d : Directive) (negative : Bool) (digits : List Char) : Bytes :=
  let digits := List.replicate ((d.precision.getD 1) - digits.length) '0' ++ digits
  let sign := if negative then ['-'] else if d.flags.contains '+' then ['+']
    else if d.flags.contains ' ' then [' '] else []
  if d.flags.contains '0' ∧ !d.flags.contains '-' ∧ d.precision.isNone then
    bytesOf (sign ++ List.replicate (d.width - sign.length - digits.length) '0' ++ digits)
  else d.fill (bytesOf (sign ++ digits))

/-- A number with places after the point. -/
def Directive.real (d : Directive) (arg : List Char) : Bytes :=
  let x := (Binary64.ofText? arg).getD .zero
  let digits := x.abs.fixed (d.precision.getD 6)
  Directive.number { d with precision := none } (x.less .zero) digits

def Directive.render (d : Directive) (arg : List Char) : Output :=
  let n := Arithmetic.numberOf arg
  match d.letter with
  | 's' =>
    let b := bytesOf arg
    (d.fill (match d.precision with
      | some p => b.take p
      | none => b), false)
  | 'b' =>
    let (b, ends) := Escapes.text ⟨true, false⟩ 0 arg
    (d.fill b, ends)
  | 'c' => (d.fill ((bytesOf arg).take 1), false)
  | 'd' => (d.number (n < 0) (Nat.toDigits 10 n.natAbs), false)
  | 'i' => (d.number (n < 0) (Nat.toDigits 10 n.natAbs), false)
  | 'u' => (d.number false (Nat.toDigits 10 n.natAbs), false)
  | 'o' => (d.number false (Nat.toDigits 8 n.natAbs), false)
  | 'x' => (d.number false (Nat.toDigits 16 n.natAbs), false)
  | 'X' => (d.number false ((Nat.toDigits 16 n.natAbs).map upper), false)
  | 'f' => (d.real arg, false)
  | c => (bytesOf ['%', c], false)

/-- The pieces with arguments put in; an argument that is missing is empty. -/
def fillPieces : List Piece → List (List Char) → Output × List (List Char)
  | [], args => (([], false), args)
  | .bytes b :: ps, args =>
    let (out, args) := fillPieces ps args
    (Output.followedBy (b, false) out, args)
  | .cut :: _, _ => (([], true), [])
  | .directive d :: ps, args =>
    let (out, rest) := fillPieces ps args.tail
    (Output.followedBy (d.render (args.head?.getD [])) out, rest)

/-- The format over and over until the arguments are used up. -/
def repeated (ps : List Piece) : Nat → List (List Char) → Output
  | 0, _ => ([], false)
  | fuel + 1, args =>
    let (out, rest) := fillPieces ps args
    if rest.isEmpty ∨ rest.length = args.length then out
    else Output.followedBy out (repeated ps fuel rest)

def printf (format : List Char) (args : List (List Char)) : Bytes :=
  (repeated (pieces (format.length + 1) format) (args.length + 1) args).1

end SuiteForge.Shell.Printing
