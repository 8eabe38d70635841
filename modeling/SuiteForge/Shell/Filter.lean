import SuiteForge.Shell.LinePattern
import SuiteForge.Shell.Program

/-!
The programs that read lines and write some of them, changed or counted.

Lines are bytes and are compared as such. The last line counts whether a line feed ends it or not.
-/

namespace SuiteForge.Shell.Filter

open Printing (Bytes bytesOf)
open Program (byteLines contents options)

/-- A line without its line feed. -/
def bare (line : Bytes) : Bytes := if line.getLast? = some 10 then line.dropLast else line

def linesOf (content : Bytes) : List Bytes := (byteLines content).map bare

/-- Lines, each with a line feed. -/
def written (lines : List Bytes) : Bytes := lines.flatMap (· ++ [10])

/-- Reads the arguments, or the input, and writes what becomes of their lines. -/
def ofLines (change : List Bytes → List Bytes) (i : Invocation) (args : List (List Char)) :
    Answer :=
  let a := contents i args
  { a with out := written (change (linesOf a.out)) }

/-! ### Order -/

/-- Bytes in the order of their first difference; a start comes before the whole. -/
def comesFirst : Bytes → Bytes → Bool
  | [], _ => true
  | _ :: _, [] => false
  | a :: as, b :: bs => if a = b then comesFirst as bs else a < b

/-- The whole number at the front of a line, blanks skipped. -/
def leadingNumber (line : Bytes) : Int :=
  let value (s : Bytes) : Int :=
    ((s.takeWhile fun b => 48 ≤ b && b ≤ 57).foldl (fun n b => n * 10 + (b.toNat - 48)) 0 : Nat)
  match line.dropWhile fun b => b = 32 || b = 9 with
  | 45 :: s => - value s
  | s => value s

/-- Neighbours that are equal, counted. -/
def runs : List Bytes → List (Bytes × Nat)
  | [] => []
  | l :: ls =>
    match runs ls with
    | (m, n) :: rest => if l = m then (m, n + 1) :: rest else (l, 1) :: (m, n) :: rest
    | [] => [(l, 1)]

def sort (i : Invocation) : Answer :=
  let (letters, args) := options i.args
  let before (a b : Bytes) : Bool :=
    if letters.contains 'n' ∧ leadingNumber a ≠ leadingNumber b then
      leadingNumber a < leadingNumber b
    else comesFirst a b
  ofLines (fun ls =>
    let ls := if letters.contains 'r' then ls.mergeSort fun a b => before b a
      else ls.mergeSort before
    if letters.contains 'u' then (runs ls).map Prod.fst else ls) i args

def uniq (i : Invocation) : Answer :=
  let (letters, args) := options i.args
  let kept (n : Nat) : Bool :=
    (!letters.contains 'd' || 1 < n) && (!letters.contains 'u' || n = 1)
  ofLines (fun ls => ((runs ls).filter fun r => kept r.2).map fun (l, n) =>
    if letters.contains 'c' then
      let digits := Nat.toDigits 10 n
      bytesOf (List.replicate (7 - digits.length) ' ' ++ digits ++ [' ']) ++ l
    else l) i args

/-- Lines from the last to the first. -/
def tac (i : Invocation) : Answer := ofLines List.reverse i (options i.args).2

/-! ### Counting -/

def wordCount (content : Bytes) : Nat :=
  let blank (b : UInt8) : Bool := Text.inRanges LinePattern.blankBytes b
  (content.foldl (fun (n, inside) b =>
    if blank b then (n, false) else (if inside then n else n + 1, true)) (0, false)).1

/-- The counts that are asked for: of lines, words and bytes, where nothing asks for less. -/
def counts (letters : List Char) (content : Bytes) : List Nat :=
  let all := letters.isEmpty
  (if all || letters.contains 'l' then [content.count 10] else []) ++
  (if all || letters.contains 'w' then [wordCount content] else []) ++
  (if letters.contains 'm' then [content.countP fun b => b < 128 || 192 ≤ b] else []) ++
  (if all || letters.contains 'c' then [content.length] else [])

/-- Counts in columns of a width, with the name they belong to. -/
def countLine (width : Nat) (numbers : List Nat) (name : Option (List Char)) : Bytes :=
  let column (n : Nat) : List Char :=
    let digits := Nat.toDigits 10 n
    List.replicate (width - digits.length) ' ' ++ digits
  let named := match name with
    | some s => ' ' :: s
    | none => []
  bytesOf (List.intercalate [' '] (numbers.map column) ++ named ++ ['\n'])

def wc (i : Invocation) : Answer :=
  let (letters, args) := options i.args
  if args.isEmpty then
    let numbers := counts letters i.input
    { disk := i.disk, out := countLine (if numbers.length ≤ 1 then 1 else 7) numbers none }
  else
    let each := args.map fun arg => (arg, i.disk.read i.cwd (Program.pathOf arg))
    let found := each.filterMap fun (arg, r) => r.toOption.map fun c => (arg, c.toList)
    let sums := counts letters (found.flatMap Prod.snd)
    let width := if sums.length ≤ 1 ∧ args.length ≤ 1 then 1
      else (Nat.toDigits 10 (found.foldl (fun n (_, c) => n + c.length) 0)).length
    let a := Program.eachPath i args fun d p => match d.read i.cwd p with
      | .ok c => .ok (countLine width (counts letters c.toList) (some p.text.toList), d)
      | .error cause => .error (p.text ++ ": " ++ Program.causeText cause)
    if args.length ≤ 1 then a
    else { a with out := a.out ++ countLine width sums (some "total".toList) }

/-! ### Bytes and columns -/

/-- The bytes that a set of `tr` names, after `skip` bytes: ranges, classes and escapes. -/
def setBytes : Nat → Bytes → Bytes
  | _, [] => []
  | skip + 1, _ :: s => setBytes skip s
  | 0, 92 :: s =>
    let (bytes, length, _) := Printing.Escapes.read ⟨false, false⟩
      (s.map fun b => Char.ofNat b.toNat)
    match bytes, length with
    | [b], _ => b :: setBytes length s
    | _, _ => s.take 1 ++ setBytes 1 s
  | 0, 91 :: 58 :: s =>
    match LinePattern.class? s with
    | some (ranges, length) =>
      ((List.range 256).map UInt8.ofNat).filter (Text.inRanges ranges) ++
        setBytes (length + 1) (58 :: s)
    | none => 91 :: setBytes 0 (58 :: s)
  | 0, low :: 45 :: high :: s =>
    ((List.range 256).map UInt8.ofNat).filter (fun b => low ≤ b && b ≤ high) ++
      setBytes 2 (45 :: high :: s)
  | 0, b :: s => b :: setBytes 0 s

/-- What a byte becomes: the one at its place in the other set, whose last byte stands for all
further ones. -/
def exchanged (source target : Bytes) (b : UInt8) : UInt8 :=
  match source.findIdx? (· = b) with
  | some n => (target[n]?.or target.getLast?).getD b
  | none => b

/-- Runs of a byte of a set made one. -/
def squeezed (set : Bytes) : Bytes → Bytes
  | a :: b :: s =>
    if a = b ∧ set.contains a then squeezed set (b :: s) else a :: squeezed set (b :: s)
  | s => s

def tr (i : Invocation) : Answer :=
  let (letters, args) := options i.args
  let sets := args.map fun arg => setBytes 0 (bytesOf arg)
  let complement (set : Bytes) : Bytes :=
    if letters.any fun c => c = 'c' || c = 'C' then
      ((List.range 256).map UInt8.ofNat).filter (!set.contains ·)
    else set
  let done (out : Bytes) : Answer := { disk := i.disk, out }
  match sets with
  | [] => i.ends 1
  | first :: others =>
    let first := complement first
    let second := others.head?
    if letters.contains 'd' then
      let kept := i.input.filter (!first.contains ·)
      done (if letters.contains 's' then squeezed (second.getD []) kept else kept)
    else match second with
      | some second =>
        let out := i.input.map (exchanged first second)
        done (if letters.contains 's' then squeezed second out else out)
      | none => if letters.contains 's' then done (squeezed first i.input) else i.ends 1

/-- The places that a list such as `1,3-5` names. -/
def isListed (list : List Char) (n : Nat) : Bool :=
  (Text.splitOn ',' list).any fun item =>
    match Text.splitOnce ['-'] item with
    | some (low, high) =>
      (low.isEmpty || (Arithmetic.numberOf low).toNat ≤ n) &&
        (high.isEmpty || n ≤ (Arithmetic.numberOf high).toNat)
    | none => (Arithmetic.numberOf item).toNat = n

/-- The items at listed places, counted from one. -/
def pick (list : List Char) (items : List α) : List α :=
  (items.zipIdx 1).filterMap fun (a, n) => if isListed list n then some a else none

/-- The fields of a line, and its separator put between those that are listed. A line without a
separator stays as it is. -/
def pickFields (separator : UInt8) (list : List Char) (line : Bytes) : Bytes :=
  if line.contains separator then
    let fields := (Text.splitOn (Char.ofNat separator.toNat) (line.map fun b => Char.ofNat b.toNat))
    ((Char.ofNat separator.toNat |> List.singleton).intercalate (pick list fields)).map
      fun c => UInt8.ofNat c.toNat
  else line

/-- What an option with a value has, written in one with it or behind it, and the other
arguments. -/
def valueOf (letter : Char) : List (List Char) → Option (List Char) × List (List Char)
  | [] => (none, [])
  | ['-', c] :: v :: args =>
    if c = letter then (some v, args)
    else
      let (found, rest) := valueOf letter (v :: args)
      (found, ['-', c] :: rest)
  | ('-' :: c :: v) :: args =>
    if c = letter then (some v, args)
    else
      let (found, rest) := valueOf letter args
      (found, ('-' :: c :: v) :: rest)
  | arg :: args =>
    let (found, rest) := valueOf letter args
    (found, arg :: rest)

def cut (i : Invocation) : Answer :=
  let (separator, args) := valueOf 'd' i.args
  let (fields, args) := valueOf 'f' args
  let (columns, args) := valueOf 'c' args
  let (bytes, args) := valueOf 'b' args
  let (_, args) := options args
  match fields, columns.or bytes with
  | some list, _ =>
    ofLines (List.map (pickFields ((bytesOf (separator.getD ['\t'])).head?.getD 0) list)) i args
  | none, some list => ofLines (List.map (pick list)) i args
  | none, none => i.ends 1

/-! ### Searching -/

/-- How lines are searched. -/
structure Search where
  pattern : LinePattern
  folded : Bool
  wholeLine : Bool
  wholeWord : Bool

namespace Search

/-- Where the matches that start at a position and count as such end. -/
def endsAt (q : Search) (bytes : Array UInt8) (start : Nat) : List Nat :=
  let isWord (n : Nat) : Bool := (bytes[n]?).any (Text.inRanges LinePattern.wordBytes)
  (q.pattern.ends q.folded bytes start).filter fun stop =>
    (!q.wholeLine || (start = 0 && stop = bytes.size)) &&
    (!q.wholeWord || ((start = 0 || !isWord (start - 1)) && !isWord stop))

def finds (q : Search) (line : Bytes) : Bool :=
  (List.range (line.length + 1)).any fun start => !(q.endsAt line.toArray start).isEmpty

/-- The longest matches from the left that are not empty and do not overlap, after `skip` bytes. -/
def parts (q : Search) (bytes : Array UInt8) (skip : Nat) : List Nat → List Bytes
  | [] => []
  | start :: starts =>
    match skip with
    | skip + 1 => parts q bytes skip starts
    | 0 =>
      let stop := (q.endsAt bytes start).foldl max start
      if stop = start then parts q bytes 0 starts
      else (bytes.extract start stop).toList :: parts q bytes (stop - start - 1) starts

end Search

/-- The options of a search that are written out, by their letters. -/
def longOptions : List (List Char × List Char) := [
  ("--quiet", "-q"), ("--silent", "-q"), ("--count", "-c"), ("--invert-match", "-v"),
  ("--ignore-case", "-i"), ("--only-matching", "-o"), ("--extended-regexp", "-E"),
  ("--fixed-strings", "-F"), ("--line-number", "-n"), ("--word-regexp", "-w"),
  ("--line-regexp", "-x"), ("--files-with-matches", "-l")
].map fun (long, short) => (long.toList, short.toList)

/-- The search for a pattern, each line of which is an alternative. -/
def Search.ofPattern? (letters pattern : List Char) : Option Search := do
  let readLine (s : List Char) : Option LinePattern :=
    if letters.contains 'F' then some (.literally (bytesOf s))
    else LinePattern.ofBytes? (letters.contains 'E') (bytesOf s)
  let alternatives ← (Text.splitOn '\n' pattern).mapM readLine
  return {
    pattern := alternatives.tail.foldl .either (alternatives.headD .empty)
    folded := letters.contains 'i'
    wholeLine := letters.contains 'x'
    wholeWord := letters.contains 'w' }

/-- What is shown of a text, and whether a line of it is chosen. -/
def Search.shown (q : Search) (letters : List Char) (named : Bool) (name : List Char)
    (content : Bytes) : Bytes × Bool :=
  let found := ((linesOf content).zipIdx 1).filter fun (l, _) => q.finds l != letters.contains 'v'
  let label : Bytes := if named then bytesOf (name ++ [':']) else []
  let front (n : Nat) : Bytes :=
    if letters.contains 'n' then label ++ bytesOf (Nat.toDigits 10 n ++ [':']) else label
  let out : Bytes :=
    if letters.contains 'q' then []
    else if letters.contains 'l' then if found.isEmpty then [] else bytesOf (name ++ ['\n'])
    else if letters.contains 'c' then
      label ++ bytesOf (Nat.toDigits 10 found.length ++ ['\n'])
    else found.flatMap fun (l, n) =>
      if letters.contains 'o' then
        (q.parts l.toArray 0 (List.range l.length)).flatMap (front n ++ · ++ [10])
      else front n ++ l ++ [10]
  (out, !found.isEmpty)

/-- Searches one argument after the other. The flag says that one of them could not be read. -/
def Search.through (q : Search) (letters : List Char) (i : Invocation)
    (args : List (List Char)) : Answer × Bool :=
  let named := letters.contains 'H' || (1 < args.length && !letters.contains 'h')
  let add (a : Answer) (name : List Char) (content : Bytes) : Answer :=
    let (out, found) := q.shown letters named name content
    { a with out := a.out ++ out, status := if found then 0 else a.status }
  args.foldl (fun (a, failed) arg =>
    if arg = ['-'] then
      (add { a with unread := [] } "(standard input)".toList a.unread, failed)
    else match i.disk.read i.cwd (Program.pathOf arg) with
      | .ok content => (add a arg content.toList, failed)
      | .error cause =>
        let text := String.ofList arg ++ ": " ++ Program.causeText cause
        ({ a with err := a.err ++ (if letters.contains 's' then [] else i.complaint text) }, true))
    ({ i.answers [] with status := 1 }, false)

/-- A search, with option letters that its name implies. -/
def grepWith (implied : List Char) (i : Invocation) : Answer :=
  let args := (i.args.filter (· ≠ ['-', '-'])).map fun arg => (longOptions.lookup arg).getD arg
  let (stated, args) := valueOf 'e' args
  let (letters, args) := options args
  let letters := implied ++ letters
  let (pattern, args) := match stated with
    | some p => (p, args)
    | none => (args.headD [], args.tail)
  match Search.ofPattern? letters pattern with
  | none => i.ends 2
  | some q =>
    let (a, failed) := q.through letters i (if args.isEmpty then [['-']] else args)
    if failed && !(letters.contains 'q' && a.status = 0) then { a with status := 2 } else a

def grep (i : Invocation) : Answer := grepWith [] i

def named : List (String × (Invocation → Answer)) := [
  ("sort", sort), ("uniq", uniq), ("tac", tac), ("wc", wc), ("tr", tr), ("cut", cut),
  ("grep", grep), ("egrep", grepWith ['E']), ("fgrep", grepWith ['F'])]

end SuiteForge.Shell.Filter
