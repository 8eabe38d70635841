import SuiteForge.Number.Figure
import SuiteForge.Text.Blank

/-!
Times and memory of tests in the output of a test runner.

A test line has a verdict, a name and a time in parentheses, with white space between them; memory
may stand anywhere on the line. Other lines are skipped.
-/

namespace SuiteForge.Benchmark

open Text

inductive Verdict where
  | pass
  | fail
  deriving DecidableEq

/-- A test that has run: its time in milliseconds and its memory in kilobytes. -/
structure Test where
  name : String
  verdict : Verdict
  time : Binary64
  memory : Binary64
  deriving DecidableEq

/-! ### Reading a line -/

def verdictAt : Recogniser Verdict := fun s =>
  match after? "PASS".toList s with
  | some rest => some (.pass, rest)
  | none => (after? "FAIL".toList s).map (.fail, ·)

/-- The time in parentheses behind white space, as it is written. -/
def timeAt : Recogniser (List Char) := fun s => do
  if (s.takeWhile isBlank).isEmpty then none
  else
    let s ← after? ['('] (s.dropWhile isBlank)
    let (numeral, s) ← Figure.at? "ms".toList s
    let s ← after? [')'] s
    return (numeral, s)

/-- A name of at least one character and the first time behind it; `taken` is what the name has so
far, last character first. -/
def nameUpTo (taken : List Char) : Recogniser (List Char × List Char)
  | [] => none
  | c :: cs =>
    match timeAt cs with
    | some (numeral, rest) => some (((c :: taken).reverse, numeral), rest)
    | none => nameUpTo (c :: taken) cs

/-- A name and a time behind `blanks`, of which there is at least one, and `s`. Blanks do not belong
to the name, unless the time stands right behind them: then the last but one is the name. -/
def nameBehind (blanks s : List Char) : Option ((List Char × List Char) × List Char) :=
  if blanks.isEmpty then none
  else match nameUpTo [] s with
    | some found => some found
    | none =>
      match blanks.reverse with
      | last :: name :: _ :: _ =>
        (timeAt (last :: s)).map fun (numeral, rest) => (([name], numeral), rest)
      | _ => none

def testAt : Recogniser (Verdict × List Char × List Char) := fun s => do
  let (verdict, s) ← verdictAt s
  let ((name, numeral), s) ← nameBehind (s.takeWhile isBlank) (s.dropWhile isBlank)
  return ((verdict, name, numeral), s)

/-- The memory on a line: megabytes are given, kilobytes are kept. -/
def memoryOf (line : List Char) : Binary64 :=
  ((Figure.first? "MB" line).map (·.scale 1024)).getD .zero

def testOf? (line : List Char) : Option Test := do
  let (verdict, name, numeral) ← firstMatch testAt line
  let time ← Binary64.ofText? numeral
  return { name := String.ofList (trim name), verdict, time, memory := memoryOf line }

def ofOutput (output : String) : List Test := (lines output.toList).filterMap testOf?

end SuiteForge.Benchmark
