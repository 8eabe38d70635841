/-!
Shell scripts, as far as projects use them to wrap a test runner.

A word is a row of parts, some of which stand for values that are known only when the script runs.
Quoted parts are never cut into several words and never taken for patterns.
-/

namespace SuiteForge.Shell

/-- What is done with the value of a variable. The flag of the first four says that an empty value
counts as none; that of the cuts says that as much as possible is cut. -/
inductive Use where
  | plain
  | length
  | orElse (emptyToo : Bool)
  | orSet (emptyToo : Bool)
  | orFail (emptyToo : Bool)
  | instead (emptyToo : Bool)
  | cutFront (most : Bool)
  | cutBack (most : Bool)

/-- How a redirection opens its target. -/
inductive Opening where
  | read
  | write
  | append
  | duplicate
  | text

mutual

inductive Part where
  | text (s : List Char) (quoted : Bool)
  | value (name : List Char) (use : Use) (argument : List Part) (quoted : Bool)
  | output (command : Command) (quoted : Bool)
  | arithmetic (expression : List Part) (quoted : Bool)

inductive Command where
  | simple (line : Nat) (assignments : List (List Char × List Part)) (words : List (List Part))
  | negated (command : Command)
  | pipe (left right : Command)
  | both (left right : Command)
  | either (left right : Command)
  | sequence (commands : List Command)
  | subshell (body : Command)
  | choose (condition positive negative : Command)
  | loop (positive : Bool) (condition body : Command)
  | each (name : List Char) (words : Option (List (List Part))) (body : Command)
  | select (word : List Part) (arms : List (List (List Part) × Command))
  | define (name : List Char) (body : Command)
  | redirected (line : Nat) (command : Command)
      (targets : List (Nat × Opening × List Part))

end

/-- A word: its parts in a row. -/
abbrev Word := List Part

/-- A file descriptor, how it is opened, and on what. -/
abbrev Redirection := Nat × Opening × Word

def Command.nothing : Command := .sequence []

end SuiteForge.Shell
