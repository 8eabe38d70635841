import SuiteForge.Text.Scan

/-!
Options on a command line.

An option has a long name and perhaps a letter. Letters may be joined behind one dash; a value
stands behind an equals sign, right behind the letter, or in the next argument, where it does not
start with a dash unless it is nothing else. Two dashes end the options.
-/

namespace SuiteForge.Cli

inductive Arity where
  | none
  | one
  | atMostOne
  deriving DecidableEq

structure OptionSpec where
  name : String
  letter : Option Char := .none
  arity : Arity := .none
  /-- The option may be given more than once. -/
  repeatable : Bool := false

structure Given where
  name : String
  value : Option String

/-- Why a command line is not followed: it is wrong, or asks for something else. -/
inductive Stop where
  | misuse
  | help
  | version
  deriving DecidableEq

/-- What a row of arguments gives: options, other arguments, and a command with its arguments where
one ends the row. -/
structure Scanned where
  options : List Given := []
  others : List String := []
  command : Option (String × List String) := .none

namespace Scanned

def addOption (g : Given) (s : Scanned) : Scanned := { s with options := g :: s.options }

def addOther (a : String) (s : Scanned) : Scanned := { s with others := a :: s.others }

end Scanned

/-- The options and the commands that can be given at one place. -/
structure Grammar where
  options : List OptionSpec
  commands : List String := []
  hasVersion : Bool := false

namespace Grammar

/-- Nothing may be missing where an option has to have a value. -/
def complete (pending : Option OptionSpec) : Except Stop (List Given) :=
  match pending with
  | none => .ok []
  | some o => if o.arity = .atMostOne then .ok [⟨o.name, none⟩] else .error .misuse

/-- Reads `--name` or `--name=value`; an option that still waits for its value is given back. -/
def long (g : Grammar) (text : List Char) : Except Stop (List Given × Option OptionSpec) :=
  let (name, value) := match Text.splitOnce ['='] text with
    | some (name, value) => (String.ofList name, some (String.ofList value))
    | none => (String.ofList text, none)
  if name = "help" ∧ value.isNone then .error .help
  else if name = "version" ∧ g.hasVersion ∧ value.isNone then .error .version
  else match g.options.find? (·.name = name), value with
    | none, _ => .error .misuse
    | some o, some v =>
      if o.arity = .none then .error .misuse else .ok ([⟨o.name, some v⟩], none)
    | some o, none =>
      if o.arity = .none then .ok ([⟨o.name, none⟩], none) else .ok ([], some o)

def letters (g : Grammar) : List Char → Except Stop (List Given × Option OptionSpec)
  | [] => .ok ([], none)
  | c :: rest =>
    if c = 'h' then .error .help
    else if c = 'V' ∧ g.hasVersion then .error .version
    else match g.options.find? (·.letter = some c) with
      | none => .error .misuse
      | some o =>
        if o.arity = .none then do
          let (given, pending) ← g.letters rest
          return (⟨o.name, none⟩ :: given, pending)
        else match rest with
          | [] => .ok ([], some o)
          | '=' :: value => .ok ([⟨o.name, some (String.ofList value)⟩], none)
          | value => .ok ([⟨o.name, some (String.ofList value)⟩], none)

/-- Reads arguments; `pending` waits for a value. -/
def scan (g : Grammar) (pending : Option OptionSpec) : List String → Except Stop Scanned
  | [] => do return { options := ← complete pending }
  | a :: rest =>
    if pending.isNone ∧ g.commands.contains a then .ok { command := some (a, rest) }
    else match a.toList with
      | '-' :: '-' :: [] => do return { options := ← complete pending, others := rest }
      | '-' :: '-' :: text => do
        let before ← complete pending
        let (given, pending) ← g.long text
        let s ← g.scan pending rest
        return (before ++ given).foldr Scanned.addOption s
      | '-' :: c :: text => do
        let before ← complete pending
        let (given, pending) ← g.letters (c :: text)
        let s ← g.scan pending rest
        return (before ++ given).foldr Scanned.addOption s
      | _ =>
        match pending with
        | some o => do return (← g.scan none rest).addOption ⟨o.name, some a⟩
        | none => do return (← g.scan none rest).addOther a

/-- No option that may be given once only is given twice. -/
def acceptsCounts (g : Grammar) (given : List Given) : Bool :=
  g.options.all fun o => o.repeatable || (given.filter (·.name = o.name)).length ≤ 1

/-- Reads arguments, and refuses options that are repeated. -/
def read (g : Grammar) (args : List String) : Except Stop Scanned := do
  let s ← g.scan none args
  if g.acceptsCounts s.options then return s else throw .misuse

end Grammar

end SuiteForge.Cli
