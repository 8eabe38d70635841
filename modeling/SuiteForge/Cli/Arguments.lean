import SuiteForge.Cli.Option
import SuiteForge.Generator

/-!
What a command line asks for.

The options for the project stand before the command or behind it; what stands behind counts. Every
value is checked before anything is done.
-/

namespace SuiteForge.Cli

structure GenerateRequest where
  path : Option Path := none
  ai : Bool := false
  /-- Model tests are asked for, perhaps for a name inside a directory. -/
  model : Option String := none
  testType : Option TestType := none
  force : Bool := false
  prompt : Option String := none
  context : List (String × String) := []

structure CoverageRequest where
  html : Bool := false
  xml : Bool := false
  clover : Bool := false
  threshold : Option Binary64 := none
  output : Option Path := none

structure BenchmarkRequest where
  slow : Option Binary64 := none
  memory : Option Binary64 := none
  report : Bool := false
  output : Option Path := none

inductive Request where
  | generate (r : GenerateRequest)
  | coverage (r : CoverageRequest)
  | benchmark (r : BenchmarkRequest)

/-- A request with the project it is about. -/
structure Arguments where
  root : Path := ⟨"."⟩
  config : Option Path := none
  debug : Bool := false
  request : Request

/-! ### Grammars -/

def projectOptions : List OptionSpec := [
  { name := "root", arity := .one },
  { name := "config", arity := .one },
  { name := "debug" }]

def generateOptions : List OptionSpec := [
  { name := "ai", letter := some 'a' },
  { name := "model", letter := some 'm', arity := .atMostOne },
  { name := "type", letter := some 't', arity := .one },
  { name := "force", letter := some 'f' },
  { name := "prompt", letter := some 'p', arity := .one },
  { name := "context", arity := .one, repeatable := true }]

def coverageOptions : List OptionSpec := [
  { name := "report", letter := some 'r' },
  { name := "xml", letter := some 'x' },
  { name := "clover", letter := some 'c' },
  { name := "threshold", letter := some 't', arity := .one },
  { name := "output", letter := some 'o', arity := .one }]

def benchmarkOptions : List OptionSpec := [
  { name := "slow-threshold", letter := some 's', arity := .one },
  { name := "memory-threshold", letter := some 'm', arity := .one },
  { name := "report", letter := some 'r' },
  { name := "output", letter := some 'o', arity := .one }]

def outerGrammar : Grammar where
  options := projectOptions
  commands := ["generate", "coverage", "benchmark", "help"]
  hasVersion := true

def innerGrammar (options : List OptionSpec) : Grammar where
  options := options ++ projectOptions

/-! ### Values -/

namespace Scanned

def has (s : Scanned) (name : String) : Bool := s.options.any (·.name = name)

/-- The value of an option, read by `read`; a value that cannot be read is misuse. -/
def value? (s : Scanned) (name : String) (read : String → Option α) : Except Stop (Option α) :=
  match s.options.find? (·.name = name) with
  | none => .ok none
  | some g =>
    match read (g.value.getD "") with
    | some v => .ok (some v)
    | none => .error .misuse

/-- The values of an option that may be repeated. -/
def values (s : Scanned) (name : String) (read : String → Option α) : Except Stop (List α) :=
  match (s.options.filter (·.name = name)).mapM fun g => read (g.value.getD "") with
  | some vs => .ok vs
  | none => .error .misuse

end Scanned

/-- A path is not empty. -/
def pathOf? (s : String) : Option Path := if s = "" then none else some ⟨s⟩

def numberOf? (s : String) : Option Binary64 := Binary64.ofText? s.toList

def typeOf? (s : String) : Option TestType :=
  match TestType.ofText s with
  | .ok t => some t
  | .error _ => none

/-- A key, which is not blank, and a value around the first equals sign. -/
def pairOf? (s : String) : Option (String × String) :=
  match Text.splitOnce ['='] s.toList with
  | some (key, value) =>
    if key.all Text.isBlank then none
    else some (String.ofList (Text.trim key), String.ofList (Text.trim value))
  | none => none

/-! ### Requests -/

def noOthers (s : Scanned) : Except Stop Unit :=
  if s.others.isEmpty then .ok () else .error .misuse

def generateRequest (s : Scanned) : Except Stop GenerateRequest := do
  let path ← match s.others with
    | [] => pure none
    | [p] =>
      match pathOf? p with
      | some p => pure (some p)
      | none => throw .misuse
    | _ => throw .misuse
  return {
    path
    ai := s.has "ai"
    model := ← s.value? "model" some
    testType := ← s.value? "type" typeOf?
    force := s.has "force"
    prompt := ← s.value? "prompt" some
    context := ← s.values "context" pairOf? }

def coverageRequest (s : Scanned) : Except Stop CoverageRequest := do
  noOthers s
  return {
    html := s.has "report"
    xml := s.has "xml"
    clover := s.has "clover"
    threshold := ← s.value? "threshold" numberOf?
    output := ← s.value? "output" pathOf? }

def benchmarkRequest (s : Scanned) : Except Stop BenchmarkRequest := do
  noOthers s
  return {
    slow := ← s.value? "slow-threshold" numberOf?
    memory := ← s.value? "memory-threshold" numberOf?
    report := s.has "report"
    output := ← s.value? "output" pathOf? }

/-- The request of a command from the arguments behind it, and these arguments as they were read. -/
def requestOf (command : String) (args : List String) : Except Stop (Request × Scanned) := do
  match command with
  | "generate" =>
    let s ← (innerGrammar generateOptions).read args
    return (.generate (← generateRequest s), s)
  | "coverage" =>
    let s ← (innerGrammar coverageOptions).read args
    return (.coverage (← coverageRequest s), s)
  | "benchmark" =>
    let s ← (innerGrammar benchmarkOptions).read args
    return (.benchmark (← benchmarkRequest s), s)
  | _ => if args.isEmpty then throw .help else throw .misuse

/-- Reads a command line. -/
def Arguments.ofList (args : List String) : Except Stop Arguments := do
  let outer ← outerGrammar.read args
  noOthers outer
  match outer.command with
  | none => throw .misuse
  | some (command, rest) =>
    let (request, inner) ← requestOf command rest
    let root ← outer.value? "root" pathOf?
    let innerRoot ← inner.value? "root" pathOf?
    let config ← outer.value? "config" pathOf?
    let innerConfig ← inner.value? "config" pathOf?
    return {
      root := (innerRoot <|> root).getD ⟨"."⟩
      config := innerConfig <|> config
      debug := outer.has "debug" || inner.has "debug"
      request }

end SuiteForge.Cli
