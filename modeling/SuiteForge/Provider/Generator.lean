import SuiteForge.Generator
import SuiteForge.Provider.Client
import SuiteForge.Provider.CodeFence
import SuiteForge.Provider.Prompt

/-!
Tests written by a provider.

The settings are checked first, then the source and the destination, and only then a request is
sent; what comes back is freed from code fences and written like any other test file.
-/

namespace SuiteForge

structure AiOptions where
  force : Bool := false
  testType : Option TestType := none
  /-- Requirements of the user's own. -/
  prompt : Option String := none

/-- What a generator of this kind is made of, apart from what it has written. -/
structure AiGenerator where
  settings : Settings
  root : Path
  cwd : Location

namespace AiGenerator

def missingKey : Error := .missingConfiguration "AI API key is not configured"

/-- A key that holds nothing but blanks is no key. -/
def hasKey (g : AiGenerator) : Bool := !g.settings.ai.apiKey.toList.all Text.isBlank

def problems (g : AiGenerator) : List String :=
  (if g.hasKey then [] else [missingKey.message]) ++
    match Provider.ofText g.settings.ai.provider with
    | .ok _ => []
    | .error e => [e.message]

/-- The client that the settings describe; the key is checked first. -/
def client (g : AiGenerator) : Except Error Client :=
  if g.hasKey then Client.ofSettings g.settings.ai else .error missingKey

/-- Whether the provider answers at all. -/
def probe (g : AiGenerator) (line : Line) : Bool × Line :=
  match g.client with
  | .error _ => (false, line)
  | .ok c =>
    match c.complete Prompt.probe (.ofSettings g.settings.ai) line with
    | (.ok _, line) => (true, line)
    | (.error _, line) => (false, line)

def directory (g : AiGenerator) : Option TestType → Path
  | some .feature => g.settings.featureDirectory g.root
  | some .controller => g.settings.featureDirectory g.root
  | _ => g.settings.unitDirectory g.root

/-- What a run works on: the paths written so far, the disk and the line to the provider. -/
structure State where
  log : WriteLog
  disk : Disk
  line : Line

/-- What has to be known before a request is sent. -/
structure Plan where
  client : Client
  destination : Path
  prompt : String

/-- Prepares a request. `none` stands for a source without a class or a destination that is
taken. -/
def plan (g : AiGenerator) (path : Path) (context : List (String × String)) (o : AiOptions)
    (s : State) : Except Error (Option Plan) := do
  let client ← g.client
  let source ← Php.Source.read s.disk g.cwd path
  match source.class? with
  | none => return none
  | some cls =>
    let destination :=
      testFilePath (g.directory o.testType) cls g.settings.generation.extension
    -- a destination that is taken costs no request
    match s.log.ensureFree s.disk g.cwd destination o.force with
    | .error _ => return none
    | .ok () =>
      return some { client, destination, prompt := Prompt.withContext source.text context o.prompt }

/-- Puts the code of an answer in its place. -/
def place (g : AiGenerator) (p : Plan) (answer : String) (force : Bool) (s : State) :
    Except Error Bool × State :=
  let code := CodeFence.code answer
  if code = "" then (.ok false, s)
  else
    match s.log.write s.disk g.cwd p.destination code force with
    | (.ok log, disk) => (.ok true, { s with log, disk })
    -- only a disk that fails ends the command
    | (.error (.destinationExists _), disk) => (.ok false, { s with disk })
    | (.error e, disk) => (.error e, { s with disk })

def run (g : AiGenerator) (path : Path) (context : List (String × String)) (o : AiOptions)
    (s : State) : Except Error Bool × State :=
  match g.plan path context o s with
  | .error e => (.error e, s)
  | .ok none => (.ok false, s)
  | .ok (some p) =>
    let (result, line) := p.client.complete p.prompt (.ofSettings g.settings.ai) s.line
    let s := { s with line }
    match result with
    | .error e => (.error e, s)
    | .ok none => (.ok false, s)
    | .ok (some answer) => g.place p answer o.force s

end AiGenerator

end SuiteForge
