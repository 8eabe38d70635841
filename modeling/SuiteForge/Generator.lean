import SuiteForge.SourceWalk
import SuiteForge.Synthesis
import SuiteForge.Template
import SuiteForge.TestFile

/-!
Writing tests from templates.

A source is read, its class and kind are found, its test methods are put into a template, and the
result is written to the suite that goes with the kind. Every failure concerns one source only: a
run over a directory goes on and reports in the end whether all sources got their tests.
-/

namespace SuiteForge

open Php (Source Kind)

/-! ### Requests -/

inductive TestType where
  | unit
  | feature
  | model
  | controller
  deriving DecidableEq

namespace TestType

def name : TestType → String
  | .unit => "unit"
  | .feature => "feature"
  | .model => "model"
  | .controller => "controller"

/-- Reads a type in any ASCII case with blanks around it; otherwise gives the text that was not
understood. -/
def ofText (text : String) : Except String TestType :=
  match String.ofList ((Text.trim text.toList).map Text.lower) with
  | "unit" => .ok .unit
  | "feature" => .ok .feature
  | "model" => .ok .model
  | "controller" => .ok .controller
  | other => .error other

def unknownMessage (other : String) : String :=
  "unknown test type `" ++ other ++ "` (expected unit, feature, model or controller)"

def forcedKind? : TestType → Option Kind
  | .model => some .model
  | .controller => some .controller
  | _ => none

end TestType

structure GenerateOptions where
  /-- Replace test files that are there. -/
  force : Bool := false
  testType : Option TestType := none

/-! ### Suites -/

inductive Suite where
  | unit
  | feature
  deriving DecidableEq

def Suite.namespaceName : Suite → String
  | .unit => "Tests\\Unit"
  | .feature => "Tests\\Feature"

def Suite.ofKind : Kind → Suite
  | .controller => .feature
  | _ => .unit

def Suite.directory (s : Suite) (settings : Settings) (root : Path) : Path :=
  match s with
  | .unit => settings.unitDirectory root
  | .feature => settings.featureDirectory root

def Template.Name.ofKind : Kind → Template.Name
  | .model => .modelTest
  | .controller => .controllerTest
  | _ => .unitTest

/-- The key under which a kind of class finds its own namespace. -/
def namespaceKey : Kind → String
  | .model => "MODEL_NAMESPACE"
  | .controller => "CONTROLLER_NAMESPACE"
  | _ => "SERVICE_NAMESPACE"

/-! ### Generating -/

/-- What a generator is made of, apart from what it has written. -/
structure Generator where
  settings : Settings
  root : Path
  cwd : Location
  templates : TemplateSet
  filter : SourceWalk.Filter

namespace Generator

/-- A generator for a project; templates are read once, here. -/
def create (settings : Settings) (root : Path) (cwd : Location) (d : Disk) : Generator where
  settings
  root
  cwd
  templates := TemplateSet.load d cwd settings.templates root
  filter := .ofSettings settings

def placeholders (kind : Kind) (cls : String) (source : Source) : Placeholders := [
  ("CLASS", cls),
  ("TEST_CLASS", cls ++ "Test"),
  ("NAMESPACE", (Suite.ofKind kind).namespaceName),
  (namespaceKey kind, source.inNamespace),
  ("METHODS", Synthesis.methodsText kind cls source)]

def content (g : Generator) (kind : Kind) (cls : String) (source : Source) : String :=
  Template.fill (placeholders kind cls source) (g.templates.text (.ofKind kind))

def destination (g : Generator) (kind : Kind) (cls : String) : Path :=
  testFilePath ((Suite.ofKind kind).directory g.settings g.root) cls g.settings.generation.extension

/-- What a source asks to have written: its destination and the text. -/
def plan (g : Generator) (log : WriteLog) (d : Disk) (path : Path) (kind : Option Kind)
    (force : Bool) : Except Error (Path × String) := do
  let source ← Source.read d g.cwd path
  let cls ← source.requireClass
  let kind := kind.getD (Kind.ofText source.text)
  let dest := g.destination kind cls
  -- no template is filled for a destination that is taken
  log.ensureFree d g.cwd dest force
  return (dest, g.content kind cls source)

/-- Writes the tests of one source. -/
def generate (g : Generator) (path : Path) (kind : Option Kind) (force : Bool)
    (log : WriteLog) (d : Disk) : Except Error WriteLog × Disk :=
  match g.plan log d path kind force with
  | .error e => (.error e, d)
  | .ok (dest, text) => log.write d g.cwd dest text force

/-- The paths written so far, and the disk. -/
structure State where
  log : WriteLog
  disk : Disk

/-- Writes the tests of one source and tells whether that went well. -/
def run (g : Generator) (path : Path) (kind : Option Kind) (force : Bool) (s : State) :
    Bool × State :=
  match g.generate path kind force s.log s.disk with
  | (.ok log, disk) => (true, ⟨log, disk⟩)
  | (.error _, disk) => (false, { s with disk })

def runFile (g : Generator) (path : Path) (o : GenerateOptions) (s : State) : Bool × State :=
  g.run path (o.testType.bind TestType.forcedKind?) o.force s

/-- Writes the tests of sources one after the other; all of them have to go well. -/
def runFiles (g : Generator) (o : GenerateOptions) : List Path → State → Bool × State
  | [], s => (true, s)
  | p :: ps, s =>
    let (ok, s) := g.runFile p o s
    -- a source that fails does not keep the others from being tried
    let (rest, s) := runFiles g o ps s
    (ok && rest, s)

/-- Writes the tests of all sources of a directory. -/
def runDirectory (g : Generator) (dir : Path) (o : GenerateOptions) (s : State) : Bool × State :=
  -- what is written during the run is not among the sources
  g.runFiles o (SourceWalk.sources g.filter s.disk g.cwd dir) s

/-- Writes tests for a directory or a file; anything else fails. -/
def runPath (g : Generator) (path : Path) (o : GenerateOptions) (s : State) : Bool × State :=
  match s.disk.at? g.cwd path with
  | some .directory => g.runDirectory path o s
  | some (.file _) => g.runFile path o s
  | none => (false, s)

end Generator

end SuiteForge
