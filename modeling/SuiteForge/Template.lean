import SuiteForge.Disk.Basic
import SuiteForge.Settings.Basic
import SuiteForge.Text.Scan

/-!
Templates of test files.

A placeholder is a key in double braces, the key itself free of braces. All placeholders are filled
in one pass: a key without a value stays as it is, and values are not looked at again.
-/

namespace SuiteForge

/-- The values of placeholders; when a key is there twice, the later value counts. -/
abbrev Placeholders := List (String × String)

def Placeholders.get? (values : Placeholders) (key : String) : Option String :=
  values.reverse.lookup key

namespace Template

open Text

def isBrace (c : Char) : Bool := c = '\x7b' || c = '\x7d'

/-- A key in double braces, as written in braces and bare. -/
def placeholderAt? : List Char → Option (List Char × List Char)
  | '\x7b' :: '\x7b' :: s =>
    match s.dropWhile (!isBrace ·) with
    | '\x7d' :: '\x7d' :: rest => some (s.takeWhile (!isBrace ·), rest)
    | _ => none
  | _ => none

/-- A placeholder that has a value. -/
def filledAt (values : Placeholders) : Recogniser (List Char) := fun s =>
  match placeholderAt? s with
  | none => none
  | some (key, rest) =>
    match values.get? (String.ofList key) with
    | some value => some (value.toList, rest)
    | none => some ('\x7b' :: '\x7b' :: (key ++ ['\x7d', '\x7d']), rest)

def fill (values : Placeholders) (template : String) : String :=
  String.ofList (replaceMatches (filledAt values) template.toList)

/-! ### The templates there are -/

inductive Name where
  | unitTest
  | modelTest
  | controllerTest
  deriving DecidableEq

def Name.text : Name → String
  | .unitTest => "unit_test"
  | .modelTest => "model_test"
  | .controllerTest => "controller_test"

def opening : String :=
  "<?php\n\nnamespace \x7b\x7bNAMESPACE\x7d\x7d;\n\nuse Tests\\TestCase;\n"

def refreshImport : String := "use Illuminate\\Foundation\\Testing\\RefreshDatabase;\n"

/-- The import of the class under test, which stands under its own key for each kind. -/
def classImport (key : String) : String :=
  "use \x7b\x7b" ++ key ++ "\x7d\x7d\\\x7b\x7bCLASS\x7d\x7d;\n\n"

def classOpening : String := "class \x7b\x7bTEST_CLASS\x7d\x7d extends TestCase\n\x7b\n"

def refreshUse : String := "    use RefreshDatabase;\n\n"

def closing : String := "\x7b\x7bMETHODS\x7d\x7d\n\x7d\n"

/-- The templates that are used where the settings name no other. -/
def builtIn : Name → String
  | .unitTest => opening ++ classImport "SERVICE_NAMESPACE" ++ classOpening ++ closing
  | .modelTest =>
    opening ++ refreshImport ++ classImport "MODEL_NAMESPACE" ++ classOpening ++ refreshUse ++
      closing
  | .controllerTest =>
    opening ++ refreshImport ++ classImport "CONTROLLER_NAMESPACE" ++ classOpening ++ refreshUse ++
      closing

end Template

structure TemplateSet where
  text : Template.Name → String

/-- Reads the templates that the settings name; one that is not named, or cannot be read, is the
built-in one. -/
def TemplateSet.load (d : Disk) (cwd : Location) (s : TemplateSettings) (root : Path) :
    TemplateSet where
  text name :=
    let configured := match name with
      | .unitTest => s.unitTest
      | .modelTest => s.modelTest
      | .controllerTest => s.controllerTest
    match configured with
    | none => Template.builtIn name
    | some p =>
      match d.readText cwd (root.join p) with
      | .ok text => text
      | .error _ => Template.builtIn name

end SuiteForge
