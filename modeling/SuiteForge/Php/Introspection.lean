import SuiteForge.Disk.Basic
import SuiteForge.Error
import SuiteForge.Text.Ascii
import SuiteForge.Text.Blank

/-!
What a PHP source says about itself: its class, its namespace and its public methods.

The text is scanned for the words themselves, wherever they stand; comments and strings are not
told apart from code.
-/

namespace SuiteForge.Php

open Text

/-- White space, at least one character of it, and the identifier behind it. -/
def nameBehindBlank? (s : List Char) : Option (List Char × List Char) :=
  if (s.takeWhile isBlank).isEmpty then none
  else
    let s := s.dropWhile isBlank
    match s.takeWhile isWordChar with
    | [] => none
    | name => some (name, s.dropWhile isWordChar)

def classAt : Recogniser (List Char) := fun s =>
  (after? "class".toList s).bind nameBehindBlank?

def methodAt : Recogniser (List Char) := fun s => do
  let rest ← after? "public".toList s
  if (rest.takeWhile isBlank).isEmpty then none
  else
    let rest ← after? "function".toList (rest.dropWhile isBlank)
    nameBehindBlank? rest

/-- `namespace`, a blank, and everything up to a semicolon that is not right behind the blank. -/
def namespaceAt : Recogniser (List Char) := fun s => do
  let rest ← after? "namespace".toList s
  match rest.takeWhile (· ≠ ';'), rest.dropWhile (· ≠ ';') with
  | blank :: c :: more, _ :: rest =>
    if isBlank blank then some (trim (c :: more), rest) else none
  | _, _ => none

/-- The class that a text declares first. -/
def className? (text : String) : Option String :=
  (firstMatch classAt text.toList).map String.ofList

/-- The namespace that a text declares first, or nothing. -/
def namespaceOf (text : String) : String :=
  String.ofList ((firstMatch namespaceAt text.toList).getD [])

def publicMethods (text : String) : List String :=
  (allMatches methodAt text.toList).map String.ofList

/-- A source as it was read, with what it says. -/
structure Source where
  path : Path
  text : String
  class? : Option String
  inNamespace : String
  methods : List String

namespace Source

def ofText (path : Path) (text : String) : Source where
  path
  text
  class? := className? text
  inNamespace := namespaceOf text
  methods := publicMethods text

def read (d : Disk) (cwd : Location) (path : Path) : Except Error Source :=
  match d.readText cwd path with
  | .ok text => .ok (ofText path text)
  | .error cause => .error (.disk path cause)

/-- The public methods that a test can call: all but the constructor. -/
def testable (s : Source) : List String := s.methods.filter (· ≠ "__construct")

/-- The class, which a source has to have to be tested. -/
def requireClass (s : Source) : Except Error String :=
  match s.class? with
  | some name => .ok name
  | none => .error (.notAClass s.path)

end Source

/-! ### Kinds of classes -/

inductive Kind where
  | model
  | controller
  | service
  | plain
  deriving DecidableEq

/-- The kind that the words of a source suggest: first what it extends, then what it is called. -/
def Kind.ofText (text : String) : Kind :=
  let has (w : String) := contains w.toList text.toList
  if has "extends Model" || has "extends Authenticatable" then .model
  else if has "Controller" then .controller
  else if has "Service" && !has "Test" then .service
  else .plain

end SuiteForge.Php
