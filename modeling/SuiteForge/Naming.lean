import SuiteForge.Text.Blank
import SuiteForge.Text.Lowercase
import SuiteForge.Text.Scan

/-!
How identifiers are turned into other identifiers: words joined by a delimiter, words joined by
capitals, and the names of models and attributes inside method names.
-/

namespace SuiteForge.Naming

open Text

/-- Puts `d` in front of every capital. -/
def delimitCapitals (d : Char) : List Char → List Char
  | [] => []
  | c :: cs => if isUpperLetter c then d :: c :: delimitCapitals d cs else c :: delimitCapitals d cs

/-- Joins words by capitals, puts `d` in front of all capitals but a leading one, and takes the
lower-case form. -/
def delimited (d : Char) (s : List Char) : List Char :=
  match (words s).flatMap upperFirst with
  | [] => []
  | c :: cs => lowercase (c :: delimitCapitals d cs)

def snakeCase (s : String) : String := String.ofList (delimited '_' s.toList)

def kebabCase (s : String) : String := String.ofList (delimited '-' s.toList)

/-- The pieces between hyphens, underscores and blanks. -/
def parts : List Char → List (List Char)
  | [] => [[]]
  | c :: cs =>
    if c = '-' ∨ c = '_' ∨ c = ' ' then [] :: parts cs
    else match parts cs with
      | [] => [[c]]
      | p :: ps => (c :: p) :: ps

/-- Capitalised pieces in a row. -/
def studly (s : List Char) : List Char := (parts s).flatMap upperFirst

def studlyCase (s : String) : String := String.ofList (studly s.toList)

/-! ### Names inside method names -/

def relatedModel (method : String) : String :=
  String.ofList (studly (eraseAll "belongsTo".toList (eraseAll "has".toList method.toList)))

def accessorAttribute (method : String) : String :=
  snakeCase (String.ofList
    (eraseLast "Attribute".toList (eraseFirst "get".toList method.toList)))

end SuiteForge.Naming
