/-!
The ASCII classes of characters and the ASCII case maps; every other character is left alone.
-/

namespace SuiteForge.Text

def isUpperLetter (c : Char) : Bool := 'A' ≤ c && c ≤ 'Z'

def isLowerLetter (c : Char) : Bool := 'a' ≤ c && c ≤ 'z'

def isLetter (c : Char) : Bool := isUpperLetter c || isLowerLetter c

def isDigit (c : Char) : Bool := '0' ≤ c && c ≤ '9'

/-- A letter, a digit or an underscore: what identifiers are made of. -/
def isWordChar (c : Char) : Bool := isLetter c || isDigit c || c == '_'

def isHexDigit (c : Char) : Bool :=
  isDigit c || ('a' ≤ c && c ≤ 'f') || ('A' ≤ c && c ≤ 'F')

def hexValue (c : Char) : Nat :=
  if isDigit c then c.toNat - 48
  else if 'a' ≤ c then c.toNat - 87
  else c.toNat - 55

def upper (c : Char) : Char := if isLowerLetter c then Char.ofNat (c.toNat - 32) else c

def lower (c : Char) : Char := if isUpperLetter c then Char.ofNat (c.toNat + 32) else c

def upperFirst : List Char → List Char
  | [] => []
  | c :: cs => upper c :: cs

end SuiteForge.Text
