import SuiteForge.Json.Value

/-!
Writing JSON, on one line or indented by two blanks a level.

Quotes, backslashes and control characters are escaped, the common control characters by a
letter; every other character stands for itself.
-/

namespace SuiteForge.Json

def hexDigit (n : Nat) : Char := Nat.digitChar n

def escape (c : Char) : List Char :=
  match c with
  | '"' => ['\\', '"']
  | '\\' => ['\\', '\\']
  | '\n' => ['\\', 'n']
  | '\r' => ['\\', 'r']
  | '\t' => ['\\', 't']
  | c =>
    if c.toNat = 8 then ['\\', 'b']
    else if c.toNat = 12 then ['\\', 'f']
    else if c.toNat < 0x20 then
      ['\\', 'u', '0', '0', hexDigit (c.toNat / 16), hexDigit (c.toNat % 16)]
    else [c]

def quoted : Option String → List Char
  | some s => '"' :: (s.toList.flatMap escape ++ ['"'])
  | none => "\"\\ud800\"".toList

mutual

def compact : Json → List Char
  | .null => "null".toList
  | .bool true => "true".toList
  | .bool false => "false".toList
  | .number lexeme => lexeme
  | .string text => quoted text
  | .array elements => '[' :: (compactElements elements ++ [']'])
  | .object members => '\x7b' :: (compactMembers members ++ ['\x7d'])

def compactElements : List Json → List Char
  | [] => []
  | [v] => compact v
  | v :: vs => compact v ++ ',' :: compactElements vs

def compactMembers : List (Option String × Json) → List Char
  | [] => []
  | [(k, v)] => quoted k ++ ':' :: compact v
  | (k, v) :: ms => quoted k ++ ':' :: (compact v ++ ',' :: compactMembers ms)

end

def newLine (level : Nat) : List Char := '\n' :: List.replicate (2 * level) ' '

mutual

/-- The document over several lines, nested in `level` brackets. -/
def pretty (level : Nat) : Json → List Char
  | .array [] => "[]".toList
  | .array elements => '[' :: (prettyElements level elements ++ newLine level ++ [']'])
  | .object [] => ['\x7b', '\x7d']
  | .object members => '\x7b' :: (prettyMembers level members ++ newLine level ++ ['\x7d'])
  | .null => "null".toList
  | .bool true => "true".toList
  | .bool false => "false".toList
  | .number lexeme => lexeme
  | .string text => quoted text

def prettyElements (level : Nat) : List Json → List Char
  | [] => []
  | [v] => newLine (level + 1) ++ pretty (level + 1) v
  | v :: vs => newLine (level + 1) ++ pretty (level + 1) v ++ ',' :: prettyElements level vs

def prettyMembers (level : Nat) : List (Option String × Json) → List Char
  | [] => []
  | [(k, v)] => newLine (level + 1) ++ quoted k ++ ':' :: ' ' :: pretty (level + 1) v
  | (k, v) :: ms =>
    newLine (level + 1) ++ quoted k ++ ':' :: ' ' :: pretty (level + 1) v ++
      ',' :: prettyMembers level ms

end

end SuiteForge.Json
