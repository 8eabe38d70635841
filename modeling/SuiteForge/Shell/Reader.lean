import SuiteForge.Number.Decimal
import SuiteForge.Shell.Script

/-!
Reading shell scripts.

Where a here-document is announced, its lines are taken out of the text behind the current line, so
the rest is read as if they were not there. `fuel` bounds the nesting and is always enough: every
step that goes deeper takes a character.
-/

namespace SuiteForge.Shell

open Text

/-- What is left of a script, and the number of the line it is on. -/
structure Source where
  rest : List Char
  line : Nat := 1

/-- Why a script cannot be read, with the line. -/
structure Misreading where
  line : Nat
  reason : String

abbrev Reader := StateT Source (Except Misreading)

namespace Reader

/-! ### Characters -/

def rest : Reader (List Char) := return (← get).rest

def refuse (reason : String) : Reader α := fun s => .error ⟨s.line, reason⟩

def skip (n : Nat) : Reader Unit := modify fun s =>
  { rest := s.rest.drop n, line := s.line + (s.rest.take n).count '\n' }

/-- Reads `act` on a text of its own. -/
def within (text : List Char) (act : Reader α) : Reader α := do
  let outer ← get
  set { outer with rest := text }
  let result ← act
  set outer
  return result

def endsWord (c : Char) : Bool := " \t\n;&|<>()".toList.contains c

/-- The text behind blanks and a comment, and behind line breaks if asked for. -/
def behindBlanks (breaksToo : Bool) : Bool → List Char → List Char
  | false, ' ' :: s => behindBlanks breaksToo false s
  | false, '\t' :: s => behindBlanks breaksToo false s
  | false, '\\' :: '\n' :: s => behindBlanks breaksToo false s
  | false, '#' :: s => behindBlanks breaksToo true s
  | _, '\n' :: s => if breaksToo then behindBlanks breaksToo false s else '\n' :: s
  | true, _ :: s => behindBlanks breaksToo true s
  | false, s => s
  | true, [] => []

def skipBlanks (breaksToo : Bool) : Reader Unit := do
  let s ← rest
  skip (s.length - (behindBlanks breaksToo false s).length)

/-- The bare text up to the next character that ends a word. -/
def bareWord (s : List Char) : String := String.ofList (s.takeWhile (!endsWord ·))

/-- The words that close a compound command or one of its parts. -/
def closers : List String := ["then", "fi", "do", "done", "elif", "else", "esac", "\x7d"]

def unexpected (s : List Char) : String :=
  match s with
  | [] => "Syntax error: end of file unexpected"
  | '\n' :: _ => "Syntax error: newline unexpected"
  | ';' :: ';' :: _ => "Syntax error: \";;\" unexpected"
  | '&' :: '&' :: _ => "Syntax error: \"&&\" unexpected"
  | '|' :: '|' :: _ => "Syntax error: \"||\" unexpected"
  | c :: _ =>
    if endsWord c then "Syntax error: \"" ++ String.ofList [c] ++ "\" unexpected"
    else if closers.contains (bareWord s) then
      "Syntax error: \"" ++ bareWord s ++ "\" unexpected"
    else "Syntax error: word unexpected"

def expectWord (w : String) : Reader Unit := do
  skipBlanks true
  let s ← rest
  if bareWord s = w then skip w.length
  else refuse (unexpected s ++ " (expecting \"" ++ w ++ "\")")

def expectChar (c : Char) : Reader Unit := do
  let s ← rest
  if s.head? = some c then skip 1
  else refuse (unexpected s ++ " (expecting \"" ++ String.ofList [c] ++ "\")")

/-! ### Parts of words -/

/-- What surrounds a part: nothing, double quotes, the braces of a value, or a document. -/
inductive Setting where
  | bare
  | quotes
  | braces (quoted : Bool)
  | document
  deriving DecidableEq

def Setting.isQuoted : Setting → Bool
  | .bare => false
  | .braces quoted => quoted
  | _ => true

/-- A backslash takes the meaning of these characters away. -/
def Setting.escapes (s : Setting) (c : Char) : Bool :=
  match s with
  | .bare => true
  | .braces false => true
  | .document => "$\\\x60".toList.contains c
  | _ => "$\\\x60\"\x7d".toList.contains c

def isNameStart (c : Char) : Bool := isLetter c || c = '_'

/-- The name of a variable at the front of a text: a word, a number in braces, or one sign. -/
def variableName (inBraces : Bool) : List Char → List Char
  | [] => []
  | c :: s =>
    if isNameStart c then c :: s.takeWhile isWordChar
    else if isDigit c then if inBraces then c :: s.takeWhile isDigit else [c]
    else if "@*#?$!-".toList.contains c then [c]
    else []

/-- The text up to a backquote, freed of one level of backslashes, and what follows. -/
def backquoted : List Char → List Char × List Char
  | [] => ([], [])
  | '\x60' :: s => ([], s)
  | '\\' :: c :: s =>
    let (inner, s) := backquoted s
    if "$\\\x60".toList.contains c then (c :: inner, s) else ('\\' :: c :: inner, s)
  | c :: s =>
    let (inner, s) := backquoted s
    (c :: inner, s)

/-- The text up to the two parentheses that close an expression; `depth` more are open. -/
def expressionText : Nat → List Char → List Char
  | 0, ')' :: ')' :: _ => []
  | depth, '(' :: s => '(' :: expressionText (depth + 1) s
  | depth + 1, ')' :: s => ')' :: expressionText depth s
  | depth, c :: s => c :: expressionText depth s
  | _, [] => []

/-- How a value is used, and whether an argument in patterns follows. -/
def useAt : List Char → Option (Use × Nat)
  | ':' :: '-' :: _ => some (.orElse true, 2)
  | ':' :: '=' :: _ => some (.orSet true, 2)
  | ':' :: '?' :: _ => some (.orFail true, 2)
  | ':' :: '+' :: _ => some (.instead true, 2)
  | '-' :: _ => some (.orElse false, 1)
  | '=' :: _ => some (.orSet false, 1)
  | '?' :: _ => some (.orFail false, 1)
  | '+' :: _ => some (.instead false, 1)
  | '#' :: '#' :: _ => some (.cutFront true, 2)
  | '#' :: _ => some (.cutFront false, 1)
  | '%' :: '%' :: _ => some (.cutBack true, 2)
  | '%' :: _ => some (.cutBack false, 1)
  | _ => none

/-- A cut takes a pattern, in which quotes mean the same inside and outside of quotes. -/
def argumentSetting (use : Use) (quoted : Bool) : Setting :=
  match use with
  | .cutFront _ => .braces false
  | .cutBack _ => .braces false
  | _ => .braces quoted

/-! ### Documents -/

/-- The lines up to a delimiter and what follows it. -/
def linesUpTo (delimiter : List Char) (tabs : Bool) (s : List Char) : List Char × List Char :=
  go (s.length + 1) s
where
  go : Nat → List Char → List Char × List Char
    | 0, s => ([], s)
    | _, [] => ([], [])
    | fuel + 1, s =>
      let s := if tabs then s.dropWhile (· = '\t') else s
      let line := s.takeWhile (· ≠ '\n')
      let behind := (s.dropWhile (· ≠ '\n')).drop 1
      if line = delimiter then ([], behind)
      else
        let (body, behind) := go fuel behind
        (line ++ '\n' :: body, behind)

/-- Takes a document out of the text behind the current line. -/
def takeDocument (delimiter : List Char) (tabs : Bool) : Reader (List Char) := do
  let s ← rest
  let line := s.takeWhile (· ≠ '\n')
  let (body, behind) := linesUpTo delimiter tabs ((s.dropWhile (· ≠ '\n')).drop 1)
  modify fun src => { rest := line ++ '\n' :: behind, line := src.line }
  return body

/-- The text of a word without its quotes, and whether it had any. -/
def delimiterOf (w : Word) : List Char × Bool :=
  w.foldl (fun (s, quoted) p =>
    match p with
    | .text t q => (s ++ t, quoted || q)
    | _ => (s, quoted)) ([], false)

/-! ### Redirections -/

/-- The sign of a redirection: its length, its usual descriptor, how it opens, and whether a
document loses its tabs. -/
def redirectionSign : List Char → Option (Nat × Nat × Opening × Bool)
  | '<' :: '<' :: '-' :: _ => some (3, 0, .text, true)
  | '<' :: '<' :: _ => some (2, 0, .text, false)
  | '<' :: '&' :: _ => some (2, 0, .duplicate, false)
  | '<' :: _ => some (1, 0, .read, false)
  | '>' :: '>' :: _ => some (2, 1, .append, false)
  | '>' :: '&' :: _ => some (2, 1, .duplicate, false)
  | '>' :: '|' :: _ => some (2, 1, .write, false)
  | '>' :: _ => some (1, 1, .write, false)
  | _ => none

def redirectionStart : Reader (Option (Nat × Opening × Bool)) := do
  let s ← rest
  let digits := s.takeWhile isDigit
  match redirectionSign (s.drop digits.length) with
  | none => return none
  | some (length, usual, opening, tabs) =>
    skip (digits.length + length)
    skipBlanks false
    let fd := if digits = [] then usual else Decimal.digitsValue 0 digits
    return some (fd, opening, tabs)

/-- The name in front of `=`, when a text starts with an assignment. -/
def assignedName? (s : List Char) : Option (List Char) :=
  let name := s.takeWhile isWordChar
  match name, s.drop name.length with
  | c :: _, '=' :: _ => if isNameStart c then some name else none
  | _, _ => none

def startsCompound (w : String) : Bool := ["if", "while", "until", "for", "case", "\x7b"].contains w

def wrap (line : Nat) (c : Command) (rs : List Redirection) : Command :=
  if rs.isEmpty then c else .redirected line c rs

mutual

/-- The parts up to the end of what surrounds them. -/
def parts : Nat → Setting → Reader Word
  | 0, _ => refuse "Syntax error: nested too deeply"
  | fuel + 1, setting => do
    match ← nextParts fuel setting with
    | none => return []
    | some ps => return ps ++ (← parts fuel setting)

/-- The next parts, or nothing at the end of what surrounds them. -/
def nextParts : Nat → Setting → Reader (Option Word)
  | 0, _ => refuse "Syntax error: nested too deeply"
  | fuel + 1, setting => do
    match ← rest with
    | [] => return none
    | '\\' :: '\n' :: _ =>
      skip 2
      return some []
    | ['\\'] =>
      skip 1
      return some [.text ['\\'] true]
    | '\\' :: c :: _ =>
      if setting.escapes c then
        skip 2
        return some [.text [c] true]
      else
        skip 1
        return some [.text ['\\'] true]
    | '$' :: _ => return some [← dollar fuel setting.isQuoted]
    | '\x60' :: s =>
      let (inner, behind) := backquoted s
      skip (s.length + 1 - behind.length)
      let body ← within inner (list fuel)
      return some [.output (.sequence body) setting.isQuoted]
    | c :: s =>
      if c = '\x22' then
        match setting with
        | .quotes => return none
        | .document =>
          skip 1
          return some [.text [c] true]
        | _ =>
          skip 1
          let ps ← parts fuel .quotes
          match ← rest with
          | [] => refuse "Syntax error: Unterminated quoted string"
          | _ =>
            skip 1
            return some (.text [] true :: ps)
      else if c = '\x27' ∧ !setting.isQuoted then
        let inner := s.takeWhile (· ≠ '\x27')
        if inner.length = s.length then refuse "Syntax error: Unterminated quoted string"
        else
          skip (inner.length + 2)
          return some [.text inner true]
      else if c = '\x7d' ∧ (setting = .braces true ∨ setting = .braces false) then return none
      else if setting = .bare ∧ endsWord c then return none
      else
        skip 1
        return some [.text [c] setting.isQuoted]

def dollar : Nat → Bool → Reader Part
  | 0, _ => refuse "Syntax error: nested too deeply"
  | fuel + 1, quoted => do
    skip 1
    match ← rest with
    | '(' :: '(' :: s =>
      let inner := expressionText 0 s
      skip (inner.length + 4)
      return .arithmetic (← within inner (parts fuel .document)) quoted
    | '(' :: _ =>
      skip 1
      let body ← list fuel
      expectChar ')'
      return .output (.sequence body) quoted
    | '\x7b' :: s =>
      skip 1
      let counted := variableName true (s.drop 1)
      if s.head? = some '#' ∧ counted ≠ [] ∧ (s.drop (1 + counted.length)).head? = some '\x7d' then
        skip (counted.length + 2)
        return .value counted .length [] quoted
      else
        let name := variableName true s
        if name = [] then refuse "Bad substitution"
        skip name.length
        match ← rest with
        | '\x7d' :: _ =>
          skip 1
          return .value name .plain [] quoted
        | s =>
          match useAt s with
          | none => refuse "Bad substitution"
          | some (use, length) =>
            skip length
            let argument ← parts fuel (argumentSetting use quoted)
            match ← rest with
            | [] => refuse "Syntax error: Missing '\x7d'"
            | _ =>
              skip 1
              return .value name use argument quoted
    | s =>
      let name := variableName false s
      skip name.length
      if name = [] then return .text ['$'] quoted else return .value name .plain [] quoted

/-- A word that is not empty as written. -/
def word : Nat → Reader Word
  | 0 => refuse "Syntax error: nested too deeply"
  | fuel + 1 => do
    let s ← rest
    match s.head? with
    | none => refuse (unexpected s)
    | some c => if endsWord c then refuse (unexpected s) else parts fuel .bare

/-- The commands up to the end of a text or of a compound command. -/
def list : Nat → Reader (List Command)
  | 0 => refuse "Syntax error: nested too deeply"
  | fuel + 1 => do
    skipBlanks true
    let s ← rest
    if s = [] ∨ s.head? = some ')' ∨ s.take 2 = [';', ';'] ∨ closers.contains (bareWord s) then
      return []
    else
      let c ← chain fuel
      skipBlanks false
      match ← rest with
      | ';' :: ';' :: _ => return [c]
      | ';' :: _ =>
        skip 1
        return c :: (← list fuel)
      | '&' :: _ =>
        skip 1
        return c :: (← list fuel)
      | '\n' :: _ => return c :: (← list fuel)
      | [] => return [c]
      | ')' :: _ => return [c]
      | s => refuse (unexpected s)

/-- Pipelines joined by `&&` and `||`. -/
def chain : Nat → Reader Command
  | 0 => refuse "Syntax error: nested too deeply"
  | fuel + 1 => do
    let c ← pipeline fuel
    chainFrom fuel c

def chainFrom : Nat → Command → Reader Command
  | 0, _ => refuse "Syntax error: nested too deeply"
  | fuel + 1, left => do
    skipBlanks false
    match ← rest with
    | '&' :: '&' :: _ =>
      skip 2
      skipBlanks true
      let right ← pipeline fuel
      chainFrom fuel (.both left right)
    | '|' :: '|' :: _ =>
      skip 2
      skipBlanks true
      let right ← pipeline fuel
      chainFrom fuel (.either left right)
    | _ => return left

def pipeline : Nat → Reader Command
  | 0 => refuse "Syntax error: nested too deeply"
  | fuel + 1 => do
    if bareWord (← rest) = "!" then
      skip 1
      skipBlanks false
      return .negated (← pipeline fuel)
    else
      let left ← command fuel
      skipBlanks false
      match ← rest with
      | '|' :: '|' :: _ => return left
      | '|' :: _ =>
        skip 1
        skipBlanks true
        return .pipe left (← pipeline fuel)
      | _ => return left

def command : Nat → Reader Command
  | 0 => refuse "Syntax error: nested too deeply"
  | fuel + 1 => do
    let s ← rest
    let line := (← get).line
    if s.head? = some '(' then
      skip 1
      let body ← list fuel
      expectChar ')'
      return wrap line (.subshell (.sequence body)) (← redirections fuel)
    else if startsCompound (bareWord s) then
      let c ← compound fuel (bareWord s)
      return wrap line c (← redirections fuel)
    else if closers.contains (bareWord s) then refuse (unexpected s)
    else simple fuel line [] [] []

/-- A compound command from its first word on. -/
def compound : Nat → String → Reader Command
  | 0, _ => refuse "Syntax error: nested too deeply"
  | fuel + 1, w => do
    skip w.length
    match w with
    | "if" => branches fuel
    | "while" =>
      let condition ← list fuel
      return .loop true (.sequence condition) (← doBody fuel)
    | "until" =>
      let condition ← list fuel
      return .loop false (.sequence condition) (← doBody fuel)
    | "for" =>
      skipBlanks false
      let name := (← rest).takeWhile isWordChar
      skip name.length
      skipBlanks true
      if bareWord (← rest) = "in" then
        skip 2
        let ws ← wordList fuel
        skipBlanks false
        if (← rest).head? = some ';' then skip 1
        return .each name (some ws) (← doBody fuel)
      else
        if (← rest).head? = some ';' then skip 1
        return .each name none (← doBody fuel)
    | "case" =>
      skipBlanks false
      let subject ← word fuel
      expectWord "in"
      return .select subject (← arms fuel)
    | _ =>
      let body ← list fuel
      expectWord "\x7d"
      return .sequence body

/-- What follows `if` or `elif`. -/
def branches : Nat → Reader Command
  | 0 => refuse "Syntax error: nested too deeply"
  | fuel + 1 => do
    let condition ← list fuel
    expectWord "then"
    let positive ← list fuel
    let s ← rest
    match bareWord s with
    | "elif" =>
      skip 4
      return .choose (.sequence condition) (.sequence positive) (← branches fuel)
    | "else" =>
      skip 4
      let negative ← list fuel
      expectWord "fi"
      return .choose (.sequence condition) (.sequence positive) (.sequence negative)
    | _ =>
      expectWord "fi"
      return .choose (.sequence condition) (.sequence positive) .nothing

def doBody : Nat → Reader Command
  | 0 => refuse "Syntax error: nested too deeply"
  | fuel + 1 => do
    expectWord "do"
    let body ← list fuel
    expectWord "done"
    return .sequence body

/-- Words up to the end of a line or a semicolon. -/
def wordList : Nat → Reader (List Word)
  | 0 => refuse "Syntax error: nested too deeply"
  | fuel + 1 => do
    skipBlanks false
    match (← rest).head? with
    | none => return []
    | some c =>
      if endsWord c then return []
      else
        let w ← word fuel
        return w :: (← wordList fuel)

/-- The arms of a case. -/
def arms : Nat → Reader (List (List Word × Command))
  | 0 => refuse "Syntax error: nested too deeply"
  | fuel + 1 => do
    skipBlanks true
    if bareWord (← rest) = "esac" then
      skip 4
      return []
    else
      if (← rest).head? = some '(' then skip 1
      let patterns ← alternatives fuel
      expectChar ')'
      let body ← list fuel
      skipBlanks true
      if (← rest).take 2 = [';', ';'] then skip 2
      else if bareWord (← rest) ≠ "esac" then refuse (unexpected (← rest))
      return (patterns, .sequence body) :: (← arms fuel)

/-- Patterns with bars between them. -/
def alternatives : Nat → Reader (List Word)
  | 0 => refuse "Syntax error: nested too deeply"
  | fuel + 1 => do
    skipBlanks false
    let w ← word fuel
    skipBlanks false
    if (← rest).head? = some '|' then
      skip 1
      return w :: (← alternatives fuel)
    else return [w]

def redirections : Nat → Reader (List Redirection)
  | 0 => refuse "Syntax error: nested too deeply"
  | fuel + 1 => do
    skipBlanks false
    match ← redirectionStart with
    | none => return []
    | some (fd, opening, tabs) =>
      let target ← redirectionTarget fuel opening tabs
      return (fd, opening, target) :: (← redirections fuel)

/-- The word behind the sign of a redirection, or the document that it announces. -/
def redirectionTarget : Nat → Opening → Bool → Reader Word
  | 0, _, _ => refuse "Syntax error: nested too deeply"
  | fuel + 1, opening, tabs => do
    let target ← word fuel
    match opening with
    | .text =>
      let (delimiter, quoted) := delimiterOf target
      let body ← takeDocument delimiter tabs
      if quoted then return [.text body true] else within body (parts fuel .document)
    | _ => return target

/-- A simple command, or the definition of a function; what was read of it so far comes last
first. -/
def simple : Nat → Nat → List (List Char × Word) → List Word → List Redirection → Reader Command
  | 0, _, _, _, _ => refuse "Syntax error: nested too deeply"
  | fuel + 1, line, assignments, words, targets => do
    skipBlanks false
    match ← redirectionStart with
    | some (fd, opening, tabs) =>
      let target ← redirectionTarget fuel opening tabs
      simple fuel line assignments words ((fd, opening, target) :: targets)
    | none =>
      let s ← rest
      let atEnd := match s.head? with
        | none => true
        | some c => endsWord c
      if atEnd then
        if assignments.isEmpty ∧ words.isEmpty ∧ targets.isEmpty then refuse (unexpected s)
        return wrap line (.simple line assignments.reverse words.reverse) targets.reverse
      else match words, assignedName? s with
        | [], some name =>
          skip (name.length + 1)
          let value ← parts fuel .bare
          simple fuel line ((name, value) :: assignments) words targets
        | _, _ =>
          let w ← word fuel
          let behind ← rest
          if words.isEmpty ∧ behind.head? = some '(' then
            skip 1
            skipBlanks false
            expectChar ')'
            skipBlanks true
            return .define (delimiterOf w).1 (← command fuel)
          else simple fuel line assignments (w :: words) targets

end

end Reader

def Command.ofText (script : String) : Except Misreading Command := do
  let s := script.toList
  let (commands, source) ← (Reader.list (8 * s.length + 16)).run { rest := s }
  if source.rest = [] then return .sequence commands
  else throw ⟨source.line, Reader.unexpected source.rest⟩

end SuiteForge.Shell
