import SuiteForge.Web.Host

/-!
Web addresses: a scheme, an authority, a path, a query and a fragment.

Only what decides whether an address is accepted is checked here; the text is kept as it is.
Schemes of the web take any number of slashes of either kind before the authority.
-/

namespace SuiteForge.Web

open Text

/-- The text without control characters and blanks at its ends, and without tabs and line breaks. -/
def cleaned (s : List Char) : List Char :=
  let isEdge (c : Char) : Bool := c.toNat ≤ 0x20
  ((s.dropWhile isEdge).reverse.dropWhile isEdge).reverse.filter
    fun c => c ≠ '\t' && c ≠ '\n' && c ≠ '\r'

/-- The scheme of an address, in small letters, and what follows its colon. -/
def scheme? (s : List Char) : Option (String × List Char) :=
  let isSchemeChar (c : Char) : Bool := isLetter c || isDigit c || c = '+' || c = '-' || c = '.'
  match s with
  | [] => none
  | c :: _ =>
    if !isLetter c then none
    else match s.dropWhile isSchemeChar with
      | ':' :: rest => some (String.ofList ((s.takeWhile isSchemeChar).map lower), rest)
      | _ => none

/-- Schemes whose addresses have a host. -/
def isWebScheme (scheme : String) : Bool := ["http", "https", "ws", "wss", "ftp"].contains scheme

/-- The characters that end an authority. -/
def endsAuthority (web : Bool) (c : Char) : Bool :=
  c = '/' || c = '?' || c = '#' || (web && c = '\\')

/-- Cuts the port off an authority; colons in brackets do not count. -/
def splitPort (inBrackets : Bool) : List Char → List Char × Option (List Char)
  | [] => ([], none)
  | c :: cs =>
    if c = ':' && !inBrackets then ([], some cs)
    else
      let (host, port) := splitPort (c = '[' || (inBrackets && c ≠ ']')) cs
      (c :: host, port)

/-- What stands behind the last `@`, if there is one. -/
def behindUserinfo? (authority : List Char) : Option (List Char) :=
  (splitOnce ['@'] authority.reverse).map fun (behind, _) => behind.reverse

/-- A port is a number that fits sixteen bits, or nothing. -/
def isPort (s : List Char) : Bool := s.all isDigit && Decimal.digitsValue 0 s < 65536

/-- Checks an authority and gives what follows it. -/
def checkAuthority (web : Bool) (s : List Char) : Except Fault Unit := do
  let authority := s.takeWhile (!endsAuthority web ·)
  let hostPort := (behindUserinfo? authority).getD authority
  if (behindUserinfo? authority).isSome && hostPort = [] && authority = ['@'] &&
      s.length > authority.length then throw .emptyHost
  let (host, port) := splitPort false hostPort
  if web && host = [] then throw .emptyHost
  if web then Host.check host else Host.checkOpaque host
  match port with
  | none => return ()
  | some port =>
    if host = [] then throw .emptyHost
    if isPort port then return () else throw .badPort

/-- Checks the host of a file address; it may be left out. -/
def checkFile (s : List Char) : Except Fault Unit :=
  match s with
  | a :: b :: rest =>
    if (a = '/' || a = '\\') && (b = '/' || b = '\\') then
      match rest.takeWhile (!endsAuthority true ·) with
      | [] => .ok ()
      | host =>
        if host.length = 2 && isLetter (host.head?.getD ' ') &&
            (host.getLast? = some ':' || host.getLast? = some '|') then .ok ()
        else Host.check host
    else .ok ()
  | _ => .ok ()

/-- Checks an address and gives its scheme. -/
def checkAddress (text : List Char) : Except Fault String :=
  match scheme? (cleaned text) with
  | none => .error .noBase
  | some (scheme, rest) =>
    if isWebScheme scheme then do
      checkAuthority true (rest.dropWhile fun c => c = '/' || c = '\\')
      return scheme
    else if scheme = "file" then do
      checkFile rest
      return scheme
    else match rest with
      | '/' :: '/' :: rest => do
        checkAuthority false rest
        return scheme
      | _ => .ok scheme

/-! ### The target of a request -/

/-- The two characters of a byte behind a percent sign. -/
def percentByte (b : UInt8) : List Char :=
  ['%', upper (Nat.digitChar (b.toNat / 16)), upper (Nat.digitChar (b.toNat % 16))]

/-- A character of a request, encoded when it is in a set or outside ASCII. -/
def percentEncode (set : String) (c : Char) : List Char :=
  if c.toNat ≤ 0x20 || 0x7F ≤ c.toNat || set.toList.contains c then
    (String.singleton c).toUTF8.toList.flatMap percentByte
  else [c]

/-- Follows the dots of a path; the last piece keeps its place. -/
def resolveDots : List (List Char) → List (List Char) → List (List Char)
  | done, [] => done.reverse
  | done, piece :: rest =>
    let plain := String.ofList (piece.map lower)
    if plain = "." || plain = "%2e" then
      if rest = [] then resolveDots ([] :: done) rest else resolveDots done rest
    else if [ "..", ".%2e", "%2e.", "%2e%2e" ].contains plain then
      if rest = [] then resolveDots ([] :: done.tail) rest else resolveDots done.tail rest
    else resolveDots (piece :: done) rest

/-- What a request asks its host for: the path and the query of a web address. -/
def requestTarget (text : List Char) : List Char :=
  let rest := (((scheme? (cleaned text)).map Prod.snd).getD []).dropWhile
    fun c => c = '/' || c = '\\'
  let behind := (rest.dropWhile (!endsAuthority true ·)).takeWhile (· ≠ '#')
  let path := (behind.takeWhile (· ≠ '?')).map fun c => if c = '\\' then '/' else c
  let query := behind.dropWhile (· ≠ '?')
  let pieces := match path with
    | '/' :: more => splitOn '/' more
    | more => splitOn '/' more
  let encoded := (resolveDots [] pieces).map fun piece =>
    piece.flatMap (percentEncode "\"#<>?^`\x7b\x7d")
  '/' :: (['/'].intercalate encoded ++
    match query with
    | '?' :: q => '?' :: q.flatMap (percentEncode "\"#<>'")
    | _ => [])

end SuiteForge.Web
