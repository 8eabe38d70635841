import SuiteForge.Json.Printer
import SuiteForge.Provider.Answer
import SuiteForge.Settings.Basic
import SuiteForge.Web.Address

/-!
Talking to a provider.

A client knows its provider, model, key and address; it sends one message of the user at a time.
The other end of the line is a script of replies: each request takes the next one, and the last one
is repeated.
-/

namespace SuiteForge

/-! ### The line -/

structure Request where
  url : String
  headers : List (String × String)
  body : Json

/-- What comes back on a request: nothing, for a reason, or an answer. -/
inductive Reply where
  | lost (reason : String)
  | answer (status : Nat) (body : String)
  deriving DecidableEq

/-- A line to a provider: what it will reply, and what it has been sent, oldest first. A line over
the web does not carry control characters in headers. -/
structure Line where
  replies : List Reply
  sent : List Request := []
  web : Bool := false

namespace Line

def isHeaderValue (value : String) : Bool :=
  value.toList.all fun c => (0x20 ≤ c.toNat || c = '\t') && c.toNat ≠ 0x7F

def carries (line : Line) (r : Request) : Bool :=
  !line.web || r.headers.all fun (_, value) => isHeaderValue value

/-- The replies after one of them was used; the last one stays. -/
def rest : List Reply → List Reply
  | [] => []
  | [r] => [r]
  | _ :: rs => rs

def post (line : Line) (r : Request) : Reply × Line :=
  if line.carries r then
    (line.replies.head?.getD (.lost "no reply"),
      { line with replies := rest line.replies, sent := line.sent ++ [r] })
  else (.lost "builder error", line)

end Line

/-! ### The client -/

structure CompletionOptions where
  maxTokens : Nat := 4000
  temperature : Binary64 := .ofScaled false 7 (-1)

def CompletionOptions.ofSettings (s : AiSettings) : CompletionOptions where
  maxTokens := s.maxTokens
  temperature := s.temperature

namespace Provider

/-- The address that is used when the settings give none. -/
def defaultBase : Provider → String
  | .openAi => "https://api.openai.com"
  | .anthropic => "https://api.anthropic.com"

def path : Provider → String
  | .openAi => "v1/chat/completions"
  | .anthropic => "v1/messages"

def withoutSlashes (s : List Char) : List Char := (s.reverse.dropWhile (· = '/')).reverse

/-- The address in use: the settings' own, trimmed, unless it is blank. -/
def base (p : Provider) (baseUrl : Option String) : String :=
  match baseUrl.map fun b => String.ofList (Text.trim b.toList) with
  | some "" => p.defaultBase
  | some b => b
  | none => p.defaultBase

/-- Where requests go. The address has to be one of the web. -/
def endpoint (p : Provider) (baseUrl : Option String) : Except Error String :=
  let b := p.base baseUrl
  match Web.checkAddress b.toList with
  | .error fault => .error (.configuration ("ai.base_url `" ++ b ++ "`: " ++ fault.message))
  | .ok scheme =>
    if scheme = "http" ∨ scheme = "https" then
      .ok (String.ofList (withoutSlashes b.toList) ++ "/" ++ p.path)
    else .error (.configuration ("ai.base_url `" ++ b ++ "` must use http or https"))

end Provider

structure Client where
  provider : Provider
  model : String
  apiKey : String
  endpoint : String

namespace Client

def ofSettings (s : AiSettings) : Except Error Client := do
  let provider ← Provider.ofText s.provider
  let endpoint ← provider.endpoint s.baseUrl
  return { provider, model := s.model, apiKey := s.apiKey, endpoint }

def messages (prompt : String) : Json :=
  .array [.record [("content", .text prompt), ("role", .text "user")]]

/-- The request for a prompt. The members of its body are in the order of their names. -/
def request (c : Client) (prompt : String) (o : CompletionOptions) : Request :=
  match c.provider with
  | .openAi => {
      url := c.endpoint
      headers := [("Authorization", "Bearer " ++ c.apiKey)]
      body := .record [
        ("max_tokens", .ofNat o.maxTokens),
        ("messages", messages prompt),
        ("model", .text c.model),
        ("temperature", .ofBinary64 o.temperature)] }
  | .anthropic => {
      url := c.endpoint
      headers := [("x-api-key", c.apiKey), ("anthropic-version", "2023-06-01")]
      body := .record [
        ("max_tokens", .ofNat o.maxTokens),
        ("messages", messages prompt),
        ("model", .text c.model)] }

/-- What a reply means: its first text, nothing if it is unreadable or offers none, or a failure. -/
def meaning (c : Client) : Reply → Except Error (Option String)
  | .lost reason => .error (.connection c.provider.name reason)
  | .answer status body =>
    if 200 ≤ status ∧ status < 300 then
      match Answer.content c.provider body with
      | .ok text => .ok text
      | .error _ => .ok none
    else .error (.providerCallFailed c.provider.name status body)

/-- Sends a prompt and reads the reply. -/
def complete (c : Client) (prompt : String) (o : CompletionOptions) (line : Line) :
    Except Error (Option String) × Line :=
  let (reply, line) := line.post (c.request prompt o)
  (c.meaning reply, line)

end Client

end SuiteForge
