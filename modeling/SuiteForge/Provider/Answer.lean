import SuiteForge.Json.Parser
import SuiteForge.Error
import SuiteForge.Text.Blank

/-!
What a provider answers.

A record is read from an object by the names of its fields, each at most once, or from an array by
their order. Other members of an object are skipped. A list may be left out where it stands alone,
but not be null; a text may be left out of an object or be null.
-/

namespace SuiteForge

inductive Provider where
  | openAi
  | anthropic
  deriving DecidableEq

namespace Provider

def name : Provider → String
  | .openAi => "openai"
  | .anthropic => "anthropic"

/-- Reads the name of a provider in any ASCII case, with blanks around it. -/
def ofText (text : String) : Except Error Provider :=
  match String.ofList ((Text.trim text.toList).map Text.lower) with
  | "openai" => .ok .openAi
  | "anthropic" => .ok .anthropic
  | _ => .error (.unsupportedProvider text)

end Provider

namespace Answer

/-- The value of the only field of a record: `some none` when an object leaves it out. -/
def onlyField (name : String) : Json → Option (Option Json)
  | .object members =>
    if members.any (·.1.isNone) then none
    else match members.filter (·.1 = some name) with
      | [] => some none
      | [(_, v)] => some (some v)
      | _ => none
  | .array [] => some none
  | .array [v] => some (some v)
  | _ => none

/-- A text or null. -/
def nullableText : Json → Option (Option String)
  | .null => some none
  | .string (some s) => some (some s)
  | _ => none

/-- A record with one text, which an object may leave out. -/
def textRecord (name : String) (v : Json) : Option (Option String) :=
  match onlyField name v, v with
  | some (some text), _ => nullableText text
  | some none, .object _ => some none
  | _, _ => none

/-- A record with one record that has to be there. -/
def recordIn (name : String) (inner : Json → Option α) (v : Json) : Option α :=
  match onlyField name v with
  | some (some w) => inner w
  | _ => none

/-- A record with one list, empty when it is left out. -/
def listRecord (name : String) (element : Json → Option α) (v : Json) : Option (List α) :=
  match onlyField name v with
  | some (some w) => w.list? element
  | some none => some []
  | none => none

/-- The texts that an answer offers, in order. -/
def offers (p : Provider) (v : Json) : Option (List (Option String)) :=
  match p with
  | .openAi => listRecord "choices" (recordIn "message" (textRecord "content")) v
  | .anthropic => listRecord "content" (textRecord "text") v

/-- The first text that a readable answer offers, if it offers one. -/
def content (p : Provider) (body : String) : Except Error (Option String) :=
  match (Json.parse? body.toList).bind (offers p) with
  | some texts => .ok (texts.head?.join)
  | none => .error .unreadableAnswer

end Answer

end SuiteForge
