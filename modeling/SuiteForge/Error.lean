import SuiteForge.Disk.Cause
import SuiteForge.Path

/-!
What can go wrong, and how it is said.
-/

namespace SuiteForge

inductive Error where
  | notAClass (path : Path)
  /-- A test file is there already, or has been written in this run. -/
  | destinationExists (path : Path)
  | missingConfiguration (what : String)
  | unsupportedProvider (name : String)
  /-- No answer came from a provider. -/
  | connection (provider reason : String)
  /-- A provider answered with a status that is no success. -/
  | providerCallFailed (provider : String) (status : Nat) (body : String)
  | runnerInvocationFailed (reason : String)
  | configuration (reason : String)
  | disk (path : Path) (cause : Disk.Cause)
  /-- A provider's answer could not be read. -/
  | unreadableAnswer
  deriving DecidableEq

namespace Error

def message : Error → String
  | .notAClass path => s!"no class declaration found in {path.text}"
  | .destinationExists path => s!"test file already exists: {path.text}"
  | .missingConfiguration what => what
  | .unsupportedProvider name => s!"Unsupported AI provider: {name}"
  | .connection provider reason => s!"failed to reach {provider}: {reason}"
  | .providerCallFailed provider status body =>
    s!"{provider} API request failed ({status}): {body}"
  | .runnerInvocationFailed reason => s!"test runner failed: {reason}"
  | .configuration reason => s!"invalid configuration: {reason}"
  | .disk path cause => s!"{path.text}: {cause.message}"
  | .unreadableAnswer => "unreadable answer"

/-- Failures of configuration or provider end a run; the others concern one file. -/
def fatal : Error → Bool
  | .missingConfiguration _ => true
  | .unsupportedProvider _ => true
  | .connection .. => true
  | .providerCallFailed .. => true
  | .configuration _ => true
  | _ => false

end Error

end SuiteForge
