/-
Failures of a communication link.

Every way a link operation can fail is a `LinkError`; `message` words it. Two of them, a timeout and a
malformed response, may go away when the read is tried again: `retryable`. When every attempt of a
read has failed, `readFailure` says how many there were and keeps the last cause.
-/
import CalBench.Duration

namespace CalBench

/-- the operations of a link that have a time limit -/
inductive TimedOperation
  | connect
  | read
  | write
deriving DecidableEq, Repr

def TimedOperation.name : TimedOperation → String
  | .connect => "connect"
  | .read => "read"
  | .write => "write"

/-- why a link operation failed -/
inductive LinkError
  | connect (resource reason : String)
  | timeout (operation : TimedOperation) (after : Duration)
  | readFailure (attempts : Nat) (last : LinkError)
  | notConnected
  /-- the interface or device lacks a setting the operation needs -/
  | notConfigured
  | disabled (name : String)
  /-- another interface holds the physical resource -/
  | resourceInUse (resource owner : String)
  /-- settings cannot change on an open link -/
  | alreadyConnected
  | unsupported (operation : String)
  | malformed (problem : String)
  | encoding (problem : String)
  | io (problem : String)
  /-- the interface needs a component that is not part of this build -/
  | featureMissing (feature : String)
deriving DecidableEq, Repr

namespace LinkError

/-- a retried read may recover -/
def retryable : LinkError → Bool
  | .timeout _ _ => true
  | .malformed _ => true
  | _ => false

def message : LinkError → String
  | .connect resource reason => s!"Failed to connect to '{resource}': {reason}"
  | .timeout operation after => s!"{operation.name} timed out after {after.message}"
  | .readFailure attempts last =>
    "Read failed after " ++ Number.natText attempts ++ " attempt(s): " ++ last.message
  | .notConnected => "Not connected"
  | .notConfigured => "Interface has not been configured"
  | .disabled name => s!"Interface '{name}' is disabled"
  | .resourceInUse resource owner =>
    s!"Physical resource '{resource}' is already held by interface '{owner}'"
  | .alreadyConnected => "Cannot configure while connected"
  | .unsupported operation => s!"Operation '{operation}' is not supported by this interface"
  | .malformed problem => s!"Malformed response: {problem}"
  | .encoding problem => s!"Encoding error: {problem}"
  | .io problem => s!"I/O error: {problem}"
  | .featureMissing feature =>
    s!"Feature '{feature}' is not enabled. Please build with --features {feature}"

/-- the name of the kind of failure; that of a failed read also names its last cause -/
def kindName : LinkError → String
  | .connect _ _ => "Connect"
  | .timeout _ _ => "Timeout"
  | .readFailure _ last => "ReadFailure/" ++ kindName last
  | .notConnected => "NotConnected"
  | .notConfigured => "NotConfigured"
  | .disabled _ => "Disabled"
  | .resourceInUse _ _ => "ResourceInUse"
  | .alreadyConnected => "AlreadyConnected"
  | .unsupported _ => "Unsupported"
  | .malformed _ => "MalformedResponse"
  | .encoding _ => "Encoding"
  | .io _ => "Io"
  | .featureMissing _ => "FeatureNotEnabled"

end LinkError

end CalBench
