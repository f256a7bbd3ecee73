/-
Why a run fails.

A step fails because its link did or because its instruction could not be rendered. A `Failure` ends
a run, keeps it from starting, or refuses a transition of an action. Only failures of steps and of
validation are tied to a position.
-/
import CalBench.Instruction.Render
import CalBench.Link.Error
import CalBench.Procedure.Graph
import CalBench.Sequence.Compile

namespace CalBench

/-- why a step failed -/
inductive StepFailure
  | link (e : LinkError)
  | render (e : RenderError)
deriving DecidableEq, Repr

def StepFailure.message : StepFailure → String
  | .link e => e.message
  | .render e => e.message

def StepFailure.kindName : StepFailure → String
  | .link e => "Transport/" ++ e.kindName
  | .render e => "Render/" ++ e.kindName

/-- why a run or a transition failed -/
inductive Failure
  /-- the request makes no sense -/
  | configuration (reason : String)
  | validation (errors : List ValidationError)
  /-- a link failed outside a step -/
  | link (e : LinkError)
  | step (index : Nat) (cause : StepFailure)
  | alreadyRunning (action : String)
  | missingSection (action : String)
  | lookup (e : LookupError)
  | unknownUnit (unit : String)
  | unknownInterface (name : String)
  | cancelled
deriving DecidableEq, Repr

namespace Failure

def message : Failure → String
  | configuration reason => "Configuration validation error: " ++ reason
  | validation errors =>
    "Sequence failed validation with " ++ Number.natText errors.length ++ " error(s)"
  | link e => "Transport error: " ++ e.message
  | step index cause => "Step " ++ Number.natText index ++ " failed: " ++ cause.message
  | alreadyRunning action => s!"Action '{action}' is already running"
  | missingSection action => s!"Action '{action}' has no section configured"
  | lookup e => "Graph lookup failed: " ++ e.message
  | unknownUnit unit => s!"Cannot execute: no device is configured for unit '{unit}'"
  | unknownInterface name => s!"Communication interface '{name}' does not exist"
  | cancelled => "Execution cancelled"

/-- the name of the kind of failure, with that of its cause -/
def kindName : Failure → String
  | configuration _ => "Configuration"
  | validation _ => "Validation"
  | link e => "Transport/" ++ e.kindName
  | step _ cause => "StepFailed/" ++ cause.kindName
  | alreadyRunning _ => "AlreadyRunning"
  | missingSection _ => "MissingSection"
  | lookup _ => "GraphLookupFailure"
  | unknownUnit _ => "UnknownUnit"
  | unknownInterface _ => "UnknownInterface"
  | cancelled => "Cancelled"

/-- the position of the step or operation at fault, if there is one -/
def position? : Failure → Option Nat
  | step index _ => some index
  | validation errors => errors.head?.map ValidationError.index
  | _ => none

end Failure

end CalBench
