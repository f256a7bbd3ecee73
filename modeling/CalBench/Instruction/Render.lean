/-
Rendering an instruction into command text.

The text is the parameters before the command, the command, and the parameters after it, each
parameter with the texts around its value. A value comes from the first argument with the parameter's
id, failing that from the default; response and variable parameters take theirs from the `References`
of the run. Rendering stops at the first parameter that cannot be written, with a `RenderError`.
-/
import CalBench.Instruction.Basic
import CalBench.Number.Nearest
import CalBench.Table

namespace CalBench

/-- why an instruction could not be rendered -/
inductive RenderError
  /-- a response or variable parameter names nothing that is bound -/
  | unresolved (kind : ParameterKind) (name : String)
  | missingArgument (parameter : String)
  | invalidArgument (parameter reason : String)
  /-- a number beyond the bounds or off the steps -/
  | outOfRange (parameter : String) (value : Float)
  | unknownItem (parameter value : String)
deriving DecidableEq, Repr

def RenderError.message : RenderError → String
  | .unresolved kind name => s!"Unresolved {kind.name} reference '{name}'"
  | .missingArgument parameter => s!"Missing argument for required parameter '{parameter}'"
  | .invalidArgument parameter reason => s!"Invalid argument for parameter '{parameter}': {reason}"
  | .outOfRange parameter value =>
    "Value " ++ Number.text value ++ s!" for parameter '{parameter}' is out of range"
  | .unknownItem parameter value => s!"'{value}' is not an item of list parameter '{parameter}'"

def RenderError.kindName : RenderError → String
  | .unresolved _ _ => "UnresolvedReference"
  | .missingArgument _ => "MissingArgument"
  | .invalidArgument _ _ => "InvalidArgument"
  | .outOfRange _ _ => "OutOfRange"
  | .unknownItem _ _ => "UnknownListItem"

/-- where response and variable parameters find their values -/
structure References where
  response : String → Option String
  variableValue : String → Option String

/-- the responses and variables of a run -/
structure Bindings where
  responses : Table String := .empty
  assigned : Table String := .empty
deriving DecidableEq, Repr, Inhabited

namespace Bindings

def setResponse (b : Bindings) (tag value : String) : Bindings :=
  { b with responses := b.responses.insert tag value }

def setVariable (b : Bindings) (name value : String) : Bindings :=
  { b with assigned := b.assigned.insert name value }

/-- the bindings as references -/
def references (b : Bindings) : References := ⟨b.responses.get?, b.assigned.get?⟩

end Bindings

namespace Parameter

/-- the steps of a number from the base of its parameter are close to a whole number -/
def onStep (base step x : Float) : Bool :=
  let steps := (x - base) / step
  !((steps - Number.nearestWhole steps).abs > 1e-9)

/-- Refuses a number beyond an enforced bound or off the enforced steps. -/
def checkRange (p : Parameter) (x : Float) : Except RenderError Unit :=
  if p.lower?.any fun min => x < min then .error (.outOfRange p.id x)
  else if p.upper?.any fun max => x > max then .error (.outOfRange p.id x)
  else if p.increment?.any fun step => !onStep (p.lower?.getD 0.0) step x then
    .error (.outOfRange p.id x)
  else .ok ()

/-- the item an argument names by id, value or text -/
def item? (p : Parameter) (wanted : String) : Option ListItem :=
  (p.listItems.getD []).find? fun i => i.id == wanted || i.value == wanted || i.text == wanted

def writeValue (p : Parameter) (a : Argument) : Except RenderError String :=
  match p.kind with
  | .boolean => match a.truth? with
    | none => .error (.invalidArgument p.id "expected a boolean")
    | some b => match if b then p.trueValue else p.falseValue with
      | some s => .ok s
      | none => .error (.invalidArgument p.id "parameter has no literal for this state")
  | .number => match a.number? with
    | none => .error (.invalidArgument p.id "expected a number")
    | some x => (p.checkRange x).map fun _ => Number.text x
  | .list => match p.item? a.toText with
    | some i => .ok i.value
    | none => .error (.unknownItem p.id a.toText)
  | .string | .storedResponse | .driverVariable => .ok a.toText

/-- the value supplied for a parameter: the first argument with its id, or its default -/
def supplied? (p : Parameter) (args : List ParameterArgument) : Option Argument :=
  ((args.find? fun a => a.parameterId == p.id).map ParameterArgument.value).or p.default

/-- the text of the value of a parameter, if it has one -/
def valueText (p : Parameter) (args : List ParameterArgument) (refs : References) :
    Except RenderError (Option String) :=
  match p.kind with
  | .storedResponse => match refs.response (p.responseTag.getD "") with
    | some s => .ok (some s)
    | none => .error (.unresolved .storedResponse (p.responseTag.getD ""))
  | .driverVariable => match refs.variableValue (p.variableName.getD "") with
    | some s => .ok (some s)
    | none => .error (.unresolved .driverVariable (p.variableName.getD ""))
  | _ => match p.supplied? args with
    | some a => (p.writeValue a).map some
    | none => if p.isRequired then .error (.missingArgument p.id) else .ok none

def render (p : Parameter) (args : List ParameterArgument) (refs : References) :
    Except RenderError String :=
  (p.valueText args refs).map fun v => p.beforeText.getD "" ++ v.getD "" ++ p.afterText.getD ""

/-- several parameters in order, up to the first failure -/
def renderAll (args : List ParameterArgument) (refs : References) :
    List Parameter → Except RenderError String
  | [] => .ok ""
  | p :: rest => match p.render args refs with
    | .error e => .error e
    | .ok s => (renderAll args refs rest).map (s ++ ·)

end Parameter

/-- the command text of an instruction -/
def Instruction.render (i : Instruction) (args : List ParameterArgument) (refs : References) :
    Except RenderError String :=
  match Parameter.renderAll args refs (i.preParameters.getD []) with
  | .error e => .error e
  | .ok before =>
    (Parameter.renderAll args refs (i.postParameters.getD [])).map fun after =>
      before ++ i.command ++ after

end CalBench
