/-
Instruction templates.

An `Instruction` describes one command of an instrument once and for all: its literal text, the
parameters written before and after it, the type of the reply and its timing. It holds no values of a
run; those are arguments and, for the parameters that refer to them, earlier responses and variables.
`problems` lists what makes a template unusable.
-/
import CalBench.Instruction.Value

namespace CalBench

/-- what an instruction does with the device -/
inductive InstructionKind
  | read
  | write
  | query
  /-- assigns the rendered text to a variable, without touching the device -/
  | setVariable
deriving DecidableEq, Repr

namespace InstructionKind

/-- a response comes back -/
def reads (k : InstructionKind) : Bool := k = .read || k = .query

/-- a command goes out -/
def writes (k : InstructionKind) : Bool := k = .write || k = .query

/-- the kind in problem reports -/
def title : InstructionKind → String
  | .read => "Read"
  | .write => "Write"
  | .query => "Query"
  | .setVariable => "SetVariable"

def name : InstructionKind → String
  | .read => "Read"
  | .write => "Write"
  | .query => "Query"
  | .setVariable => "setVariable"

def ofName? (s : String) : Option InstructionKind :=
  [read, write, query, setVariable].find? fun k => k.name == s

instance : Codec InstructionKind := ⟨fun k => .str k.name, fun j => j.choice?.bind ofName?⟩

end InstructionKind

/-- how the value of a parameter is supplied and written -/
inductive ParameterKind
  | boolean
  | number
  | string
  | list
  /-- the last response stored under a tag -/
  | storedResponse
  | driverVariable
deriving DecidableEq, Repr

namespace ParameterKind

def name : ParameterKind → String
  | .boolean => "boolean"
  | .number => "number"
  | .string => "string"
  | .list => "list"
  | .storedResponse => "readResponse"
  | .driverVariable => "variable"

def ofName? (s : String) : Option ParameterKind :=
  [boolean, number, string, list, storedResponse, driverVariable].find? fun k => k.name == s

instance : Codec ParameterKind := ⟨fun k => .str k.name, fun j => j.choice?.bind ofName?⟩

end ParameterKind

/-- one choice of a list parameter -/
structure ListItem where
  id : String
  /-- shown to the author -/
  text : String
  /-- sent to the device -/
  value : String
deriving DecidableEq, Repr

/-- one positional parameter of an instruction -/
structure Parameter where
  id : String
  kind : ParameterKind
  prompt : String := ""
  beforeText : Option String := none
  afterText : Option String := none
  /-- an argument or a default must be there -/
  required : Option Bool := none
  listItems : Option (List ListItem) := none
  trueValue : Option String := none
  falseValue : Option String := none
  useMin : Option Bool := none
  useMax : Option Bool := none
  min : Option Float := none
  max : Option Float := none
  useStep : Option Bool := none
  step : Option Float := none
  default : Option Argument := none
  responseTag : Option String := none
  variableName : Option String := none
deriving DecidableEq, Repr

/-- a text that is there and not blank -/
def isGiven (s : Option String) : Bool := s.any fun s => !Text.isBlankText s

namespace Parameter

def isRequired (p : Parameter) : Bool := p.required.getD false

/-- the enforced lower bound of numbers -/
def lower? (p : Parameter) : Option Float := if p.useMin.getD false then p.min else none

/-- the enforced upper bound of numbers -/
def upper? (p : Parameter) : Option Float := if p.useMax.getD false then p.max else none

/-- the enforced step between numbers, always positive -/
def increment? (p : Parameter) : Option Float :=
  (if p.useStep.getD false then p.step else none).filter fun s => s > 0.0

/-- the name of the parameter in problem reports -/
def label (p : Parameter) : String := if p.prompt.isEmpty then p.id else p.prompt

def problems (p : Parameter) : List String :=
  match p.kind with
  | .list =>
    if (p.listItems.getD []).isEmpty then [s!"List parameter '{p.label}' has no items"] else []
  | .boolean =>
    if p.trueValue.isNone || p.falseValue.isNone then
      [s!"Boolean parameter '{p.label}' is missing its true/false values"]
    else []
  | .storedResponse =>
    if isGiven p.responseTag then []
    else [s!"Read response parameter '{p.label}' is missing its response tag"]
  | .driverVariable =>
    if isGiven p.variableName then []
    else [s!"Variable parameter '{p.label}' is missing its variable name"]
  | .number =>
    match p.lower?, p.upper? with
    | some min, some max =>
      if min > max then
        [s!"Number parameter '{p.label}' has minimum " ++ Number.text min ++
          " greater than maximum " ++ Number.text max]
      else []
    | _, _ => []
  | .string => []

end Parameter

/-- the value supplied for the parameter with an id -/
structure ParameterArgument where
  parameterId : String
  value : Argument
deriving DecidableEq, Repr

/-- a reusable template for one command -/
structure Instruction where
  id : String
  order : Option UInt32 := none
  name : String
  description : Option String := none
  kind : InstructionKind
  responseType : Option ResponseType := none
  readAttempts : Option UInt32 := none
  /-- default response tag -/
  responseName : Option String := none
  /-- milliseconds to wait before the command -/
  delayBefore : Option UInt64 := none
  delayAfter : Option UInt64 := none
  helpUri : Option String := none
  /-- target of an assignment -/
  variableName : Option String := none
  /-- the literal text -/
  command : String := ""
  preParameters : Option (List Parameter) := none
  postParameters : Option (List Parameter) := none
deriving DecidableEq, Repr

namespace Instruction

/-- all parameters, in the order they are written -/
def parameters (i : Instruction) : List Parameter :=
  i.preParameters.getD [] ++ i.postParameters.getD []

/-- the tags of the responses that the parameters refer to -/
def referencedTags (i : Instruction) : List String :=
  (i.parameters.filter fun p => p.kind = .storedResponse).filterMap Parameter.responseTag

/-- what is wrong with a template; nothing if it can be used -/
def problems (i : Instruction) : List String :=
  (if i.kind.reads && i.responseType.isNone then
    [s!"{i.kind.title} instruction '{i.name}' missing response data type"] else []) ++
  (if i.kind.writes && Text.isBlankText i.command && i.parameters.isEmpty then
    [s!"{i.kind.title} instruction '{i.name}' has no command text or parameters"] else []) ++
  (if i.kind = .setVariable && !isGiven i.variableName then
    [s!"setVariable instruction '{i.name}' missing variable name"] else []) ++
  (if i.readAttempts = some 0 then
    [s!"Instruction '{i.name}' must allow at least one read attempt"] else []) ++
  i.parameters.flatMap Parameter.problems

end Instruction

end CalBench
