/-
Compiled plans.

A `Plan` is a sequence whose every step is known to be complete: units, tags, texts and delays are
bound, and instructions are snapshots of the catalog. `payload` is the form in which a plan is sent
downstream; it carries for each step only the fields of its kind.
-/
import CalBench.Instruction.Document

namespace CalBench

open Json

/-- what a command does on the link -/
inductive CommandKind
  | read
  | write
  | query
deriving DecidableEq, Repr

namespace CommandKind

/-- a response comes back -/
def reads (k : CommandKind) : Bool := k = .read || k = .query

/-- a text goes out -/
def writes (k : CommandKind) : Bool := k = .write || k = .query

def name : CommandKind → String
  | .read => "read"
  | .write => "write"
  | .query => "query"

def ofName? (s : String) : Option CommandKind := [read, write, query].find? fun k => k.name == s

instance : Codec CommandKind := ⟨fun k => .str k.name, fun j => j.choice?.bind ofName?⟩

end CommandKind

/-- the response type an author's type name stands for, in any letter case -/
def ResponseType.ofAuthorName? (s : String) : Option ResponseType :=
  let word := Text.lowerAscii s
  if ["string", "char"].contains word then some .string
  else if ["number", "integer", "single", "double", "float32", "float64", "byte", "int16", "int32",
      "int64"].contains word then some .number
  else if word == "boolean" then some .boolean
  else if ["binary", "bytearray"].contains word then some .binary
  else none

/-- how a response is collected -/
structure ReadSpec where
  type : ResponseType
  /-- how many bytes to read; without it, up to the terminator -/
  length : Option Nat
  tag : String
deriving DecidableEq, Repr

/-- an instruction as found in the catalog, with its arguments -/
structure BoundInstruction where
  instruction : Instruction
  arguments : List ParameterArgument
deriving DecidableEq, Repr

/-- a complete command -/
structure Command where
  unit : String
  kind : CommandKind
  /-- sent when there is no instruction -/
  writeData : Option String
  /-- there for reads and queries -/
  read : Option ReadSpec
  instruction : Option BoundInstruction
  readAttempts : Option Nat
  delayBefore : Duration
  delayAfter : Duration
deriving DecidableEq, Repr

/-- one complete step -/
inductive Step
  | command (c : Command)
  /-- assigns the rendered instruction to a variable -/
  | setVariable (name : String) (source : BoundInstruction)
  | delay (d : Duration)
  | resetDevice (unit : String)
  /-- resets the bus controller or reopens the link -/
  | resetInterface (interface : String)
  | trigger (unit : String)
deriving DecidableEq, Repr

namespace Step

def kindName : Step → String
  | .command _ | .setVariable _ _ => "command"
  | .delay _ => "delay"
  | .resetDevice _ | .resetInterface _ => "reset"
  | .trigger _ => "trigger"

/-- the name of a step, which also says what an assignment or a reset is about -/
def name : Step → String
  | .setVariable _ _ => "setVariable"
  | .resetDevice _ => "resetDevice"
  | .resetInterface _ => "resetInterface"
  | s => s.kindName

def unit? : Step → Option String
  | .command c => some c.unit
  | .resetDevice unit | .trigger unit => some unit
  | _ => none

/-- a failure of the step ends the run -/
def isFatal : Step → Bool
  | .command _ | .setVariable _ _ => true
  | _ => false

/-- the time a step spends waiting on purpose -/
def pause : Step → Duration
  | .delay d => d
  | .command c => c.delayBefore + c.delayAfter
  | _ => .zero

end Step

/-- a complete sequence -/
structure Plan where
  steps : List Step := []
  respondInBulk : Bool := false
deriving DecidableEq, Repr, Inhabited

namespace Plan

/-- the units of a list of steps after those already known, in order of first use -/
def unitsFrom (known : List String) : List Step → List String
  | [] => known
  | s :: rest => match s.unit? with
    | some u => if known.contains u then unitsFrom known rest else unitsFrom (known ++ [u]) rest
    | none => unitsFrom known rest

/-- the units a plan addresses, in order of first use -/
def units (p : Plan) : List String := unitsFrom [] p.steps

/-- the time a plan spends waiting on purpose -/
def totalDelay (p : Plan) : Duration := (p.steps.map Step.pause).foldl (· + ·) .zero

end Plan

/-! ## The form sent downstream -/

/-- a step with the fields of its kind -/
structure ResolvedOperation where
  kind : String
  commandType : Option String := none
  unitId : Option String := none
  instructionId : Option String := none
  writeData : Option String := none
  readDataType : Option ResponseType := none
  useReadLength : Option Bool := none
  readLength : Option UInt64 := none
  responseTag : Option String := none
  /-- milliseconds -/
  delay : Option UInt64 := none
  resetType : Option String := none
  interfaceId : Option String := none
deriving DecidableEq, Repr

/-- a plan as sent downstream -/
structure SequencePayload where
  respondInBulk : Bool
  operations : List ResolvedOperation
deriving DecidableEq, Repr

/-- the resolved form of a step -/
def Step.resolved : Step → ResolvedOperation
  | .command c =>
    { kind := "command"
      commandType := some c.kind.name
      unitId := some c.unit
      instructionId := c.instruction.map fun b => b.instruction.id
      writeData := c.writeData
      readDataType := c.read.map ReadSpec.type
      useReadLength := c.read.map fun r => r.length.isSome
      readLength := (c.read.bind ReadSpec.length).map Nat.toUInt64
      responseTag := c.read.map ReadSpec.tag }
  | .setVariable _ source =>
    { kind := "command"
      commandType := some "setVariable"
      instructionId := some source.instruction.id }
  | .delay d => { kind := "delay", delay := some d.millis.toUInt64 }
  | .resetDevice unit => { kind := "reset", resetType := some "device", unitId := some unit }
  | .resetInterface interface =>
    { kind := "reset", resetType := some "interface", interfaceId := some interface }
  | .trigger unit => { kind := "trigger", unitId := some unit }

def Plan.payload (p : Plan) : SequencePayload := ⟨p.respondInBulk, p.steps.map Step.resolved⟩

/-- the members of a resolved operation, in order -/
def ResolvedOperation.memberNames : List String :=
  ["type", "commandType", "unitId", "instructionId", "writeData", "readDataType", "useReadLength",
   "readLength", "responseTag", "delay", "resetType", "interfaceId"]

instance : Codec ResolvedOperation where
  encode o := record [
    field "type" o.kind,
    fieldIfSome "commandType" o.commandType,
    fieldIfSome "unitId" o.unitId,
    fieldIfSome "instructionId" o.instructionId,
    fieldIfSome "writeData" o.writeData,
    fieldIfSome "readDataType" o.readDataType,
    fieldIfSome "useReadLength" o.useReadLength,
    fieldIfSome "readLength" o.readLength,
    fieldIfSome "responseTag" o.responseTag,
    fieldIfSome "delay" o.delay,
    fieldIfSome "resetType" o.resetType,
    fieldIfSome "interfaceId" o.interfaceId]
  decode j := do
    let m ← members? ResolvedOperation.memberNames j
    return {
      kind := ← m.required ["type"]
      commandType := ← m.optional ["commandType"]
      unitId := ← m.optional ["unitId"]
      instructionId := ← m.optional ["instructionId"]
      writeData := ← m.optional ["writeData"]
      readDataType := ← m.optional ["readDataType"]
      useReadLength := ← m.optional ["useReadLength"]
      readLength := ← m.optional ["readLength"]
      responseTag := ← m.optional ["responseTag"]
      delay := ← m.optional ["delay"]
      resetType := ← m.optional ["resetType"]
      interfaceId := ← m.optional ["interfaceId"] }

instance : Codec SequencePayload where
  encode p := record [field "respondInBulk" p.respondInBulk, field "operations" p.operations]
  decode j := do
    let m ← members? ["respondInBulk", "operations"] j
    return { respondInBulk := ← m.required ["respondInBulk"], operations := ← m.required ["operations"] }

end CalBench
