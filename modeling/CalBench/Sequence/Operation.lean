/-
Authored sequences.

An `Operation` is one step as its author wrote it: nearly every field may be absent, and most matter
for some kinds of operation only. Nothing is checked when it is read; compiling a sequence does that,
so that the author sees every problem at once. A `Bindable` field holds a raw value and says how it is
to be understood: as the value itself, as a path into the trigger message, as a key of the flow or the
global values, or as the name of an environment variable.
-/
import CalBench.Instruction.Document

namespace CalBench

open Json

/-- how the raw value of a field is understood -/
inductive BindingKind
  /-- it is the value -/
  | literal
  /-- dotted path into the trigger message -/
  | msg
  | flow
  | global
  | env
  /-- any other kind; it never has a value -/
  | unsupported
deriving DecidableEq, Repr, Inhabited

namespace BindingKind

def name : BindingKind → String
  | .literal => "literal"
  | .msg => "msg"
  | .flow => "flow"
  | .global => "global"
  | .env => "env"
  | .unsupported => "unsupported"

/-- the binding kind with a name; the types of literals are names of `literal`, and names that mean
nothing here are `unsupported` -/
def ofName (s : String) : BindingKind :=
  if ["literal", "str", "num", "bool", "json"].contains s then .literal
  else (([msg, flow, global, env].find? fun k => k.name == s)).getD .unsupported

instance : Codec BindingKind := ⟨fun k => .str k.name, fun j => j.choice?.map ofName⟩

end BindingKind

/-- a field that is bound when the sequence is compiled -/
structure Bindable where
  raw : Option Json := none
  kind : BindingKind := .literal
deriving Inhabited

/-- an instruction of the catalog with values for its parameters -/
structure InstructionReference where
  instructionId : String
  arguments : List ParameterArgument := []
deriving DecidableEq, Repr

/-- one step as authored -/
structure Operation where
  /-- `command`, `delay`, `reset` or `trigger` -/
  kind : Option String := none
  unitId : Bindable := {}
  /-- `read`, `write` or `query` -/
  commandType : Option String := none
  writeData : Bindable := {}
  readDataType : Option String := none
  /-- read `readLength` bytes instead of up to the terminator -/
  useReadLength : Option Bool := none
  readLength : Option Int64 := none
  responseTag : Bindable := {}
  /-- milliseconds -/
  delay : Bindable := {}
  /-- `device` or `interface` -/
  resetType : Option String := none
  interfaceId : Bindable := {}
  instruction : Option InstructionReference := none
deriving Inhabited

/-- a whole sequence as authored -/
structure SequenceDocument where
  /-- results are sent in one batch at the end -/
  respondInBulk : Bool := false
  operations : List Operation := []
deriving Inhabited

/-! ## Documents -/

instance : Shaped InstructionReference :=
  ⟨.record [(["instructionId"], .whole), (["arguments"], shape (List ParameterArgument))]⟩

instance : Codec InstructionReference where
  encode r := record [field "instructionId" r.instructionId, field "arguments" r.arguments]
  decode j := do
    let m ← members? (shape InstructionReference).names j
    return {
      instructionId := ← m.required ["instructionId"]
      arguments := ← m.defaulted ["arguments"] [] }

def Bindable.kindNames (name : String) : List String := [name ++ "BindingKind", name ++ "PropertyType"]

/-- the two fields of a record that a bindable field takes -/
def Bindable.fields (name : String) : List (List String × Shape) :=
  [([name], .whole), (kindNames name, .whole)]

def Bindable.ofMembers (m : Members) (name : String) : Option Bindable := do
  return { raw := ← m.optional [name], kind := ← m.defaulted (kindNames name) .literal }

instance : Shaped Operation := ⟨.record (
  Shape.wholes ["type"] ++ Bindable.fields "unitId" ++ Shape.wholes ["commandType"] ++
  Bindable.fields "writeData" ++ Shape.wholes ["readDataType", "useReadLength", "readLength"] ++
  Bindable.fields "responseTag" ++ Bindable.fields "delay" ++ Shape.wholes ["resetType"] ++
  Bindable.fields "interfaceId" ++ [(["instruction"], shape InstructionReference)])⟩

instance : Codec Operation where
  encode o := record [
    fieldIfSome "type" o.kind,
    fieldIfSome "unitId" o.unitId.raw,
    field "unitIdBindingKind" o.unitId.kind,
    fieldIfSome "commandType" o.commandType,
    fieldIfSome "writeData" o.writeData.raw,
    field "writeDataBindingKind" o.writeData.kind,
    fieldIfSome "readDataType" o.readDataType,
    fieldIfSome "useReadLength" o.useReadLength,
    fieldIfSome "readLength" o.readLength,
    fieldIfSome "responseTag" o.responseTag.raw,
    field "responseTagBindingKind" o.responseTag.kind,
    fieldIfSome "delay" o.delay.raw,
    field "delayBindingKind" o.delay.kind,
    fieldIfSome "resetType" o.resetType,
    fieldIfSome "interfaceId" o.interfaceId.raw,
    field "interfaceIdBindingKind" o.interfaceId.kind,
    fieldIfSome "instruction" o.instruction]
  decode j := do
    let m ← members? (shape Operation).names j
    return {
      kind := ← m.optional ["type"]
      unitId := ← Bindable.ofMembers m "unitId"
      commandType := ← m.optional ["commandType"]
      writeData := ← Bindable.ofMembers m "writeData"
      readDataType := ← m.optional ["readDataType"]
      useReadLength := ← m.optional ["useReadLength"]
      readLength := ← m.optional ["readLength"]
      responseTag := ← Bindable.ofMembers m "responseTag"
      delay := ← Bindable.ofMembers m "delay"
      resetType := ← m.optional ["resetType"]
      interfaceId := ← Bindable.ofMembers m "interfaceId"
      instruction := ← m.optional ["instruction"] }

instance : Shaped SequenceDocument :=
  ⟨.record [(["respondInBulk"], .whole), (["operations"], shape (List Operation))]⟩

instance : Codec SequenceDocument where
  encode d := record [field "respondInBulk" d.respondInBulk, field "operations" d.operations]
  decode j := do
    let m ← members? (shape SequenceDocument).names j
    return {
      respondInBulk := ← m.defaulted ["respondInBulk"] false
      operations := ← m.defaulted ["operations"] [] }

end CalBench
