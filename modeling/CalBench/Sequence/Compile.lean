/-
Compiling sequences.

Every operation is checked on its own against the catalog and the context; a field that cannot be
resolved counts as absent. `Operation.compile` gives the problems of one operation, the response tag
it produces and, if there are no problems, its step. The only thing that passes from one operation to
the next are the tags produced so far: an instruction that refers to a response needs an earlier read
or query to have produced it. A sequence compiles when no operation has a problem; otherwise all
problems are reported, in the order of the operations.
-/
import CalBench.Catalog.Lookup
import CalBench.Sequence.Context
import CalBench.Sequence.Plan

namespace CalBench

/-- what can be wrong with an operation -/
inductive Problem
  | invalidType
  | unknownInstruction (id : String)
  /-- the tag is not produced by an earlier operation -/
  | tagNotProduced (instruction tag : String)
  | commandMissingUnit
  | invalidCommandType
  | missingCommandType
  | unknownResponseType (name : String)
  | missingResponseType
  | readLengthNotPositive
  | missingResponseTag
  | missingWriteData
  | missingVariableName (instruction : String)
  | delayNotPositive
  | resetMissingType
  | resetMissingUnit
  | resetMissingInterface
  | invalidResetType
  | triggerMissingUnit
deriving DecidableEq, Repr

def Problem.message : Problem → String
  | .invalidType => "Invalid operation type"
  | .unknownInstruction id => s!"Command references unknown instruction '{id}'"
  | .tagNotProduced instruction tag =>
    s!"Instruction '{instruction}' reads response tag '{tag}' before any earlier step produces it"
  | .commandMissingUnit => "Command missing unit Id"
  | .invalidCommandType => "Invalid command type"
  | .missingCommandType => "Command missing command type"
  | .unknownResponseType name => s!"Read or Query command has unknown response type '{name}'"
  | .missingResponseType => "Read or Query command missing response type"
  | .readLengthNotPositive =>
    "Read or Query command using length, but requested length is less than or equal to zero"
  | .missingResponseTag => "Read or Query command missing response tag"
  | .missingWriteData => "Write or Query command missing write data"
  | .missingVariableName instruction =>
    s!"setVariable instruction '{instruction}' missing variable name"
  | .delayNotPositive => "Delay is less than or equal to zero"
  | .resetMissingType => "Reset missing type"
  | .resetMissingUnit => "Reset missing unit Id"
  | .resetMissingInterface => "Reset missing interface Id"
  | .invalidResetType => "Invalid reset type"
  | .triggerMissingUnit => "Trigger missing unit Id"

/-- a problem and the position of its operation -/
structure ValidationError where
  index : Nat
  problem : Problem
deriving DecidableEq, Repr

def ValidationError.message (e : ValidationError) : String :=
  "operation " ++ Number.natText e.index ++ ": " ++ e.problem.message

/-- a part of an operation that was checked: its problems, and its value if it has one -/
structure Checked (α : Type) where
  problems : List Problem := []
  value : Option α := none

/-- a value that has to be there -/
def Checked.need {α : Type} (value : Option α) (problem : Problem) : Checked α :=
  match value with
  | some a => ⟨[], some a⟩
  | none => ⟨[problem], none⟩

/-- what compiling one operation gives -/
structure Compiled where
  problems : List Problem := []
  /-- the tag a read or query stores its response under -/
  tag : Option String := none
  step : Option Step := none

namespace Operation

variable (catalog : Catalog) (ctx : Context)

/-- a text field that is there and not empty -/
def nonempty? (s : Option String) : Option String := s.filter fun s => !s.isEmpty

/-- the command kind, from the operation or from its instruction -/
def commandKind (o : Operation) (bound : Option BoundInstruction) : Checked CommandKind :=
  match nonempty? o.commandType with
  | some name => .need (CommandKind.ofName? name) .invalidCommandType
  | none => match (bound.map fun b => b.instruction.kind : Option InstructionKind) with
    | some .read => ⟨[], some .read⟩
    | some .write => ⟨[], some .write⟩
    | some .query => ⟨[], some .query⟩
    | _ => ⟨[.missingCommandType], none⟩

/-- the response type, from the operation or from its instruction -/
def responseType (o : Operation) (bound : Option BoundInstruction) : Checked ResponseType :=
  match nonempty? o.readDataType with
  | some name => .need (ResponseType.ofAuthorName? name) (.unknownResponseType name)
  | none => .need (bound.bind fun b => b.instruction.responseType) .missingResponseType

/-- the number of bytes to read, if the operation fixes it -/
def lengthToRead (o : Operation) : Checked (Option Nat) :=
  if o.useReadLength.getD false then
    match o.readLength.filter fun n => n > 0 with
    | some n => ⟨[], some (some n.toInt.toNat)⟩
    | none => ⟨[.readLengthNotPositive], none⟩
  else ⟨[], some none⟩

/-- how the response is collected -/
def readSpec (o : Operation) (bound : Option BoundInstruction) : Checked ReadSpec :=
  let type := o.responseType bound
  let length := o.lengthToRead
  let tag := Checked.need (ctx.textOf o.responseTag) .missingResponseTag
  { problems := type.problems ++ length.problems ++ tag.problems
    value := match type.value, length.value, tag.value with
      | some type, some length, some tag => some ⟨type, length, tag⟩
      | _, _, _ => none }

/-- the text to send; an instruction renders its own -/
def textToWrite (o : Operation) (bound : Option BoundInstruction) : Checked (Option String) :=
  let data := ctx.textOf o.writeData
  if data.isNone && bound.isNone then ⟨[.missingWriteData], none⟩ else ⟨[], some data⟩

/-- the tags an instruction refers to that no earlier operation has produced -/
def tagOrderProblems (produced : List String) (b : BoundInstruction) : List Problem :=
  (b.instruction.referencedTags.filter fun tag => !produced.contains tag).map
    (.tagNotProduced b.instruction.name)

def compileAssignment (b : BoundInstruction) : Compiled :=
  match b.instruction.variableName.filter fun name => !Text.isBlankText name with
  | some name => { step := some (.setVariable name b) }
  | none => { problems := [.missingVariableName b.instruction.name] }

/-- milliseconds of an instruction as a duration -/
def instructionDelay (ms : Option UInt64) : Duration := .ofMillis (ms.getD 0).toNat

/-- a command whose instruction, if any, is known and is no assignment -/
def compileBound (o : Operation) (bound : Option BoundInstruction) : Compiled :=
  let unit := Checked.need (ctx.textOf o.unitId) .commandMissingUnit
  let kind := o.commandKind bound
  match kind.value with
  | none => { problems := unit.problems ++ kind.problems }
  | some k =>
    let read : Checked (Option ReadSpec) :=
      if k.reads then
        let r := o.readSpec ctx bound
        ⟨r.problems, r.value.map some⟩
      else ⟨[], some none⟩
    let write : Checked (Option String) :=
      if k.writes then o.textToWrite ctx bound else ⟨[], some none⟩
    { problems := unit.problems ++ kind.problems ++ read.problems ++ write.problems
      tag := if k.reads then ctx.textOf o.responseTag else none
      step := match unit.value, read.value, write.value with
        | some unit, some read, some writeData => some (.command {
            unit, kind := k, writeData, read
            instruction := bound
            readAttempts := (bound.bind fun b => b.instruction.readAttempts).map UInt32.toNat
            delayBefore := instructionDelay (bound.bind fun b => b.instruction.delayBefore)
            delayAfter := instructionDelay (bound.bind fun b => b.instruction.delayAfter) })
        | _, _, _ => none }

/-- a command, given the tags produced before it -/
def compileCommand (produced : List String) (o : Operation) : Compiled :=
  match o.instruction with
  | none => o.compileBound ctx none
  | some reference => match catalog.instruction? reference.instructionId with
    | none => { problems := [.unknownInstruction reference.instructionId] }
    | some instruction =>
      let bound : BoundInstruction := ⟨instruction, reference.arguments⟩
      let compiled := if instruction.kind = .setVariable then compileAssignment bound
        else o.compileBound ctx (some bound)
      { compiled with problems := tagOrderProblems produced bound ++ compiled.problems }

/-- a finite number of milliseconds above zero, to the nearest nanosecond -/
def delayOf (ms : Float) : Option Duration :=
  if ms > 0.0 && ms.isFinite then some ⟨(ms * 1e6).round.toUInt64.toNat⟩ else none

/-- a step that needs one value -/
def compileNeeding {α : Type} (value : Option α) (problem : Problem) (step : α → Step) : Compiled :=
  match value with
  | some a => { step := some (step a) }
  | none => { problems := [problem] }

def compileReset (o : Operation) : Compiled :=
  match nonempty? o.resetType with
  | none => { problems := [.resetMissingType] }
  | some type =>
    if type == "device" then compileNeeding (ctx.textOf o.unitId) .resetMissingUnit .resetDevice
    else if type == "interface" then
      compileNeeding (ctx.textOf o.interfaceId) .resetMissingInterface .resetInterface
    else { problems := [.invalidResetType] }

/-- an operation by its type, whether or not it has problems -/
def compileByType (produced : List String) (o : Operation) : Compiled :=
  match o.kind with
  | some "command" => o.compileCommand catalog ctx produced
  | some "delay" => compileNeeding ((ctx.numberOf o.delay).bind delayOf) .delayNotPositive .delay
  | some "reset" => o.compileReset ctx
  | some "trigger" => compileNeeding (ctx.textOf o.unitId) .triggerMissingUnit .trigger
  | _ => { problems := [.invalidType] }

/-- One operation, given the tags produced before it. Only one without problems has a step. -/
def compile (produced : List String) (o : Operation) : Compiled :=
  let c := o.compileByType catalog ctx produced
  if c.problems.isEmpty then c else { c with step := none }

end Operation

/-- the tags known after an operation -/
def Compiled.tagsAfter (produced : List String) (c : Compiled) : List String :=
  match c.tag with
  | some tag => tag :: produced
  | none => produced

/-- the errors and steps of a list of operations, from a position on -/
def compileFrom (catalog : Catalog) (ctx : Context) :
    Nat → List String → List Operation → List ValidationError × List Step
  | _, _, [] => ([], [])
  | index, produced, o :: rest =>
    let c := o.compile catalog ctx produced
    let (errors, steps) := compileFrom catalog ctx (index + 1) (c.tagsAfter produced) rest
    (c.problems.map (ValidationError.mk index) ++ errors, c.step.toList ++ steps)

/-- the steps of a list of operations, or every error -/
def compileOperations (catalog : Catalog) (ctx : Context) (operations : List Operation) :
    Except (List ValidationError) (List Step) :=
  match compileFrom catalog ctx 0 [] operations with
  | ([], steps) => .ok steps
  | (errors, _) => .error errors

/-- the plan of a sequence, or every error -/
def SequenceDocument.compile (d : SequenceDocument) (catalog : Catalog) (ctx : Context) :
    Except (List ValidationError) Plan :=
  (compileOperations catalog ctx d.operations).map fun steps => ⟨steps, d.respondInBulk⟩

end CalBench
