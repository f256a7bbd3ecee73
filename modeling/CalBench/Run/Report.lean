/-
What a run reports.

Every executed step leaves a `StepResult`. They are sent downstream one by one as they come about, or
together at the end: `RunEvent`. A document that is read has to say when its step finished; the instant
is checked and not kept. An `ErrorCheckReport` lists the errors a device was asked for.
-/
import CalBench.Instruction.Value
import CalBench.Json.Record
import CalBench.Text.Instant

namespace CalBench

open Json

/-- the outcome of one step -/
structure StepResult where
  index : Nat
  runId : String
  kind : String
  unitId : Option String := none
  /-- the text sent, or assigned to a variable -/
  command : Option String := none
  responseTag : Option String := none
  rawValue : Option String := none
  value : Option Reading := none
  /-- read attempts used, none for a step that does not read -/
  attempts : Nat := 0
  error : Option String := none
deriving DecidableEq, Repr, Inhabited

def StepResult.isOk (r : StepResult) : Bool := r.error.isNone

/-- what is sent downstream while a plan runs -/
inductive RunEvent
  /-- one result, as it comes about -/
  | step (r : StepResult)
  | batch (rs : List StepResult)
deriving DecidableEq, Repr

/-- how a device is asked for its errors -/
inductive ErrorCheckKind
  /-- by emptying its error queue -/
  | scpi
  /-- by a serial poll and the event status register -/
  | gpib4882
deriving DecidableEq, Repr

namespace ErrorCheckKind

instance : Inhabited ErrorCheckKind := ⟨.scpi⟩

def name : ErrorCheckKind → String
  | .scpi => "scpi"
  | .gpib4882 => "gpib4882"

def ofName? (s : String) : Option ErrorCheckKind := [scpi, gpib4882].find? fun k => k.name == s

instance : Codec ErrorCheckKind := ⟨fun k => .str k.name, fun j => j.choice?.bind ofName?⟩

end ErrorCheckKind

/-- the errors a device reported, oldest first -/
structure ErrorCheckReport where
  unitId : String
  kind : ErrorCheckKind
  errors : List String
deriving DecidableEq, Repr

/-- the device reported nothing -/
def ErrorCheckReport.passed (r : ErrorCheckReport) : Bool := r.errors.isEmpty

/-! ## Documents -/

/-- a natural number of 64 bits as a document -/
def natField (members : Members) (name : String) (bound : Nat) : Option Nat :=
  match members.value? [name] with
  | some (some j) => natBelow? bound j
  | _ => none

/-- The document says when the step finished. -/
def dated (members : Members) : Bool :=
  match members.value? ["timestamp"] with
  | some (some (.str s)) => Text.isInstant s
  | _ => false

instance : Codec StepResult where
  encode r := record [
    some ("index", .ofNat r.index),
    field "runId" r.runId,
    field "type" r.kind,
    fieldIfSome "unitId" r.unitId,
    fieldIfSome "command" r.command,
    fieldIfSome "responseTag" r.responseTag,
    fieldIfSome "rawValue" r.rawValue,
    fieldIfSome "value" r.value,
    some ("attempts", .ofNat r.attempts),
    fieldIfSome "error" r.error]
  decode j := do
    let m ← members? ["index", "runId", "type", "unitId", "command", "responseTag", "rawValue",
      "value", "attempts", "error", "timestamp"] j
    if !dated m then none
    return {
      index := ← natField m "index" (Nat.pow 2 64)
      runId := ← m.required ["runId"]
      kind := ← m.required ["type"]
      unitId := ← m.optional ["unitId"]
      command := ← m.optional ["command"]
      responseTag := ← m.optional ["responseTag"]
      rawValue := ← m.optional ["rawValue"]
      value := ← m.optional ["value"]
      attempts := ← natField m "attempts" (Nat.pow 2 32)
      error := ← m.optional ["error"] }

def RunEvent.document : RunEvent → Json
  | .step r => Codec.encode r
  | .batch rs => record [field "respondInBulk" true, field "results" rs]

instance : Codec ErrorCheckReport where
  encode r := record [field "unitId" r.unitId, field "kind" r.kind, field "errors" r.errors]
  decode j := do
    let m ← members? ["unitId", "kind", "errors"] j
    return {
      unitId := ← m.required ["unitId"]
      kind := ← m.required ["kind"]
      errors := ← m.required ["errors"] }

end CalBench
