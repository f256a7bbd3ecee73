/-
Measurements.

A `ResultSpec` says how the response stored under a tag becomes a measurement: what it is called, the
quantity it is expressed in and the limits it has to keep. `measurements` evaluates a list of specs
against the results of a run: the last step that succeeded under a spec's tag counts, and a spec whose
tag no step produced yields nothing. A measurement passes if its response is a finite number within
the limits.
-/
import CalBench.Procedure.Request
import CalBench.Run.Report

namespace CalBench

open Json

/-- how a response becomes a measurement -/
structure ResultSpec where
  responseTag : String
  description : String := ""
  baseQuantity : Option String := none
  derivedQuantity : Option String := none
  /-- metric prefix of the derived quantity, or `none` -/
  derivedQuantityPrefix : Option String := none
  minimum : Option Float := none
  maximum : Option Float := none
  inputLevel : Float := 0.0
deriving DecidableEq, Repr

/-- a value keeps the limits; a missing limit is kept by all -/
def ResultSpec.admits (s : ResultSpec) (x : Float) : Bool :=
  s.minimum.all (fun min => min ≤ x) && s.maximum.all (fun max => x ≤ max)

/-- a derived quantity and its prefix -/
structure DerivedQuantity where
  name : String
  /-- empty if there is none -/
  metricPrefix : String
deriving DecidableEq, Repr

/-- The derived quantity of a spec. It needs a prefix, and measurements without a unit have none. -/
def ResultSpec.derived? (s : ResultSpec) : Option DerivedQuantity :=
  if s.baseQuantity = some "unitless" then none
  else match s.derivedQuantity, s.derivedQuantityPrefix with
    | some name, some p => some ⟨name, if p == "none" then "" else p⟩
    | _, _ => none

/-- an evaluated response -/
structure Measurement where
  ticket : RunTicket
  description : String
  baseQuantity : Option String
  derived : Option DerivedQuantity
  minimum : Option Float
  maximum : Option Float
  inputLevel : Float
  rawValue : String
  /-- nothing if the response is no finite number -/
  measuredValue : Option Float
  passed : Bool
deriving DecidableEq, Repr

/-- the number a step read, if it read one -/
def StepResult.number? (r : StepResult) : Option Float :=
  match r.value with
  | some (.number x) => some x
  | some (.text s) => Number.float? (Text.trim s)
  | some _ => none
  | none => Number.float? (Text.trim (r.rawValue.getD ""))

/-- the finite number a step read, if it read one -/
def StepResult.measured? (r : StepResult) : Option Float := r.number?.filter Float.isFinite

def ResultSpec.evaluate (s : ResultSpec) (ticket : RunTicket) (r : StepResult) : Measurement :=
  { ticket
    description := s.description
    baseQuantity := s.baseQuantity
    derived := s.derived?
    minimum := s.minimum
    maximum := s.maximum
    inputLevel := s.inputLevel
    rawValue := r.rawValue.getD ""
    measuredValue := r.measured?
    passed := r.measured?.any s.admits }

/-- the step whose response counts for a tag -/
def stepFor? (tag : String) (steps : List StepResult) : Option StepResult :=
  steps.reverse.find? fun r => r.isOk && r.responseTag == some tag

/-- the measurements of a run, in the order of the specs -/
def measurements (specs : List ResultSpec) (ticket : RunTicket) (steps : List StepResult) :
    List Measurement :=
  specs.filterMap fun s => (stepFor? s.responseTag steps).map (s.evaluate ticket)

/-! ## Documents -/

instance : Shaped ResultSpec := ⟨.record (
  Shape.wholes ["responseTag", "description", "baseQuantity", "derivedQuantity",
    "derivedQuantityPrefix"] ++
  [(["minimum", "min"], .whole), (["maximum", "max"], .whole), (["inputLevel"], .whole)])⟩

instance : Codec ResultSpec where
  encode s := record [
    field "responseTag" s.responseTag,
    field "description" s.description,
    fieldIfSome "baseQuantity" s.baseQuantity,
    fieldIfSome "derivedQuantity" s.derivedQuantity,
    fieldIfSome "derivedQuantityPrefix" s.derivedQuantityPrefix,
    fieldIfSome "minimum" s.minimum,
    fieldIfSome "maximum" s.maximum,
    field "inputLevel" s.inputLevel]
  decode j := do
    let m ← members? (shape ResultSpec).names j
    return {
      responseTag := ← m.required ["responseTag"]
      description := ← m.defaulted ["description"] ""
      baseQuantity := ← m.optional ["baseQuantity"]
      derivedQuantity := ← m.optional ["derivedQuantity"]
      derivedQuantityPrefix := ← m.optional ["derivedQuantityPrefix"]
      minimum := ← m.optional ["minimum", "min"]
      maximum := ← m.optional ["maximum", "max"]
      inputLevel := ← m.defaulted ["inputLevel"] 0.0 }

def Measurement.document (m : Measurement) : Json :=
  record [
    field "sessionId" m.ticket.sessionId,
    field "runId" m.ticket.runId,
    field "section" m.ticket.sectionName,
    field "action" m.ticket.action,
    field "type" "scalar",
    field "description" m.description,
    fieldIfSome "baseQuantity" m.baseQuantity,
    fieldIfSome "derivedQuantity" (m.derived.map DerivedQuantity.name),
    fieldIfSome "derivedQuantityPrefix" (m.derived.map DerivedQuantity.metricPrefix),
    fieldIfSome "minimum" m.minimum,
    fieldIfSome "maximum" m.maximum,
    field "inputLevel" m.inputLevel,
    field "rawValue" m.rawValue,
    fieldOrNull "measuredValue" m.measuredValue,
    field "passed" m.passed]

end CalBench
