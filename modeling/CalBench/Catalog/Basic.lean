/-
Driver libraries.

A `Library` holds what a driver author maintains: instruments with their instruction sets, shared
instruction sets, stand-alone instructions, and the categories that group instruments by family.
Names of makers, models and categories are compared without regard to the case of ASCII letters.
-/
import CalBench.Instruction.Document
import CalBench.Link.Terminator
import CalBench.Table

namespace CalBench

open Json

/-- a named list of instructions -/
structure InstructionSet where
  id : String
  name : String
  instructions : List Instruction := []
deriving DecidableEq, Repr

/-- a family of instruments and the shared sets it uses -/
structure Category where
  id : String
  name : String
  /-- ids of shared instruction sets -/
  instructionSets : List String := []
deriving DecidableEq, Repr

/-- a slot of a driver that a procedure may fill -/
structure DriverVariable where
  id : String
  name : String
  defaultValue : String := ""
deriving DecidableEq, Repr

/-- one instrument model and the instructions it knows -/
structure Driver where
  manufacturer : String
  model : String
  nomenclature : String := ""
  /-- the query whose reply identifies the instrument -/
  identityQuery : Option String := none
  terminator : Terminator := .lf
  isGpib : Option Bool := none
  isIeee4882 : Option Bool := none
  isScpi : Option Bool := none
  instructionSets : List InstructionSet := []
  categories : Option (List String) := none
  driverVariables : Option (List DriverVariable) := none
deriving DecidableEq, Repr

/-- what device discovery needs to know about a driver -/
structure Identity where
  manufacturer : String
  model : String
  nomenclature : String
  identityQuery : Option String := none
deriving DecidableEq, Repr

namespace Driver

def inCategory (d : Driver) (category : String) : Bool :=
  (d.categories.getD []).any fun c => Text.sameIgnoringCase c category

def variableDefaults (d : Driver) : Table String :=
  .ofList ((d.driverVariables.getD []).map fun v => (v.name, v.defaultValue))

def identity (d : Driver) : Identity :=
  ⟨d.manufacturer, d.model, d.nomenclature, d.identityQuery⟩

end Driver

/-- what a driver author maintains -/
structure Library where
  drivers : List Driver := []
  instructionSets : List InstructionSet := []
  instructions : List Instruction := []
  categories : List Category := []
deriving DecidableEq, Repr, Inhabited

/-! ## Documents -/

instance : Shaped InstructionSet :=
  ⟨.record (Shape.wholes ["_id", "name"] ++ [(["instructions"], shape (List Instruction))])⟩

instance : Codec InstructionSet where
  encode s := record [field "_id" s.id, field "name" s.name, field "instructions" s.instructions]
  decode j := do
    let m ← members? (shape InstructionSet).names j
    return {
      id := ← m.required ["_id"]
      name := ← m.required ["name"]
      instructions := ← m.defaulted ["instructions"] [] }

instance : Shaped Category := ⟨.flat ["_id", "name", "instructionSets"]⟩

instance : Codec Category where
  encode c := record [field "_id" c.id, field "name" c.name, field "instructionSets" c.instructionSets]
  decode j := do
    let m ← members? (shape Category).names j
    return {
      id := ← m.required ["_id"]
      name := ← m.required ["name"]
      instructionSets := ← m.defaulted ["instructionSets"] [] }

instance : Shaped DriverVariable := ⟨.flat ["_id", "name", "defaultValue"]⟩

instance : Codec DriverVariable where
  encode v := record [field "_id" v.id, field "name" v.name, field "defaultValue" v.defaultValue]
  decode j := do
    let m ← members? (shape DriverVariable).names j
    return {
      id := ← m.required ["_id"]
      name := ← m.required ["name"]
      defaultValue := ← m.defaulted ["defaultValue"] "" }

instance : Shaped Driver := ⟨.record (
  Shape.wholes ["driverManufacturer", "driverModel", "driverNomenclature", "identityQueryCommand",
    "terminator", "isGPIB", "isIEEE4882", "isSCPI"] ++
  [(["instructionSets"], shape (List InstructionSet)), (["categories"], .whole),
   (["variables"], shape (List DriverVariable))])⟩

instance : Codec Driver where
  encode d := record [
    field "driverManufacturer" d.manufacturer,
    field "driverModel" d.model,
    field "driverNomenclature" d.nomenclature,
    fieldIfSome "identityQueryCommand" d.identityQuery,
    field "terminator" d.terminator,
    fieldIfSome "isGPIB" d.isGpib,
    fieldIfSome "isIEEE4882" d.isIeee4882,
    fieldIfSome "isSCPI" d.isScpi,
    field "instructionSets" d.instructionSets,
    fieldIfSome "categories" d.categories,
    fieldIfSome "variables" d.driverVariables]
  decode j := do
    let m ← members? (shape Driver).names j
    return {
      manufacturer := ← m.required ["driverManufacturer"]
      model := ← m.required ["driverModel"]
      nomenclature := ← m.defaulted ["driverNomenclature"] ""
      identityQuery := ← m.optional ["identityQueryCommand"]
      terminator := ← m.defaulted ["terminator"] .lf
      isGpib := ← m.optional ["isGPIB"]
      isIeee4882 := ← m.optional ["isIEEE4882"]
      isScpi := ← m.optional ["isSCPI"]
      instructionSets := ← m.defaulted ["instructionSets"] []
      categories := ← m.optional ["categories"]
      driverVariables := ← m.optional ["variables"] }

instance : Codec Identity where
  encode i := record [
    field "manufacturer" i.manufacturer,
    field "model" i.model,
    field "nomenclature" i.nomenclature,
    fieldIfSome "identityQueryCommand" i.identityQuery]
  decode j := do
    let m ← members? ["manufacturer", "model", "nomenclature", "identityQueryCommand"] j
    return {
      manufacturer := ← m.required ["manufacturer"]
      model := ← m.required ["model"]
      nomenclature := ← m.required ["nomenclature"]
      identityQuery := ← m.optional ["identityQueryCommand"] }

instance : Shaped Library := ⟨.record [
  (["drivers"], shape (List Driver)),
  (["instructionSets"], shape (List InstructionSet)),
  (["instructions"], shape (List Instruction)),
  (["categories"], shape (List Category))]⟩

instance : Codec Library where
  encode l := record [
    field "drivers" l.drivers,
    field "instructionSets" l.instructionSets,
    field "instructions" l.instructions,
    field "categories" l.categories]
  decode j := do
    let m ← members? (shape Library).names j
    return {
      drivers := ← m.defaulted ["drivers"] []
      instructionSets := ← m.defaulted ["instructionSets"] []
      instructions := ← m.defaulted ["instructions"] []
      categories := ← m.defaulted ["categories"] [] }

end CalBench
