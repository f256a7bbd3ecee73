/-
Records of communication interfaces.

An `InterfaceRecord` is what a configuration says about one interface: its name, its kind and one
block of settings per kind, of which the kind's own block matters. A `DeviceBinding` says which
interface a unit hangs off, and at which bus address.
-/
import CalBench.Link.Basic
import CalBench.Link.Terminator

namespace CalBench

open Json

/-- which bus controller board -/
structure BoardSettings where
  board : UInt8
deriving DecidableEq, Repr

/-- a network endpoint -/
structure TcpSettings where
  host : String
  port : UInt16 := 1234
deriving DecidableEq, Repr

structure SerialSettings where
  path : String
  baudRate : UInt32 := 9600
deriving DecidableEq, Repr

/-- the controller's own place on the bus -/
structure ControllerSettings where
  address : UInt8
deriving DecidableEq, Repr

/-- how an emulated interface answers -/
structure EmulatedSettings where
  echo : Bool := false
  fixedResponse : Option String := none
deriving DecidableEq, Repr

/-- what a configuration says about an interface -/
structure InterfaceRecord where
  name : String
  kind : InterfaceKind
  board : Option BoardSettings := none
  tcp : Option TcpSettings := none
  serial : Option SerialSettings := none
  controller : Option ControllerSettings := none
  emulated : Option EmulatedSettings := none
  /-- the usual one of its kind if absent -/
  terminator : Option Terminator := none
  /-- the general ones if absent -/
  timeouts : Option Timeouts := none
deriving DecidableEq, Repr

/-- where a unit is wired to -/
structure DeviceBinding where
  unitId : String
  interface : String
  address : Option UInt8 := none
deriving DecidableEq, Repr

/-! ## Documents -/

instance : Shaped BoardSettings := ⟨.record [(["address", "board"], .whole)]⟩

instance : Codec BoardSettings where
  encode s := record [field "address" s.board]
  decode j := do
    let m ← members? (shape BoardSettings).names j
    return { board := ← m.required ["address", "board"] }

instance : Shaped TcpSettings := ⟨.flat ["host", "port"]⟩

instance : Codec TcpSettings where
  encode s := record [field "host" s.host, field "port" s.port]
  decode j := do
    let m ← members? (shape TcpSettings).names j
    return { host := ← m.required ["host"], port := ← m.defaulted ["port"] 1234 }

instance : Shaped SerialSettings := ⟨.record [(["port"], .whole), (["baudRate", "baud_rate"], .whole)]⟩

instance : Codec SerialSettings where
  encode s := record [field "port" s.path, field "baudRate" s.baudRate]
  decode j := do
    let m ← members? (shape SerialSettings).names j
    return {
      path := ← m.required ["port"]
      baudRate := ← m.defaulted ["baudRate", "baud_rate"] 9600 }

instance : Shaped ControllerSettings := ⟨.flat ["address"]⟩

instance : Codec ControllerSettings where
  encode s := record [field "address" s.address]
  decode j := do
    let m ← members? (shape ControllerSettings).names j
    return { address := ← m.required ["address"] }

instance : Shaped EmulatedSettings :=
  ⟨.record [(["echo"], .whole), (["fixedResponse", "fixed_response"], .whole)]⟩

instance : Codec EmulatedSettings where
  encode s := record [field "echo" s.echo, fieldOrNull "fixedResponse" s.fixedResponse]
  decode j := do
    let m ← members? (shape EmulatedSettings).names j
    return {
      echo := ← m.defaulted ["echo"] false
      fixedResponse := ← m.optional ["fixedResponse", "fixed_response"] }

instance : Shaped InterfaceRecord := ⟨.record [
  (["name"], .whole),
  (["type"], .whole),
  (["nationalInstrumentsGpib"], shape BoardSettings),
  (["tcp"], shape TcpSettings),
  (["serial"], shape SerialSettings),
  (["gpib"], shape ControllerSettings),
  (["emulated"], shape EmulatedSettings),
  (["terminator"], .whole),
  (["timeouts"], shape Timeouts)]⟩

instance : Codec InterfaceRecord where
  encode r := record [
    field "name" r.name,
    field "type" r.kind,
    fieldIfSome "nationalInstrumentsGpib" r.board,
    fieldIfSome "tcp" r.tcp,
    fieldIfSome "serial" r.serial,
    fieldIfSome "gpib" r.controller,
    fieldIfSome "emulated" r.emulated,
    fieldIfSome "terminator" r.terminator,
    fieldIfSome "timeouts" r.timeouts]
  decode j := do
    let m ← members? (shape InterfaceRecord).names j
    return {
      name := ← m.required ["name"]
      kind := ← m.required ["type"]
      board := ← m.optional ["nationalInstrumentsGpib"]
      tcp := ← m.optional ["tcp"]
      serial := ← m.optional ["serial"]
      controller := ← m.optional ["gpib"]
      emulated := ← m.optional ["emulated"]
      terminator := ← m.optional ["terminator"]
      timeouts := ← m.optional ["timeouts"] }

instance : Shaped DeviceBinding := ⟨.flat ["unit_id", "interface", "gpib_address"]⟩

instance : Codec DeviceBinding where
  encode d := record [
    field "unit_id" d.unitId,
    field "interface" d.interface,
    fieldOrNull "gpib_address" d.address]
  decode j := do
    let m ← members? (shape DeviceBinding).names j
    return {
      unitId := ← m.required ["unit_id"]
      interface := ← m.required ["interface"]
      address := ← m.optional ["gpib_address"] }

end CalBench
