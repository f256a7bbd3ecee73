/-
The configuration of the engine.

A configuration has application and execution settings, the interfaces there are and the devices that
hang off them. What a file leaves out has its default, and the environment goes over the file. A
configuration is checked before it is used: names are unique in any letter case, every device hangs off
an interface that exists, interfaces have the settings of their kind, and bus addresses are in range.
-/
import CalBench.Config.Environment
import CalBench.Link.Settings
import CalBench.Text.Case
import CalBench.Toml.Reader

namespace CalBench

open Json

structure ApplicationSettings where
  name : String := "calseq"
  logLevel : String := "info"
  logFormat : String := "pretty"
deriving DecidableEq, Repr

structure ExecutionSettings where
  /-- read attempts of instructions that do not say -/
  readAttempts : UInt32 := 1
  backoff : Duration := .ofMillis 100
  /-- of interfaces that do not say -/
  timeouts : Timeouts := {}
  /-- room for events that wait to be received -/
  eventCapacity : UInt64 := 256
deriving DecidableEq, Repr

structure EngineConfig where
  application : ApplicationSettings := {}
  execution : ExecutionSettings := {}
  interfaces : List InterfaceRecord := []
  devices : List DeviceBinding := []
deriving DecidableEq, Repr

/-! ## Documents -/

instance : Shaped ApplicationSettings := ⟨.flat ["name", "log_level", "log_format"]⟩

instance : Codec ApplicationSettings where
  encode a := record [field "name" a.name, field "log_level" a.logLevel, field "log_format" a.logFormat]
  decode j := do
    let m ← members? (shape ApplicationSettings).names j
    return {
      name := ← m.defaulted ["name"] "calseq"
      logLevel := ← m.defaulted ["log_level"] "info"
      logFormat := ← m.defaulted ["log_format"] "pretty" }

instance : Shaped ExecutionSettings := ⟨.flat ["default_read_attempts", "retry_backoff",
  "connect_timeout", "read_timeout", "write_timeout", "event_capacity"]⟩

instance : Codec ExecutionSettings where
  encode e := record [
    field "default_read_attempts" e.readAttempts,
    field "retry_backoff" e.backoff,
    field "connect_timeout" e.timeouts.connect,
    field "read_timeout" e.timeouts.read,
    field "write_timeout" e.timeouts.write,
    field "event_capacity" e.eventCapacity]
  decode j := do
    let m ← members? (shape ExecutionSettings).names j
    let standard : ExecutionSettings := {}
    return {
      readAttempts := ← m.defaulted ["default_read_attempts"] standard.readAttempts
      backoff := ← m.defaulted ["retry_backoff"] standard.backoff
      timeouts := {
        connect := ← m.defaulted ["connect_timeout"] standard.timeouts.connect
        read := ← m.defaulted ["read_timeout"] standard.timeouts.read
        write := ← m.defaulted ["write_timeout"] standard.timeouts.write }
      eventCapacity := ← m.defaulted ["event_capacity"] standard.eventCapacity }

instance : Shaped EngineConfig := ⟨.record [
  (["application"], shape ApplicationSettings),
  (["execution"], shape ExecutionSettings),
  (["interfaces"], shape (List InterfaceRecord)),
  (["devices"], shape (List DeviceBinding))]⟩

instance : Codec EngineConfig where
  encode c := record [
    field "application" c.application,
    field "execution" c.execution,
    field "interfaces" c.interfaces,
    field "devices" c.devices]
  decode j := do
    let m ← members? (shape EngineConfig).names j
    return {
      application := ← m.defaulted ["application"] {}
      execution := ← m.defaulted ["execution"] {}
      interfaces := ← m.defaulted ["interfaces"] []
      devices := ← m.defaulted ["devices"] [] }

/-! ## Checks -/

/-- the highest primary address on an IEEE 488 bus -/
def maxBusAddress : UInt8 := 30

/-- what is wrong with a configuration -/
inductive ConfigProblem
  | logLevel (level : String)
  | logFormat (format : String)
  | noReadAttempts
  | duplicateInterface (name : String)
  | missingBlock (kind : InterfaceKind) (name block : String)
  | emptyHost (name : String)
  | emptyPath (name : String)
  | controllerAddress (name : String) (address : UInt8)
  | duplicateUnit (unit : String)
  | unknownInterface (unit interface : String)
  | deviceAddress (unit : String) (address : UInt8)
deriving DecidableEq, Repr

/-- the levels of log messages, the most talkative one first -/
def logLevels : List String := ["trace", "debug", "info", "warn", "error"]

def logFormats : List String := ["pretty", "json"]

def outOfRange (address : UInt8) : String :=
  "address " ++ Number.natText address.toNat ++ " is outside 0-" ++ Number.natText maxBusAddress.toNat

def ConfigProblem.message : ConfigProblem → String
  | .logLevel level => s!"Invalid log_level '{level}'. Must be one of: " ++ ", ".intercalate logLevels
  | .logFormat format => s!"Invalid log_format '{format}'. Must be one of: " ++ ", ".intercalate logFormats
  | .noReadAttempts => "default_read_attempts must be at least 1"
  | .duplicateInterface name => s!"Duplicate interface name: '{name}'"
  | .missingBlock kind name block =>
    kind.name ++ s!" interface '{name}' missing '{block}' configuration block"
  | .emptyHost name => s!"Interface '{name}': 'host' cannot be empty"
  | .emptyPath name => s!"Interface '{name}': 'port' cannot be empty"
  | .controllerAddress name address => s!"Interface '{name}': controller " ++ outOfRange address
  | .duplicateUnit unit => s!"Duplicate device unit id: '{unit}'"
  | .unknownInterface unit interface => s!"Device '{unit}' references unknown interface '{interface}'"
  | .deviceAddress unit address => s!"Device '{unit}': GPIB " ++ outOfRange address

/-- The settings of an interface's kind are there and not empty. -/
def InterfaceRecord.checkBlock (r : InterfaceRecord) : Except ConfigProblem Unit :=
  match r.kind with
  | .board => if r.board.isNone then .error (.missingBlock r.kind r.name "nationalInstrumentsGpib") else .ok ()
  | .networkController =>
    match r.tcp with
    | none => .error (.missingBlock r.kind r.name "tcp")
    | some s => if s.host.isEmpty then .error (.emptyHost r.name) else .ok ()
  | .usbController | .serialLine =>
    match r.serial with
    | none => .error (.missingBlock r.kind r.name "serial")
    | some s => if s.path.isEmpty then .error (.emptyPath r.name) else .ok ()
  | .emulated => .ok ()

/-- The controller's own address is in range. -/
def InterfaceRecord.checkAddress (r : InterfaceRecord) : Except ConfigProblem Unit :=
  match r.controller with
  | some c => if maxBusAddress < c.address then .error (.controllerAddress r.name c.address) else .ok ()
  | none => .ok ()

/-- Checks interfaces after those with some names, in capitals. -/
def checkInterfaces (names : List String) : List InterfaceRecord → Except ConfigProblem Unit
  | [] => .ok ()
  | r :: rest => do
    if names.contains (Text.upper r.name) then .error (.duplicateInterface r.name)
    r.checkBlock
    r.checkAddress
    checkInterfaces (Text.upper r.name :: names) rest

/-- Checks devices after those with some unit ids, given the interfaces in capitals. -/
def checkDevices (interfaces units : List String) : List DeviceBinding → Except ConfigProblem Unit
  | [] => .ok ()
  | d :: rest => do
    if units.contains d.unitId then .error (.duplicateUnit d.unitId)
    if !interfaces.contains (Text.upper d.interface) then .error (.unknownInterface d.unitId d.interface)
    match d.address with
    | some a => if maxBusAddress < a then .error (.deviceAddress d.unitId a)
    | none => pure ()
    checkDevices interfaces (d.unitId :: units) rest

namespace EngineConfig

/-- the first thing that is wrong with a configuration, if anything is -/
def check (c : EngineConfig) : Except ConfigProblem Unit := do
  if !logLevels.contains c.application.logLevel then .error (.logLevel c.application.logLevel)
  if !logFormats.contains c.application.logFormat then .error (.logFormat c.application.logFormat)
  if c.execution.readAttempts = 0 then .error .noReadAttempts
  checkInterfaces [] c.interfaces
  checkDevices (c.interfaces.map fun r => Text.upper r.name) [] c.devices

def device? (c : EngineConfig) (unit : String) : Option DeviceBinding := c.devices.find? fun d => d.unitId == unit

end EngineConfig

/-- why there is no configuration -/
inductive ConfigError
  | unreadable
  | invalid (p : ConfigProblem)
deriving DecidableEq, Repr

def ConfigError.message : ConfigError → String
  | .unreadable => "Configuration load error"
  | .invalid p => "Configuration validation error: " ++ p.message

namespace EngineConfig

/-- the configuration if nothing is wrong with it -/
def checked (c : EngineConfig) : Except ConfigError EngineConfig :=
  match c.check with
  | .ok () => .ok c
  | .error p => .error (.invalid p)

/-- the names of the variables for single settings -/
def variableNames : List String :=
  let names (table : String) (settings : Shape) : List String :=
    settings.names.map fun key => Text.upper s!"calseq_{table}__{key}"
  names "application" (shape ApplicationSettings) ++ names "execution" (shape ExecutionSettings) ++
    ["CALSEQ_INTERFACES", "CALSEQ_DEVICES"]

/-- The configuration of a file and the environment. Without a file there are only defaults. Of a list
in place of a record the surplus items do not count. -/
def load (file : Option String) (environment : List (String × String)) : Except ConfigError EngineConfig :=
  match Toml.parse? (file.getD "") with
  | none => .error .unreadable
  | some settings =>
    let document := [Codec.encode ({} : EngineConfig), settings, Environment.document environment].foldl
      Environment.merge (.obj [])
    match Codec.decode ((shape EngineConfig).cut document) with
    | none => .error .unreadable
    | some c => checked c

end EngineConfig

end CalBench
