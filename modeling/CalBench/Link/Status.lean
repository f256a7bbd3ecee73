/-
Status registers of IEEE 488.2 instruments.

Registers are bytes: the status byte that a serial poll returns and the standard event status
register. `parseRegister?` reads the decimal text an instrument answers with, be it an integer or a
number with a fraction, which is dropped.
-/
import CalBench.Number.Read

namespace CalBench

namespace StatusByte

def messageAvailable : UInt8 := 0x10

/-- a summary of the event status register -/
def eventSummary : UInt8 := 0x20

def requestingService : UInt8 := 0x40

end StatusByte

/-- the bits of the event status register, lowest first -/
inductive EventFlag
  | operationComplete
  | requestingControl
  | queryError
  | deviceSpecificError
  | executionError
  | commandError
  | userRequest
  | poweredOn
deriving DecidableEq, Repr

namespace EventFlag

/-- all flags, lowest bit first -/
def all : List EventFlag :=
  [operationComplete, requestingControl, queryError, deviceSpecificError, executionError,
   commandError, userRequest, poweredOn]

def name : EventFlag → String
  | .operationComplete => "OPERATION_COMPLETE"
  | .requestingControl => "REQUESTING_CONTROL"
  | .queryError => "QUERY_ERROR"
  | .deviceSpecificError => "DEVICE_SPECIFIC_ERROR"
  | .executionError => "EXECUTION_ERROR"
  | .commandError => "COMMAND_ERROR"
  | .userRequest => "USER_REQUEST"
  | .poweredOn => "POWERED_ON"

/-- the register with this flag alone -/
def mask : EventFlag → UInt8
  | .operationComplete => 0x01
  | .requestingControl => 0x02
  | .queryError => 0x04
  | .deviceSpecificError => 0x08
  | .executionError => 0x10
  | .commandError => 0x20
  | .userRequest => 0x40
  | .poweredOn => 0x80

def isIn (f : EventFlag) (register : UInt8) : Bool := register &&& f.mask != 0

/-- the flags that report an error, and how -/
def errorText? : EventFlag → Option String
  | .queryError => some "Query error"
  | .deviceSpecificError => some "Device specific error"
  | .executionError => some "Execution error"
  | .commandError => some "Command error"
  | _ => none

end EventFlag

/-- the flags set in an event status register, lowest bit first -/
def eventFlags (register : UInt8) : List EventFlag := EventFlag.all.filter fun f => f.isIn register

/-- the errors an event status register reports, lowest bit first -/
def eventErrors (register : UInt8) : List String := (eventFlags register).filterMap EventFlag.errorText?

/-- a register read from an instrument's answer -/
def parseRegister? (s : String) : Option UInt8 :=
  let digits := String.ofList ((Text.trim s).toList.dropWhile fun c => c = '+')
  match Number.naturalUpTo? 255 digits with
  | some n => some n.toUInt8
  | none => ((Number.float? digits).filter fun x => 0.0 ≤ x && x ≤ 255.0).map Float.toUInt8

end CalBench
