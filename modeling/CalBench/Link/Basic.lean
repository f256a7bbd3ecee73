/-
The vocabulary of communication interfaces.

What kinds of interfaces there are, how long their operations may take, how a read knows that a
response is complete, and what a bus controller may append to its writes.
-/
import CalBench.Duration

namespace CalBench

/-- the kinds of interfaces a configuration can name -/
inductive InterfaceKind
  | board
  | serialLine
  | networkController
  | usbController
  | emulated
deriving DecidableEq, Repr

namespace InterfaceKind

def name : InterfaceKind → String
  | .board => "National Instruments GPIB"
  | .serialLine => "Serial Port"
  | .networkController => "Prologix GPIB TCP"
  | .usbController => "Prologix GPIB USB"
  | .emulated => "Emulated"

/-- the kind in debugging texts -/
def tag : InterfaceKind → String
  | .board => "NationalInstrumentsGpib"
  | .serialLine => "SerialPort"
  | .networkController => "PrologixGpibTcp"
  | .usbController => "PrologixGpibUsb"
  | .emulated => "Emulated"

def ofName? (s : String) : Option InterfaceKind :=
  [board, serialLine, networkController, usbController, emulated].find? fun k => k.name == s

def isGpib : InterfaceKind → Bool
  | .serialLine => false
  | _ => true

instance : Codec InterfaceKind := ⟨fun k => .str k.name, fun j => j.choice?.bind ofName?⟩

end InterfaceKind

/-- time limits of the operations of a link -/
structure Timeouts where
  connect : Duration := .ofSecs 5
  read : Duration := .ofSecs 2
  write : Duration := .ofSecs 2
deriving DecidableEq, Repr, Inhabited

instance : Shaped Timeouts := ⟨.flat ["connectTimeout", "readTimeout", "writeTimeout"]⟩

instance : Codec Timeouts where
  encode t := Json.record [
    Json.field "connectTimeout" t.connect,
    Json.field "readTimeout" t.read,
    Json.field "writeTimeout" t.write]
  decode j := do
    let m ← Json.members? (shape Timeouts).names j
    return {
      connect := ← m.required ["connectTimeout"]
      read := ← m.required ["readTimeout"]
      write := ← m.required ["writeTimeout"] }

/-- when a read is complete -/
inductive ReadMode
  /-- at the terminator; without one, whatever arrives next is the response -/
  | terminated
  | length (n : Nat)
deriving DecidableEq, Repr

/-- the character a bus controller appends at the end of a transmission -/
structure EndOfTransmission where
  enabled : Bool := false
  character : UInt8 := 0
deriving DecidableEq, Repr, Inhabited

end CalBench
