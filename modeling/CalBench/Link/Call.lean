/-
Links and what they can be asked to do.

A `Call` is one operation of a link, and `Call.Answer` the type of what it gives back. A type of links
says in `Link.call` what each call does to a link of that type, how long it takes and how it ends.
Everything above the links is written for any type of links, so that it holds for whatever behaviour a
link may show. `Attempt` strings operations on one link together, up to the first that fails.

`standard` gives the calls that follow from writing and reading, and refuses those that need more.
-/
import CalBench.Link.Basic
import CalBench.Link.Status
import CalBench.Link.Terminator
import CalBench.Link.Typed
import CalBench.Text.Debug

namespace CalBench

/-- what a link can be asked to do -/
inductive Call
  /-- open the link; an open one stays open -/
  | connect
  | disconnect
  | setTerminator (t : Terminator)
  | writeBytes (data : Bytes)
  | writeString (s : String)
  | read (mode : ReadMode)
  | setAddress (address : UInt8)
  /-- clear a device, or the one addressed -/
  | clearDevice (address : Option UInt8)
  /-- does the last byte of a write assert the end -/
  | endOfInstruction
  | setEndOfInstruction (enabled : Bool)
  | endOfTransmission
  | setEndOfTransmission (setting : EndOfTransmission)
  /-- become controller in charge -/
  | takeControl
  | goToRemote (address : UInt8)
  | goToLocal (address : UInt8)
  | listenOnly
  | setListenOnly (enabled : Bool)
  | reset
  | serialPoll (primary : UInt8) (secondary : Option UInt8)
  | statusByte
  | clearStatus
  | eventStatus
  | eventEnable
  | setEventEnable (mask : UInt8)
  | clearEventEnable
  | trigger (addresses : List UInt8)
deriving DecidableEq, Repr

namespace Call

/-- what a call gives back -/
abbrev Answer : Call → Type
  | read _ => Bytes
  | endOfInstruction => Bool
  | endOfTransmission => EndOfTransmission
  | listenOnly => Bool
  | serialPoll _ _ => UInt8
  | statusByte => UInt8
  | eventStatus => UInt8
  | eventEnable => UInt8
  | _ => Unit

def name : Call → String
  | connect => "connect"
  | disconnect => "disconnect"
  | setTerminator _ => "set_terminator"
  | writeBytes _ => "write_bytes"
  | writeString _ => "write_string"
  | read _ => "read"
  | setAddress _ => "set_address"
  | clearDevice _ => "selected_device_clear"
  | endOfInstruction => "end_of_instruction"
  | setEndOfInstruction _ => "set_end_of_instruction"
  | endOfTransmission => "end_of_transmission"
  | setEndOfTransmission _ => "set_end_of_transmission"
  | takeControl => "become_controller_in_charge"
  | goToRemote _ => "go_to_remote"
  | goToLocal _ => "go_to_local"
  | listenOnly => "listen_only"
  | setListenOnly _ => "set_listen_only"
  | reset => "reset"
  | serialPoll _ _ => "serial_poll"
  | statusByte => "read_status_byte"
  | clearStatus => "clear_status"
  | eventStatus => "read_event_status_register"
  | eventEnable => "event_status_enable"
  | setEventEnable _ => "set_event_status_enable"
  | clearEventEnable => "clear_event_status_enable"
  | trigger _ => "trigger"

end Call

/-- what has become of a link -/
structure Outcome (Λ α : Type) where
  link : Λ
  /-- milliseconds it took -/
  delay : Nat := 0
  result : Except LinkError α

/-- operations on one link, up to the first that fails -/
def Attempt (Λ α : Type) := Λ → Outcome Λ α

namespace Attempt

variable {Λ α β : Type}

/-- one operation after the other -/
def bind (a : Attempt Λ α) (f : α → Attempt Λ β) : Attempt Λ β := fun l =>
  match a l with
  | ⟨l, delay, .ok x⟩ =>
    let o := f x l
    { o with delay := delay + o.delay }
  | ⟨l, delay, .error e⟩ => ⟨l, delay, .error e⟩

instance : Monad (Attempt Λ) where
  pure x := fun l => { link := l, result := .ok x }
  bind := bind

def fail (e : LinkError) : Attempt Λ α := fun l => { link := l, result := .error e }

/-- succeeds if there is a value -/
def ofExcept : Except LinkError α → Attempt Λ α
  | .ok a => pure a
  | .error e => fail e

def get : Attempt Λ Λ := fun l => { link := l, result := .ok l }

def update (f : Λ → Λ) : Attempt Λ Unit := fun l => { link := f l, result := .ok () }

/-- Asks for a register and reads the answer. -/
def queryRegister (write : String → Attempt Λ Unit) (read : Attempt Λ Bytes) (command : String) :
    Attempt Λ UInt8 := do
  write command
  let text := Text.decodeLossy (← read)
  match parseRegister? text with
  | some n => return n
  | none => fail (.malformed s!"'{Text.trim text}' is not a register value")

/-- the calls of a bus link that follow from writing and reading; the others are refused -/
def standard (write : String → Attempt Λ Unit) (read : Attempt Λ Bytes) :
    (c : Call) → Attempt Λ c.Answer
  | .clearStatus => write "*CLS"
  | .eventStatus => queryRegister write read "*ESR?"
  | .eventEnable => queryRegister write read "*ESE?"
  | .setEventEnable mask => write ("*ESE " ++ Number.natText mask.toNat)
  | .clearEventEnable => write "*ESE 0"
  | c => fail (.unsupported c.name)

end Attempt

/-- a type of links -/
class Link (Λ : Type) where
  name : Λ → String
  kind : Λ → InterfaceKind
  /-- identifies the physical link -/
  resource : Λ → String
  /-- the bus calls can be used -/
  isGpib : Λ → Bool
  timeouts : Λ → Timeouts
  terminator : Λ → Terminator
  connected : Λ → Bool
  /-- sets the time limits; an open link refuses -/
  configure : Timeouts → Λ → Except LinkError Λ
  call : (c : Call) → Attempt Λ c.Answer

namespace Link

variable {Λ : Type} [Link Λ]

/-- Writes a value at its exact width. -/
def writeTyped (v : TypedValue) : Attempt Λ Unit := do
  let bytes ← Attempt.ofExcept v.encode
  call (.writeBytes bytes)

/-- Reads one terminated response as a text. -/
def readString : Attempt Λ String := do
  return Text.decodeLossy (← call (.read .terminated))

/-- Writes a text and reads the response. -/
def query (s : String) : Attempt Λ String := do
  call (Λ := Λ) (.writeString s)
  readString

/-- the link in debugging texts -/
def description (l : Λ) : String :=
  let variant := if isGpib l then "Gpib" else "Stream"
  "InterfaceHandle \x7b variant: \"" ++ variant ++ "\", name: " ++ Text.debugQuoted (name l) ++
    ", kind: " ++ (kind l).tag ++ " \x7d"

end Link

end CalBench
