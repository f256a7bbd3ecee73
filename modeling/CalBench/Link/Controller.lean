/-
Bus controllers.

A controller box mediates between a byte stream and an IEEE 488 bus. Lines that start with `++` are
commands for the box itself, all others are passed on to the device addressed, followed by the
terminator that was set with `++eos`. So that no data is taken for a command or a line end, carriage
returns, line feeds, escapes and plus signs in data are preceded by an escape. Reads are asked for,
with `++read eoi`. The box is told an address only when it is not the last one it was told.
-/
import CalBench.Link.SerialLine

namespace CalBench

/-- how a controller is reached -/
inductive Endpoint
  | network (s : TcpSettings)
  | usb (s : SerialSettings)
deriving DecidableEq, Repr

namespace Endpoint

/-- the resource an endpoint is -/
def resource : Endpoint → String
  | .network s => "tcp:" ++ s.host ++ ":" ++ Number.natText s.port.toNat
  | .usb s => s.resource

/-- the name under which an endpoint is opened -/
def title : Endpoint → String
  | .network s => (Endpoint.network s).resource
  | .usb s => s.title

end Endpoint

structure Controller (ω : Type) where
  name : String
  endpoint : Endpoint
  wire : ω
  connected : Bool := false
  pending : Bytes := []
  terminator : Terminator := .lf
  timeouts : Timeouts := {}
  /-- the last address the box was told -/
  address : Option UInt8 := none

namespace Controller

def maxTriggerAddresses : Nat := 15

def escapeByte : UInt8 := 0x1b

/-- a byte that has to be escaped in data -/
def needsEscape (b : UInt8) : Bool := b = 13 || b = 10 || b = escapeByte || b = 43

/-- data with its special bytes escaped -/
def escape (data : Bytes) : Bytes :=
  data.flatMap fun b => if needsEscape b then [escapeByte, b] else [b]

/-- a list cut into pieces of a length, the last one perhaps shorter -/
def pieces {α : Type} (size : Nat) : Nat → List α → List (List α)
  | _, [] => []
  | 0, l => [l]
  | count + 1, l => if l.length ≤ size then [l] else l.take size :: pieces size count (l.drop size)

/-- the groups in which addresses are triggered -/
def triggerGroups (addresses : List UInt8) : List (List UInt8) :=
  pieces maxTriggerAddresses addresses.length addresses

variable {ω : Type} [Wire ω]

def sendRaw (data : Bytes) : Attempt (Controller ω) Unit := do
  let d ← Attempt.get
  if !d.connected then Attempt.fail .notConnected
  let (wire, sent) := Wire.send data d.wire
  Attempt.update fun d => { d with wire }
  Attempt.ofExcept sent

/-- Sends a command for the box. -/
def command (s : String) : Attempt (Controller ω) Unit := sendRaw (Text.utf8 s ++ [10])

def receiveFrame (t : Terminator) (mode : ReadMode) : Attempt (Controller ω) Bytes := fun d =>
  if d.connected then
    let (r, delay, result) := Receiver.read ⟨d.wire, d.pending⟩ t mode d.timeouts.read
    ⟨{ d with wire := r.wire, pending := r.pending }, delay, result⟩
  else { link := d, result := .error .notConnected }

/-- Sends a command that the box answers with one line. -/
def ask (s : String) : Attempt (Controller ω) String := do
  command s
  return Text.trim (Text.decodeLossy (← receiveFrame .lf .terminated))

def terminatorCommand (t : Terminator) : String := "++eos " ++ Number.natText t.code

/-- Puts the box into a known state. -/
def setUp : Attempt (Controller ω) Unit := do
  command "++savecfg 0"
  command "++auto 0"
  command "++mode 1"
  command "++ifc"
  command (terminatorCommand (← Attempt.get).terminator)

/-- Closes the connection, whatever `a` comes to, if it fails. -/
def orHangUp (a : Attempt (Controller ω) Unit) : Attempt (Controller ω) Unit := fun d =>
  match a d with
  | ⟨d, delay, .ok ()⟩ => ⟨d, delay, .ok ()⟩
  | ⟨d, delay, .error e⟩ => ⟨{ d with wire := Wire.hangUp d.wire, connected := false }, delay, .error e⟩

/-- Opens the connection and sets the box up. -/
def connect : Attempt (Controller ω) Unit := do
  let d ← Attempt.get
  if d.connected then return
  let (wire, refusal) := Wire.dial d.wire
  match refusal with
  | some reason =>
    Attempt.update fun d => { d with wire }
    Attempt.fail (.connect d.endpoint.title reason)
  | none =>
    Attempt.update fun d => { d with wire, connected := true, pending := [], address := none }
    orHangUp setUp

def disconnect : Attempt (Controller ω) Unit :=
  Attempt.update fun d =>
    { d with
      wire := if d.connected then Wire.hangUp d.wire else d.wire
      connected := false
      address := none }

/-- Restarts the box and sets it up again. -/
def restart : Attempt (Controller ω) Unit := do
  command "++rst"
  Attempt.update fun d => { d with address := none, pending := [] }
  setUp

/-- Sets the terminator, in the box too if it is connected. -/
def setTerminator (t : Terminator) : Attempt (Controller ω) Unit := do
  if (← Attempt.get).connected then command (terminatorCommand t)
  Attempt.update fun d => { d with terminator := t }

/-- Sends data to the device addressed. -/
def writeBytes (data : Bytes) : Attempt (Controller ω) Unit := sendRaw (escape data ++ [10])

/-- Sends a text; the box appends the terminator. -/
def writeString (s : String) : Attempt (Controller ω) Unit := writeBytes (Text.utf8 s)

/-- Asks for a response and reads it. Without a terminator the box ends it with a line feed. -/
def read (mode : ReadMode) : Attempt (Controller ω) Bytes := do
  command "++read eoi"
  let t := (← Attempt.get).terminator
  receiveFrame (if t = .none then .lf else t) mode

/-- Addresses a device, unless it is the one addressed. -/
def setAddress (a : UInt8) : Attempt (Controller ω) Unit := do
  if (← Attempt.get).address = some a then return
  command ("++addr " ++ Number.natText a.toNat)
  Attempt.update fun d => { d with address := some a }

def bit (b : Bool) : String := if b then "1" else "0"

/-- the addresses of a trigger command -/
def addressList (addresses : List UInt8) : String :=
  " ".intercalate (addresses.map fun a => Number.natText a.toNat)

/-- Triggers groups of devices, one after the other. -/
def triggerEach : List (List UInt8) → Attempt (Controller ω) Unit
  | [] => pure ()
  | group :: rest => do
    command ("++trg " ++ addressList group)
    triggerEach rest

/-- a register that the box answered with -/
def register (text what : String) : Attempt (Controller ω) UInt8 :=
  match parseRegister? text with
  | some n => pure n
  | none => Attempt.fail (.malformed s!"'{text}' is not a {what}")

def call : (c : Call) → Attempt (Controller ω) c.Answer
  | .connect => connect
  | .disconnect => disconnect
  | .setTerminator t => setTerminator t
  | .writeBytes data => writeBytes data
  | .writeString s => writeString s
  | .read mode => read mode
  | .setAddress a => setAddress a
  | .clearDevice a => do
    if let some a := a then setAddress a
    command "++clr"
  | .endOfInstruction => do return (← ask "++eoi") == "1"
  | .setEndOfInstruction enabled => command ("++eoi " ++ bit enabled)
  | .endOfTransmission => do
    let enabled := (← ask "++eot_enable") == "1"
    let text ← ask "++eot_char"
    return ⟨enabled, ← register text "character code"⟩
  | .setEndOfTransmission s => do
    command ("++eot_enable " ++ bit s.enabled)
    command ("++eot_char " ++ Number.natText s.character.toNat)
  | .takeControl => command "++ifc"
  | .goToLocal a => do
    setAddress a
    command "++loc"
  | .reset => command "++ifc"
  | .serialPoll primary secondary => do
    let more := match secondary with
      | some s => " " ++ Number.natText s.toNat
      | none => ""
    let text ← ask ("++spoll " ++ Number.natText primary.toNat ++ more)
    register text "status byte"
  | .trigger addresses =>
    if addresses.isEmpty then command "++trg" else triggerEach (triggerGroups addresses)
  | c => Attempt.standard writeString (read .terminated) c

instance : Link (Controller ω) where
  name d := d.name
  kind d := match d.endpoint with | .network _ => .networkController | .usb _ => .usbController
  resource d := d.endpoint.resource
  isGpib _ := true
  timeouts d := d.timeouts
  terminator d := d.terminator
  connected d := d.connected
  configure t d := if d.connected then .error .alreadyConnected else .ok { d with timeouts := t }
  call := call

end Controller

end CalBench
