/-
Serial lines.

A plain serial line with a terminator: writes go out as they are, reads are framed. There is no bus
behind it.
-/
import CalBench.Link.Call
import CalBench.Link.Settings
import CalBench.Link.Wire

namespace CalBench

/-- the name under which a serial line is opened -/
def SerialSettings.title (s : SerialSettings) : String :=
  s.path ++ " at " ++ Number.natText s.baudRate.toNat ++ " baud"

/-- the resource a serial line is -/
def SerialSettings.resource (s : SerialSettings) : String := "serial:" ++ s.path

structure SerialLine (ω : Type) where
  name : String
  settings : SerialSettings
  wire : ω
  connected : Bool := false
  pending : Bytes := []
  terminator : Terminator := .crLf
  timeouts : Timeouts := {}

namespace SerialLine

variable {ω : Type} [Wire ω]

def connect : Attempt (SerialLine ω) Unit := do
  let d ← Attempt.get
  if d.connected then return
  let (wire, refusal) := Wire.dial d.wire
  match refusal with
  | some reason =>
    Attempt.update fun d => { d with wire }
    Attempt.fail (.connect d.settings.title reason)
  | none => Attempt.update fun d => { d with wire, connected := true, pending := [] }

def disconnect : Attempt (SerialLine ω) Unit :=
  Attempt.update fun d => if d.connected then { d with wire := Wire.hangUp d.wire, connected := false } else d

def writeBytes (data : Bytes) : Attempt (SerialLine ω) Unit := do
  let d ← Attempt.get
  if !d.connected then Attempt.fail .notConnected
  let (wire, sent) := Wire.send data d.wire
  Attempt.update fun d => { d with wire }
  Attempt.ofExcept sent

/-- Sends a text and the terminator. -/
def writeString (s : String) : Attempt (SerialLine ω) Unit := do
  let d ← Attempt.get
  writeBytes (Text.utf8 s ++ d.terminator.bytes)

def read (mode : ReadMode) : Attempt (SerialLine ω) Bytes := fun d =>
  if d.connected then
    let (r, delay, result) := Receiver.read ⟨d.wire, d.pending⟩ d.terminator mode d.timeouts.read
    ⟨{ d with wire := r.wire, pending := r.pending }, delay, result⟩
  else { link := d, result := .error .notConnected }

def call : (c : Call) → Attempt (SerialLine ω) c.Answer
  | .connect => connect
  | .disconnect => disconnect
  | .setTerminator t => Attempt.update fun d => { d with terminator := t }
  | .writeBytes data => writeBytes data
  | .writeString s => writeString s
  | .read mode => read mode
  | c => Attempt.fail (.unsupported c.name)

instance : Link (SerialLine ω) where
  name d := d.name
  kind _ := .serialLine
  resource d := d.settings.resource
  isGpib _ := false
  timeouts d := d.timeouts
  terminator d := d.terminator
  connected d := d.connected
  configure t d := if d.connected then .error .alreadyConnected else .ok { d with timeouts := t }
  call := call

end SerialLine

end CalBench
