/-
Emulated links.

A stand-in for an instrument without any hardware. Writes are remembered, reads are answered by a
`Responder`, and the registers of IEEE 488.2 are plain values. The next connect or the next few reads
can be made to fail, and every call leaves a line in a log.
-/
import CalBench.Link.Call
import CalBench.Table

namespace CalBench

/-- how an emulated instrument answers -/
inductive Responder
  /-- with the last command -/
  | echo
  | fixed (s : String)
  /-- by the last command, if it is listed -/
  | scripted (answers : Table String) (fallback : Option String)
  /-- with a reading that is drawn at random -/
  | anyReading
deriving DecidableEq, Repr

/-- the answer after a last command, if there is any, when some reading would be drawn -/
def Responder.answer? (r : Responder) (last : Option String) (drawn : String) : Option String :=
  match r with
  | .echo => last
  | .fixed s => some s
  | .scripted answers fallback => (last.bind answers.get?).or fallback
  | .anyReading => some drawn

structure Emulated where
  name : String
  responder : Responder := .anyReading
  /-- the readings that will be drawn, one for each reply; they can be any texts -/
  readings : Nat → String := fun _ => "50"
  /-- so many replies have been given -/
  replies : Nat := 0
  terminator : Terminator := .lf
  timeouts : Timeouts := {}
  connected : Bool := false
  address : Option UInt8 := none
  lastCommand : Option String := none
  statusByte : UInt8 := 0
  eventStatus : UInt8 := 0
  eventEnable : UInt8 := 0
  endOfInstruction : Bool := true
  endOfTransmission : EndOfTransmission := {}
  listenOnly : Bool := false
  failingReads : Nat := 0
  failNextConnect : Bool := false
  log : List String := []

namespace Emulated

/-- the answer to the next read, if there is any -/
def answer? (d : Emulated) : Option String := d.responder.answer? d.lastCommand (d.readings d.replies)

def note (line : String) : Attempt Emulated Unit := .update fun d => { d with log := d.log ++ [line] }

/-- Fails unless the link is open. -/
def ensureConnected : Attempt Emulated Unit := do
  if (← Attempt.get).connected then return
  Attempt.fail .notConnected

def resource (d : Emulated) : String := "emulated:" ++ d.name

def connect : Attempt Emulated Unit := do
  note "connect"
  let d ← Attempt.get
  if d.failNextConnect then
    Attempt.update fun d => { d with failNextConnect := false }
    Attempt.fail (.connect d.resource "injected failure")
  Attempt.update fun d => { d with connected := true }

/-- Takes bytes for a command. -/
def writeBytes (data : Bytes) : Attempt Emulated Unit := do
  ensureConnected
  let d ← Attempt.get
  let text := Text.decodeLossy (d.terminator.strip data)
  Attempt.update fun d => { d with lastCommand := some text }
  note ("write: " ++ text)

/-- Writes a text and the terminator. -/
def writeString (s : String) : Attempt Emulated Unit := do
  let d ← Attempt.get
  writeBytes (Text.utf8 s ++ d.terminator.bytes)

/-- Gives the next answer, or waits for none in vain. -/
def reply (mode : ReadMode) (d : Emulated) : Attempt Emulated Bytes :=
  match d.answer? with
  | none => do
    note "read: no response"
    Attempt.fail (.timeout .read d.timeouts.read)
  | some s => do
    Attempt.update fun d => { d with replies := d.replies + 1 }
    note ("read: " ++ s)
    match mode with
    | .length n => return (Text.utf8 s).take n
    | .terminated => return Text.utf8 s

/-- Reads an answer, unless the read is one of those that time out. -/
def read (mode : ReadMode) : Attempt Emulated Bytes := do
  ensureConnected
  let d ← Attempt.get
  if d.failingReads ≠ 0 then
    Attempt.update fun d => { d with failingReads := d.failingReads - 1 }
    note "read: timeout"
    Attempt.fail (.timeout .read d.timeouts.read)
  else reply mode d

def setEventEnable (mask : UInt8) : Attempt Emulated Unit := do
  ensureConnected
  note ("*ESE " ++ Number.natText mask.toNat)
  Attempt.update fun d => { d with eventEnable := mask }

def addressText (a : UInt8) : String := Number.natText a.toNat

def call : (c : Call) → Attempt Emulated c.Answer
  | .connect => connect
  | .disconnect => do
    note "disconnect"
    Attempt.update fun d => { d with connected := false }
  | .setTerminator t => do
    note ("terminator: " ++ t.name)
    Attempt.update fun d => { d with terminator := t }
  | .writeBytes data => writeBytes data
  | .writeString s => writeString s
  | .read mode => read mode
  | .setAddress a => do
    Attempt.update fun d => { d with address := some a }
    note ("address: " ++ addressText a)
  | .clearDevice a => do
    ensureConnected
    Attempt.update fun d => { d with address := a.or d.address, lastCommand := none }
    note ("device clear: " ++ Text.debugOption (a.map addressText))
  | .endOfInstruction => do return (← Attempt.get).endOfInstruction
  | .setEndOfInstruction enabled => Attempt.update fun d => { d with endOfInstruction := enabled }
  | .endOfTransmission => do return (← Attempt.get).endOfTransmission
  | .setEndOfTransmission s => Attempt.update fun d => { d with endOfTransmission := s }
  | .takeControl => note "controller in charge"
  | .goToRemote a => note ("remote: " ++ addressText a)
  | .goToLocal a => note ("local: " ++ addressText a)
  | .listenOnly => do return (← Attempt.get).listenOnly
  | .setListenOnly enabled => Attempt.update fun d => { d with listenOnly := enabled }
  | .reset => do
    ensureConnected
    note "interface reset"
    Attempt.update fun d => { d with lastCommand := none, statusByte := 0 }
  | .serialPoll primary secondary => do
    ensureConnected
    note ("serial poll: " ++ addressText primary ++ " " ++ Text.debugOption (secondary.map addressText))
    return (← Attempt.get).statusByte
  | .statusByte => do
    ensureConnected
    return (← Attempt.get).statusByte
  | .clearStatus => do
    ensureConnected
    note "*CLS"
    Attempt.update fun d =>
      { d with eventStatus := 0, statusByte := d.statusByte &&& ~~~StatusByte.eventSummary }
  | .eventStatus => do
    ensureConnected
    let d ← Attempt.get
    Attempt.update fun d => { d with eventStatus := 0 }
    return d.eventStatus
  | .eventEnable => do
    ensureConnected
    return (← Attempt.get).eventEnable
  | .setEventEnable mask => setEventEnable mask
  | .clearEventEnable => setEventEnable 0
  | .trigger addresses => do
    ensureConnected
    note ("trigger: " ++ Text.debugList (addresses.map addressText))

instance : Link Emulated where
  name d := d.name
  kind _ := .emulated
  resource := resource
  isGpib _ := true
  timeouts d := d.timeouts
  terminator d := d.terminator
  connected d := d.connected
  configure t d := if d.connected then .error .alreadyConnected else .ok { d with timeouts := t }
  call := call

end Emulated

end CalBench
