/-
Rehearsed links.

A link that plays back a list of replies, some of which may fail or take their time. It does no more
than a link must do: whatever follows from writing and reading is done that way, and everything else
is refused. The next few connects, writes and disconnects can be made to fail.
-/
import CalBench.Link.Call

namespace CalBench

/-- how a rehearsed read fails -/
inductive RehearsedFailure
  | timeout
  | malformed
  | io
  | notConnected
deriving DecidableEq, Repr

structure RehearsedReply where
  /-- milliseconds before it comes -/
  delay : Nat := 0
  reply : Except RehearsedFailure Bytes

structure Rehearsal where
  name : String
  resource : String
  terminator : Terminator := .lf
  timeouts : Timeouts := {}
  connected : Bool := false
  replies : List RehearsedReply := []
  statusByte : UInt8 := 0
  failConnect : Nat := 0
  failWrite : Nat := 0
  failDisconnect : Nat := 0
  log : List String := []

namespace Rehearsal

def note (line : String) : Attempt Rehearsal Unit := .update fun d => { d with log := d.log ++ [line] }

/-- one character for every byte -/
def byteText (b : Bytes) : String := String.ofList (b.map fun x => Char.ofNat x.toNat)

/-- the failure of a read -/
def failure (d : Rehearsal) : RehearsedFailure → LinkError
  | .timeout => .timeout .read d.timeouts.read
  | .malformed => .malformed "stub garbage"
  | .io => .io "stub pipe broke"
  | .notConnected => .notConnected

def connect : Attempt Rehearsal Unit := do
  note "connect"
  let d ← Attempt.get
  if d.failConnect ≠ 0 then
    Attempt.update fun d => { d with failConnect := d.failConnect - 1 }
    Attempt.fail (.connect d.resource "stub refused")
  Attempt.update fun d => { d with connected := true }

def disconnect : Attempt Rehearsal Unit := do
  note "disconnect"
  let d ← Attempt.get
  if d.failDisconnect ≠ 0 then
    Attempt.update fun d => { d with failDisconnect := d.failDisconnect - 1 }
    Attempt.fail (.io "stub stuck")
  Attempt.update fun d => { d with connected := false }

def writeBytes (data : Bytes) : Attempt Rehearsal Unit := do
  let d ← Attempt.get
  if !d.connected then Attempt.fail .notConnected
  if d.failWrite ≠ 0 then
    Attempt.update fun d => { d with failWrite := d.failWrite - 1 }
    Attempt.fail (.timeout .write d.timeouts.write)
  note ("write: " ++ byteText data)

/-- Writes a text and the terminator. -/
def writeString (s : String) : Attempt Rehearsal Unit := do
  let d ← Attempt.get
  writeBytes (Text.utf8 s ++ d.terminator.bytes)

/-- the reply that comes next, after its delay -/
def next (mode : ReadMode) : Attempt Rehearsal Bytes := fun d =>
  match d.replies with
  | [] => { link := d, result := .error (.timeout .read d.timeouts.read) }
  | r :: rest =>
    { link := { d with replies := rest }
      delay := r.delay
      result := match r.reply, mode with
        | .error f, _ => .error (d.failure f)
        | .ok b, .length n => .ok (b.take n)
        | .ok b, .terminated => .ok b }

def read (mode : ReadMode) : Attempt Rehearsal Bytes := do
  if !(← Attempt.get).connected then Attempt.fail .notConnected
  note (match mode with | .length n => "read " ++ Number.natText n | .terminated => "read")
  next mode

def addressText (a : UInt8) : String := Number.natText a.toNat

def call : (c : Call) → Attempt Rehearsal c.Answer
  | .connect => connect
  | .disconnect => disconnect
  | .setTerminator t => Attempt.update fun d => { d with terminator := t }
  | .writeBytes data => writeBytes data
  | .writeString s => writeString s
  | .read mode => read mode
  | .setAddress a => note ("address " ++ addressText a)
  | .clearDevice a => note ("clear " ++ Text.debugOption (a.map addressText))
  | .endOfInstruction => pure false
  | .setEndOfInstruction enabled => note ("eoi " ++ if enabled then "true" else "false")
  | .serialPoll primary secondary => do
    note ("poll " ++ addressText primary ++ " " ++ Text.debugOption (secondary.map addressText))
    return (← Attempt.get).statusByte
  | .trigger addresses => note ("trigger " ++ Text.debugList (addresses.map addressText))
  | c => Attempt.standard writeString (read .terminated) c

instance : Link Rehearsal where
  name d := d.name
  kind _ := .emulated
  resource d := d.resource
  isGpib _ := true
  timeouts d := d.timeouts
  terminator d := d.terminator
  connected d := d.connected
  configure t d := .ok { d with timeouts := t }
  call := call

end Rehearsal

end CalBench
