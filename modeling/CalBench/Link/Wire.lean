/-
Wires.

A `Wire` is what serial lines and bus controllers talk over: it can be dialled, takes bytes, and its
far end may send some. Links are written for any type of wires. A `ScriptedPeer` is a wire whose far
end answers lines by rules, or cannot be reached at all.
-/
import CalBench.Link.Frame

namespace CalBench

/-- a type of wires -/
class Wire (ω : Type) where
  /-- Opens the wire, or says why not. -/
  dial : ω → ω × Option String
  send : Bytes → ω → ω × Except LinkError Unit
  hangUp : ω → ω
  /-- what the far end is going to send -/
  incoming : ω → List StreamEvent
  /-- Puts back what was not received. -/
  putBack : List StreamEvent → ω → ω

/-- what a scripted peer answers -/
inductive PeerReply
  | send (bytes : Bytes)
  | sendAndClose (bytes : Bytes)
deriving DecidableEq, Repr

/-- how a scripted peer answers a line -/
structure PeerRule where
  /-- the line, without its end -/
  line : Bytes
  replies : List PeerReply := []
  /-- every answer after these -/
  otherwise : Option PeerReply := none
deriving DecidableEq, Repr

/-- a wire with a scripted far end -/
structure ScriptedPeer where
  /-- why it cannot be reached, if it cannot -/
  refusal : Option String := none
  lineEnd : Bytes := [10]
  rules : List PeerRule := []
  /-- all connections are one -/
  oneSession : Bool := false
  received : List (List Bytes) := []
  unfinished : Bytes := []
  incoming : List StreamEvent := []
deriving DecidableEq, Repr

namespace ScriptedPeer

def PeerReply.events : PeerReply → List StreamEvent
  | .send b => [.data b]
  | .sendAndClose b => [.data b, .closed]

/-- the answer to a line, and the rules after it -/
def answer (line : Bytes) : List PeerRule → Option PeerReply × List PeerRule
  | [] => (none, [])
  | r :: rest =>
    if r.line = line then
      match r.replies with
      | reply :: replies => (some reply, { r with replies } :: rest)
      | [] => (r.otherwise, r :: rest)
    else
      let (reply, rules) := answer line rest
      (reply, r :: rules)

/-- Adds a line to the last connection. -/
def record (line : Bytes) : List (List Bytes) → List (List Bytes)
  | [] => [[line]]
  | [lines] => [lines ++ [line]]
  | lines :: rest => lines :: record line rest

/-- Takes a line and answers it. -/
def takeLine (p : ScriptedPeer) (line : Bytes) : ScriptedPeer :=
  let (reply, rules) := answer line p.rules
  { p with
    rules
    received := record line p.received
    incoming := p.incoming ++ (match reply with | some r => PeerReply.events r | none => []) }

/-- Takes bytes, one at a time. -/
def takeBytes (p : ScriptedPeer) : Bytes → ScriptedPeer
  | [] => p
  | b :: rest =>
    let line := p.unfinished ++ [b]
    if p.lineEnd.isSuffixOf line then
      takeBytes (takeLine { p with unfinished := [] } (line.take (line.length - p.lineEnd.length))) rest
    else takeBytes { p with unfinished := line } rest

def startSession (p : ScriptedPeer) : ScriptedPeer :=
  { p with received := if p.oneSession then p.received else p.received ++ [[]], incoming := [] }

instance : Wire ScriptedPeer where
  dial p := match p.refusal with
    | some reason => (p, some reason)
    | none => (p.startSession, none)
  send b p := (p.takeBytes b, .ok ())
  hangUp p := p
  incoming p := p.incoming
  putBack events p := { p with incoming := events }

end ScriptedPeer

/-! ## Reading over a wire -/

/-- a wire and the bytes that have arrived over it -/
structure Receiver (ω : Type) where
  wire : ω
  pending : Bytes := []

/-- Reads one frame over a wire: the wire after it, the milliseconds it took, and the frame. -/
def Receiver.read {ω : Type} [Wire ω] (r : Receiver ω) (t : Terminator) (mode : ReadMode)
    (after : Duration) : Receiver ω × Nat × Except LinkError Bytes :=
  let l := readWithin t mode after 0 ⟨r.pending, Wire.incoming r.wire⟩
  (⟨Wire.putBack l.inlet.events r.wire, l.inlet.pending⟩, l.time, l.result)

end CalBench
