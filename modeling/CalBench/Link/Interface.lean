/-
Interfaces.

An `Interface` is a link of any of the kinds there are; it can be used as a plain stream, without its bus
calls. `InterfaceRecord.build` makes the interface that a record describes, over wires of some type.
-/
import CalBench.Link.Board
import CalBench.Link.Controller
import CalBench.Link.Emulated
import CalBench.Link.Rehearsal

namespace CalBench

/-- a link of one of the kinds there are -/
inductive Device (ω : Type)
  | emulated (d : Emulated)
  | rehearsal (d : Rehearsal)
  | controller (d : Controller ω)
  | serial (d : SerialLine ω)
  | board (d : Board NoDriver)

structure Interface (ω : Type) where
  device : Device ω
  /-- only a stream; its bus calls are not used -/
  plain : Bool := false

namespace Interface

variable {ω : Type} [Wire ω]

/-- a fact about the link behind an interface -/
def ask {α : Type} (f : (Λ : Type) → [Link Λ] → Λ → α) (p : Interface ω) : α :=
  match p.device with
  | .emulated d => f Emulated d
  | .rehearsal d => f Rehearsal d
  | .controller d => f (Controller ω) d
  | .serial d => f (SerialLine ω) d
  | .board d => f (Board NoDriver) d

/-- an outcome with the link put back into the interface -/
def rewrap {Λ α : Type} (p : Interface ω) (wrap : Λ → Device ω) (o : Outcome Λ α) : Outcome (Interface ω) α :=
  { link := { p with device := wrap o.link }, delay := o.delay, result := o.result }

def call (c : Call) : Attempt (Interface ω) c.Answer := fun p =>
  match p.device with
  | .emulated d => p.rewrap .emulated (Link.call c d)
  | .rehearsal d => p.rewrap .rehearsal (Link.call c d)
  | .controller d => p.rewrap .controller (Link.call c d)
  | .serial d => p.rewrap .serial (Link.call c d)
  | .board d => p.rewrap .board (Link.call c d)

def configure (t : Timeouts) (p : Interface ω) : Except LinkError (Interface ω) :=
  match p.device with
  | .emulated d => (Link.configure t d).map fun d => { p with device := .emulated d }
  | .rehearsal d => (Link.configure t d).map fun d => { p with device := .rehearsal d }
  | .controller d => (Link.configure t d).map fun d => { p with device := .controller d }
  | .serial d => (Link.configure t d).map fun d => { p with device := .serial d }
  | .board d => (Link.configure t d).map fun d => { p with device := .board d }

/-- Restarts a bus controller; nothing else can be restarted. -/
def restart : Attempt (Interface ω) Unit := fun p =>
  match p.device with
  | .controller d => p.rewrap .controller (Controller.restart d)
  | _ => Attempt.fail (.unsupported "restart") p

def log? (p : Interface ω) : Option (List String) :=
  match p.device with
  | .emulated d => some d.log
  | .rehearsal d => some d.log
  | _ => none

def withoutLog (p : Interface ω) : Interface ω :=
  match p.device with
  | .emulated d => { p with device := .emulated { d with log := [] } }
  | .rehearsal d => { p with device := .rehearsal { d with log := [] } }
  | _ => p

instance : Link (Interface ω) where
  name := ask fun _ => Link.name
  kind := ask fun _ => Link.kind
  resource := ask fun _ => Link.resource
  isGpib p := !p.plain && p.ask fun _ => Link.isGpib
  timeouts := ask fun _ => Link.timeouts
  terminator := ask fun _ => Link.terminator
  connected := ask fun _ => Link.connected
  configure := configure
  call := call

end Interface

namespace InterfaceRecord

/-- the error of a record without the settings of its kind -/
def missing (r : InterfaceRecord) (block : String) : LinkError :=
  .connect r.name (r.kind.name ++ " interface needs a '" ++ block ++ "' block")

/-- how an emulated interface answers -/
def responder (r : InterfaceRecord) : Responder :=
  let s := r.emulated.getD {}
  match s.fixedResponse with
  | some text => .fixed text
  | none => if s.echo then .echo else .anyReading

variable {ω : Type}

/-- the link a record describes, before its time limits are set -/
def device (r : InterfaceRecord) (reach : Endpoint → ω) : Except LinkError (Device ω) :=
  match r.kind with
  | .emulated =>
    let terminator := r.terminator.getD .lf
    .ok (.emulated { name := r.name, responder := r.responder, terminator })
  | .networkController =>
    match r.tcp with
    | some s =>
      let terminator := r.terminator.getD .lf
      .ok (.controller { name := r.name, endpoint := .network s, wire := reach (.network s), terminator })
    | none => .error (r.missing "tcp")
  | .usbController =>
    match r.serial with
    | some s =>
      let terminator := r.terminator.getD .lf
      .ok (.controller { name := r.name, endpoint := .usb s, wire := reach (.usb s), terminator })
    | none => .error (r.missing "serial")
  | .serialLine =>
    match r.serial with
    | some s =>
      let terminator := r.terminator.getD .crLf
      .ok (.serial { name := r.name, settings := s, wire := reach (.usb s), terminator })
    | none => .error (r.missing "serial")
  | .board =>
    match r.board with
    | some s => .ok (.board { name := r.name, board := s.board, driver := .absent })
    | none => .error (r.missing "nationalInstrumentsGpib")

/-- the interface a record describes; `reach` gives the wire to an endpoint -/
def build [Wire ω] (r : InterfaceRecord) (defaults : Timeouts) (reach : Endpoint → ω) :
    Except LinkError (Interface ω) := do
  let d ← r.device reach
  Interface.configure (r.timeouts.getD defaults) { device := d }

end InterfaceRecord

/-- Can a host be addressed without asking a name server? So it is with an address in digits and with
the machine itself. -/
def isAddress (host : String) : Bool :=
  host == "localhost" || host.toList.any (· == ':') || host.toList.all fun c => c.isDigit || c == '.'

/-- the wires of a place without hardware: the network cannot be reached, which is noticed when a name is
looked up or else when the host is called, and serial lines do not exist -/
def unplugged : Endpoint → ScriptedPeer
  | .network s =>
    if isAddress s.host then { refusal := some "Network is unreachable (os error 101)" }
    else { refusal := some "failed to lookup address information: Temporary failure in name resolution" }
  | .usb _ => { refusal := some "No such file or directory" }

end CalBench
