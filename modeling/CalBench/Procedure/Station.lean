/-
Actions and their runs.

A `Station` is the bench together with the state of every action of a procedure. An action is running
exactly while its slot holds a `Grant`. `start` takes an idle action, tells the nodes downstream to
reset, enables all interfaces and grants a run with a fresh stop signal; `reset` makes an action idle
again. Both happen at once. `halt` raises the signal, then disables all interfaces, for which it has to
wait until nobody uses them.

`apply` carries out a request, and `completed` halts the running action that a ticket names.
-/
import CalBench.Run.Bench
import CalBench.Run.Failure

namespace CalBench

open Json

/-- where an action is in its life -/
inductive ActionState
  /-- never started, or reset -/
  | idle
  | running
  | completed
  | stopped
deriving DecidableEq, Repr, Inhabited

def ActionState.name : ActionState → String
  | .idle => "idle"
  | .running => "started"
  | .completed => "completed"
  | .stopped => "stopped"

/-- what is announced about actions -/
inductive ActionEvent
  | stateChanged (nodeId : String) (sectionName : Option String) (action : String) (state : ActionState)
    (ticket : Option RunTicket)
  /-- a node downstream is to forget about a run -/
  | nodeReset (nodeId : String) (runId : Option String)
deriving DecidableEq, Repr

/-- a run that was granted -/
structure Grant where
  /-- the action -/
  node : Nat
  ticket : RunTicket
  /-- number of the run's stop signal -/
  signal : Nat
deriving DecidableEq, Repr

/-- what is known about an action -/
structure Slot where
  state : ActionState := .idle
  active : Option Grant := none
  lastRun : Option String := none
deriving DecidableEq, Repr, Inhabited

/-- the bench and the actions -/
structure Station (Λ : Type) where
  bench : Bench Λ := {}
  /-- by the position of the action; they are kept in a hash table, so that their order says nothing -/
  slots : List (Nat × Slot) := []
  events : List ActionEvent := []

namespace Station

variable {Λ : Type}

/-- the station of a procedure, with all actions idle and one of the orders they may be in -/
def ofProcedure (p : Procedure) (b : Bench Λ) : Station Λ :=
  { bench := b, slots := (p.ofType .actionStart).map fun i => (i, {}) }

/-- what is known about an action -/
def slot? (s : Station Λ) (node : Nat) : Option Slot :=
  (s.slots.find? fun e => e.1 == node).map Prod.snd

def stateOf (s : Station Λ) (node : Nat) : ActionState := ((s.slot? node).map Slot.state).getD .idle

def isRunning (s : Station Λ) (node : Nat) : Bool := (s.slot? node).any fun slot => slot.active.isSome

def setSlot (node : Nat) (slot : Slot) (s : Station Λ) : Station Λ :=
  { s with slots := s.slots.map fun e => if e.1 == node then (node, slot) else e }

def onBench (f : Bench Λ → Bench Λ) (s : Station Λ) : Station Λ := { s with bench := f s.bench }

def announce (p : Procedure) (node : Nat) (state : ActionState) (ticket : Option RunTicket) (s : Station Λ) :
    Station Λ :=
  let n := p.node node
  { s with events := s.events ++ [.stateChanged n.id (p.sectionName? node) n.name state ticket] }

/-- Tells the nodes downstream of an action to forget about a run. -/
def resetDownstream (p : Procedure) (node : Nat) (runId : Option String) (s : Station Λ) : Station Λ :=
  { s with events := s.events ++ (p.downstream node).map fun i => .nodeReset (p.node i).id runId }

/-- what is known about an action, or the error of a node that is none -/
def slot (s : Station Λ) (node : Nat) : Except Failure Slot :=
  match s.slot? node with
  | some slot => .ok slot
  | none => .error (.lookup (.notAnAction node))

/-- the short name of an action's section, which it must have -/
def sectionName (p : Procedure) (node : Nat) : Except Failure String :=
  match p.sectionName? node with
  | some name => .ok name
  | none => .error (.missingSection (p.node node).name)

/-! ## Transitions that happen at once -/

/-- Grants a run with a ticket: announces it and enables all interfaces. -/
def grant (p : Procedure) (node : Nat) (ticket : RunTicket) (s : Station Λ) : Station Λ × Grant :=
  let s := (s.resetDownstream p node (some ticket.runId)).onBench fun b => { b with pool := b.pool.enableAll }
  let (bench, signal) := s.bench.newSignal
  let g : Grant := { node, ticket, signal }
  let s := { s with bench }.setSlot node { state := .running, active := some g, lastRun := some ticket.runId }
  (s.announce p node .running (some ticket), g)

/-- Starts an action; `fresh` is the id of the run if the request has none. -/
def start (p : Procedure) (node : Nat) (sessionId runId : Option String) (fresh : String) (s : Station Λ) :
    Except Failure (Station Λ × Grant) := do
  let slot ← s.slot node
  let sectionName ← sectionName p node
  let action := (p.node node).name
  if slot.active.isSome then .error (.alreadyRunning action)
  return s.grant p node { sessionId := sessionId.getD "", runId := runId.getD fresh, sectionName, action }

/-- Ends the active run of an action, if there is one, and leaves the action in a state. -/
def retire (node : Nat) (slot : Slot) (state : ActionState) (s : Station Λ) : Station Λ :=
  let s := match slot.active with
    | some g => s.onBench (Bench.raise g.signal)
    | none => s
  s.setSlot node { slot with state, active := none }

/-- Makes an action idle, whether it is running or not. -/
def reset (p : Procedure) (node : Nat) (s : Station Λ) : Except Failure (Station Λ) := do
  let slot ← s.slot node
  return ((s.retire node slot .idle).resetDownstream p node slot.lastRun).announce p node .idle none

/-! ## Transitions that have to wait -/

variable [Link Λ]

/-- somebody who uses the pool of a station -/
def client : Proc.Part (Station Λ × Option Place) (Client Λ) where
  get s := ⟨s.1.bench.pool, s.2⟩
  set c s := (s.1.onBench fun b => { b with pool := c.pool }, c.place)

def disableAll : Proc (Station Λ) Unit :=
  ((Pool.disableAll.onPart client).within none).bind fun _ => .done ()

/-- Ends the active run of an action, disables all interfaces and announces the new state. -/
def halt (p : Procedure) (node : Nat) (state : ActionState) : Proc.Fallible (Station Λ) Failure Unit :=
  Proc.get.bind fun s => match s.slot node, sectionName p node with
    | .error f, _ => .done (.error f)
    | .ok _, .error f => .done (.error f)
    | .ok slot, .ok _ =>
      (Proc.update (retire node slot state)).bind fun _ =>
      disableAll.bind fun _ =>
      (Proc.update fun s =>
        (s.resetDownstream p node slot.lastRun).announce p node state (slot.active.map Grant.ticket)).bind fun _ =>
      .done (.ok ())

/-- a running action that a ticket names, in any letter case; of several, the one that comes first in the table -/
def named? (s : Station Λ) (t : RunTicket) : Option Nat :=
  (s.slots.find? fun e => e.2.active.any fun g =>
    Text.sameIgnoringCase g.ticket.sectionName t.sectionName &&
      Text.sameIgnoringCase g.ticket.action t.action).map Prod.fst

/-- Halts the running action that a ticket names; which one that is. -/
def completed (p : Procedure) (t : RunTicket) : Proc.Fallible (Station Λ) Failure (Option Nat) :=
  Proc.get.bind fun s => match s.named? t with
    | none => .done (.ok none)
    | some node => (halt p node .completed).andThen fun _ => .done (.ok (some node))

/-- a transition that happens at once, as a process -/
def atOnce {α : Type} (f : Station Λ → Except Failure (Station Λ × α)) : Proc.Fallible (Station Λ) Failure α :=
  Proc.step fun s => match f s with
    | .ok (s, a) => (s, .ok a)
    | .error e => (s, .error e)

/-- Carries out a request; a start yields the granted run. -/
def apply (p : Procedure) (fresh : String) (request : TriggerRequest) :
    Proc.Fallible (Station Λ) Failure (Option Grant) :=
  let r := request.normalized
  match p.action r.sectionName r.action with
  | .error e => .done (.error (.lookup e))
  | .ok node => match r.kind with
    | .start => atOnce fun s => (start p node r.sessionId r.runId fresh s).map fun (s, g) => (s, some g)
    | .stop => (halt p node .stopped).andThen fun _ => .done (.ok none)
    | .reset =>
      Proc.get.bind fun s =>
        (if s.isRunning node then halt p node .stopped else .done (.ok ())).andThen fun _ =>
        atOnce fun s => (reset p node s).map fun s => (s, none)

end Station

/-- what a failure is called in replies -/
def Failure.replyText : Failure → String
  | .alreadyRunning _ => "Already running"
  | .lookup _ => "Unable to find action start node"
  | f => f.message

/-- the reply to a request, by how it went -/
def TriggerReply.ofOutcome {α : Type} (r : TriggerRequest) : Except Failure α → TriggerReply
  | .ok _ => .ok r
  | .error f => .failed r f.replyText

/-! ## Documents -/

def ActionEvent.document : ActionEvent → Json
  | .stateChanged nodeId sectionName action state ticket =>
    record [
      field "event" "stateChanged",
      field "nodeId" nodeId,
      fieldOrNull "section" sectionName,
      field "action" action,
      field "state" state.name,
      fieldOrNull "sessionId" (ticket.map RunTicket.sessionId),
      fieldOrNull "runId" (ticket.map RunTicket.runId)]
  | .nodeReset nodeId runId =>
    record [field "event" "nodeReset", field "nodeId" nodeId, fieldOrNull "runId" runId]

end CalBench
