/-
Executing plans.

An `Executor` knows where every unit is wired to. `bind` checks that all a plan needs is there before
anything is done. Steps are carried out strictly in order; each is a process on the bench and on the
run, and leaves a `StepResult`. A failing command or assignment ends the run, any other failing step
only says so in its result. A run that is told to stop gives back what it has leased and does nothing
more, at the next pause or before the next step.
-/
import CalBench.Link.Settings
import CalBench.Run.Bench
import CalBench.Run.Failure
import CalBench.Run.Retry

namespace CalBench

/-- what a command received -/
structure Received where
  tag : String
  text : String
  value : Reading
  attempts : Nat

/-- the units and how reads are retried -/
structure Executor where
  devices : Table DeviceBinding
  retry : RetryPolicy := {}

namespace Executor

/-- an executor for some units; of two bindings of a unit the later one counts -/
def ofBindings (devices : List DeviceBinding) (retry : RetryPolicy) : Executor :=
  ⟨.ofList (devices.map fun d => (d.unitId, d)), retry⟩

/-! ## Before a run -/

/-- the interface a unit is wired to, if both are there -/
def interfaceOf (e : Executor) (registered : String → Bool) (unit : String) : Except Failure DeviceBinding :=
  match e.devices.get? unit with
  | none => .error (.unknownUnit unit)
  | some d => if registered d.interface then .ok d else .error (.unknownInterface d.interface)

/-- checks that units and their interfaces are there -/
def bindUnits (e : Executor) (registered : String → Bool) : List String → Except Failure Unit
  | [] => .ok ()
  | u :: rest => (e.interfaceOf registered u).bind fun _ => e.bindUnits registered rest

/-- checks that the interfaces to be reset are there -/
def bindResets (registered : String → Bool) : List Step → Except Failure Unit
  | [] => .ok ()
  | .resetInterface name :: rest =>
    if registered name then bindResets registered rest else .error (.unknownInterface name)
  | _ :: rest => bindResets registered rest

/-- checks that everything a plan names is there -/
def bind (e : Executor) (registered : String → Bool) (p : Plan) : Except Failure Unit :=
  (e.bindUnits registered p.units).bind fun _ => bindResets registered p.steps

def device (e : Executor) (unit : String) : Except LinkError DeviceBinding :=
  match e.devices.get? unit with
  | some d => .ok d
  | none => .error .notConfigured

/-! ## On an interface -/

variable {Λ α : Type} [Link Λ]

/-- does an interface that is ours have bus calls -/
def onBus (key : String) (s : Client Λ) : Bool :=
  (s.pool.entries.get? key).any fun e => Link.isGpib e.link

/-- Chooses by whether an interface has bus calls. -/
def ifOnBus (key : String) (yes no : Proc.Fallible (Client Λ) LinkError α) :
    Proc.Fallible (Client Λ) LinkError α :=
  Proc.get.bind fun s => if onBus key s then yes else no

/-- Addresses a device, if there is an address and the interface has bus calls. -/
def select (key : String) (address : Option UInt8) : Proc.Fallible (Client Λ) LinkError Unit :=
  match address with
  | none => .done (.ok ())
  | some a => ifOnBus key (Pool.perform key (.setAddress a)) (.done (.ok ()))

/-- the text of a response: binary ones keep their blanks -/
def responseText (type : ResponseType) (raw : Bytes) : String :=
  if type = .binary then Text.decodeLossy raw else Text.trim (Text.decodeLossy raw)

/-- Reads and converts one response. -/
def readOnce (key : String) (spec : ReadSpec) : Proc.Fallible (Client Λ) LinkError (Bytes × Reading) :=
  let mode : ReadMode := match spec.length with
    | some n => .length n
    | none => .terminated
  (Pool.perform key (.read mode)).andThen fun raw =>
    .done ((spec.type.convert raw).map fun value => (raw, value))

/-- Collects a response, trying as often as the policy allows. -/
def collect (key : String) (policy : RetryPolicy) (spec : ReadSpec) :
    Proc.Fallible (Client Λ) LinkError Received :=
  (policy.run (readOnce key spec)).andThen fun ((raw, value), attempts) =>
    .done (.ok ⟨spec.tag, responseText spec.type raw, value, attempts⟩)

/-- The exchange of a command with its interface: addresses the device, writes, then reads. -/
def exchange (e : Executor) (c : Command) (d : DeviceBinding) (text : Option String) (key : String) :
    Proc.Fallible (Client Λ) LinkError (Option Received) :=
  (select key d.address).andThen fun _ =>
  (if c.kind.writes then Pool.perform key (.writeString (text.getD "")) else .done (.ok ())).andThen fun _ =>
  match c.read with
  | none => .done (.ok none)
  | some spec =>
    (collect key (e.retry.withAttempts c.readAttempts) spec).andThen fun r => .done (.ok (some r))

/-- Clears a device; without bus calls nothing happens. -/
def clearDevice (e : Executor) (unit : String) : Proc.Fallible (Client Λ) LinkError Unit :=
  match e.device unit with
  | .error err => .done (.error err)
  | .ok d => Pool.withLease d.interface fun key =>
    ifOnBus key (Pool.perform key (.clearDevice d.address)) (.done (.ok ()))

/-- Clears the interface, or closes and opens it if it has no bus calls. -/
def resetInterface (name : String) : Proc.Fallible (Client Λ) LinkError Unit :=
  Pool.withLease name fun key =>
    ifOnBus key (Pool.perform key .reset)
      ((Pool.perform key .disconnect).andThen fun _ => Pool.perform key .connect)

/-- Triggers a device, which needs an address; without bus calls nothing happens. -/
def triggerDevice (e : Executor) (unit : String) : Proc.Fallible (Client Λ) LinkError Unit :=
  match e.device unit with
  | .error err => .done (.error err)
  | .ok d => Pool.withLease d.interface fun key =>
    ifOnBus key
      (match d.address with
        | some a => Pool.perform key (.trigger [a])
        | none => .done (.error .notConfigured))
      (.done (.ok ()))

/-! ## Steps -/

/-- what a step comes to: its result so far, and its failure if it failed -/
abbrev StepOutcome := StepResult × Option StepFailure

/-- the result of a step that has not done anything yet -/
def blank (index : Nat) (runId : String) (s : Step) : StepResult :=
  { index, runId, kind := s.kindName, unitId := s.unit? }

def commandText (c : Command) (b : Bindings) : Except RenderError (Option String) :=
  match c.instruction with
  | some i => (i.instruction.render i.arguments b.references).map some
  | none => .ok c.writeData

/-- the device and the text of a command -/
def prepare (e : Executor) (c : Command) (b : Bindings) : Except StepFailure (DeviceBinding × Option String) :=
  match e.device c.unit with
  | .error err => .error (.link err)
  | .ok d => match commandText c b with
    | .error err => .error (.render err)
    | .ok text => .ok (d, text)

def store : Option Received → Proc (Bench Λ × Run) Unit
  | some r => Run.bind fun b => b.setResponse r.tag r.text
  | none => .done ()

/-- the result of a step with what was received -/
def withReceived (r : StepResult) : Option Received → StepResult
  | some x =>
    { r with responseTag := some x.tag, rawValue := some x.text, value := some x.value, attempts := x.attempts }
  | none => r

def command (e : Executor) (c : Command) (r : StepResult) : Proc (Bench Λ × Run) StepOutcome :=
  (Proc.sleepIfAny c.delayBefore.ticks).bind fun _ =>
  Proc.get.bind fun s => match e.prepare c s.2.bindings with
    | .error f => .done (r, some f)
    | .ok (d, text) =>
      let r := { r with command := text }
      ((Pool.withLease d.interface (e.exchange c d text)).onPart Run.client).bind fun
        | .error err => .done (r, some (.link err))
        | .ok received =>
          (store received).bind fun _ =>
          (Proc.sleepIfAny c.delayAfter.ticks).bind fun _ => .done (withReceived r received, none)

def assign (name : String) (source : BoundInstruction) (r : StepResult) : Proc (Bench Λ × Run) StepOutcome :=
  Proc.get.bind fun s => match source.instruction.render source.arguments s.2.bindings.references with
    | .error err => .done (r, some (.render err))
    | .ok text =>
      (Run.bind fun b => b.setVariable name text).bind fun _ => .done ({ r with command := some text }, none)

/-- a step that only uses an interface -/
def linkStep (p : Proc.Fallible (Client Λ) LinkError Unit) (r : StepResult) : Proc (Bench Λ × Run) StepOutcome :=
  (p.onPart Run.client).bind fun
    | .ok () => .done (r, none)
    | .error err => .done (r, some (.link err))

def carryOut (e : Executor) (step : Step) (r : StepResult) : Proc (Bench Λ × Run) StepOutcome :=
  match step with
  | .command c => e.command c r
  | .setVariable name source => assign name source r
  | .delay d => (Proc.sleep d.ticks).bind fun _ => .done (r, none)
  | .resetDevice unit => linkStep (e.clearDevice unit) r
  | .resetInterface name => linkStep (resetInterface name) r
  | .trigger unit => linkStep (e.triggerDevice unit) r

/-- Carries out a step, unless the run is told to stop before it is done. -/
def carryOutUnlessStopped (e : Executor) (index : Nat) (step : Step) :
    Proc (Bench Λ × Run) (Option StepOutcome) :=
  Proc.get.bind fun s =>
    if Run.isStopped s then .done none
    else
      ((e.carryOut step (blank index s.2.id step)).bind fun o => .done (some o)).guarded Run.isStopped
        (Run.letGo.bind fun _ => .done none)

/-- the result of a step with the wording of its failure -/
def StepOutcome.result (o : StepOutcome) : StepResult := { o.1 with error := o.2.map StepFailure.message }

/-! ## Runs -/

/-- how far the steps of a plan came: the results, and why it was no further -/
structure Progress where
  results : List StepResult
  failure : Option Failure := none

/-- Carries out steps from a position on, and sends each result if they are not sent together. -/
def steps (e : Executor) (inBulk : Bool) : Nat → List Step → List StepResult → Proc (Bench Λ × Run) Progress
  | _, [], results => .done { results }
  | index, step :: rest, results =>
    (e.carryOutUnlessStopped index step).bind fun
      | none => .done { results, failure := some .cancelled }
      | some o =>
        let results := results ++ [StepOutcome.result o]
        (if inBulk then .done () else Run.send (.step (.step (StepOutcome.result o)))).bind fun _ =>
        match o.2 with
        | some cause =>
          if step.isFatal then .done { results, failure := some (.step index cause) }
          else e.steps inBulk (index + 1) rest results
        | none => e.steps inBulk (index + 1) rest results

/-- Sends all results together, unless the run was stopped. -/
def sendBatch (p : Progress) : Proc (Bench Λ × Run) Unit :=
  match p.failure with
  | some .cancelled => .done ()
  | _ => Run.send (.step (.batch p.results))

def execute (e : Executor) (p : Plan) : Proc.Fallible (Bench Λ × Run) Failure (List StepResult) :=
  Proc.get.bind fun s => match e.bind s.1.pool.contains p with
    | .error f => .done (.error f)
    | .ok () =>
      (e.steps p.respondInBulk 0 p.steps []).bind fun progress =>
      (if p.respondInBulk then sendBatch progress else .done ()).bind fun _ =>
      match progress.failure with
      | some f => .done (.error f)
      | none => .done (.ok progress.results)

end Executor

end CalBench
