/-
The bench.

What all runs share: the pool of interfaces, a stop signal for every run and what has been sent
downstream. A `Run` is one run's own part: its id, the number of its signal, the responses and
variables seen so far, and its place in the queue for an interface. A process of a run works on both.
-/
import CalBench.Instruction.Render
import CalBench.Measurement
import CalBench.Pool.Lease

namespace CalBench

/-- what is sent downstream while actions run -/
inductive RunOutput
  | step (e : RunEvent)
  | result (m : Measurement)
  | errorCheck (r : ErrorCheckReport)

/-- what all runs share -/
structure Bench (Λ : Type) where
  pool : Pool Λ := {}
  /-- for every run, whether it has been told to stop -/
  signals : List Bool := []
  outputs : List RunOutput := []

/-- a run's own part -/
structure Run where
  id : String
  /-- number of its stop signal -/
  signal : Nat
  bindings : Bindings := {}
  place : Option Place := none

namespace Bench

variable {Λ : Type}

/-- Adds a signal that is not raised; its number. -/
def newSignal (b : Bench Λ) : Bench Λ × Nat :=
  ({ b with signals := b.signals ++ [false] }, b.signals.length)

/-- Tells a run to stop. -/
def raise (signal : Nat) (b : Bench Λ) : Bench Λ := { b with signals := b.signals.set signal true }

/-- has a run been told to stop -/
def isRaised (b : Bench Λ) (signal : Nat) : Bool := b.signals[signal]?.getD false

def send (o : RunOutput) (b : Bench Λ) : Bench Λ := { b with outputs := b.outputs ++ [o] }

/-- the step events sent, in order -/
def events (b : Bench Λ) : List RunEvent :=
  b.outputs.filterMap fun o => match o with | .step e => some e | _ => none

end Bench

namespace Run

variable {Λ : Type}

/-- the run as a user of the pool -/
def client : Proc.Part (Bench Λ × Run) (Client Λ) where
  get s := ⟨s.1.pool, s.2.place⟩
  set c s := ({ s.1 with pool := c.pool }, { s.2 with place := c.place })

def isStopped (s : Bench Λ × Run) : Bool := s.1.isRaised s.2.signal

def send (o : RunOutput) : Proc (Bench Λ × Run) Unit := .update fun s => (s.1.send o, s.2)

/-- Changes the bindings of the run. -/
def bind (f : Bindings → Bindings) : Proc (Bench Λ × Run) Unit :=
  .update fun s => (s.1, { s.2 with bindings := f s.2.bindings })

/-- Gives back what the run has leased. -/
def letGo : Proc (Bench Λ × Run) Unit := Pool.giveBack.onPart client

end Run

def RunOutput.document (o : RunOutput) : Json :=
  let tagged (kind : String) (data : Json) : Json := .obj [("kind", .str kind), ("data", data)]
  match o with
  | .step e => tagged "step" e.document
  | .result m => tagged "result" m.document
  | .errorCheck r => tagged "errorCheck" (Codec.encode r)

end CalBench
