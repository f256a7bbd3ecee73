/-
Running actions from end to end.

A `Runner` drives a granted run: the sequence and error check nodes downstream of the action are
carried out in order, sequences compiled against the ticket of the run. A sequence that does not
compile, a failing step or a failing check halts the action; errors that a device reports are only
recorded. When all is done the action is completed, and the run's `RunReport` says what came of it.
-/
import CalBench.Procedure.Station
import CalBench.Run.ErrorCheck

namespace CalBench

open Json

/-- what a completed run produced, in the order in which it came about -/
structure RunReport where
  ticket : RunTicket
  steps : List StepResult := []
  results : List Measurement := []
  errorChecks : List ErrorCheckReport := []

def RunReport.document (r : RunReport) : Json :=
  record [
    field "payload" r.ticket,
    field "steps" r.steps,
    some ("results", .arr (r.results.map Measurement.document)),
    field "errorChecks" r.errorChecks]

/-- a procedure and what its sequences are compiled and executed with -/
structure Runner where
  procedure : Procedure
  executor : Executor
  catalog : Catalog
  /-- what fields bound to the environment stand for -/
  environment : Table String := .empty

namespace Runner

variable {Λ : Type}

/-- the station as seen from a run -/
def station : Proc.Part (Station Λ × Run) (Station Λ) := ⟨Prod.fst, fun s t => (s, t.2)⟩

/-- the bench as seen from a run -/
def bench : Proc.Part (Station Λ × Run) (Bench Λ × Run) :=
  ⟨fun t => (t.1.bench, t.2), fun b t => ({ t.1 with bench := b.1 }, b.2)⟩

/-- what the sequences of a run are compiled with: the message carries the run's ticket -/
def context (r : Runner) (t : RunTicket) : Context :=
  { message := record [field "payload" t], environment := r.environment }

variable [Link Λ]

/-- Halts the action of a run that has failed. -/
def abort {α : Type} (r : Runner) (g : Grant) (f : Failure) : Proc.Fallible (Station Λ × Run) Failure α :=
  ((Station.halt r.procedure g.node .stopped).onPart station).andThen fun _ => .done (.error f)

def send (outputs : List RunOutput) : Proc (Station Λ × Run) Unit :=
  .update fun s => (s.1.onBench fun b => { b with outputs := b.outputs ++ outputs }, s.2)

/-- the question that an error check node asks its device -/
def question (r : Runner) (n : Node) : Proc.Fallible (Bench Λ × Run) Failure ErrorCheckReport :=
  (r.executor.checkErrors (n.unitId.getD "") (n.checkKind.getD default)).onPart Run.client

/-- Goes on after an error check. -/
def concludeCheck (r : Runner) (g : Grant) (report : RunReport) :
    Except Failure ErrorCheckReport → Proc.Fallible (Station Λ × Run) Failure RunReport
  | .error f => r.abort g f
  | .ok c => (send [.errorCheck c]).bind fun _ => .done (.ok { report with errorChecks := report.errorChecks ++ [c] })

/-- Asks the device of an error check node for its errors. The signal of the run does not end that. -/
def check (r : Runner) (g : Grant) (n : Node) (report : RunReport) :
    Proc.Fallible (Station Λ × Run) Failure RunReport :=
  ((r.question n).onPart bench).bind (r.concludeCheck g report)

/-- Adds the results of a sequence and the measurements made from them. -/
def measure (g : Grant) (n : Node) (report : RunReport) (steps : List StepResult) :
    Proc.Fallible (Station Λ × Run) Failure RunReport :=
  let results := measurements (n.results.getD []) g.ticket steps
  (send (results.map RunOutput.result)).bind fun _ =>
    .done (.ok { report with steps := report.steps ++ steps, results := report.results ++ results })

/-- Goes on after a sequence. A run that has been stopped only ends; after any other failure its action is halted. -/
def conclude (r : Runner) (g : Grant) (n : Node) (report : RunReport) :
    Except Failure (List StepResult) → Proc.Fallible (Station Λ × Run) Failure RunReport
  | .error .cancelled => .done (.error .cancelled)
  | .error f => r.abort g f
  | .ok steps => measure g n report steps

/-- Compiles and executes the sequence of a node. Its events are passed on by a task of their own. However the sequence
has come out, the run waits for that task, and does not look at its signal again. -/
def execute (r : Runner) (g : Grant) (n : Node) (d : SequenceDocument) (report : RunReport) :
    Proc.Fallible (Station Λ × Run) Failure RunReport :=
  match d.compile r.catalog (r.context g.ticket) with
  | .error errors => r.abort g (.validation errors)
  | .ok plan =>
    ((r.executor.execute plan).onPart bench).bind fun outcome =>
      Proc.giveWay.bind fun _ => r.conclude g n report outcome

def carryOut (r : Runner) (g : Grant) (n : Node) (report : RunReport) :
    Proc.Fallible (Station Λ × Run) Failure RunReport :=
  if n.is .errorCheck then r.check g n report
  else match n.sequence? with
    | some d => r.execute g n d report
    | none => .done (.ok report)

def carryOutAll (r : Runner) (g : Grant) : List Nat → RunReport → Proc.Fallible (Station Λ × Run) Failure RunReport
  | [], report => .done (.ok report)
  | i :: rest, report =>
    (r.carryOut g (r.procedure.node i) report).andThen fun report => r.carryOutAll g rest report

def driveRun (r : Runner) (g : Grant) : Proc.Fallible (Station Λ × Run) Failure RunReport :=
  (r.carryOutAll g (r.procedure.work g.node) { ticket := g.ticket }).andThen fun report =>
  ((Station.completed r.procedure g.ticket).onPart station).andThen fun _ => .done (.ok report)

/-- Carries a run out to its end, as a process on the station. -/
def drive (r : Runner) (g : Grant) : Proc.Fallible (Station Λ) Failure RunReport :=
  ((r.driveRun g).within { id := g.ticket.runId, signal := g.signal }).bind fun (outcome, _) => .done outcome

/-- Starts the action that a request names and carries its run out to the end. -/
def run (r : Runner) (fresh : String) (request : TriggerRequest) : Proc.Fallible (Station Λ) Failure RunReport :=
  if request.kind = .start then
    (Station.apply r.procedure fresh request).andThen fun
      | some g => r.drive g
      | none => .done (.error (.configuration "start request granted no run"))
  else .done (.error (.configuration s!"'{request.kind.name}' request does not start a run"))

end Runner

end CalBench
