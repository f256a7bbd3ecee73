/-
A run cleans up after itself, and its report is what its nodes have come to.

The nodes of a run are carried out in order, each in the state in which the one before has left the station:
`CarriedOut` says what one of them adds to the report, `Traversed` what several do. A node may fail instead (`Failed`):
a sequence that does not compile, that cannot be bound or of which a step fails, or an error check without an answer.
Then the action is halted, and the nodes after it are not carried out (`BrokenOff`).

Results:
- `carryOut_ends`: a node is carried out, or fails and the action has been halted;
- `carryOutAll_ends`: so do several nodes, up to the first one that fails;
- `Traversed.checks`: there is one report for every error check node, in order;
- `run_cleans_up`: a run that is granted while no other is going on ends; then its action has no run, the run has been
  told to stop, and all interfaces are disabled, closed and without a resource.
Witness `checked_run_completes`: a sequence and an error check.
-/
import CalBench.Link.Emulated
import CalBench.Proofs.Procedure.Solitary
import CalBench.Proofs.Procedure.StoppedRun
import CalBench.Proofs.Run.ErrorChecks
import CalBench.Proofs.Run.FailurePolicy

namespace CalBench

open Proc

variable {Λ : Type} [Link Λ] {ok : Λ → Prop}

/-! ## What runs keep -/

namespace Run

/-- the interfaces stay registered, and no signal changes -/
structure Keeping (ok : Λ → Prop) (s t : Bench Λ × Run) : Prop extends SameSignals s t where
  registered : s.1.pool.Registered ok → t.1.pool.Registered ok

omit [Link Λ] in
theorem Keeping.refl (s : Bench Λ × Run) : Keeping ok s s := ⟨.refl s, fun h => h⟩

omit [Link Λ] in
theorem Keeping.trans {s t u : Bench Λ × Run} (h : Keeping ok s t) (h' : Keeping ok t u) : Keeping ok s u :=
  ⟨⟨h'.signals.trans h.signals, h'.own.trans h.own⟩, h'.registered ∘ h.registered⟩

theorem allows_keeping (stays : ∀ c l, ok l → ok (Link.call c l).link) : Allows (Keeping (Λ := Λ) ok) where
  refl := .refl
  uses _ _ h := ⟨⟨rfl, rfl⟩, h.registered stays⟩
  binds _ _ := ⟨⟨rfl, rfl⟩, fun h => h⟩

omit [Link Λ] in
/-- what each change keeps is kept to the end -/
theorem Keeping.of_finished {α : Type} {p : Proc (Bench Λ × Run) α} (hp : p.Makes (Keeping ok)) {s t : Bench Λ × Run}
    {n : Nat} {a : α} (h : p.alone s = .finished t n a) : Keeping ok s t :=
  hp.of_finished Keeping.refl (fun _ _ _ => Keeping.trans) h

end Run

/-! ## What nodes come to -/

structure Contribution where
  steps : List StepResult := []
  results : List Measurement := []
  errorChecks : List ErrorCheckReport := []

namespace RunReport

def add (report : RunReport) (c : Contribution) : RunReport :=
  { report with
    steps := report.steps ++ c.steps
    results := report.results ++ c.results
    errorChecks := report.errorChecks ++ c.errorChecks }

def addAll (report : RunReport) (cs : List Contribution) : RunReport :=
  { report with
    steps := report.steps ++ cs.flatMap Contribution.steps
    results := report.results ++ cs.flatMap Contribution.results
    errorChecks := report.errorChecks ++ cs.flatMap Contribution.errorChecks }

theorem addAll_nil (report : RunReport) : report.addAll [] = report := by simp [addAll]

theorem add_addAll (report : RunReport) (c : Contribution) (cs : List Contribution) :
    (report.add c).addAll cs = report.addAll (c :: cs) := by simp [addAll, add]

end RunReport

namespace Runner

open Station

def sent (outputs : List RunOutput) (x : Station Λ × Run) : Station Λ × Run :=
  (x.1.onBench fun b => { b with outputs := b.outputs ++ outputs }, x.2)

/-- carrying out a node leads from one state to another and adds something to the report -/
inductive CarriedOut (r : Runner) (g : Grant) (n : Node) (x : Station Λ × Run) :
    Contribution → Station Λ × Run → Prop
  | check (c : ErrorCheckReport) (m : Bench Λ × Run) (ticks : Nat) (hn : n.is .errorCheck = true)
      (h : (r.question n).alone (bench.get x) = .finished m ticks (.ok c)) :
      CarriedOut r g n x { errorChecks := [c] } (sent [.errorCheck c] (bench.set m x))
  | sequence (d : SequenceDocument) (plan : Plan) (steps : List StepResult) (m : Bench Λ × Run) (ticks : Nat)
      (hn : n.is .errorCheck = false) (hd : n.sequence? = some d)
      (hplan : d.compile r.catalog (r.context g.ticket) = .ok plan)
      (h : (r.executor.execute plan).alone (bench.get x) = .finished m ticks (.ok steps)) :
      CarriedOut r g n x { steps, results := measurements (n.results.getD []) g.ticket steps }
        (sent ((measurements (n.results.getD []) g.ticket steps).map RunOutput.result) (bench.set m x))
  /-- a node without a sequence is passed over -/
  | nothing (hn : n.is .errorCheck = false) (hd : n.sequence? = none) : CarriedOut r g n x {} x

/-- carrying out a node has failed, and has left the bench and the run so -/
inductive Failed (r : Runner) (g : Grant) (n : Node) (x : Station Λ × Run) : Failure → Bench Λ × Run → Prop
  | check (f : Failure) (m : Bench Λ × Run) (ticks : Nat) (hn : n.is .errorCheck = true)
      (h : (r.question n).alone (bench.get x) = .finished m ticks (.error f)) : Failed r g n x f m
  | compile (d : SequenceDocument) (errors : List ValidationError) (hn : n.is .errorCheck = false)
      (hd : n.sequence? = some d) (h : d.compile r.catalog (r.context g.ticket) = .error errors) :
      Failed r g n x (.validation errors) (bench.get x)
  | sequence (d : SequenceDocument) (plan : Plan) (f : Failure) (m : Bench Λ × Run) (ticks : Nat)
      (hn : n.is .errorCheck = false) (hd : n.sequence? = some d)
      (hplan : d.compile r.catalog (r.context g.ticket) = .ok plan)
      (h : (r.executor.execute plan).alone (bench.get x) = .finished m ticks (.error f)) : Failed r g n x f m

inductive Traversed (r : Runner) (g : Grant) :
    List Nat → Station Λ × Run → List Contribution → Station Λ × Run → Prop
  | nil (x : Station Λ × Run) : Traversed r g [] x [] x
  | cons {i : Nat} {rest : List Nat} {x y z : Station Λ × Run} {c : Contribution} {cs : List Contribution}
      (h : CarriedOut r g (r.procedure.node i) x c y) (hrest : Traversed r g rest y cs z) :
      Traversed r g (i :: rest) x (c :: cs) z

/-- nodes are carried out up to one that fails; none after it is -/
inductive BrokenOff (r : Runner) (g : Grant) : List Nat → Station Λ × Run → Failure → Bench Λ × Run → Prop
  | here {i : Nat} {rest : List Nat} {x : Station Λ × Run} {f : Failure} {m : Bench Λ × Run}
      (h : Failed r g (r.procedure.node i) x f m) : BrokenOff r g (i :: rest) x f m
  | later {i : Nat} {rest : List Nat} {x y : Station Λ × Run} {c : Contribution} {f : Failure} {m : Bench Λ × Run}
      (h : CarriedOut r g (r.procedure.node i) x c y) (hrest : BrokenOff r g rest y f m) :
      BrokenOff r g (i :: rest) x f m

section Reports

variable {r : Runner} {g : Grant} {x y : Station Λ × Run}

/-- what an error check node asks for, of which unit -/
def asked (n : Node) : String × ErrorCheckKind := (n.unitId.getD "", n.checkKind.getD default)

/-- what a report of errors is about -/
def about (c : ErrorCheckReport) : String × ErrorCheckKind := (c.unitId, c.kind)

/-- an error check node adds the report that it asks for, and any other node none -/
theorem CarriedOut.checks {n : Node} {c : Contribution} (h : CarriedOut r g n x c y) :
    c.errorChecks.map about = if n.is .errorCheck then [asked n] else [] := by
  cases h with
  | check c m ticks hn h =>
    have hyields : (r.question n).Yields Eq (bench.get x) m (.ok c) := yields_of_alone (fun _ => rfl) h
    obtain ⟨hunit, hkind⟩ := hyields.returns (returns_onPart (r.executor.checkErrors_succeeds _ _)) c rfl
    rw [hn, if_pos rfl, List.map_singleton, about, hunit, hkind, asked]
  | sequence d plan steps m ticks hn => rw [hn]; rfl
  | nothing hn => rw [hn]; rfl

/-- **One report for every error check node, in order** -/
theorem Traversed.checks {l : List Nat} {cs : List Contribution} (h : Traversed r g l x cs y) :
    (cs.flatMap Contribution.errorChecks).map about =
      ((l.map r.procedure.node).filter (·.is .errorCheck)).map asked := by
  induction h with
  | nil => rfl
  | cons h _ ih =>
    rw [List.flatMap_cons, List.map_append, h.checks, ih, List.map_cons, List.filter_cons]
    split <;> rfl

end Reports

/-! ## The nodes of a run -/

section Nodes

variable {r : Runner} {g : Grant} {x : Station Λ × Run}

omit [Link Λ] in
theorem bench_lawful : (bench (Λ := Λ)).Lawful := ⟨fun _ _ => rfl, fun _ _ _ => rfl, fun _ => rfl⟩

omit [Link Λ] in
theorem station_lawful : (station (Λ := Λ)).Lawful := ⟨fun _ _ => rfl, fun _ _ _ => rfl, fun _ => rfl⟩

/-- the run of a grant is going on, and nothing else -/
structure Underway (ok : Λ → Prop) (r : Runner) (g : Grant) (x : Station Λ × Run) : Prop
    extends Solitary ok r.procedure g x.1 where
  signal : x.2.signal = g.signal

namespace Underway

omit [Link Λ] in
theorem unstopped (h : Underway ok r g x) : Run.isStopped (bench.get x) = false := by
  have hraised := h.toSolitary.unsignalled
  rw [← h.signal] at hraised
  exact hraised

omit [Link Λ] in
theorem onBench (h : Underway ok r g x) {m : Bench Λ × Run} (hm : Run.Keeping ok (bench.get x) m)
    (hidle : Run.PoolIdle m) : Underway ok r g (bench.set m x) where
  toSolitary := h.toSolitary.sameRuns ⟨rfl, hm.signals⟩ ⟨hm.registered h.registered, hidle⟩
  signal := hm.own.trans h.signal

omit [Link Λ] in
theorem sent (h : Underway ok r g x) (outputs : List RunOutput) : Underway ok r g (sent outputs x) where
  toSolitary := h.toSolitary.sameRuns ⟨rfl, rfl⟩ ⟨h.registered, h.idle⟩
  signal := h.signal

end Underway

theorem question_ends (closing : Link.Closing ok) (h : Underway ok r g x) (n : Node) :
    (r.question n).Ends (bench.get x) fun m _ => Underway ok r g (bench.set m x) := by
  have hpart : (Run.client (Λ := Λ)).Lawful := Run.client_lawful
  obtain ⟨m, k, a, hm, hidle⟩ : (r.question n).Ends (bench.get x) fun m _ => Run.PoolIdle m :=
    Ends.onPart hpart (r.executor.checkErrors_ends _ _ h.idle)
  have hmakes : (r.question (Λ := Λ) n).Makes (Run.Keeping ok) :=
    (Run.allows_keeping closing.stays).client (r.executor.checkErrors_uses _ _)
  exact ⟨m, k, a, hm, h.onBench (.of_finished hmakes hm) hidle⟩

/-- a sequence ends, and not as cancelled, since nobody stops the run -/
theorem executed_ends (closing : Link.Closing ok) (h : Underway ok r g x) (plan : Plan) :
    (r.executor.execute plan).Ends (bench.get x) fun m a =>
      a ≠ .error .cancelled ∧ Underway ok r g (bench.set m x) := by
  obtain ⟨m, k, a, hm, hidle⟩ := r.executor.execute_ends plan (s := bench.get x) h.idle h.unstopped
  have hmakes : (r.executor.execute (Λ := Λ) plan).Makes (Run.Keeping ok) :=
    Executor.execute_changes (Run.allows_keeping closing.stays) (fun _ _ => ⟨⟨rfl, rfl⟩, fun h => h⟩) r.executor plan
  refine ⟨m, k, a, hm, ?_, h.onBench (.of_finished hmakes hm) hidle⟩
  rintro rfl
  cases Executor.outcome_alone h.unstopped hm with
  | refused _ _ hf => rcases hf with ⟨_, hf⟩ | ⟨_, hf⟩ <;> cases hf

inductive NodeEnd (ok : Λ → Prop) (r : Runner) (g : Grant) (n : Node) (report : RunReport) (x y : Station Λ × Run) :
    Except Failure RunReport → Prop
  | carriedOut (c : Contribution) (h : CarriedOut r g n x c y) (hrun : Underway ok r g y) :
      NodeEnd ok r g n report x y (.ok (report.add c))
  | failed (f : Failure) (m : Bench Λ × Run) (h : Failed r g n x f m)
      (hended : Ended ok r.procedure g .stopped m.1.pool y.1) : NodeEnd ok r g n report x y (.error f)

/-- **A run of which a node fails is halted** -/
theorem abort_ends (closing : Link.Closing ok) {n : Node} {f : Failure} {m : Bench Λ × Run}
    (h : Underway ok r g (bench.set m x)) (hf : Failed r g n x f m) (report : RunReport) :
    (r.abort g f).Ends (bench.set m x) (NodeEnd ok r g n report x) := by
  refine ends_bind (Ends.onPart station_lawful ((halt_ends closing h.toSolitary (by decide)).mono fun t a ha => ?_))
  obtain ⟨rfl, hended⟩ := ha
  exact ends_done (.failed f m hf hended)

theorem check_ends (closing : Link.Closing ok) (h : Underway ok r g x) {n : Node} (hn : n.is .errorCheck = true)
    (report : RunReport) : (r.check g n report).Ends x (NodeEnd ok r g n report x) := by
  obtain ⟨m, k, a, hm, hrun⟩ := question_ends closing h n
  refine ends_bind (Ends.onPart bench_lawful ⟨m, k, a, hm, ?_⟩)
  cases a with
  | error f => exact abort_ends closing hrun (.check f m k hn hm) report
  | ok c =>
    have hadd : { report with errorChecks := report.errorChecks ++ [c] } = report.add { errorChecks := [c] } := by
      simp [RunReport.add]
    refine ⟨_, 0, _, rfl, ?_⟩
    rw [hadd]
    exact .carriedOut _ (.check c m k hn hm) (hrun.sent _)

theorem execute_ends (closing : Link.Closing ok) (h : Underway ok r g x) {n : Node} (hn : n.is .errorCheck = false)
    {d : SequenceDocument} (hd : n.sequence? = some d) (report : RunReport) :
    (r.execute g n d report).Ends x (NodeEnd ok r g n report x) := by
  unfold execute
  cases hplan : d.compile r.catalog (r.context g.ticket) with
  | error errors => exact abort_ends closing (m := bench.get x) h (.compile d errors hn hd hplan) report
  | ok plan =>
    obtain ⟨m, k, a, hm, hcancelled, hrun⟩ := executed_ends closing h plan
    refine ends_bind (Ends.onPart bench_lawful ⟨m, k, a, hm, ends_giveWay_bind ?_⟩)
    unfold conclude
    split
    · exact absurd rfl hcancelled
    · rename_i f _
      exact abort_ends closing hrun (.sequence d plan f m k hn hd hplan hm) report
    · rename_i steps
      refine ⟨_, 0, _, rfl, ?_⟩
      have hadd : { report with
            steps := report.steps ++ steps
            results := report.results ++ measurements (n.results.getD []) g.ticket steps } =
          report.add { steps, results := measurements (n.results.getD []) g.ticket steps } := by
        simp [RunReport.add]
      rw [hadd]
      exact .carriedOut _ (.sequence d plan steps m k hn hd hplan hm) (hrun.sent _)

/-- **A node is carried out, or fails and its action has been halted** -/
theorem carryOut_ends (closing : Link.Closing ok) (h : Underway ok r g x) (n : Node) (report : RunReport) :
    (r.carryOut g n report).Ends x (NodeEnd ok r g n report x) := by
  unfold carryOut
  split
  · rename_i hn
    exact check_ends closing h hn report
  · rename_i hn
    rw [Bool.not_eq_true] at hn
    split
    · rename_i d hd
      exact execute_ends closing h hn hd report
    · rename_i hd
      have hadd : report = report.add {} := by simp [RunReport.add]
      refine ends_done ?_
      nth_rewrite 2 [hadd]
      exact .carriedOut {} (.nothing hn hd) h

inductive NodesEnd (ok : Λ → Prop) (r : Runner) (g : Grant) (l : List Nat) (report : RunReport)
    (x y : Station Λ × Run) : Except Failure RunReport → Prop
  | traversed (cs : List Contribution) (h : Traversed r g l x cs y) (hrun : Underway ok r g y) :
      NodesEnd ok r g l report x y (.ok (report.addAll cs))
  | brokenOff (f : Failure) (m : Bench Λ × Run) (h : BrokenOff r g l x f m)
      (hended : Ended ok r.procedure g .stopped m.1.pool y.1) : NodesEnd ok r g l report x y (.error f)

/-- **Nodes are carried out up to the first one that fails**, after which the action has been halted -/
theorem carryOutAll_ends (closing : Link.Closing ok) (h : Underway ok r g x) (l : List Nat) (report : RunReport) :
    (r.carryOutAll g l report).Ends x (NodesEnd ok r g l report x) := by
  -- a node that is carried out leaves the run underway, which is all that the rest relies on
  induction l generalizing x report with
  | nil =>
    refine ends_done ?_
    nth_rewrite 2 [← report.addAll_nil]
    exact .traversed [] (.nil x) h
  | cons i rest ih =>
    refine ends_bind ((carryOut_ends closing h (r.procedure.node i) report).mono fun y a hnode => ?_)
    cases hnode with
    | carriedOut c hc hrun =>
      refine (ih hrun (report.add c)).mono fun z a hrest => ?_
      cases hrest with
      | traversed cs hcs hrun' =>
        rw [RunReport.add_addAll]
        exact .traversed (c :: cs) (.cons hc hcs) hrun'
      | brokenOff f m hf hended => exact .brokenOff f m (.later hc hf) hended
    | failed f m hf hended => exact ends_done (.brokenOff f m (.here hf) hended)

end Nodes

/-! ## A run from its start to its end -/

/-- the state in which an action is left by a run with an outcome -/
def finalState : Except Failure RunReport → ActionState
  | .ok _ => .completed
  | .error _ => .stopped

/-- what the nodes of a run from `x` on have come to, and how the pool has got from there to `q` -/
inductive Accounted (r : Runner) (g : Grant) (x : Station Λ × Run) (q : Pool Λ) : Except Failure RunReport → Prop
  /-- the report is made up of what the nodes add to it, in order -/
  | completed (cs : List Contribution) (y : Station Λ × Run) (h : Traversed r g (r.procedure.work g.node) x cs y)
      (hchecks : (cs.flatMap Contribution.errorChecks).map about =
        (((r.procedure.work g.node).map r.procedure.node).filter (·.is .errorCheck)).map asked)
      (hcalls : y.1.bench.pool.Records (· = .disconnect) q) :
      Accounted r g x q (.ok {
        ticket := g.ticket
        steps := cs.flatMap Contribution.steps
        results := cs.flatMap Contribution.results
        errorChecks := cs.flatMap Contribution.errorChecks })
  /-- there are no calls after the node that has failed, but to disconnect -/
  | failed (f : Failure) (m : Bench Λ × Run) (h : BrokenOff r g (r.procedure.work g.node) x f m)
      (hcalls : m.1.pool.Records (· = .disconnect) q) : Accounted r g x q (.error f)

variable {r : Runner} {g : Grant}

/-- the drive of the only run ends -/
theorem drive_ends (closing : Link.Closing ok) {s : Station Λ} (h : Solitary ok r.procedure g s) :
    (r.drive g).Ends s fun t outcome => ∃ q, Ended ok r.procedure g (finalState outcome) q t ∧
      Accounted r g (s, { id := g.ticket.runId, signal := g.signal }) t.bench.pool outcome := by
  have hrun : Underway ok r g (s, { id := g.ticket.runId, signal := g.signal }) := ⟨h, rfl⟩
  refine ends_bind (Ends.within (ends_bind ((carryOutAll_ends closing hrun _ _).mono fun y a hnodes => ?_)))
  -- a run that has failed has been halted already; any other one is completed now
  cases hnodes with
  | traversed cs hcs hrun' =>
    have hcompleted := completed_ends closing hrun'.toSolitary
    refine ends_bind (Ends.onPart station_lawful (hcompleted.mono fun t x ht => ?_))
    obtain ⟨rfl, hended⟩ := ht
    exact ends_done (ends_done ⟨_, hended, .completed cs y hcs hcs.checks hended.calls⟩)
  | brokenOff f m hf hended => exact ends_done (ends_done ⟨_, hended, .failed f m hf hended.calls⟩)

/-- once a run has been granted, what is left is its drive -/
theorem run_granted {fresh : String} {request : TriggerRequest} {s t : Station Λ} {n : Nat}
    (hkind : request.kind = .start)
    (hgrant : (Station.apply r.procedure fresh request).alone s = .finished t n (.ok (some g))) :
    (r.run fresh request).alone s = ((r.drive g).alone t).after n := by
  rw [run, if_pos hkind]
  exact alone_bind_of_finished hgrant _

/-- **A run cleans up after itself.** A run that is granted while no action is running, and that nobody interferes
with, ends. Then its action has no run, the run has been told to stop, all interfaces are disabled, closed and without
a resource, and the action is completed or stopped, as the run has succeeded or failed. Its report is made up of what
its nodes have added to it, in order; or a node has failed, and after it there are no calls but to disconnect. -/
theorem run_cleans_up (closing : Link.Closing ok) (r : Runner) (fresh : String) (request : TriggerRequest)
    {s s₁ : Station Λ} {g : Grant} {n : Nat} (hrest : Resting ok r.procedure s)
    (hgrant : (Station.apply r.procedure fresh request).alone s = .finished s₁ n (.ok (some g))) :
    (r.run fresh request).Ends s fun t outcome =>
      t.activeRun g.node = none ∧ t.bench.isRaised g.signal = true ∧ t.bench.pool.Off ∧
      t.stateOf g.node = finalState outcome ∧ Resting ok r.procedure t ∧
      Accounted r g (s₁, { id := g.ticket.runId, signal := g.signal }) t.bench.pool outcome := by
  obtain ⟨hkind, hrun⟩ := hrest.applied hgrant
  obtain ⟨t, k, outcome, hdrive, q, hended, hnodes⟩ := drive_ends closing hrun
  refine ⟨t, n + k, outcome, by rw [run_granted hkind hgrant, hdrive]; rfl, ?_⟩
  exact ⟨hended.rest.none _, hended.raised, hended.off, hended.state, hended.rest, hnodes⟩

/-! ## A sequence and an error check -/

omit [Link Λ]

/-- an action that writes one command and then asks the device for its errors -/
def checked : Runner where
  procedure := ⟨[
    { id := "s1", type := NodeType.sectionConfiguration.name, name := "DC", shortName := some "dcv" },
    { id := "a1", type := NodeType.actionStart.name, name := "Verify", sectionId := some "s1", wires := [["q1"]] },
    { id := "q1", type := NodeType.commandSequence.name, wires := [["chk"]], operations := some [
      { kind := some "command", unitId := ⟨some (.str "DMM1"), .literal⟩, commandType := some "write"
        writeData := ⟨some (.str "*RST"), .literal⟩ }] },
    { id := "chk", type := NodeType.errorCheck.name, unitId := some "DMM1", checkKind := some .scpi }]⟩
  executor := .ofBindings [⟨"DMM1", "bench", some 3⟩] {}
  catalog := .ofLibrary {}

/-- a device without errors, on an interface that is disabled -/
def calmPool : Pool Emulated :=
  (Pool.register {} { name := "bench", responder := .fixed "0,\"No error\"" }).toOption.getD {}

def beforehand : Station Emulated := ofProcedure checked.procedure { pool := calmPool }

def verify : TriggerRequest := { kind := .start, runId := some "r1", sectionName := "DCV", action := "verify" }

def verifyRun : Grant := ⟨1, ⟨"", "r1", "dcv", "Verify"⟩, 0⟩

theorem beforehand_resting : Resting (fun _ => True) checked.procedure beforehand := by
  have hregister : Pool.register ({} : Pool Emulated) { name := "bench", responder := .fixed "0,\"No error\"" } =
      .ok calmPool := rfl
  exact (begun_ofProcedure checked.procedure { pool := calmPool }).resting
    (Pool.registered_empty.register hregister trivial) (idle_register hregister fun _ => rfl)

theorem checked_work : checked.procedure.work 1 = [2, 3] := by
  have hfirst : checked.procedure.targets 1 = [2] := by decide +kernel
  have hnext : checked.procedure.targets 2 = [3] := by decide +kernel
  have hlast : checked.procedure.targets 3 = [] := by decide +kernel
  have hvisit : (checked.procedure.visit [1] [2]).1 = [2, 3] := by
    rw [Procedure.visit, dif_pos (by decide), hnext, List.append_nil, Procedure.visit, dif_pos (by decide), hlast,
      List.append_nil, Procedure.visit]
  rw [Procedure.work, Procedure.downstream, Procedure.connected, hfirst]
  exact (congrArg (List.filter _) hvisit).trans (by decide +kernel)

def tally : Except Failure RunReport → Option (Nat × Nat)
  | .ok report => some (report.steps.length, report.errorChecks.length)
  | .error _ => none

/-- what comes of the run once it has been granted -/
theorem checked_drive : (((checked.drive verifyRun).alone
    ((Station.apply checked.procedure "" verify).alone beforehand).state).result?.bind tally) = some (1, 1) := by
  rw [drive, driveRun, show verifyRun.node = 1 from rfl, checked_work]
  decide +kernel

/-- **A run of a sequence and an error check completes** with a report on either, and leaves nothing behind -/
theorem checked_run_completes :
    Resting (fun _ => True) checked.procedure beforehand ∧
    ∃ t n report, (checked.run "" verify).alone beforehand = .finished t n (.ok report) ∧
      (report.steps.length, report.errorChecks.length) = (1, 1) ∧ t.activeRun 1 = none ∧ t.stateOf 1 = .completed ∧
      t.bench.isRaised 0 = true ∧ t.bench.pool.Off := by
  have hresult : ((Station.apply checked.procedure "" verify).alone beforehand).result? =
      some (.ok (some verifyRun)) := by decide +kernel
  obtain ⟨s₁, k, hgrant⟩ := Ending.finished_of_result hresult
  obtain ⟨t, n, outcome, hrun, hnone, hraised, hoff, hstate, -, -⟩ :=
    run_cleans_up tidy_emulated.closing checked "" verify beforehand_resting hgrant
  obtain ⟨n', hdrive, -⟩ := Ending.after_eq_finished ((run_granted rfl hgrant).symm.trans hrun)
  have htally := checked_drive
  rw [hgrant, Ending.state, hdrive] at htally
  cases outcome with
  | error f => cases htally
  | ok report => exact ⟨beforehand_resting, t, n, report, hrun, Option.some.inj htally, hnone, hstate, hraised, hoff⟩

end Runner

end CalBench
