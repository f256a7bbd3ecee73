/-
What one step comes to.

A step is a process with many points of failure. `ComesTo` lists once and for all what can come of it: its outcome and
what it has done to the bindings of the run, by the kind of step and the point it reached. Everything that is said
about whole runs is derived from this list, whatever others do to the bench in the meantime (`Run.Amid`).

Results:
- `carryOut_keeps`: a step touches the pool, its own place in a queue and the bindings, nothing else;
- `carryOut_comesTo`: every execution of a step is on the list;
- `ComesTo.bindings_of_failed`: a failed step leaves the bindings as they were;
- `ComesTo.stored`, `ComesTo.grows`: a successful read has stored its response, and none is ever lost;
- `carryOut_ends`: in an idle pool every step ends, and the pool is idle again.
-/
import CalBench.Run.Executor
import CalBench.Proofs.Instruction.Unresolved
import CalBench.Proofs.Pool.Lease
import CalBench.Proofs.Process.Among
import CalBench.Proofs.Sequence.TagOrder

namespace CalBench

variable {Λ α : Type}

namespace Run

/-- others may change the bench, but not the run's own part -/
def Amid (others : Bench Λ → Bench Λ → Prop) (s t : Bench Λ × Run) : Prop := others s.1 t.1 ∧ t.2 = s.2

/-- the run has not been told to stop, and the others do not tell it -/
structure Unstopped (others : Bench Λ → Bench Λ → Prop) (s : Bench Λ × Run) : Prop where
  now : isStopped s = false
  later : ∀ b b', others b b' → b'.isRaised s.2.signal = b.isRaised s.2.signal

/-- the condition does not depend on the pool, the place in a queue or the bindings -/
structure Stable (I : Bench Λ × Run → Prop) : Prop where
  client : ∀ c s, I s → I (client.set c s)
  bindings : ∀ (f : Bindings → Bindings) s, I s → I (s.1, { s.2 with bindings := f s.2.bindings })

def PoolIdle (s : Bench Λ × Run) : Prop := s.1.pool.Idle

theorem client_lawful : (client (Λ := Λ)).Lawful := ⟨fun _ _ => rfl, fun _ _ _ => rfl, fun _ => rfl⟩

end Run

/-- the bindings after a response, if there is one -/
def Received.storedIn (b : Bindings) : Option Received → Bindings
  | some r => b.setResponse r.tag r.text
  | none => b

namespace Executor

/-! ## What a step touches -/

theorem store_instant (received : Option Received) : (store (Λ := Λ) received).Instant fun s =>
    (s.1, { s.2 with bindings := Received.storedIn s.2.bindings received }) := by
  cases received with
  | none => exact .none
  | some r => exact .change _

theorem linkStep_keeps {I : Bench Λ × Run → Prop} (hI : ∀ c s, I s → I (Run.client.set c s))
    (p : Proc.Fallible (Client Λ) LinkError Unit) (r : StepResult) : (linkStep p r).Keeps I := by
  refine Proc.keeps_bind (Proc.keeps_onPart hI p) fun x => ?_
  cases x <;> trivial

/-- **A step touches the pool, the run's place in a queue and the bindings**, and nothing else -/
theorem carryOut_keeps [Link Λ] {I : Bench Λ × Run → Prop} (hI : Run.Stable I) (e : Executor) (step : Step)
    (r : StepResult) : (e.carryOut (Λ := Λ) step r).Keeps I := by
  cases step with
  | command c =>
    refine Proc.keeps_bind (Proc.keeps_sleepIfAny I _) fun _ => Proc.keeps_get_bind fun s _ => ?_
    split
    · trivial
    · refine Proc.keeps_bind (Proc.keeps_onPart hI.client _) fun x => ?_
      cases x with
      | error err => trivial
      | ok received =>
        have hstore := (store_instant received).keeps (hI.bindings fun b => Received.storedIn b received)
        exact Proc.keeps_bind hstore fun _ => Proc.keeps_bind (Proc.keeps_sleepIfAny I _) fun _ => trivial
  | setVariable name source =>
    refine Proc.keeps_get_bind fun s _ => ?_
    split
    · trivial
    · exact Proc.keeps_bind (Proc.keeps_update (hI.bindings fun b => b.setVariable name _)) fun _ => trivial
  | delay d => exact Proc.keeps_bind (Proc.keeps_sleep I _) fun _ => trivial
  | resetDevice unit => exact linkStep_keeps hI.client _ r
  | resetInterface name => exact linkStep_keeps hI.client _ r
  | trigger unit => exact linkStep_keeps hI.client _ r

/-! ## What a step comes to -/

/-- what can come of a step with some bindings: its outcome and the bindings after it -/
inductive ComesTo (e : Executor) (r : StepResult) (b : Bindings) : Step → StepOutcome → Bindings → Prop
  | unprepared (c : Command) (f : StepFailure) (h : e.prepare c b = .error f) :
      ComesTo e r b (.command c) (r, some f) b
  | unanswered (c : Command) (d : DeviceBinding) (text : Option String) (err : LinkError)
      (h : e.prepare c b = .ok (d, text)) : ComesTo e r b (.command c) ({ r with command := text }, some (.link err)) b
  | answered (c : Command) (d : DeviceBinding) (text : Option String) (received : Option Received)
      (h : e.prepare c b = .ok (d, text)) (ht : received.map Received.tag = c.read.map ReadSpec.tag) :
      ComesTo e r b (.command c) (withReceived { r with command := text } received, none)
        (Received.storedIn b received)
  | unassigned (name : String) (source : BoundInstruction) (err : RenderError)
      (h : source.instruction.render source.arguments b.references = .error err) :
      ComesTo e r b (.setVariable name source) (r, some (.render err)) b
  | assigned (name : String) (source : BoundInstruction) (text : String)
      (h : source.instruction.render source.arguments b.references = .ok text) :
      ComesTo e r b (.setVariable name source) ({ r with command := some text }, none) (b.setVariable name text)
  /-- any other step succeeds -/
  | passed (s : Step) (hs : s.isFatal = false) : ComesTo e r b s (r, none) b
  /-- any other step fails -/
  | missed (s : Step) (err : LinkError) (hs : s.isFatal = false) : ComesTo e r b s (r, some (.link err)) b

section Parts

variable {others : Bench Λ → Bench Λ → Prop} {s t : Bench Λ × Run}

/-- a process that leaves the bindings alone leaves them as they were -/
theorem bindings_eq {p : Proc (Bench Λ × Run) α} {a : α} (h : p.Yields (Run.Amid others) s t a)
    (hp : p.Keeps fun x => x.2.bindings = s.2.bindings) : t.2.bindings = s.2.bindings :=
  h.keeps hp (fun _ _ ho hx => (congrArg Run.bindings ho.2).trans hx) rfl

theorem bindings_onPart {p : Proc (Client Λ) α} {a : α} (h : (p.onPart Run.client).Yields (Run.Amid others) s t a) :
    t.2.bindings = s.2.bindings :=
  bindings_eq h (Proc.keeps_onPart (fun _ _ hx => hx) p)

theorem bindings_sleepIfAny {ticks : Nat} (h : (Proc.sleepIfAny ticks).Yields (Run.Amid others) s t ()) :
    t.2.bindings = s.2.bindings :=
  bindings_eq h (Proc.keeps_sleepIfAny _ ticks)

theorem assign_comesTo {e : Executor} {r : StepResult} {o : StepOutcome} {name : String} {source : BoundInstruction}
    (h : (assign name source r).Yields (Run.Amid others) s t o) :
    e.ComesTo r s.2.bindings (.setVariable name source) o t.2.bindings := by
  rw [assign, Proc.yields_get_bind_iff] at h
  split at h
  · rename_i err hr
    obtain ⟨rfl, rfl⟩ := Proc.yields_done_iff.1 h
    exact .unassigned name source err hr
  · rename_i text hr
    rw [Run.bind, Proc.yields_update_bind_iff] at h
    obtain ⟨rfl, rfl⟩ := Proc.yields_done_iff.1 h
    exact .assigned name source text hr

end Parts

variable [Link Λ]

theorem exchange_succeeds (e : Executor) (c : Command) (d : DeviceBinding) (text : Option String) (key : String) :
    (e.exchange (Λ := Λ) c d text key).Succeeds fun received =>
      received.map Received.tag = c.read.map ReadSpec.tag := by
  refine Proc.succeeds_andThen (Proc.succeeds_trivial _) fun _ _ =>
    Proc.succeeds_andThen (Proc.succeeds_trivial _) fun _ _ => ?_
  cases hc : c.read with
  | none => exact fun received h => by cases h; rfl
  | some spec =>
    have hcollect : (collect (Λ := Λ) key (e.retry.withAttempts c.readAttempts) spec).Succeeds
        fun r => r.tag = spec.tag :=
      Proc.succeeds_andThen (Proc.succeeds_trivial _) fun x _ r h => by cases h; rfl
    exact Proc.succeeds_andThen hcollect fun r hr received h => by cases h; simp [hr]

section Executions

variable {others : Bench Λ → Bench Λ → Prop} {e : Executor} {r : StepResult} {s t : Bench Λ × Run} {o : StepOutcome}

theorem command_comesTo {c : Command} (h : (e.command c r).Yields (Run.Amid others) s t o) :
    e.ComesTo r s.2.bindings (.command c) o t.2.bindings := by
  obtain ⟨m, ⟨⟩, hbefore, h⟩ := Proc.yields_bind_iff.1 h
  have hm := bindings_sleepIfAny hbefore
  rw [Proc.yields_get_bind_iff, hm] at h
  split at h
  · rename_i f hp
    obtain ⟨rfl, rfl⟩ := Proc.yields_done_iff.1 h
    rw [hm]
    exact .unprepared c f hp
  · rename_i d text hp
    obtain ⟨m', x, hlink, h⟩ := Proc.yields_bind_iff.1 h
    have hm' := (bindings_onPart hlink).trans hm
    have hlease := Pool.withLease_succeeds d.interface (e.exchange_succeeds (Λ := Λ) c d text)
    have htag := hlink.returns (Proc.returns_onPart hlease)
    cases x with
    | error err =>
      obtain ⟨rfl, rfl⟩ := Proc.yields_done_iff.1 h
      rw [hm']
      exact .unanswered c d text err hp
    | ok received =>
      dsimp only at h
      rw [(store_instant received).yields_bind_iff] at h
      obtain ⟨t', ⟨⟩, hafter, h⟩ := Proc.yields_bind_iff.1 h
      obtain ⟨rfl, rfl⟩ := Proc.yields_done_iff.1 h
      rw [bindings_sleepIfAny hafter, hm']
      exact .answered c d text received hp (htag received rfl)

omit [Link Λ] in
theorem linkStep_comesTo {p : Proc.Fallible (Client Λ) LinkError Unit} {step : Step} (hs : step.isFatal = false)
    (h : (linkStep p r).Yields (Run.Amid others) s t o) : e.ComesTo r s.2.bindings step o t.2.bindings := by
  obtain ⟨m, x, hlink, h⟩ := Proc.yields_bind_iff.1 h
  have hm := bindings_onPart hlink
  cases x with
  | ok =>
    obtain ⟨rfl, rfl⟩ := Proc.yields_done_iff.1 h
    rw [hm]
    exact .passed step hs
  | error err =>
    obtain ⟨rfl, rfl⟩ := Proc.yields_done_iff.1 h
    rw [hm]
    exact .missed step err hs

/-- **Every execution of a step is on the list.** -/
theorem carryOut_comesTo {step : Step} (h : (e.carryOut step r).Yields (Run.Amid others) s t o) :
    e.ComesTo r s.2.bindings step o t.2.bindings := by
  cases step with
  | command c => exact command_comesTo h
  | setVariable name source => exact assign_comesTo h
  | delay d =>
    obtain ⟨m, ⟨⟩, hsleep, h⟩ := Proc.yields_bind_iff.1 h
    obtain ⟨rfl, rfl⟩ := Proc.yields_done_iff.1 h
    rw [bindings_eq hsleep (Proc.keeps_sleep _ _)]
    exact .passed _ rfl
  | resetDevice unit => exact linkStep_comesTo rfl h
  | resetInterface name => exact linkStep_comesTo rfl h
  | trigger unit => exact linkStep_comesTo rfl h

end Executions

/-! ## Consequences -/

namespace ComesTo

variable {e : Executor} {r : StepResult} {b b' : Bindings} {step : Step} {o : StepOutcome}

/-- **A failed step leaves the bindings as they were.** -/
theorem bindings_of_failed (h : e.ComesTo r b step o b') {cause : StepFailure} (ho : o.2 = some cause) : b' = b := by
  cases h with
  | answered | assigned => cases ho
  | _ => rfl

/-- an outcome is about the step it was begun for -/
theorem labels (h : e.ComesTo r b step o b') :
    o.1.index = r.index ∧ o.1.runId = r.runId ∧ o.1.kind = r.kind ∧ o.1.unitId = r.unitId := by
  cases h with
  | answered c d text received => cases received <;> exact ⟨rfl, rfl, rfl, rfl⟩
  | _ => exact ⟨rfl, rfl, rfl, rfl⟩

/-- a step that succeeds has stored a response under its tag, if it has one -/
theorem stored (h : e.ComesTo r b step o b') (ho : o.2 = none) {tag : String} (ht : step.tag? = some tag) :
    ∃ text, b'.references.response tag = some text := by
  cases h with
  | answered c d text received _ htag =>
    obtain ⟨x, hx, rfl⟩ := Option.map_eq_some_iff.1 (htag.trans ht)
    subst hx
    exact ⟨x.text, Table.get?_insert_self _ _ _⟩
  | unprepared | unanswered | unassigned | missed => cases ho
  | assigned => cases ht
  | passed _ hs => cases step <;> simp_all [Step.isFatal, Step.tag?]

/-- no step loses a response -/
theorem grows (h : e.ComesTo r b step o b') {tag text : String} (ht : b.references.response tag = some text) :
    ∃ text', b'.references.response tag = some text' := by
  cases h with
  | answered c d _ received =>
    cases received with
    | none => exact ⟨text, ht⟩
    | some x =>
      refine ⟨if tag = x.tag then x.text else text, ?_⟩
      simp only [Bindings.references, Received.storedIn, Bindings.setResponse, Table.get?_insert] at ht ⊢
      split_ifs
      · rfl
      · exact ht
  | _ => exact ⟨text, ht⟩

/-- a step that could not be rendered has an instruction that cannot be -/
theorem unrendered (h : e.ComesTo r b step o b') {err : RenderError} (ho : o.2 = some (.render err)) :
    ∃ source, step.source? = some source ∧
      source.instruction.render source.arguments b.references = .error err := by
  cases h with
  | unprepared c f hp =>
    cases ho
    simp only [prepare] at hp
    split at hp
    · cases hp
    · simp only [commandText] at hp
      split at hp
      · rename_i err' hc
        cases hp
        split at hc
        · rename_i i hi
          exact ⟨i, hi, Except.error_of_map hc⟩
        · cases hc
      · cases hp
  | unassigned name source err' hr => cases ho; exact ⟨source, rfl, hr⟩
  | unanswered | answered | assigned | passed | missed => cases ho

end ComesTo

/-! ## In an idle pool -/

theorem steady_ifOnBus {yes no : Proc.Fallible (Client Λ) LinkError α} (key : String) (hyes : Steady yes)
    (hno : Steady no) : Steady (ifOnBus key yes no) := by
  refine .get_bind fun s => ?_
  split
  · exact hyes
  · exact hno

theorem steady_select (key : String) (address : Option UInt8) : Steady (select (Λ := Λ) key address) := by
  cases address with
  | none => exact .done _
  | some a => exact steady_ifOnBus key (.perform key _) (.done _)

omit [Link Λ] in
theorem steady_tryFrom {read : Proc.Fallible (Client Λ) LinkError α} (hr : Steady read) (backoff : Duration)
    (left made : Nat) : Steady (RetryPolicy.tryFrom backoff read left made) := by
  induction left generalizing made with
  | zero =>
    rw [RetryPolicy.tryFrom]
    refine hr.bind fun x => ?_
    cases x with
    | ok a => exact .done _
    | error err => dsimp only; split <;> exact .done _
  | succ left ih =>
    rw [RetryPolicy.tryFrom]
    refine hr.bind fun x => ?_
    cases x with
    | ok a => exact .done _
    | error err =>
      dsimp only
      split
      · exact (Steady.sleep _).bind fun _ => ih (made + 1)
      · exact .done _

theorem steady_exchange (e : Executor) (c : Command) (d : DeviceBinding) (text : Option String) (key : String) :
    Steady (e.exchange (Λ := Λ) c d text key) := by
  refine (steady_select key d.address).andThen fun _ => Steady.andThen ?_ fun _ => ?_
  · split
    · exact .perform key _
    · exact .done _
  · split
    · exact .done _
    · refine (Steady.andThen ?_ fun _ => .done _).andThen fun _ => .done _
      exact steady_tryFrom ((Steady.perform key _).andThen fun _ => .done _) _ _ _

/-- a run that uses an interface of an idle pool steadily -/
theorem lease_ends {s : Bench Λ × Run} (hs : Run.PoolIdle s) (name : String)
    {use : String → Proc.Fallible (Client Λ) LinkError α} (hu : ∀ key, Steady (use key)) :
    ((Pool.withLease name use).onPart Run.client).Ends s fun t _ => Run.PoolIdle t := by
  have hidle : (Run.client.get s).pool.Idle := hs
  exact Proc.Ends.onPart Run.client_lawful (Pool.withLease_ends hidle name hu)

omit [Link Λ] in
theorem linkStep_ends {p : Proc.Fallible (Client Λ) LinkError Unit} {s : Bench Λ × Run} (r : StepResult)
    (h : (p.onPart Run.client).Ends s fun t _ => Run.PoolIdle t) :
    (linkStep p r).Ends s fun t _ => Run.PoolIdle t := by
  refine Proc.ends_bind (h.mono fun t x ht => ?_)
  cases x <;> exact Proc.ends_done ht

omit [Link Λ] in
/-- what is left to do once the device has answered does not touch the pool -/
theorem storeAndRest_ends {s : Bench Λ × Run} (hs : Run.PoolIdle s) (received : Option Received) (ticks : Nat)
    (o : StepOutcome) :
    ((store received).bind fun _ => (Proc.sleepIfAny ticks).bind fun _ => .done o).Ends s
      fun t _ => Run.PoolIdle t := by
  have hstore := store_instant (Λ := Λ) received
  refine Proc.ends_of_timed ?_ ?_ hs
  · exact Proc.timed_bind hstore.timed fun _ => Proc.timed_bind (Proc.timed_sleepIfAny _) fun _ => trivial
  · exact Proc.keeps_bind (hstore.keeps fun _ h => h) fun _ =>
      Proc.keeps_bind (Proc.keeps_sleepIfAny _ _) fun _ => trivial

/-- **In an idle pool every step ends**, and the pool is idle again -/
theorem carryOut_ends {s : Bench Λ × Run} (hs : Run.PoolIdle s) (e : Executor) (step : Step) (r : StepResult) :
    (e.carryOut step r).Ends s fun t _ => Run.PoolIdle t := by
  cases step with
  | command c =>
    have hbefore := Proc.ends_of_timed (Proc.timed_sleepIfAny c.delayBefore.ticks)
      (Proc.keeps_sleepIfAny Run.PoolIdle _) hs
    refine Proc.ends_bind (hbefore.mono fun m _ hm => ?_)
    rw [Proc.Ends, Proc.alone_get_bind]
    split
    · exact Proc.ends_done hm
    · rename_i d text _
      refine Proc.ends_bind ((lease_ends hm d.interface (e.steady_exchange c d text)).mono fun m' x hm' => ?_)
      cases x with
      | error err => exact Proc.ends_done hm'
      | ok received => exact storeAndRest_ends hm' received _ _
  | setVariable name source =>
    rw [carryOut, assign, Proc.Ends, Proc.alone_get_bind]
    split
    · exact Proc.ends_done hs
    · exact ⟨_, 0, _, rfl, hs⟩
  | delay d =>
    exact Proc.ends_bind ((Proc.ends_of_timed (Proc.timed_sleep _) (Proc.keeps_sleep Run.PoolIdle _) hs).mono
      fun _ _ ht => Proc.ends_done ht)
  | resetDevice unit =>
    refine linkStep_ends r ?_
    unfold clearDevice
    split
    · exact Proc.ends_done hs
    · exact lease_ends hs _ fun key => steady_ifOnBus key (.perform key _) (.done _)
  | resetInterface name =>
    exact linkStep_ends r (lease_ends hs name fun key =>
      steady_ifOnBus key (.perform key _) ((Steady.perform key _).andThen fun _ => .perform key _))
  | trigger unit =>
    refine linkStep_ends r ?_
    unfold triggerDevice
    split
    · exact Proc.ends_done hs
    · refine lease_ends hs _ fun key => steady_ifOnBus key ?_ (.done _)
      split
      · exact .perform key _
      · exact .done _

end Executor

end CalBench
