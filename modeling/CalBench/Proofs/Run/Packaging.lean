/-
Results sent together and one by one.

A plan that is sent in bulk and the same plan sent step by step run in lockstep: no step can see what has been sent, so
each does the same in both. Only the outputs differ.

Results:
- `carryOut_blind`: no step can see the outputs;
- `steps_lockstep`: the steps of both runs end alike, in states that differ in the outputs alone;
- `bulk_differs_in_packaging`: so do the runs, and the one batch holds the results that the other run sends one by one.
Witness:
- `failed_read_is_in_batch`: also when a step ends the run.
-/
import CalBench.Proofs.Run.Course

namespace CalBench

variable {Λ : Type}

def Run.withOutputs (outputs : List RunOutput) (s : Bench Λ × Run) : Bench Λ × Run :=
  ({ s.1 with outputs := outputs }, s.2)

namespace Executor

/-! ## What steps cannot see -/

section Blind

variable (out : List RunOutput)

theorem onPart_blind {α : Type} (p : Proc (Client Λ) α) : (p.onPart Run.client).Blind (Run.withOutputs out) :=
  Proc.blind_onPart (f := Run.withOutputs out) (fun _ => rfl) (fun _ _ => rfl) p

theorem linkStep_blind (p : Proc.Fallible (Client Λ) LinkError Unit) (r : StepResult) :
    (linkStep p r).Blind (Run.withOutputs out) := by
  refine Proc.blind_bind (onPart_blind out p) fun x => ?_
  cases x <;> trivial

/-- **No step can see the outputs** -/
theorem carryOut_blind [Link Λ] (e : Executor) (step : Step) (r : StepResult) :
    (e.carryOut (Λ := Λ) step r).Blind (Run.withOutputs out) := by
  cases step with
  | command c =>
    refine Proc.blind_bind (Proc.blind_sleepIfAny _ _) fun _ => Proc.blind_get_bind (fun _ => rfl) fun s => ?_
    split
    · trivial
    · refine Proc.blind_bind (onPart_blind out _) fun x => ?_
      cases x with
      | error err => trivial
      | ok received =>
        exact Proc.blind_bind ((store_instant received).blind fun _ => rfl) fun _ =>
          Proc.blind_bind (Proc.blind_sleepIfAny _ _) fun _ => trivial
  | setVariable name source =>
    refine Proc.blind_get_bind (fun _ => rfl) fun s => ?_
    split
    · trivial
    · exact Proc.blind_bind (Proc.blind_update fun _ => rfl) fun _ => trivial
  | delay d => exact Proc.blind_bind (Proc.blind_sleep _ _) fun _ => trivial
  | resetDevice unit => exact linkStep_blind out _ r
  | resetInterface name => exact linkStep_blind out _ r
  | trigger unit => exact linkStep_blind out _ r

end Blind

/-! ## Lockstep -/

/-- the steps of a run in bulk and of one step by step end alike: in the same state but for the outputs, at the same
time and with the same results; the first has sent nothing, the second the results since it began -/
inductive Lockstep (results : List StepResult) (sent sent' : List RunOutput) :
    Proc.Ending (Bench Λ × Run) Progress → Proc.Ending (Bench Λ × Run) Progress → Prop
  | finished (t : Bench Λ × Run) (n : Nat) (p : Progress) (more : List StepResult) (ht : t.1.outputs = sent)
      (hp : p.results = results ++ more) (hf : p.failure ≠ some .cancelled) :
      Lockstep results sent sent' (.finished t n p)
        (.finished (Run.withOutputs (sent' ++ announcements false more) t) n p)
  /-- both wait for an interface that nobody gives back -/
  | stuck (t : Bench Λ × Run) (n : Nat) (out : List RunOutput) :
      Lockstep results sent sent' (.stuck t n) (.stuck (Run.withOutputs out t) n)

/-- both end without a further result -/
theorem Lockstep.ended {results : List StepResult} {sent : List RunOutput} (sent' : List RunOutput)
    {t : Bench Λ × Run} {n : Nat} {p : Progress} (ht : t.1.outputs = sent) (hp : p.results = results)
    (hf : p.failure ≠ some .cancelled) :
    Lockstep results sent sent' (.finished t n p) (.finished (Run.withOutputs sent' t) n p) := by
  have h : Lockstep results sent sent' _ _ := .finished t n p [] ht (hp.trans (List.append_nil results).symm) hf
  rwa [announcements, List.map_nil, ite_self, List.append_nil] at h

theorem Lockstep.after {results : List StepResult} {sent sent' : List RunOutput}
    {a b : Proc.Ending (Bench Λ × Run) Progress} (k : Nat) (h : Lockstep results sent sent' a b) :
    Lockstep results sent sent' (a.after k) (b.after k) := by
  cases h with
  | finished t n p more ht hp hf => exact .finished t (k + n) p more ht hp hf
  | stuck t n out => exact .stuck t (k + n) out

/-- one result before the others -/
theorem Lockstep.cons {results : List StepResult} {r : StepResult} {sent sent' : List RunOutput}
    {a b : Proc.Ending (Bench Λ × Run) Progress}
    (h : Lockstep (results ++ [r]) sent (sent' ++ announcements false [r]) a b) : Lockstep results sent sent' a b := by
  cases h with
  | finished t n p more ht hp hf =>
    rw [List.append_assoc, ← announcements_append]
    exact .finished t n p (r :: more) ht (by rw [hp, List.append_assoc]; rfl) hf
  | stuck t n out => exact .stuck t n out

variable [Link Λ] {e : Executor}

/-- **The steps of a run in bulk and of one step by step are in lockstep.** -/
theorem steps_lockstep (e : Executor) (index : Nat) (steps : List Step) (results : List StepResult) {s : Bench Λ × Run}
    (hs : Run.isStopped s = false) (sent' : List RunOutput) :
    Lockstep results s.1.outputs sent' ((e.steps true index steps results).alone s)
      ((e.steps false index steps results).alone (Run.withOutputs sent' s)) := by
  induction steps generalizing index results s sent' with
  | nil => exact .ended sent' rfl rfl (by simp)
  | cons step rest ih =>
    have hs' : Run.isStopped (Run.withOutputs sent' s) = false := hs
    rw [alone_steps_cons e true index step rest results hs, alone_steps_cons e false index step rest results hs']
    -- the step itself does the same in both
    have hsame : (e.carryOut step (blank index (Run.withOutputs sent' s).2.id step)).alone (Run.withOutputs sent' s) =
        ((e.carryOut step (blank index s.2.id step)).alone s).mapState (Run.withOutputs sent') :=
      Proc.alone_blind (carryOut_blind sent' e step (blank index s.2.id step)) s
    rw [hsame]
    cases hcarry : (e.carryOut step (blank index s.2.id step)).alone s with
    | stuck m n => exact .stuck m n sent'
    | finished m n o =>
      have hstop : Run.isStopped (announce true o m) = false := isStopped_of_carryOut hs hcarry
      have hout : m.1.outputs = s.1.outputs :=
        (e.carryOut_keeps (Run.stable_outputs s.1.outputs) step _).of_finished rfl hcarry
      have hrest := ih (index + 1) (results ++ [o.result]) hstop (sent' ++ announcements false [o.result])
      have hgo : Lockstep (results ++ [o.result]) m.1.outputs (sent' ++ announcements false [o.result])
          ((e.goOn true index step rest results o).alone m)
          ((e.goOn false index step rest results o).alone
            (Run.withOutputs (sent' ++ announcements false [o.result]) m)) := by
        unfold goOn
        cases o.2 with
        | none => exact hrest
        | some cause =>
          dsimp only
          split
          · exact .ended _ rfl rfl (by simp)
          · exact hrest
      rw [hout] at hgo
      exact hgo.cons.after n

/-! ## Runs -/

/-- two runs end alike, at the same time, with the same result and in the same state, but for the outputs: they have
called the same links in the same order, and their bindings are the same -/
structure Alike {α : Type} (a b : Proc.Ending (Bench Λ × Run) α) : Prop where
  result : a.result? = b.result?
  elapsed : a.elapsed = b.elapsed
  pool : a.state.1.pool = b.state.1.pool
  signals : a.state.1.signals = b.state.1.signals
  run : a.state.2 = b.state.2

/-- **A run in bulk and a run step by step differ in packaging only.** For every plan, every executor, every state of
the run and of the bench and every behaviour of the links: a run that is not stopped ends alike whether or not its plan
is sent in bulk. If the plan is refused, nothing is sent. Otherwise, if one run ends so does the other, and the one
batch that is sent at the end of the first holds the results that the second has sent one by one. These are the results
of the run, if it has succeeded. In an idle pool both do end. -/
theorem bulk_differs_in_packaging (e : Executor) (p : Plan) (s : Bench Λ × Run) (hs : Run.isStopped s = false) :
    let bulk := (e.execute { p with respondInBulk := true }).alone s
    let single := (e.execute { p with respondInBulk := false }).alone s
    Alike bulk single ∧
    (∀ f, e.bind s.1.pool.contains p = .error f → bulk.state.1.outputs = s.1.outputs ∧
      single.state.1.outputs = s.1.outputs) ∧
    (e.bind s.1.pool.contains p = .ok () → ∀ r, bulk.result? = some r → ∃ results,
      bulk.state.1.outputs = s.1.outputs ++ [.step (.batch results)] ∧
      single.state.1.outputs = s.1.outputs ++ results.map (fun x => .step (.step x)) ∧
      ∀ rs, r = .ok rs → rs = results) ∧
    (Run.PoolIdle s → bulk.result?.isSome ∧ single.result?.isSome) := by
  intro bulk single
  have hends : Run.PoolIdle s → bulk.result?.isSome ∧ single.result?.isSome := by
    intro hidle
    obtain ⟨t, n, r, h⟩ := execute_finish e { p with respondInBulk := true } hidle hs
    obtain ⟨t', n', r', h'⟩ := execute_finish e { p with respondInBulk := false } hidle hs
    have hbulk : bulk = .finished t n r := h
    have hsingle : single = .finished t' n' r' := h'
    rw [hbulk, hsingle]
    exact ⟨rfl, rfl⟩
  cases hb : e.bind s.1.pool.contains p with
  | error f =>
    have hbulk : bulk = .finished s 0 (.error f) := alone_execute_refused hb
    have hsingle : single = .finished s 0 (.error f) := alone_execute_refused hb
    refine ⟨?_, fun f' _ => ?_, fun h => (nomatch h), hends⟩
    · rw [hbulk, hsingle]
      exact ⟨rfl, rfl, rfl, rfl, rfl⟩
    · rw [hbulk, hsingle]
      exact ⟨rfl, rfl⟩
  | ok u =>
    have hlock := steps_lockstep e 0 p.steps [] hs s.1.outputs
    have hbulk : bulk = ((e.steps true 0 p.steps []).alone s).andThen fun m progress =>
        .finished (conclude true progress m) 0 progress.result := alone_execute hb
    have hsingle : single = ((e.steps false 0 p.steps []).alone s).andThen fun m progress =>
        .finished (conclude false progress m) 0 progress.result := alone_execute hb
    have hself : Run.withOutputs s.1.outputs s = s := rfl
    rw [hself] at hlock
    rw [hbulk, hsingle] at hends ⊢
    generalize (e.steps true 0 p.steps []).alone s = a at hlock hends ⊢
    generalize (e.steps false 0 p.steps []).alone s = b at hlock hends ⊢
    refine ⟨?_, fun f h => (nomatch h), fun _ r hr => ?_, hends⟩
    · cases hlock with
      | finished t n progress more =>
        obtain ⟨out, hframe⟩ := conclude_frame true progress t
        simp only [Proc.Ending.andThen, hframe]
        exact ⟨rfl, rfl, rfl, rfl, rfl⟩
      | stuck t n out => exact ⟨rfl, rfl, rfl, rfl, rfl⟩
    · cases hlock with
      | finished t n progress more ht hp hf =>
        rw [List.nil_append] at hp
        cases hr
        refine ⟨progress.results, ?_, ?_, fun rs hrs => Progress.eq_of_result hrs⟩
        · have hnone : t.1.outputs = s.1.outputs ++ announcements true progress.results :=
            ht.trans (List.append_nil _).symm
          exact conclude_outputs true hf hnone
        · rw [hp]
          rfl
      | stuck t n out => cases hr

/-- the two reads of the meter, of which the second has no reply -/
def readTwice : Plan := { steps := [.command readMeter, .command readMeter] }

/-- **Also when a read ends the run**: the batch holds its result, and that of the read before it -/
theorem failed_read_is_in_batch :
    Run.isStopped meterBench = false ∧
    ∃ results, results.length = 2 ∧
      ((meterExecutor.execute { readTwice with respondInBulk := true }).alone meterBench).state.1.outputs =
        [.step (.batch results)] ∧
      ((meterExecutor.execute { readTwice with respondInBulk := false }).alone meterBench).state.1.outputs =
        results.map fun x => .step (.step x) := by
  have hs : Run.isStopped meterBench = false := rfl
  obtain ⟨-, -, hsent, -⟩ := bulk_differs_in_packaging meterExecutor readTwice meterBench hs
  have hresult : ((meterExecutor.execute { readTwice with respondInBulk := true }).alone meterBench).result? =
      some (.error (.step 1 (.link (.readFailure 1 (.timeout .read meter.timeouts.read))))) := by decide +kernel
  obtain ⟨results, hbulk, hsingle, -⟩ := hsent (by decide +kernel) _ hresult
  have htwo : ((meterExecutor.execute { readTwice with respondInBulk := false }).alone
      meterBench).state.1.outputs.length = 2 := by decide +kernel
  refine ⟨hs, results, ?_, hbulk, hsingle⟩
  rw [hsingle, List.length_append, List.length_map] at htwo
  exact (Nat.zero_add _).symm.trans htwo

end Executor

end CalBench
