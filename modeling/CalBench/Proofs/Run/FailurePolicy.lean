/-
The failure policy of a whole run.

A run that is not stopped is refused, stopped by a step that failed, or completed: `Outcome`. The three are told apart
by the result of the run. What others do to the bench in the meantime is left open, as long as they neither tell the
run to stop nor send anything in its place (`Run.Undisturbed`).

Results:
- `execute_outcome`: a run comes to one of the three outcomes;
- `outcome_of_not_fatal`: a delay, a reset or a trigger changes no binding, and nothing in its result but the error;
- `run_ends_in_one_of_three_ways`: both, and in an idle pool a run that is not stopped does end.
Witness:
- `failed_reset_does_not_end_run`: a reset fails and the run goes on; a command fails and ends it.
-/
import CalBench.Proofs.Run.Course

namespace CalBench

variable {Λ : Type}

structure Run.Undisturbed (others : Bench Λ → Bench Λ → Prop) (s : Bench Λ × Run) : Prop
    extends Run.Unstopped others s where
  silent : ∀ b b', others b b' → b'.outputs = b.outputs

namespace Executor

variable [Link Λ]

/-! ## Outcomes -/

/-- the run was ended by the failure of a command or an assignment: the states before and after that step are `m` and
`m'`, the results before it `results` -/
structure Stopped (others : Bench Λ → Bench Λ → Prop) (e : Executor) (p : Plan) (s t : Bench Λ × Run) (i : Nat)
    (cause : StepFailure) (step : Step) (results : List StepResult) (o : StepOutcome) (m m' : Bench Λ × Run) :
    Prop where
  bound : e.bind s.1.pool.contains p = .ok ()
  place : p.steps[i]? = some step
  fatal : step.isFatal = true
  before : Course others e p.respondInBulk 0 (p.steps.take i) s results m
  /-- no step before it was a command or an assignment that failed -/
  earlier : ∀ (k : Nat) (step' : Step) (r : StepResult), p.steps[k]? = some step' → results[k]? = some r →
    step'.isFatal = true → r.error = none
  last : (e.carryOut step (blank i s.2.id step)).Yields (Run.Amid others) m m' o
  failed : o.2 = some cause ∧ o.result.error = some cause.message
  reports : Reports s.2.id 0 (p.steps.take (i + 1)) (results ++ [o.result])
  sent : t.1.outputs = s.1.outputs ++ packaged p.respondInBulk (results ++ [o.result])
  bindings : m'.2.bindings = m.2.bindings
  /-- nothing was done after it: no link was called, and no binding was changed -/
  pool : t.1.pool = m'.1.pool
  run : t.2 = m'.2

structure Completed (others : Bench Λ → Bench Λ → Prop) (e : Executor) (p : Plan) (s t : Bench Λ × Run)
    (results : List StepResult) : Prop where
  bound : e.bind s.1.pool.contains p = .ok ()
  course : ∃ m, Course others e p.respondInBulk 0 p.steps s results m ∧ t.1.pool = m.1.pool ∧ t.2 = m.2
  succeeded : ∀ (k : Nat) (step : Step) (r : StepResult), p.steps[k]? = some step → results[k]? = some r →
    step.isFatal = true → r.error = none
  /-- every step has left its result, and these were sent -/
  reports : Reports s.2.id 0 p.steps results
  sent : t.1.outputs = s.1.outputs ++ packaged p.respondInBulk results

inductive Outcome (others : Bench Λ → Bench Λ → Prop) (e : Executor) (p : Plan) (s t : Bench Λ × Run) :
    Except Failure (List StepResult) → Prop
  /-- it was refused, and nothing at all was done -/
  | refused (f : Failure) (hb : e.bind s.1.pool.contains p = .error f)
      (hf : (∃ u, f = .unknownUnit u) ∨ ∃ n, f = .unknownInterface n) (ht : t = s) : Outcome others e p s t (.error f)
  | stopped (i : Nat) (cause : StepFailure)
      (h : ∃ step results o m m', Stopped others e p s t i cause step results o m m') :
      Outcome others e p s t (.error (.step i cause))
  | completed (results : List StepResult) (h : Completed others e p s t results) : Outcome others e p s t (.ok results)

variable {others : Bench Λ → Bench Λ → Prop} {e : Executor} {p : Plan} {s t : Bench Λ × Run}

/-- **A run that is not disturbed comes to one of the three outcomes.** -/
theorem execute_outcome {r : Except Failure (List StepResult)} (hs : Run.Undisturbed others s)
    (h : (e.execute p).Yields (Run.Amid others) s t r) : Outcome others e p s t r := by
  rcases execute_end h with ⟨f, hb, rfl, rfl⟩ | ⟨hb, m, ⟨results, failure⟩, hend, ht, hr⟩
  · exact .refused f hb (bind_error hb) rfl
  · obtain ⟨out, hframe⟩ := conclude_frame p.respondInBulk ⟨results, failure⟩ m
    have hpool : t.1.pool = m.1.pool := by rw [ht, hframe]
    have hrun : t.2 = m.2 := by rw [ht, hframe]
    dsimp only [Progress.result] at hend hr
    cases hend with
    | completed _ hc =>
      subst hr
      refine .completed results ⟨hb, ⟨m, hc, hpool, hrun⟩, hc.succeeded, hc.reports, ?_⟩
      rw [ht]
      exact conclude_outputs _ (by simp) (hc.outputs hs.silent)
    | failed i step before m₁ m₂ o cause hi hf hc hstep ho hm =>
      subst hr
      rw [Nat.zero_add] at hstep ht ⊢
      have hid : m₁.2.id = s.2.id := hc.id_eq
      have hlast := result_labels hstep
      have hsteps : p.steps.take (i + 1) = p.steps.take i ++ [step] := by
        rw [List.take_add_one, hi, Option.toList_some]
      have hlength : (p.steps.take i).length = i := by
        have hlt := (List.getElem?_eq_some_iff.1 hi).1
        rw [List.length_take]
        omega
      refine .stopped i cause ⟨step, before, o, m₁, m₂, ?_⟩
      constructor
      · exact hb
      · exact hi
      · exact hf
      · exact hc
      · intro k step' r' hk hr' hf'
        -- a step that has a result is one of those before the last
        have hlt : k < (p.steps.take i).length := by
          rw [← hc.reports.1]
          exact (List.getElem?_eq_some_iff.1 hr').1
        rw [hlength] at hlt
        exact hc.succeeded k step' r' (by rw [List.getElem?_take_of_lt hlt, hk]) hr' hf'
      · exact hid ▸ hstep
      · exact ⟨ho, by rw [StepOutcome.result, ho, Option.map_some]⟩
      · rw [hsteps]
        refine hc.reports.snoc ?_
        rw [hlength, Nat.zero_add, ← hid]
        exact hlast
      · rw [ht]
        refine conclude_outputs _ (by simp) ?_
        rw [hm, Course.outputs_of_carryOut hs.silent hstep, hc.outputs hs.silent, List.append_assoc,
          ← announcements_append]
      · exact (carryOut_comesTo hstep).bindings_of_failed ho
      · rw [hpool, hm, announce_pool]
      · rw [hrun, hm, announce_run]
    | cancelled _ hu => exact absurd hs.toUnstopped hu

/-- a run that nobody else is there to stop comes to one of the three outcomes -/
theorem outcome_alone {n : Nat} {r : Except Failure (List StepResult)} (hs : Run.isStopped s = false)
    (h : (e.execute p).alone s = .finished t n r) : Outcome Eq e p s t r := by
  have hu : Run.Undisturbed Eq s := ⟨⟨hs, fun b b' hb => by rw [hb]⟩, fun b b' hb => by rw [hb]⟩
  exact execute_outcome hu (Proc.yields_of_alone (fun _ => ⟨rfl, rfl⟩) h)

/-- **A step that is neither a command nor an assignment** changes no binding, and its result only by the error -/
theorem outcome_of_not_fatal {step : Step} {r : StepResult} {o : StepOutcome} (hf : step.isFatal = false)
    (h : (e.carryOut step r).Yields (Run.Amid others) s t o) : o.1 = r ∧ t.2.bindings = s.2.bindings := by
  have hc := carryOut_comesTo h
  generalize t.2.bindings = b at hc
  cases hc with
  | passed | missed => exact ⟨rfl, rfl⟩
  | unprepared | unanswered | answered | unassigned | assigned => cases hf

/-- **The failure policy of a whole run.** For every plan, every executor, every state of the run and of the bench and
every behaviour of the links: a run that is not stopped is refused, stopped or completed, whatever others do that
neither stop it nor send in its place. In an idle pool it does end. And a delay, a reset or a trigger changes its result
only by its error, and leaves the bindings as they were. -/
theorem run_ends_in_one_of_three_ways (e : Executor) (p : Plan) (s : Bench Λ × Run) (hs : Run.isStopped s = false) :
    (∀ others, Run.Undisturbed others s → ∀ t r, (e.execute p).Yields (Run.Amid others) s t r →
      Outcome others e p s t r) ∧
    (Run.PoolIdle s → ∃ t n r, (e.execute p).alone s = .finished t n r ∧ Outcome Eq e p s t r) ∧
    ∀ (others : Bench Λ → Bench Λ → Prop) (step : Step) (r : StepResult) (t t' : Bench Λ × Run) (o : StepOutcome),
      step.isFatal = false → (e.carryOut step r).Yields (Run.Amid others) t t' o →
      o.1 = r ∧ t'.2.bindings = t.2.bindings := by
  refine ⟨fun others hu t r h => execute_outcome hu h, fun hidle => ?_, fun others step r t t' o hf h =>
    outcome_of_not_fatal hf h⟩
  obtain ⟨t, n, r, h⟩ := execute_finish e p hidle hs
  exact ⟨t, n, r, h, outcome_alone hs h⟩

/-- a reset that the meter refuses, a read for which it has a reply, one for which it has none, and a trigger -/
def meterPlan : Plan :=
  { steps := [.resetInterface "bench", .command readMeter, .command readMeter, .trigger "DMM1"] }

theorem meterBench_idle : Run.PoolIdle meterBench := by
  intro key
  by_cases h : "BENCH" = key <;> simp [Pool.queueOf, Table.get?, meterBench, meterEntry, h]

/-- **A reset that fails does not end a run, a read that fails does**: the trigger after it is not carried out -/
theorem failed_reset_does_not_end_run :
    Run.isStopped meterBench = false ∧ Run.Undisturbed Eq meterBench ∧ Run.PoolIdle meterBench ∧
    ∃ t n cause, (meterExecutor.execute meterPlan).alone meterBench = .finished t n (.error (.step 2 cause)) ∧
      Outcome Eq meterExecutor meterPlan meterBench t (.error (.step 2 cause)) := by
  have hs : Run.isStopped meterBench = false := rfl
  have hu : Run.Undisturbed Eq meterBench := ⟨⟨hs, fun b b' hb => by rw [hb]⟩, fun b b' hb => by rw [hb]⟩
  obtain ⟨hany, hidle, -⟩ := run_ends_in_one_of_three_ways meterExecutor meterPlan meterBench hs
  refine ⟨hs, hu, meterBench_idle, ?_⟩
  obtain ⟨t, n, r, h, -⟩ := hidle meterBench_idle
  have hresult : ((meterExecutor.execute meterPlan).alone meterBench).result? =
      some (.error (.step 2 (.link (.readFailure 1 (.timeout .read meter.timeouts.read))))) := by decide +kernel
  rw [h] at hresult
  cases hresult
  exact ⟨t, n, _, h, hany Eq hu t _ (Proc.yields_of_alone (fun _ => ⟨rfl, rfl⟩) h)⟩

end Executor

end CalBench
