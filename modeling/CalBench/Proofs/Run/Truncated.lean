/-
A stop signal only cuts a run short.

The execution of a plan is compared with the same execution in which the stop signal is raised at some moment: before it
begins, or some milliseconds after that (`Proc.interrupted`). Up to that moment the two are the same. Then the run that
is told to stop lets go of what it has leased, and it is over, whatever it was waiting for: a delay before or after a
command, a retry, a call that takes its time, its turn at an interface.

- `execute_letsGo`: wherever the execution of a plan waits, the signal ends the wait and what is left is to let go;
- `execute_silent`: as long as it waits, nothing has been sent if results are sent together.

Results:
- `stopping_truncates`: what the stopped run has sent, and the calls that it has made, are the first of what the other
  one sends and of the calls that it makes; it ends as the other one if that had ended by then, and as cancelled if not.
Witness `stopped_while_settling`: a run that is stopped in the delay before its second command.
-/
import CalBench.Proofs.Process.Interrupted
import CalBench.Proofs.Run.Stopped

namespace CalBench

open Proc

variable {Λ : Type}

namespace Run

def HasSignal (s : Bench Λ × Run) : Prop := s.2.signal < s.1.signals.length

def stop (s : Bench Λ × Run) : Bench Λ × Run := (s.1.raise s.2.signal, s.2)

def release (s : Bench Λ × Run) : Bench Λ × Run := client.set (client.get s).leave s

theorem isStopped_stop {s : Bench Λ × Run} (h : HasSignal s) : isStopped (stop s) = true := by
  simp [isStopped, stop, Bench.isRaised, Bench.raise, List.getElem?_set_self h]

/-- what has been sent and the calls that have been made come first in what is sent and the calls that are made later -/
structure Before (s t : Bench Λ × Run) : Prop where
  outputs : s.1.outputs <+: t.1.outputs
  calls : s.1.pool.calls <+: t.1.pool.calls

theorem Before.refl (s : Bench Λ × Run) : Before s s := ⟨List.prefix_rfl, List.prefix_rfl⟩

theorem Before.trans {s t u : Bench Λ × Run} (h : Before s t) (h' : Before t u) : Before s u :=
  ⟨h.outputs.trans h'.outputs, h.calls.trans h'.calls⟩

theorem allows_before [Link Λ] : Allows (Before (Λ := Λ)) where
  refl := .refl
  uses s c h := by
    obtain ⟨more, hcalls, -⟩ := h.records
    exact ⟨List.prefix_rfl, more, hcalls.symm⟩
  binds _ _ := ⟨List.prefix_rfl, List.prefix_rfl⟩

theorem allowsSending_before : AllowsSending (Before (Λ := Λ)) := fun _ _ => ⟨List.prefix_append _ _, List.prefix_rfl⟩

/-- neither stopping nor letting go sends anything or makes a call -/
theorem release_stop (s : Bench Λ × Run) :
    (release (stop s)).1.outputs = s.1.outputs ∧ (release (stop s)).1.pool.calls = s.1.pool.calls :=
  ⟨rfl, (Client.untouched_leave (client.get s)).calls⟩

end Run

namespace Executor

variable [Link Λ] {others : Bench Λ × Run → Bench Λ × Run → Prop} {e : Executor} {s t u : Bench Λ × Run}

/-! ## What is left of a stopped run -/

/-- a step that waits is given up as soon as the run is stopped -/
theorem carryOutUnlessStopped_letsGo {index : Nat} {step : Step} {w : Waiting (Bench Λ × Run) (Option StepOutcome)}
    (h : (e.carryOutUnlessStopped index step).Waits others s w t) (hu : Run.isStopped u = true) :
    w.ready u = true ∧ ∀ b, (w.next b).advance u = (Run.release u, .ended none) := by
  rw [carryOutUnlessStopped, waits_get_bind_iff] at h
  split at h
  · exact absurd h not_waits_done
  · rcases h.of_guarded with ⟨next, hready, hnext⟩ | ⟨m, h⟩
    · refine ⟨hready u hu, fun b => ?_⟩
      rw [hnext, afterPause]
      change (if Run.isStopped u then _ else _ : Proc (Bench Λ × Run) (Option StepOutcome)).advance u = _
      rw [if_pos hu]
      rfl
    · exact absurd (waits_act_iff.1 h) not_waits_done

theorem steps_letsGo {inBulk : Bool} {index : Nat} {l : List Step} {results : List StepResult}
    {w : Waiting (Bench Λ × Run) Progress} (h : (e.steps inBulk index l results).Waits others s w t)
    (hu : Run.isStopped u = true) :
    w.ready u = true ∧ ∀ b, ∃ results, (w.next b).advance u = (Run.release u, .ended ⟨results, some .cancelled⟩) := by
  induction l generalizing index results s with
  | nil => exact absurd h not_waits_done
  | cons step rest ih =>
    rcases waits_bind h with ⟨v, hv, rfl⟩ | ⟨m, o, -, h⟩
    · obtain ⟨hready, hnext⟩ := carryOutUnlessStopped_letsGo hv hu
      refine ⟨hready, fun b => ⟨results, ?_⟩⟩
      rw [Waiting.bind, advance_bind_of_ended (hnext b)]
      rfl
    · -- whatever came of the step, the run goes on without a wait, or ends
      cases o with
      | none => exact absurd h not_waits_done
      | some o =>
        have h := (announce_instant inBulk o).waits_bind_iff.1 h
        split at h
        · split at h
          · exact absurd h not_waits_done
          · exact ih h
        · exact ih h

/-- **Wherever an execution waits, a stop signal ends the wait and the run**, which lets go of what it has leased -/
theorem execute_letsGo {p : Plan} {w : Waiting (Bench Λ × Run) (Except Failure (List StepResult))}
    (h : (e.execute p).Waits others s w t) (hu : Run.isStopped u = true) :
    w.ready u = true ∧ ∀ b, (w.next b).advance u = (Run.release u, .ended (.error .cancelled)) := by
  obtain ⟨v, hv, rfl⟩ := waits_execute h
  obtain ⟨hready, hnext⟩ := steps_letsGo hv hu
  refine ⟨hready, fun b => ?_⟩
  obtain ⟨results, hend⟩ := hnext b
  rw [Waiting.bind, advance_bind_of_ended hend]
  cases p.respondInBulk <;> rfl

/-- **Nothing is sent before the end if results are sent together** -/
theorem execute_silent {p : Plan} {w : Waiting (Bench Λ × Run) (Except Failure (List StepResult))}
    (h : (e.execute p).Waits Eq s w t) (hbulk : p.respondInBulk = true) : t.1.outputs = s.1.outputs := by
  obtain ⟨v, hv, -⟩ := waits_execute h
  have hallows : Run.Allows fun x y : Bench Λ × Run => y.1.outputs = x.1.outputs :=
    ⟨fun _ => rfl, fun _ _ _ => rfl, fun _ _ => rfl⟩
  have hsilent := steps_changes hallows (fun h => nomatch hbulk.symm.trans h) e 0 p.steps [] s
  refine (hsilent.mono (fun _ _ _ => trivial) (fun _ _ h => h) fun _ _ h => h).keeps_to_wait
    (I := fun x => x.1.outputs = s.1.outputs) hv ?_ ?_ rfl
  · rintro x _ rfl hx
    exact hx
  · intro x y hxy hx
    exact hxy.trans hx

/-- an execution leaves the run its signal -/
theorem execute_hasSignal {p : Plan} {w : Waiting (Bench Λ × Run) (Except Failure (List StepResult))}
    (h : (e.execute p).Waits Eq s w t) (hs : Run.HasSignal s) : Run.HasSignal t := by
  have hmakes := e.execute_makes p s
  refine (hmakes.mono (fun _ _ _ => trivial) (fun _ _ h => h) fun _ _ h => h).keeps_to_wait h ?_ ?_ hs
  · rintro x _ rfl hx
    exact hx
  · intro x y hxy hx
    unfold Run.HasSignal
    rw [hxy.own, hxy.signals]
    exact hx

/-! ## The comparison -/

/-- How a run that is told to stop some time after it has begun compares with the same run left alone; it comes to
`r`. -/
structure CutShort (e : Executor) (p : Plan) (s : Bench Λ × Run) (ticks : Nat) (r : Except Failure (List StepResult)) :
    Prop where
  result : ((e.execute p).interrupted ticks Run.stop s).result? 0 = some (some r)
  outputs : ((e.execute p).interrupted ticks Run.stop s).state.1.outputs <+: ((e.execute p).alone s).state.1.outputs
  calls : ((e.execute p).interrupted ticks Run.stop s).state.1.pool.calls <+:
    ((e.execute p).alone s).state.1.pool.calls
  /-- nothing is sent and no call is made but what the other one has sent and made by then -/
  still : ((e.execute p).interrupted ticks Run.stop s).state.1.outputs =
      ((e.execute p).stage ticks 0 s).state.1.outputs ∧
    ((e.execute p).interrupted ticks Run.stop s).state.1.pool.calls =
      ((e.execute p).stage ticks 0 s).state.1.pool.calls
  /-- it comes to the same if that had ended by then, else it is cancelled, at the moment it is told to stop -/
  outcome : (∃ t n, (e.execute p).alone s = .finished t n r ∧ n ≤ ticks) ∨
    r = .error .cancelled ∧ (∀ t n a, (e.execute p).alone s = .finished t n a → ticks < n) ∧
      ((e.execute p).interrupted ticks Run.stop s).now = ticks ∧
      (p.respondInBulk = true → ((e.execute p).interrupted ticks Run.stop s).state.1.outputs = s.1.outputs)

/-- a run that has ended is not cut short -/
theorem cutShort_ended {p : Plan} {ticks time : Nat} {r : Except Failure (List StepResult)}
    (h : (e.execute p).stage ticks 0 s = .ended t time r) : e.CutShort p s ticks r := by
  have hreached := stage_spec ticks (e.execute p) (Nat.zero_le ticks) s
  rw [h] at hreached
  obtain ⟨htime, n, hn, halone⟩ := hreached
  obtain ⟨hresult, hstate⟩ := interrupted_ended h
  -- the signal may be raised after the end, which is neither here nor there
  have hsame : ((e.execute p).interrupted ticks Run.stop s).state.1.outputs = t.1.outputs ∧
      ((e.execute p).interrupted ticks Run.stop s).state.1.pool.calls = t.1.pool.calls := by
    rcases hstate with hstate | hstate <;> rw [hstate] <;> exact ⟨rfl, rfl⟩
  refine ⟨hresult, ?_, ?_, ?_, .inl ⟨t, n, halone, by omega⟩⟩
  · rw [halone, hsame.1]
    exact List.prefix_rfl
  · rw [halone, hsame.2]
    exact List.prefix_rfl
  · rw [h]
    exact hsame

/-- what is left of a run after a wait only adds to what there is -/
theorem before_of_waits {p : Plan} {w : Waiting (Bench Λ × Run) (Except Failure (List StepResult))}
    (h : (e.execute p).Waits Eq s w t) : Run.Before t (w.proc.alone t).state := by
  have hours : (e.execute p).Obeys Eq Run.Before (fun _ _ => True) s :=
    (execute_changes Run.allows_before Run.allowsSending_before e p s).mono (fun _ _ _ => trivial) (fun _ _ h => h)
      fun _ _ h => h
  exact (hours.of_waits h).alone (fun _ => rfl) Run.Before.refl fun _ _ _ => Run.Before.trans

/-- a run that waits is cut short there -/
theorem cutShort_waiting {p : Plan} {ticks since : Nat} {w : Waiting (Bench Λ × Run) (Except Failure (List StepResult))}
    (hs : Run.HasSignal s) (h : (e.execute p).stage ticks 0 s = .waits t since w) :
    e.CutShort p s ticks (.error .cancelled) := by
  have hreached := stage_spec ticks (e.execute p) (Nat.zero_le ticks) s
  rw [h] at hreached
  have hlater : ∀ t' n a, (e.execute p).alone s = .finished t' n a → ticks < n := fun _ n _ hend => by
    simpa using hreached.late hend
  obtain ⟨hwaits, -, -, -, n, -, halone⟩ := hreached
  have hstopped := Run.isStopped_stop (execute_hasSignal hwaits hs)
  obtain ⟨hready, hend⟩ := execute_letsGo hwaits hstopped
  obtain ⟨hresult, hstate, hnow⟩ := interrupted_waiting h hready (hend true)
  obtain ⟨houtputs, hcalls⟩ := Run.release_stop t
  have hbefore : Run.Before t ((e.execute p).alone s).state := by
    rw [halone, Ending.state_after]
    exact before_of_waits hwaits
  refine ⟨hresult, ?_, ?_, ?_, .inr ⟨rfl, hlater, hnow, fun hbulk => ?_⟩⟩
  · rw [hstate, houtputs]
    exact hbefore.outputs
  · rw [hstate, hcalls]
    exact hbefore.calls
  · rw [h, hstate]
    exact ⟨houtputs, hcalls⟩
  · rw [hstate, houtputs]
    exact execute_silent hwaits hbulk

/-- **A stop signal only cuts a run short.**

A plan with a step that can be carried out is executed from any state of the bench and of the run, over links that
behave in any way. If the signal of the run is raised before it begins, it ends as cancelled and has changed nothing.
If it is raised at any later moment, what the run sends and the calls that it makes are the first of what it would have
sent and of the calls that it would have made: what had come about by then, and nothing if results are sent together.
It comes to what it would have come to if that had ended by then, and is cancelled at that moment otherwise. -/
theorem stopping_truncates (e : Executor) (p : Plan) (s : Bench Λ × Run)
    (hbind : e.bind s.1.pool.contains p = .ok ()) (hsteps : p.steps ≠ []) (hs : Run.HasSignal s) :
    (e.execute p).alone (Run.stop s) = .finished (Run.stop s) 0 (.error .cancelled) ∧
      ∀ ticks, ∃ r, e.CutShort p s ticks r := by
  constructor
  · obtain ⟨step, rest, hcons⟩ := List.exists_cons_of_ne_nil hsteps
    have hcarry : (e.carryOutUnlessStopped 0 step).alone (Run.stop s) = .finished (Run.stop s) 0 none := by
      rw [carryOutUnlessStopped, alone_get_bind, if_pos (Run.isStopped_stop hs)]
      rfl
    have hbind' : e.bind (Run.stop s).1.pool.contains p = .ok () := hbind
    rw [alone_execute hbind', hcons, steps, alone_bind_of_finished hcarry]
    cases p.respondInBulk <;> rfl
  · intro ticks
    cases hstage : (e.execute p).stage ticks 0 s with
    | ended t time r => exact ⟨r, cutShort_ended hstage⟩
    | waits t since w => exact ⟨_, cutShort_waiting hs hstage⟩

/-- a read, half a second for the meter to settle, and a second read -/
def settlingPlan : Plan :=
  { steps := [.command readMeter, .command { readMeter with delayBefore := .ofMillis 500 }] }

/-- **A run that is stopped while the meter settles has sent the first reading**, is over at once and does not read
again -/
theorem stopped_while_settling :
    meterExecutor.bind meterBench.1.pool.contains settlingPlan = .ok () ∧ settlingPlan.steps ≠ [] ∧
    Run.HasSignal meterBench ∧
    ((meterExecutor.execute settlingPlan).interrupted 200 Run.stop meterBench).result? 0 =
      some (some (.error .cancelled)) ∧
    ((meterExecutor.execute settlingPlan).interrupted 200 Run.stop meterBench).now = 200 ∧
    ((meterExecutor.execute settlingPlan).interrupted 200 Run.stop meterBench).state.1.outputs.length = 1 ∧
    ((meterExecutor.execute settlingPlan).alone meterBench).state.1.outputs.length = 2 := by
  have hbind : meterExecutor.bind meterBench.1.pool.contains settlingPlan = .ok () := by decide +kernel
  have hsteps : settlingPlan.steps ≠ [] := List.cons_ne_nil _ _
  have hsignal : Run.HasSignal meterBench := Nat.zero_lt_one
  obtain ⟨-, hcut⟩ := stopping_truncates meterExecutor settlingPlan meterBench hbind hsteps hsignal
  obtain ⟨r, hr⟩ := hcut 200
  have hlate : 200 < ((meterExecutor.execute settlingPlan).alone meterBench).elapsed := by decide +kernel
  have hsent : ((meterExecutor.execute settlingPlan).stage 200 0 meterBench).state.1.outputs.length = 1 := by
    decide +kernel
  have hboth : ((meterExecutor.execute settlingPlan).alone meterBench).state.1.outputs.length = 2 := by
    decide +kernel
  rcases hr.outcome with ⟨t, n, hend, hn⟩ | ⟨rfl, -, hnow, -⟩
  · rw [hend] at hlate
    exact absurd hlate (Nat.not_lt.2 hn)
  · refine ⟨hbind, hsteps, hsignal, hr.result, hnow, ?_, hboth⟩
    rw [hr.still.1]
    exact hsent

end Executor

end CalBench
