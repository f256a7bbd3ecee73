/-
Asking units for their errors.

Results:
- `checkErrors_uses`: whoever asks a unit for its errors only uses the pool;
- `checkErrors_ends`: in an idle pool the answer comes, and the pool is idle again;
- `checkErrors_succeeds`: the report is about the unit and the kind of check that were asked for.
-/
import CalBench.Proofs.Run.Changes
import CalBench.Run.ErrorCheck

namespace CalBench

open Proc

variable {Λ : Type} [Link Λ]

namespace ErrorCheck

theorem steady_query (key text : String) : Steady (Pool.query (Λ := Λ) key text) :=
  (Steady.perform key _).andThen fun _ => (Steady.perform key _).andThen fun _ => .done _

theorem steady_drain (key : String) (left : Nat) (entries : List String) :
    Steady (drain (Λ := Λ) key left entries) := by
  induction left generalizing entries with
  | zero => exact .done _
  | succ left ih =>
    refine Steady.andThen ((steady_query key _).andThen fun _ => .done _) fun entry => ?_
    split
    · exact .done _
    · split
      · exact .done _
      · exact ih _

theorem steady_ask (kind : ErrorCheckKind) (d : DeviceBinding) (key : String) : Steady (ask (Λ := Λ) kind d key) := by
  cases kind with
  | gpib4882 =>
    refine Executor.steady_ifOnBus key ?_ (.done _)
    split
    · exact .done _
    · exact (Steady.perform key _).andThen fun _ => (Steady.perform key _).andThen fun _ =>
        (Steady.perform key _).andThen fun _ => .done _
  | scpi => exact (Executor.steady_select key d.address).andThen fun _ => steady_drain key _ _

end ErrorCheck

namespace Executor

open Client

theorem query_uses (key text : String) : (Pool.query (Λ := Λ) key text).Makes Uses :=
  makes_andThen (call_uses key _) fun _ => makes_andThen (call_uses key _) fun _ => makes_done _

theorem drain_uses (key : String) (left : Nat) (entries : List String) :
    (ErrorCheck.drain (Λ := Λ) key left entries).Makes Uses := by
  induction left generalizing entries with
  | zero => exact makes_done _
  | succ left ih =>
    refine makes_andThen (makes_andThen (query_uses key _) fun _ => makes_done _) fun entry => ?_
    split
    · exact makes_done _
    · split
      · exact makes_done _
      · exact ih _

theorem ask_uses (kind : ErrorCheckKind) (d : DeviceBinding) (key : String) :
    (ErrorCheck.ask (Λ := Λ) kind d key).Makes Uses := by
  cases kind with
  | gpib4882 =>
    refine ifOnBus_uses ?_ (makes_done _) key
    split
    · exact makes_done _
    · exact makes_andThen (call_uses key _) fun _ => makes_andThen (call_uses key _) fun _ =>
        makes_andThen (call_uses key _) fun _ => makes_done _
  | scpi => exact makes_andThen (select_uses key d.address) fun _ => drain_uses key _ _

/-- **Whoever asks a unit for its errors only uses the pool** -/
theorem checkErrors_uses (e : Executor) (unitId : String) (kind : ErrorCheckKind) :
    (e.checkErrors (Λ := Λ) unitId kind).Makes Uses := by
  refine makes_get_bind (fun _ => .none rfl) fun s => ?_
  split
  · exact makes_done _
  · rename_i d _
    have hask := use_uses d.interface (ask_uses (Λ := Λ) kind d)
    refine makes_andThen (makes_bind hask fun r => ?_) fun _ => makes_done _
    cases r with
    | ok => exact makes_done _
    | error err => exact makes_done _

/-- **In an idle pool asking a unit for its errors ends**, and the pool is idle again -/
theorem checkErrors_ends (e : Executor) (unitId : String) (kind : ErrorCheckKind) {c : Client Λ} (hc : c.pool.Idle) :
    (e.checkErrors unitId kind).Ends c fun c' _ => c'.pool.Idle := by
  rw [checkErrors, Ends, alone_get_bind]
  split
  · exact ends_done hc
  · rename_i d _
    have hask := Pool.withLease_ends hc d.interface (ErrorCheck.steady_ask (Λ := Λ) kind d)
    refine ends_bind (ends_bind (hask.mono fun c' x hc' => ?_))
    cases x with
    | ok errors => exact ends_done (ends_done hc')
    | error err => exact ends_done (ends_done hc')

/-- a report is about the unit and the kind of check that were asked for -/
theorem checkErrors_succeeds (e : Executor) (unitId : String) (kind : ErrorCheckKind) :
    (e.checkErrors (Λ := Λ) unitId kind).Succeeds fun c => c.unitId = unitId ∧ c.kind = kind := by
  refine returns_get_bind fun s => ?_
  split
  · exact fun _ h => nomatch h
  · exact succeeds_andThen (succeeds_trivial _) fun _ _ c hc => by cases hc; exact ⟨rfl, rfl⟩

end Executor

end CalBench
