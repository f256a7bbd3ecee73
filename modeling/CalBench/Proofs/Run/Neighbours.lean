/-
What else goes on at a bench.

Runs are not alone with their interfaces: other runs use them, units are asked for their errors, and all interfaces may
be disabled at any time. All of this waits in the queues of the interfaces that it uses, and leaves alone what others
are at the head of. So what a run relies on is what it gets.

Results:
- `Behaving.respecting`: what one run does respects every other;
- `checkErrors_meets`, `disableAll_meets`: so does whoever asks for errors or shuts down the interfaces.
-/
import CalBench.Proofs.Run.Addressing
import CalBench.Run.ErrorCheck

namespace CalBench

open Proc Client

variable {Λ α : Type} [Link Λ] {ok : Λ → Prop}

def anyCall (_ : String) (_ : Call) (_ : Λ) : Prop := True

/-- **What one run does respects every other run**, which has a place of its own -/
theorem Run.Behaving.respecting {rule : String → Call → Λ → Prop} {x y : Bench Λ × Run} (h : Behaving ok rule x y)
    {other : Run} (hplace : ∀ p, other.place = some p → x.2.place ≠ some p) :
    Respecting ok (x.1, other) (y.1, other) := h.courteous.respects hplace

variable (stays : ∀ c l, ok l → ok (Link.call c l).link)

include stays

namespace Executor

theorem call_meets {key : String} {P : Λ → Prop} (c : Call) :
    Meets (Respects ok) (Behaves ok anyCall) (Has ok key P) (Pool.perform key c) fun _ => Has ok key fun _ => True :=
  Pool.perform_meets_any stays fun _ _ => trivial

theorem drain_meets {key : String} (left : Nat) (entries : List String) :
    Meets (Respects ok) (Behaves ok anyCall) (Has ok key fun _ => True) (ErrorCheck.drain key left entries)
      fun _ => Has ok key fun _ => True := by
  induction left generalizing entries with
  | zero => exact meets_done fun _ h => h
  | succ left ih =>
    have hquery : Meets (Respects ok) (Behaves ok anyCall) (Has ok key fun _ => True)
        (Pool.query (Λ := Λ) key ErrorCheck.queueQuery) fun _ => Has ok key fun _ => True :=
      (call_meets stays _).andThen fun _ => (call_meets stays _).andThen fun _ => meets_done fun _ h => h
    refine (hquery.andThen fun _ => meets_done fun _ h => h).andThen fun entry => ?_
    split
    · exact meets_done fun _ h => h
    · split
      · exact meets_done fun _ h => h
      · exact ih _

theorem ask_meets {key : String} (kind : ErrorCheckKind) (d : DeviceBinding) :
    Meets (Respects ok) (Behaves ok anyCall) (Has ok key fun _ => True) (ErrorCheck.ask kind d key)
      fun _ => Has ok key fun _ => True := by
  cases kind with
  | gpib4882 =>
    refine ifOnBus_meets ?_ (meets_done fun _ h => h.imp fun _ _ => trivial)
    split
    · exact meets_done fun _ h => h.imp fun _ _ => trivial
    · refine Meets.mono (P := Has ok key fun _ => True) ?_ (fun _ h => h.imp fun _ _ => trivial) fun _ _ h => h
      exact (call_meets stays _).andThen fun _ => (call_meets stays _).andThen fun _ =>
        (call_meets stays _).andThen fun _ => meets_done fun _ h => h
  | scpi =>
    have hselect : Meets (Respects ok) (Behaves ok anyCall) (Has ok key fun _ => True)
        (select (Λ := Λ) key d.address) fun _ => Has ok key fun _ => True := by
      unfold select
      split
      · exact meets_done fun _ h => h
      · exact ifOnBus_meets (call_meets stays _) (meets_done fun _ h => h.imp fun _ _ => trivial)
    exact hselect.andThen fun _ => drain_meets stays _ _

/-- **Asking a unit for its errors** leaves other users alone -/
theorem checkErrors_meets (e : Executor) (unitId : String) (kind : ErrorCheckKind) :
    Meets (Respects ok) (Behaves ok anyCall) (fun x : Client Λ => x.pool.Links ok) (e.checkErrors unitId kind)
      fun _ x => x.pool.Links ok := by
  refine meets_get_bind .refl fun x hx => ?_
  split
  · exact meets_done fun y hy => hy ▸ hx
  · rename_i d hd
    have hask : Meets (Respects ok) (Behaves ok anyCall) (fun x : Client Λ => x.pool.Links ok)
        (Pool.withLease d.interface (ErrorCheck.ask kind d)) fun _ x => x.pool.Links ok :=
      Pool.withLease_meets stays d.interface (fun _ => trivial)
        ((ask_meets stays kind d).mono (fun _ h => h) fun _ _ h => h.1)
    exact ((hask.mapError Failure.link).andThen fun _ => meets_done fun _ h => h).mono (fun y hy => hy ▸ hx)
      fun _ _ h => h

end Executor

namespace Pool

omit stays in
theorem giveBack_meets : Meets (Respects ok) (Behaves ok anyCall) (fun x : Client Λ => x.pool.Links ok) giveBack
    fun _ x => x.pool.Links ok :=
  meets_update (fun x _ => acts_leave x) fun x hx => (courteous_leave x).links hx

/-- an interface is blocked at once, and closed when its turn has come -/
theorem disable_meets (key : String) :
    Meets (Respects ok) (Behaves ok anyCall) (fun x : Client Λ => x.pool.Links ok) (disable key)
      fun _ x => x.pool.Links ok := by
  have hoff (x : Client Λ) : Courteous ok x
      { x with pool := x.pool.modify key fun e => { e with enabled := false } } :=
    courteous_changed (changed_modify x.pool key _) (fun _ he => he) fun _ _ _ hhead _ => ⟨hhead, rfl⟩
  refine meets_bind (meets_update (Q := fun _ x => x.pool.Links ok) (fun x _ =>
    ⟨hoff x, .quietly (untouched_modify x.pool key fun _ => rfl)⟩) fun x hx => (hoff x).links hx) fun _ => ?_
  refine meets_bind (queueFor_meets key) fun _ => meets_get_bind .refl fun x hx => ?_
  split
  · exact giveBack_meets.mono (fun y hy => hy ▸ hx.1) fun _ _ h => h
  · rename_i e he
    obtain ⟨hlinks, number, hplace, hserved⟩ := hx
    have hours : Has ok key (fun _ => True) x :=
      ⟨hlinks, number, e.link, hplace, serving_of_isServed hserved he, trivial⟩
    have hclose : Meets (Respects ok) (Behaves ok anyCall) (Has ok key fun _ => True)
        (if Link.connected e.link then (perform key .disconnect).bind fun _ => .done () else .done ())
        fun _ => Has ok key fun _ => True := by
      split
      · exact meets_bind (Executor.call_meets stays _) fun _ => meets_done fun _ h => h
      · exact meets_done fun _ h => h
    exact (meets_bind hclose fun _ => meets_bind (unclaim_meets e) fun _ =>
      giveBack_meets.mono (fun _ h => h.1) fun _ _ h => h).mono (fun y hy => hy ▸ hours) fun _ _ h => h

theorem disableEach_meets (keys : List String) :
    Meets (Respects ok) (Behaves ok anyCall) (fun x : Client Λ => x.pool.Links ok) (disableEach keys)
      fun _ x => x.pool.Links ok := by
  induction keys with
  | nil => exact meets_done fun _ h => h
  | cons key rest ih => exact meets_bind (disable_meets stays key) fun _ => ih

/-- **Disabling all interfaces** leaves those alone who use one -/
theorem disableAll_meets :
    Meets (Respects ok) (Behaves ok anyCall) (fun x : Client Λ => x.pool.Links ok) disableAll
      fun _ x => x.pool.Links ok :=
  meets_get_bind .refl fun _ hx => (disableEach_meets stays _).mono (fun _ hy => hy ▸ hx) fun _ _ h => h

end Pool

end CalBench
