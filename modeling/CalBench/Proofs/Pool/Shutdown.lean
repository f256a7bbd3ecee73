/-
Shutting down a pool that nobody else uses.

Links need not do as they are told when interfaces are disabled: they may fail or take their time. It is only relied on
that a close leaves them closed.

Results:
- `disableAll_ends`: disabling all interfaces of an idle pool ends, and leaves each of them disabled, closed and without
  a resource, with no other calls than to disconnect.
-/
import CalBench.Proofs.Pool.Deeds
import CalBench.Proofs.Pool.Exclusive
import CalBench.Proofs.Pool.Lease

namespace CalBench

open Proc

variable {Λ : Type}

namespace Pool

theorem Idle.leave {c : Client Λ} (hc : c.pool.Idle) : c.leave.pool.Idle := by
  unfold Client.leave
  split
  · intro key
    rw [queueOf_leave, hc, hc]
    exact ite_self []
  · exact hc

/-- an interface that is not there has no queue to wait in -/
theorem queueFor_missing {c : Client Λ} {key : String} (h : c.pool.entries.get? key = none) :
    (queueFor key).Ends c fun c' _ => c'.pool = c.pool := by
  have hjoin : c.pool.join key = c.pool := by
    unfold join modify
    rw [h]
  have hserved : (c.join key).isServed = true := by
    simp only [Client.join, Client.isServed, Option.all_some, isServed, hjoin, h, Option.all_none]
  refine ⟨c.join key, 0, (), ?_, hjoin⟩
  simp only [queueFor, alone_update_bind, await, alone, hserved, if_true]

variable [Link Λ] {ok : Λ → Prop}

theorem disable_ends {c : Client Λ} (hc : c.pool.Idle) (key : String) :
    (disable key).Ends c fun c' _ => c'.pool.Idle := by
  have hidle : (c.pool.modify key fun e => { e with enabled := false }).Idle := by
    intro key'
    rw [queueOf_modify (f := fun e => { e with enabled := false }) fun _ => rfl]
    exact hc key'
  rw [disable, Ends, alone_update_bind]
  generalize hd : { c with pool := c.pool.modify key fun e => { e with enabled := false } } = d
  replace hidle : d.pool.Idle := hd ▸ hidle
  cases he : d.pool.entries.get? key with
  | none =>
    refine ends_bind ((queueFor_missing he).mono fun d' _ hd' => ?_)
    rw [Ends, alone_get_bind, hd', he]
    exact ⟨d'.leave, 0, (), rfl, Idle.leave (hd' ▸ hidle)⟩
  | some e =>
    refine ends_bind ((queueFor_ends hidle he).mono fun d' _ hd' => ?_)
    rw [Ends, alone_get_bind]
    split
    · exact ⟨d'.leave, 0, (), rfl, idle_of_leave hd'⟩
    · rename_i e' _
      -- the interface is ours until it is given back
      have hclose : Steady (if Link.connected e'.link then (perform (Λ := Λ) key .disconnect).bind fun _ => .done ()
          else .done ()) := by
        split
        · exact (Steady.perform key _).bind fun _ => .done ()
        · exact .done ()
      have hunclaim : Steady (update fun s : Client Λ => { s with pool := s.pool.unclaim e' }) :=
        .act (fun _ => rfl) (fun s => queueOf_unclaim s.pool e') fun _ => .done ()
      have hours : Steady ((if Link.connected e'.link then (perform (Λ := Λ) key .disconnect).bind fun _ => .done ()
          else .done ()).bind fun _ => update fun s : Client Λ => { s with pool := s.pool.unclaim e' }) :=
        hclose.bind fun _ => hunclaim
      rw [← Ends, ← bind_assoc]
      refine ends_bind ((ends_of_timed hours.timed (hours.keeps _ _) hd').mono fun d'' _ hd'' => ?_)
      exact ⟨d''.leave, 0, (), rfl, idle_of_leave hd''⟩

theorem disableEach_ends {c : Client Λ} (hc : c.pool.Idle) (keys : List String) :
    (disableEach keys).Ends c fun c' _ => c'.pool.Idle := by
  induction keys generalizing c with
  | nil => exact ends_done hc
  | cons key rest ih => exact ends_bind ((disable_ends hc key).mono fun c' _ hc' => ih hc')

/-- a pool has been shut down, with no other calls than to disconnect -/
structure ShutDown (ok : Λ → Prop) (p q : Pool Λ) : Prop where
  registered : q.Registered ok
  idle : q.Idle
  off : q.Off
  calls : p.Records (· = .disconnect) q

/-- **Disabling all interfaces of an idle pool ends, and shuts it down** -/
theorem disableAll_ends (closing : Link.Closing ok) {c : Client Λ} (hregistered : c.pool.Registered ok)
    (hidle : c.pool.Idle) : disableAll.Ends c fun c' _ => ShutDown ok c.pool c'.pool := by
  have hends : disableAll.Ends c fun c' _ => c'.pool.Idle := by
    rw [disableAll, Ends, alone_get_bind]
    exact disableEach_ends hidle _
  obtain ⟨c', n, a, hc', hidle'⟩ := hends
  have hyields : disableAll.Yields (Using ok) c c' a := yields_of_alone Using.refl hc'
  have hkept : ∀ p q, Dims ok p q → True → True := fun _ _ _ h => h
  obtain ⟨hregistered', -, hoff⟩ := (disableAll_shuts closing hkept c ⟨hregistered, trivial⟩).of_yields hyields
  have hdeeds : (disableAll (Λ := Λ)).Makes (Client.Deed (· = .disconnect)) := disableAll_deeds rfl
  have hdisconnects : (disableAll (Λ := Λ)).Makes fun x y : Client Λ => x.pool.Records (· = .disconnect) y.pool :=
    hdeeds.mono fun _ _ h => h.records
  have hcalls := hdisconnects.of_finished (fun _ => records_same rfl) (fun _ _ _ h h' => h.trans h') hc'
  exact ⟨c', n, a, hc', hregistered', hidle', hoff, hcalls⟩

end Pool

end CalBench
