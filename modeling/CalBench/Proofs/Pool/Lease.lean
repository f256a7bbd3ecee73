/-
Leases in a pool that nobody else uses.

A process that has an interface to itself works on links and claims, and leaves the queues alone: `Steady`. In an idle
pool, in which no interface has a queue, whoever queues up is at the head at once.

Results:
- `withLease_succeeds`: what every success of the use of an interface meets, that of the lease meets;
- `withLease_ends`: in an idle pool a lease that is used steadily ends, and the pool is idle again.
-/
import CalBench.Pool.Lease
import CalBench.Proofs.Process.Alone

namespace CalBench

variable {Λ α β : Type}

namespace Pool

/-! ## Queues -/

def queueOf (p : Pool Λ) (key : String) : List Nat := ((p.entries.get? key).map Entry.queue).getD []

def Idle (p : Pool Λ) : Prop := ∀ key, p.queueOf key = []

theorem get?_modify (p : Pool Λ) (key key' : String) (f : Entry Λ → Entry Λ) :
    (p.modify key f).entries.get? key' =
      if key' = key then (p.entries.get? key).map f else p.entries.get? key' := by
  unfold modify
  split
  · rename_i e he
    simp only [Table.get?_insert, he, Option.map_some]
  · rename_i he
    by_cases h : key' = key
    · simp only [h, he, if_true, Option.map_none]
    · simp only [h, if_false]

theorem queueOf_modify {f : Entry Λ → Entry Λ} (hf : ∀ e, (f e).queue = e.queue) (p : Pool Λ) (key : String) :
    (p.modify key f).queueOf = p.queueOf := by
  funext key'
  simp only [queueOf, get?_modify]
  by_cases h : key' = key
  · simp [h, Function.comp_def, hf]
  · simp [h]

theorem queueOf_join {p : Pool Λ} {key : String} {e : Entry Λ} (he : p.entries.get? key = some e) (key' : String) :
    (p.join key).queueOf key' = if key' = key then p.queueOf key ++ [e.issued] else p.queueOf key' := by
  simp only [queueOf, join, get?_modify]
  by_cases h : key' = key
  · simp [h, he]
  · simp [h]

theorem queueOf_leave (p : Pool Λ) (key : String) (number : Nat) (key' : String) :
    (p.leave key number).queueOf key' = if key' = key then (p.queueOf key).erase number else p.queueOf key' := by
  simp only [queueOf, leave, get?_modify]
  by_cases h : key' = key
  · cases p.entries.get? key <;> simp [h]
  · simp [h]

theorem queueOf_claim {p q : Pool Λ} {e : Entry Λ} (h : p.claim e = .ok q) : q.queueOf = p.queueOf := by
  unfold claim at h
  split at h
  · split at h <;> cases h
    rfl
  · cases h
    rfl

theorem queueOf_unclaim (p : Pool Λ) (e : Entry Λ) : (p.unclaim e).queueOf = p.queueOf := by
  unfold unclaim
  split <;> rfl

theorem queueOf_callLink [Link Λ] (p : Pool Λ) (key : String) (c : Call) :
    (callLink key c p).1.queueOf = p.queueOf := by
  unfold callLink
  split
  · rename_i e _
    exact queueOf_modify (f := fun e' => { e' with link := (Link.call c e.link).link }) (fun _ => rfl) p key
  · rfl

end Pool

/-! ## Steady processes -/

/-- the place of a user and the queues of the pool -/
def Client.Queued (place : Option Place) (queues : String → List Nat) (c : Client Λ) : Prop :=
  c.place = place ∧ c.pool.queueOf = queues

/-- the process waits for nobody and leaves the queues alone -/
structure Steady (p : Proc (Client Λ) α) : Prop where
  timed : p.Timed
  keeps : ∀ place queues, p.Keeps (Client.Queued place queues)

namespace Steady

theorem done (a : α) : Steady (.done a : Proc (Client Λ) α) := ⟨trivial, fun _ _ => trivial⟩

theorem bind {p : Proc (Client Λ) α} {f : α → Proc (Client Λ) β} (hp : Steady p) (hf : ∀ a, Steady (f a)) :
    Steady (p.bind f) :=
  ⟨Proc.timed_bind hp.timed fun a => (hf a).timed,
    fun place queues => Proc.keeps_bind (hp.keeps place queues) fun a => (hf a).keeps place queues⟩

theorem andThen {ε : Type} {p : Proc.Fallible (Client Λ) ε α} {f : α → Proc.Fallible (Client Λ) ε β}
    (hp : Steady p) (hf : ∀ a, Steady (f a)) : Steady (p.andThen f) :=
  ⟨Proc.timed_andThen hp.timed fun a => (hf a).timed,
    fun place queues => Proc.keeps_andThen (hp.keeps place queues) fun a => (hf a).keeps place queues⟩

/-- a change of the pool that keeps the queues, and what comes after it -/
theorem act {u : Client Λ → Client Λ} {next : Client Λ → Proc (Client Λ) α} (hplace : ∀ c, (u c).place = c.place)
    (hqueue : ∀ c, (u c).pool.queueOf = c.pool.queueOf) (hnext : ∀ c, Steady (next c)) : Steady (.act u next) :=
  ⟨fun c => (hnext c).timed, fun place queues =>
    ⟨fun c hc => ⟨(hplace c).trans hc.1, (hqueue c).trans hc.2⟩, fun c _ => (hnext c).keeps place queues⟩⟩

theorem get_bind {f : Client Λ → Proc (Client Λ) α} (hf : ∀ c, Steady (f c)) : Steady (Proc.get.bind f) :=
  act (fun _ => rfl) (fun _ => rfl) hf

theorem sleep (ticks : Nat) : Steady (.sleep ticks : Proc (Client Λ) Unit) :=
  ⟨Proc.timed_sleep ticks, fun _ _ => Proc.keeps_sleep _ ticks⟩

theorem sleepIfAny (ticks : Nat) : Steady (.sleepIfAny ticks : Proc (Client Λ) Unit) :=
  ⟨Proc.timed_sleepIfAny ticks, fun _ _ => Proc.keeps_sleepIfAny _ ticks⟩

theorem perform [Link Λ] (key : String) (c : Call) : Steady (Pool.perform (Λ := Λ) key c) :=
  act (fun _ => rfl) (fun s => Pool.queueOf_callLink s.pool key c) fun _ => (sleepIfAny _).bind fun _ => done _

theorem connectIfNeeded [Link Λ] (key : String) (e : Entry Λ) : Steady (Pool.connectIfNeeded key e) := by
  unfold Pool.connectIfNeeded
  split
  · exact done _
  · refine Steady.andThen (act (fun s => ?_) (fun s => ?_) fun s => done _) fun _ =>
      (perform key .connect).bind fun r => ?_
    -- the claim is a change of the pool, if it is not refused
    · dsimp only
      split <;> rfl
    · dsimp only
      split
      · rename_i p h
        exact Pool.queueOf_claim h
      · rfl
    · cases r with
      | ok => exact done _
      | error err =>
        exact bind (act (fun _ => rfl) (fun s => Pool.queueOf_unclaim s.pool e) fun _ => done _) fun _ => done _

theorem makeReady [Link Λ] (name key : String) : Steady (Pool.makeReady (Λ := Λ) name key) := by
  refine get_bind fun s => ?_
  split
  · exact done _
  · rename_i e _
    split
    · exact connectIfNeeded key e
    · exact done _

end Steady

/-! ## Leases -/

namespace Pool

theorem withLease_succeeds [Link Λ] {post : α → Prop} (name : String)
    {use : String → Proc.Fallible (Client Λ) LinkError α} (hu : ∀ key, (use key).Succeeds post) :
    (withLease name use).Succeeds post :=
  Proc.succeeds_andThen (Proc.succeeds_trivial _) fun key _ =>
    Proc.returns_bind (hu key) fun _ hr => Proc.returns_bind (Proc.returns_trivial _) fun _ _ => hr

/-- the queues of a pool in which one interface has one user -/
def soleQueue (key : String) (number : Nat) (key' : String) : List Nat := if key' = key then [number] else []

theorem idle_of_leave {c : Client Λ} {key : String} {number : Nat}
    (h : c.Queued (some ⟨key, number⟩) (soleQueue key number)) : c.leave.pool.Idle := by
  obtain ⟨hp, hq⟩ := h
  intro key'
  simp only [Client.leave, hp, queueOf_leave, hq, soleQueue]
  by_cases hk : key' = key <;> simp [hk]

/-- in an idle pool, whoever queues up is at the head at once -/
theorem queueFor_ends {c : Client Λ} (hc : c.pool.Idle) {key : String} {e : Entry Λ}
    (he : c.pool.entries.get? key = some e) :
    (queueFor key).Ends c fun c' _ => c'.Queued (some ⟨key, e.issued⟩) (soleQueue key e.issued) := by
  have hqueue : (c.join key).pool.queueOf = soleQueue key e.issued := by
    funext key'
    simp only [Client.join, queueOf_join he, hc key, hc key', List.nil_append, soleQueue]
  have hplace : (c.join key).place = some ⟨key, e.issued⟩ := by
    simp only [Client.join, nextNumber, he, Option.map_some, Option.getD_some]
  have hserved : (c.join key).isServed = true := by
    have hhead := congrFun hqueue key
    rw [soleQueue, if_pos rfl, queueOf] at hhead
    simp only [Client.isServed, hplace, Option.all_some, isServed]
    cases hj : (c.join key).pool.entries.get? key with
    | none => rfl
    | some j =>
      rw [hj] at hhead
      simp only [Option.map_some, Option.getD_some] at hhead
      simp [hhead]
  refine ⟨c.join key, 0, (), ?_, hplace, hqueue⟩
  simp only [queueFor, Proc.alone_update_bind, Proc.await, Proc.alone, hserved, if_true]

theorem lease_ends [Link Λ] {c : Client Λ} (hc : c.pool.Idle) (name : String) :
    (lease name).Ends c fun c' r => match r with
      | .ok _ => ∃ key number, c'.Queued (some ⟨key, number⟩) (soleQueue key number)
      | .error _ => c'.pool.Idle := by
  rw [lease, Proc.Ends, Proc.alone_get_bind]
  split
  · exact Proc.ends_done hc
  · rename_i e he
    split
    · refine Proc.ends_bind ((queueFor_ends hc he).mono fun c' _ hq => Proc.ends_bind ?_)
      refine (Proc.ends_of_timed (Steady.makeReady name _).timed ((Steady.makeReady name _).keeps _ _) hq).mono
        fun c'' r hq => ?_
      cases r with
      | ok => exact Proc.ends_done ⟨_, _, hq⟩
      | error err => exact ⟨c''.leave, 0, _, rfl, idle_of_leave hq⟩
    · exact Proc.ends_done hc

/-- **A lease in an idle pool ends, and leaves the pool idle**, if the interface is used steadily -/
theorem withLease_ends [Link Λ] {c : Client Λ} (hc : c.pool.Idle) (name : String)
    {use : String → Proc.Fallible (Client Λ) LinkError α} (hu : ∀ key, Steady (use key)) :
    (withLease name use).Ends c fun c' _ => c'.pool.Idle := by
  refine Proc.ends_bind ((lease_ends hc name).mono fun c' r hr => ?_)
  cases r with
  | error err => exact Proc.ends_done hr
  | ok key =>
    obtain ⟨place, number, hq⟩ := hr
    refine Proc.ends_bind ((Proc.ends_of_timed (hu key).timed ((hu key).keeps _ _) hq).mono fun c'' a hq => ?_)
    exact ⟨c''.leave, 0, a, rfl, idle_of_leave hq⟩

end Pool

end CalBench
