/-
What is done to an interface is done to its link.

Processes reach a link through the pool, one call after another; on the link itself the same is an attempt. For as long
as others leave an interface alone the two come to the same: `Plays` says that a process has the result of an attempt,
leaves the link as the attempt leaves it, and that the pool keeps a record of the calls.

- `plays_perform`, `Plays.andThen`: a call, and one process after another;
- `Plays.fails`, `Plays.succeeds`: how a process goes on after an attempt;
- `plays_query`: a question and its answer;
- `comes_withLease`: a lease of an interface that is open is its use.
-/
import CalBench.Proofs.Pool.Courtesy
import CalBench.Proofs.Pool.Exclusive

namespace CalBench

open Proc

/-! ## An interface that others leave alone -/

/-- what the link of an interface has been asked to do -/
def Pool.callsTo {Λ : Type} (key : String) (p : Pool Λ) : List Call :=
  (p.calls.filter fun c => c.1 == key).map Prod.snd

/-- an interface is enabled, with this link, which has been asked to do this -/
def Pool.Facing {Λ : Type} (key : String) (l : Λ) (asked : List Call) (p : Pool Λ) : Prop :=
  (∃ e, p.entries.get? key = some e ∧ e.enabled = true ∧ e.link = l) ∧ p.callsTo key = asked

def LeavesAlone {Λ : Type} (key : String) (others : Client Λ → Client Λ → Prop) : Prop :=
  ∀ l asked c d, others c d → c.pool.Facing key l asked → d.pool.Facing key l asked

namespace Pool

variable {Λ : Type} {key name : String} {l : Λ} {asked : List Call} {p : Pool Λ}

theorem Facing.modify (h : p.Facing key l asked) (key' : String) {f : Entry Λ → Entry Λ}
    (henabled : ∀ e, (f e).enabled = e.enabled) (hlink : ∀ e, (f e).link = e.link) :
    (p.modify key' f).Facing key l asked := by
  obtain ⟨⟨e, he, hon, rfl⟩, rfl⟩ := h
  refine ⟨?_, by rw [callsTo, calls_modify]; rfl⟩
  rw [get?_modify]
  by_cases hkey : key = key'
  · subst hkey
    exact ⟨f e, by rw [if_pos rfl, he]; rfl, (henabled e).trans hon, hlink e⟩
  · exact ⟨e, by rw [if_neg hkey, he], hon, rfl⟩

theorem Facing.join (h : p.Facing key l asked) (key' : String) : (p.join key').Facing key l asked :=
  h.modify key' (f := fun e => { e with queue := e.queue ++ [e.issued], issued := e.issued + 1 }) (fun _ => rfl)
    fun _ => rfl

theorem Facing.leave {c : Client Λ} (h : c.pool.Facing key l asked) : c.leave.pool.Facing key l asked := by
  unfold Client.leave
  split
  · rename_i place _
    exact h.modify place.key (f := fun e => { e with queue := e.queue.erase place.number }) (fun _ => rfl)
      fun _ => rfl
  · exact h

variable [Link Λ]

/-- a call to the link of an interface -/
theorem Facing.callLink (h : p.Facing key l asked) (c : Call) :
    (callLink key c p).2.2 = (Link.call c l).result ∧
      (callLink key c p).1.Facing key (Link.call c l).link (asked ++ [c]) := by
  obtain ⟨⟨e, he, hon, rfl⟩, rfl⟩ := h
  refine ⟨result_callLink he c, ⟨called c e, entry_callLink he c, hon, rfl⟩, ?_⟩
  simp [Pool.callLink, he, callsTo, List.filter_append]

variable {others : Client Λ → Client Λ → Prop}

/-- the calls that follow if something has succeeded -/
def onSuccess {α : Type} (r : Except LinkError α) (calls : α → List Call) : List Call :=
  match r with
  | .ok x => calls x
  | .error _ => []

@[simp] theorem onSuccess_nil {α : Type} (r : Except LinkError α) : (onSuccess r fun _ => []) = [] := by
  cases r <;> rfl

/-- a process does to an interface what an attempt does to its link, by making these calls -/
def Plays (others : Client Λ → Client Λ → Prop) (key : String) {α : Type} (p : Fallible (Client Λ) LinkError α)
    (a : Attempt Λ α) (calls : Λ → List Call) : Prop :=
  ∀ l asked, Meets others Anything (fun c => c.pool.Facing key l asked) p fun r c =>
    r = (a l).result ∧ c.pool.Facing key (a l).link (asked ++ calls l)

theorem plays_perform (halone : LeavesAlone key others) (c : Call) :
    Plays others key (perform key c) (Link.call c) fun _ => [c] :=
  fun l asked => meets_perform (P := fun p => p.Facing key l asked)
    (Q := fun r p => r = (Link.call c l).result ∧ p.Facing key (Link.call c l).link (asked ++ [c]))
    (fun _ _ _ h hp => ⟨hp.1, halone _ _ _ _ h hp.2⟩) fun _ hp => hp.callLink c

omit [Link Λ] in
theorem plays_done {α : Type} (x : α) : Plays others key (.done (.ok x)) (pure x) fun _ => [] :=
  fun _ _ => meets_done fun _ hc => ⟨rfl, by rwa [List.append_nil]⟩

section AndThen

omit [Link Λ]

variable {α β : Type} {p : Fallible (Client Λ) LinkError α} {a : Attempt Λ α} {calls : Λ → List Call}
  {f : α → Fallible (Client Λ) LinkError β}

/-- an attempt that fails is the last one -/
theorem Plays.fails (hp : Plays others key p a calls) {err : LinkError} (ha : (a l).result = .error err)
    {Q : Except LinkError β → Client Λ → Prop}
    (hQ : ∀ c, c.pool.Facing key (a l).link (asked ++ calls l) → Q (.error err) c) :
    Meets others Anything (fun c => c.pool.Facing key l asked) (p.andThen f) Q := by
  refine meets_andThen (hp l asked) (fun x c hc => ?_) fun err' c hc => ?_
  · cases hc.1.trans ha
  · cases hc.1.trans ha
    exact hQ c hc.2

/-- after an attempt that succeeds the process goes on -/
theorem Plays.succeeds (hp : Plays others key p a calls) {x : α} (ha : (a l).result = .ok x)
    {Q : Except LinkError β → Client Λ → Prop}
    (hf : Meets others Anything (fun c => c.pool.Facing key (a l).link (asked ++ calls l)) (f x) Q) :
    Meets others Anything (fun c => c.pool.Facing key l asked) (p.andThen f) Q := by
  refine meets_andThen (hp l asked) (fun y c hc => ?_) fun err c hc => ?_
  · cases hc.1.trans ha
    exact hf c hc.2
  · cases hc.1.trans ha

/-- **One process after the other does what one attempt after the other does** -/
theorem Plays.andThen (hp : Plays others key p a calls) {g : α → Attempt Λ β} {calls' : α → Λ → List Call}
    (hf : ∀ x, Plays others key (f x) (g x) (calls' x)) :
    Plays others key (p.andThen f) (a >>= g) fun l =>
      calls l ++ onSuccess (a l).result fun x => calls' x (a l).link := by
  intro l asked
  cases hl : (a l).result with
  | error err =>
    obtain ⟨hresult, hlink⟩ := Attempt.bind_fails hl g
    simp only [hl, hresult, hlink, onSuccess, List.append_nil]
    exact hp.fails hl fun c hc => ⟨rfl, hc⟩
  | ok x =>
    obtain ⟨hresult, hlink⟩ := Attempt.bind_succeeds hl g
    simp only [hl, hresult, hlink, onSuccess, ← List.append_assoc]
    exact hp.succeeds hl (hf x _ _)

end AndThen

/-- a query of an interface is one of its link -/
theorem plays_query (halone : LeavesAlone key others) (text : String) :
    Plays others key (query key text) (Link.query text) fun l =>
      .writeString text :: onSuccess (Link.call (.writeString text) l).result fun _ => [.read .terminated] := by
  have hread : Plays others key
      ((perform key (.read .terminated)).andThen fun raw => .done (.ok (Text.decodeLossy raw)))
      Link.readString fun _ => [.read .terminated] := by
    have h := (plays_perform halone (.read .terminated)).andThen fun raw => plays_done (Text.decodeLossy raw)
    simp only [onSuccess_nil, List.append_nil] at h
    exact h
  exact (plays_perform halone (.writeString text)).andThen fun _ => hread

abbrev Comes (others : Client Λ → Client Λ → Prop) (key : String) (l : Λ) (asked : List Call) {α : Type}
    (p : Fallible (Client Λ) LinkError α) (Q : Except LinkError α → Λ → List Call → Prop) : Prop :=
  Meets others Anything (fun c => c.pool.Facing key l asked) p fun r c =>
    ∃ l' calls, Q r l' calls ∧ c.pool.Facing key l' (asked ++ calls)

/-- an interface that is open is handed out as it is -/
theorem facing_lease (halone : LeavesAlone (Pool.key name) others) (hopen : Link.connected l = true) :
    Meets others Anything (fun c => c.pool.Facing (Pool.key name) l asked) (lease name) fun r c =>
      r = .ok (Pool.key name) ∧ c.pool.Facing (Pool.key name) l asked := by
  have hready : Meets others Anything (fun c => c.pool.Facing (Pool.key name) l asked)
      (makeReady name (Pool.key name)) fun r c => r = .ok () ∧ c.pool.Facing (Pool.key name) l asked := by
    refine meets_get_bind (fun _ => trivial) fun c hc => ?_
    obtain ⟨e, he, hon, hlink⟩ := hc.1
    rw [he]
    dsimp only
    rw [if_pos hon, connectIfNeeded, if_pos (hlink ▸ hopen)]
    exact meets_done fun d hd => ⟨rfl, hd ▸ hc⟩
  refine meets_get_bind (fun _ => trivial) fun c hc => ?_
  obtain ⟨e, he, hon, -⟩ := hc.1
  unfold entry?
  rw [he]
  dsimp only
  rw [if_pos hon]
  have hqueue := meets_queueFor (P := fun p => p.Facing (Pool.key name) l asked) (k := Pool.key name)
    (fun _ _ h hp => halone _ _ _ _ h hp) fun _ hp => hp.join _
  refine meets_bind (hqueue.mono (fun d hd => hd ▸ hc) fun _ _ h => h) fun _ => meets_bind hready fun r => ?_
  cases r with
  | ok => exact meets_done fun d hd => ⟨rfl, hd.2⟩
  | error err => exact fun d hd => nomatch hd.1

/-- **Who uses an interface that is open uses its link** -/
theorem comes_withLease {α : Type} (halone : LeavesAlone (Pool.key name) others) (hopen : Link.connected l = true)
    {use : String → Fallible (Client Λ) LinkError α} {Q : Except LinkError α → Λ → List Call → Prop}
    (huse : Comes others (Pool.key name) l asked (use (Pool.key name)) Q) :
    Comes others (Pool.key name) l asked (withLease name use) Q := by
  refine meets_andThen (facing_lease halone hopen) (fun k c hc => ?_) fun err c hc => nomatch hc.1
  cases hc.1
  refine meets_bind huse (fun r => ?_) c hc.2
  refine meets_bind (meets_update (fun _ _ => trivial) fun d hd => ?_) fun _ => meets_done fun _ h => h
  obtain ⟨l', calls, hq, hd⟩ := hd
  exact ⟨l', calls, hq, hd.leave⟩

end Pool

end CalBench
