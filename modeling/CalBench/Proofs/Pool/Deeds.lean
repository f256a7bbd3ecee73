/-
What users do to a pool.

Whoever uses interfaces, or disables them, makes one of a few changes to the pool at a time: it joins or leaves a queue,
switches an interface off, calls a link, claims a resource or gives one up (`Client.Deed`). Which calls these can be is
seen from the operation. What is said about all that a user does is derived from this list.

Results:
- `withLease_deeds`: who uses an interface may have it connected, and makes the calls of the use;
- `disableAll_deeds`: disabling interfaces only makes them disconnect;
- `Deed.records`: the calls are added to the record of the pool, and nothing is taken out of it;
- `Deed.registered`: interfaces stay under their keys, and claims are made by interfaces that are there.
-/
import CalBench.Proofs.Pool.Courtesy

namespace CalBench

open Proc

variable {Λ α : Type} {rule : Call → Prop}

namespace Pool

variable {p q r : Pool Λ}

/-- calls that follow a rule have been added to the record -/
def Records (rule : Call → Prop) (p q : Pool Λ) : Prop :=
  ∃ more : List (String × Call), q.calls = p.calls ++ more ∧ ∀ c ∈ more, rule c.2

theorem records_same (h : q.calls = p.calls) : Records rule p q :=
  ⟨[], by rw [h, List.append_nil], fun _ hc => (List.not_mem_nil hc).elim⟩

theorem Records.trans (h : Records rule p q) (h' : Records rule q r) : Records rule p r := by
  obtain ⟨more, hmore, hrule⟩ := h
  obtain ⟨more', hmore', hrule'⟩ := h'
  refine ⟨more ++ more', by rw [hmore', hmore, List.append_assoc], fun c hc => ?_⟩
  rcases List.mem_append.1 hc with hc | hc
  · exact hrule c hc
  · exact hrule' c hc

end Pool

namespace Client

variable [Link Λ]

/-- a change that a user makes to the pool, with calls that follow a rule -/
inductive Deed (rule : Call → Prop) (x y : Client Λ) : Prop
  | none (h : y.pool = x.pool)
  | sets (key : String) (f : Entry Λ → Entry Λ) (h : y.pool = x.pool.modify key f)
      (hf : ∀ e, (f e).name = e.name ∧ (f e).resource = e.resource ∧ (f e).link = e.link)
  | calls (key : String) (c : Call) (hc : rule c) (h : y.pool = (Pool.callLink key c x.pool).1)
  /-- a resource has been claimed for an interface over it -/
  | claims (key : String) (e : Entry Λ) (he : x.pool.entries.get? key = some e) (h : x.pool.claim e = .ok y.pool)
  | unclaims (e : Entry Λ) (h : y.pool = x.pool.unclaim e)

abbrev Uses (x y : Client Λ) : Prop := x.Deed (fun _ => True) y

namespace Deed

variable {x y : Client Λ}

/-- **Nothing is taken out of the record**, and only calls by the rule are added to it -/
theorem records (h : x.Deed rule y) : x.pool.Records rule y.pool := by
  cases h with
  | none h => exact Pool.records_same (by rw [h])
  | sets key f h => exact Pool.records_same (by rw [h, Pool.calls_modify])
  | calls key c hc h =>
    unfold Pool.callLink at h
    split at h
    · exact ⟨[(key, c)], by rw [h], fun _ hmem => by rw [List.mem_singleton.1 hmem]; exact hc⟩
    · exact Pool.records_same (by rw [h])
  | claims key e _ h => exact Pool.records_same (Pool.untouched_claim h).1.calls
  | unclaims e h => exact Pool.records_same (by rw [h, (Pool.untouched_unclaim x.pool e).calls])

/-- **Whatever a user does, claims are made by interfaces that are there** -/
theorem registered {ok : Λ → Prop} (stays : ∀ c l, ok l → ok (Link.call c l).link) (h : x.Deed rule y)
    (hx : x.pool.Registered ok) : y.pool.Registered ok := by
  cases h with
  | none h => exact h ▸ hx
  | sets key f h hf =>
    rw [h]
    exact hx.changed (Pool.changed_modify x.pool key f) (fun e => (hf e).1) (fun e => (hf e).2.1) fun e he => by
      rw [(hf e).2.2]
      exact he
  | calls key c _ h =>
    rw [h]
    exact hx.changed (Pool.changed_callLink x.pool key c) (fun _ => rfl) (fun _ => rfl) fun e => stays c e.link
  | claims key e he h => exact hx.claim he h
  | unclaims e h => exact h ▸ hx.unclaim e

theorem sets_queue (key : String) {f : Entry Λ → List Nat} {g : Entry Λ → Nat}
    (h : y.pool = x.pool.modify key fun e => { e with queue := f e, issued := g e }) : x.Deed rule y :=
  .sets key _ h fun _ => ⟨rfl, rfl, rfl⟩

theorem leave (x : Client Λ) : x.Deed rule x.leave := by
  cases hplace : x.place with
  | none => exact .none (by rw [Client.leave, hplace])
  | some p => exact sets_queue p.key (by rw [Client.leave, hplace]; rfl)

end Deed

end Client

/-! ## Operations -/

namespace Pool

open Client

variable [Link Λ]

theorem giveBack_deeds : (giveBack (Λ := Λ)).Makes (Deed rule) := makes_update Deed.leave

theorem unclaim_deeds (e : Entry Λ) :
    (update fun s : Client Λ => { s with pool := s.pool.unclaim e }).Makes (Deed rule) :=
  makes_update fun _ => .unclaims e rfl

theorem queueFor_deeds (key : String) : (queueFor (Λ := Λ) key).Makes (Deed rule) :=
  makes_bind (makes_update fun _ => Deed.sets_queue key rfl) fun _ _ _ _ _ _ => trivial

theorem perform_deeds {c : Call} (h : rule c) (key : String) : (perform (Λ := Λ) key c).Makes (Deed rule) :=
  fun _ => ⟨.calls key c h rfl, makes_bind (makes_sleepIfAny _) (fun _ => makes_done _) _⟩

/-- an interface that is there is connected -/
theorem connectIfNeeded_deeds (h : rule .connect) {key : String} {e : Entry Λ} {x : Client Λ}
    (he : x.pool.entries.get? key = some e) :
    (connectIfNeeded key e).Obeys Anything (Deed rule) (fun _ _ => True) x := by
  unfold connectIfNeeded
  split
  · trivial
  · refine obeys_andThen ⟨?_, ?_⟩
    · -- nothing has come between the look at the interface and the claim
      dsimp only
      split
      · rename_i q hclaim
        exact .claims key e he hclaim
      · exact .none rfl
    · dsimp only
      split
      · refine makes_bind (perform_deeds h key) (fun r => ?_) _
        cases r with
        | ok => exact makes_done _
        | error err => exact makes_bind (unclaim_deeds e) fun _ => makes_done _
      · trivial

theorem lease_deeds (h : rule .connect) (name : String) : (lease (Λ := Λ) name).Makes (Deed rule) := by
  have hready : (makeReady (Λ := Λ) name (key name)).Makes (Deed rule) := by
    intro x
    refine obeys_get_bind (.none rfl) ?_
    split
    · trivial
    · rename_i e he
      split
      · exact connectIfNeeded_deeds h he
      · trivial
  refine makes_get_bind (fun _ => .none rfl) fun x => ?_
  split
  · exact makes_done _
  · split
    · refine makes_bind (queueFor_deeds _) fun _ => makes_bind hready fun r => ?_
      cases r with
      | ok => exact makes_done _
      | error err => exact makes_bind giveBack_deeds fun _ => makes_done _
    · exact makes_done _

/-- **Who uses an interface makes the calls of the use**, besides connecting it -/
theorem withLease_deeds (h : rule .connect) (name : String) {use : String → Fallible (Client Λ) LinkError α}
    (huse : ∀ key, (use key).Makes (Deed rule)) : (withLease name use).Makes (Deed rule) :=
  makes_andThen (lease_deeds h name) fun key =>
    makes_bind (huse key) fun _ => makes_bind giveBack_deeds fun _ => makes_done _

theorem disable_deeds (h : rule .disconnect) (key : String) : (disable (Λ := Λ) key).Makes (Deed rule) := by
  refine makes_bind (makes_update fun _ => .sets key _ rfl fun _ => ⟨rfl, rfl, rfl⟩) fun _ =>
    makes_bind (queueFor_deeds key) fun _ => makes_get_bind (fun _ => .none rfl) fun x => ?_
  split
  · exact giveBack_deeds
  · refine makes_bind ?_ fun _ => makes_bind (unclaim_deeds _) fun _ => giveBack_deeds
    split
    · exact makes_bind (perform_deeds h key) fun _ => makes_done _
    · exact makes_done _

/-- **Disabling interfaces makes no calls but to disconnect** -/
theorem disableAll_deeds (h : rule .disconnect) : (disableAll (Λ := Λ)).Makes (Deed rule) := by
  refine makes_get_bind (fun _ => .none rfl) fun x => ?_
  generalize x.pool.entries.entries.map Prod.fst = keys
  induction keys with
  | nil => exact makes_done _
  | cons key rest ih => exact makes_bind (disable_deeds h key) fun _ => ih

end Pool

end CalBench
