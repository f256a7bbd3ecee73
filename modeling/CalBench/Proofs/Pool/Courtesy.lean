/-
Users of interfaces leave each other alone.

An interface belongs to whoever is at the head of its queue. What a user relies on is that the others leave it its
place, and the interface and its link for as long as it is at the head (`Respects`); what it does itself spares what
others are at the head of (`Courteous`). One is what the other is for (`Courteous.respects`). A user changes a link only
by calling it, and only at the interface that is its own (`Acts`).

Results:
- `perform_meets`: a call by whoever has an interface to itself;
- `lease_meets`, `withLease_meets`: from the lease on nobody else calls the link, until it is given back.
-/
import CalBench.Pool.Lease
import CalBench.Proofs.Pool.Owned
import CalBench.Proofs.Process.Turns

namespace CalBench

open Proc

variable {Λ α : Type}

namespace Pool

variable {p q r : Pool Λ}

/-! ## What others see of a pool -/

def Links (ok : Λ → Prop) (p : Pool Λ) : Prop := ∀ key e, p.entries.get? key = some e → ok e.link

/-- the number at the head of the queue for an interface, and the link of the interface -/
def Serving (p : Pool Λ) (key : String) (number : Nat) (l : Λ) : Prop :=
  ∃ e, p.entries.get? key = some e ∧ e.queue.head? = some number ∧ e.link = l

/-- no link is called and none is changed -/
structure Untouched (p q : Pool Λ) : Prop where
  calls : q.calls = p.calls
  links : ∀ key, (q.entries.get? key).map Entry.link = (p.entries.get? key).map Entry.link

theorem Untouched.refl (p : Pool Λ) : Untouched p p := ⟨rfl, fun _ => rfl⟩

theorem calls_modify (p : Pool Λ) (key : String) (f : Entry Λ → Entry Λ) : (p.modify key f).calls = p.calls := by
  unfold modify
  split <;> rfl

theorem untouched_modify (p : Pool Λ) (key : String) {f : Entry Λ → Entry Λ} (hf : ∀ e, (f e).link = e.link) :
    Untouched p (p.modify key f) := by
  refine ⟨calls_modify p key f, fun key' => ?_⟩
  rw [get?_modify]
  by_cases hkey : key' = key
  · simp [hkey, Function.comp_def, hf]
  · rw [if_neg hkey]

theorem untouched_claim {e : Entry Λ} (h : p.claim e = .ok q) : Untouched p q ∧ q.entries = p.entries := by
  rcases claim_eq_ok h with ⟨-, rfl⟩ | ⟨-, rfl⟩
  · exact ⟨.refl q, rfl⟩
  · exact ⟨⟨rfl, fun _ => rfl⟩, rfl⟩

theorem untouched_unclaim (p : Pool Λ) (e : Entry Λ) : Untouched p (p.unclaim e) := by
  unfold unclaim
  split <;> exact ⟨rfl, fun _ => rfl⟩

end Pool

/-! ## Users among others -/

namespace Client

variable {ok : Λ → Prop} {x y : Client Λ}

/-- what others do: the place of a user stays as it is, and so does what the user is at the head of -/
structure Respects (ok : Λ → Prop) (x y : Client Λ) : Prop where
  place : y.place = x.place
  links : x.pool.Links ok → y.pool.Links ok
  ours : ∀ key number l, x.place = some ⟨key, number⟩ → x.pool.Serving key number l → y.pool.Serving key number l

/-- what a user does: it spares what others are at the head of -/
structure Courteous (ok : Λ → Prop) (x y : Client Λ) : Prop where
  links : x.pool.Links ok → y.pool.Links ok
  theirs : ∀ key number l, x.place ≠ some ⟨key, number⟩ → x.pool.Serving key number l → y.pool.Serving key number l

/-- **What a user does respects every other user**, whatever place that one has -/
theorem Courteous.respects (h : Courteous ok x y) {place : Option Place} (hp : ∀ p, place = some p → x.place ≠ some p) :
    Respects ok ⟨x.pool, place⟩ ⟨y.pool, place⟩ :=
  ⟨rfl, h.links, fun key number l hplace => h.theirs key number l (hp _ hplace)⟩

theorem Courteous.of_entries (h : y.pool.entries = x.pool.entries) : Courteous ok x y := by
  refine ⟨fun hx key e he => hx key e (h ▸ he), fun key number l _ hs => ?_⟩
  obtain ⟨e, he, hhead, hlink⟩ := hs
  exact ⟨e, h ▸ he, hhead, hlink⟩

theorem Courteous.refl (x : Client Λ) : Courteous ok x x := .of_entries rfl

/-- an interface is changed, but not for others who are at the head of its queue -/
theorem courteous_changed {key : String} {f : Entry Λ → Entry Λ} (h : Pool.Changed key f x.pool y.pool)
    (hok : ∀ e, ok e.link → ok (f e).link)
    (hf : ∀ e number, x.pool.entries.get? key = some e → e.queue.head? = some number →
      x.place ≠ some ⟨key, number⟩ → (f e).queue.head? = some number ∧ (f e).link = e.link) : Courteous ok x y := by
  refine ⟨fun hx key' e' he' => ?_, fun key' number l hplace hs => ?_⟩
  · rcases h.before he' with ⟨-, e, he, rfl⟩ | he
    · exact hok e (hx key e he)
    · exact hx key' e' he
  · obtain ⟨e, he, hhead, hlink⟩ := hs
    by_cases hkey : key' = key
    · subst hkey
      obtain ⟨hhead', hlink'⟩ := hf e number he hhead hplace
      exact ⟨f e, by rw [h.entries, if_pos rfl, he]; rfl, hhead', hlink'.trans hlink⟩
    · exact ⟨e, by rw [h.entries, if_neg hkey]; exact he, hhead, hlink⟩

theorem courteous_join (key : String) (x : Client Λ) : Courteous ok x (x.join key) := by
  refine courteous_changed (Pool.changed_modify x.pool key _) (fun _ he => he) fun e number _ hhead _ => ⟨?_, rfl⟩
  rw [List.head?_append, hhead]
  rfl

theorem courteous_leave (x : Client Λ) : Courteous ok x x.leave := by
  unfold leave
  split
  · rename_i place hplace
    refine courteous_changed (Pool.changed_modify x.pool place.key _) (fun _ he => he)
      fun e number _ hhead hother => ⟨?_, rfl⟩
    -- it is another number that leaves
    obtain ⟨rest, hqueue⟩ := List.head?_eq_some_iff.1 hhead
    have hne : ¬ number = place.number := by
      rintro rfl
      exact hother hplace
    rw [hqueue, List.erase_cons_tail (by simpa using hne)]
    rfl
  · exact .refl x

theorem untouched_leave (x : Client Λ) : x.pool.Untouched x.leave.pool := by
  unfold leave
  split
  · exact Pool.untouched_modify _ _ fun _ => rfl
  · exact .refl _

variable [Link Λ]

/-- a user leaves the links alone, or calls the one that is its own -/
inductive Acts (rule : String → Call → Λ → Prop) (x y : Client Λ) : Prop
  | quietly (h : x.pool.Untouched y.pool)
  | calls (key : String) (c : Call) (number : Nat) (l : Λ) (hplace : x.place = some ⟨key, number⟩)
    (hserving : x.pool.Serving key number l) (hrule : rule key c l)
    (h : y = { x with pool := (Pool.callLink key c x.pool).1 })

/-- what a user may do whose calls follow a rule -/
structure Behaves (ok : Λ → Prop) (rule : String → Call → Λ → Prop) (x y : Client Λ) : Prop where
  courteous : Courteous ok x y
  acts : Acts rule x y

theorem Behaves.refl {rule : String → Call → Λ → Prop} (x : Client Λ) : Behaves ok rule x x :=
  ⟨.refl x, .quietly (.refl x.pool)⟩

def Has (ok : Λ → Prop) (key : String) (P : Λ → Prop) (x : Client Λ) : Prop :=
  x.pool.Links ok ∧ ∃ number l, x.place = some ⟨key, number⟩ ∧ x.pool.Serving key number l ∧ P l

omit [Link Λ] in
theorem Has.respects {key : String} {P : Λ → Prop} (hx : Has ok key P x) (h : Respects ok x y) : Has ok key P y := by
  obtain ⟨hlinks, number, l, hplace, hserving, hl⟩ := hx
  exact ⟨h.links hlinks, number, l, h.place.trans hplace, h.ours key number l hplace hserving, hl⟩

omit [Link Λ] in
theorem Has.imp {key : String} {P Q : Λ → Prop} (hx : Has ok key P x) (h : ∀ l, P l → Q l) : Has ok key Q x := by
  obtain ⟨hlinks, number, l, hplace, hserving, hl⟩ := hx
  exact ⟨hlinks, number, l, hplace, hserving, h l hl⟩

omit [Link Λ] in
theorem Has.of_entries {key : String} {P : Λ → Prop} (hx : Has ok key P x) (hplace : y.place = x.place)
    (h : y.pool.entries = x.pool.entries) : Has ok key P y := by
  obtain ⟨hlinks, number, l, hx, ⟨e, he, hs⟩, hl⟩ := hx
  exact ⟨fun key e he => hlinks key e (h ▸ he), number, l, hplace.trans hx, ⟨e, h ▸ he, hs⟩, hl⟩

end Client

/-! ## Using interfaces -/

namespace Pool

open Client

variable {ok : Λ → Prop} {rule : String → Call → Λ → Prop}

theorem Serving.number_eq {p : Pool Λ} {key : String} {number number' : Nat} {l : Λ} (h : p.Serving key number l)
    {e : Entry Λ} (he : p.entries.get? key = some e) (hhead : e.queue.head? = some number') : number' = number := by
  obtain ⟨e', he', hhead', -⟩ := h
  rw [he] at he'
  cases he'
  exact Option.some.inj (hhead.symm.trans hhead')

/-- whoever has come to the head of the queue for an interface that is there has it to itself -/
theorem serving_of_isServed {p : Pool Λ} {key : String} {number : Nat} (h : p.isServed key number = true) {e : Entry Λ}
    (he : p.entries.get? key = some e) : p.Serving key number e.link := by
  rw [isServed, he] at h
  exact ⟨e, he, by simpa using h, rfl⟩

variable [Link Λ]

theorem acts_leave (x : Client Λ) : Behaves ok rule x x.leave := ⟨courteous_leave x, .quietly (untouched_leave x)⟩

section Calls

variable (stays : ∀ c l, ok l → ok (Link.call c l).link) {key : String} {c : Call} {P : Λ → Prop}
  {Q : Except LinkError c.Answer → Λ → Prop} (hrule : ∀ l, ok l → P l → rule key c l)
  (hQ : ∀ l, ok l → P l → Q (Link.call c l).result (Link.call c l).link)

include stays hrule hQ

/-- a call to the link of an interface that is ours -/
theorem callLink_behaves {x : Client Λ} (hx : Has ok key P x) :
    Behaves ok rule x { x with pool := (callLink key c x.pool).1 } ∧
      Has ok key (Q (callLink key c x.pool).2.2) { x with pool := (callLink key c x.pool).1 } := by
  obtain ⟨hlinks, number, l, hplace, hserving, hl⟩ := hx
  obtain ⟨e, he, hhead, rfl⟩ := id hserving
  have hok := hlinks key e he
  have hchanged := changed_callLink x.pool key c
  have hresult : (callLink key c x.pool).2.2 = (Link.call c e.link).result := by
    unfold callLink
    rw [he]
  have hcourteous : Courteous ok x { x with pool := (callLink key c x.pool).1 } := by
    refine courteous_changed hchanged (fun e => stays c e.link) fun e number' he hhead hother => ?_
    -- the head of the queue is our number
    rw [hserving.number_eq he hhead] at hother
    exact absurd hplace hother
  refine ⟨⟨hcourteous, .calls key c number e.link hplace hserving (hrule e.link hok hl) rfl⟩,
    hcourteous.links hlinks, number, (Link.call c e.link).link, hplace, ?_, ?_⟩
  · exact ⟨called c e, by rw [hchanged.entries, if_pos rfl, he]; rfl, hhead, rfl⟩
  · rw [hresult]
    exact hQ e.link hok hl

/-- **Whoever has an interface to itself may call its link**, if the rule allows the call -/
theorem perform_meets :
    Meets (Respects ok) (Behaves ok rule) (Has ok key P) (perform key c) fun r => Has ok key (Q r) := by
  intro x hx
  obtain ⟨hbehaves, hhas⟩ := callLink_behaves stays hrule hQ hx
  exact ⟨hbehaves, obeys_bind (meets_sleepIfAny (fun _ _ h hx => hx.respects h) _ _ hhas)⟩

omit hrule hQ in
/-- a call that the rule allows whatever the link is like -/
theorem perform_meets_any (hrule : ∀ l, ok l → rule key c l) :
    Meets (Respects ok) (Behaves ok rule) (Has ok key P) (perform key c) fun _ => Has ok key fun _ => True :=
  perform_meets stays (fun l hl _ => hrule l hl) fun _ _ _ => trivial

end Calls

/-- what is known when the wait for an interface is over -/
def Served (ok : Λ → Prop) (key : String) (x : Client Λ) : Prop :=
  x.pool.Links ok ∧ ∃ number, x.place = some ⟨key, number⟩ ∧ x.pool.isServed key number = true

theorem queueFor_meets (key : String) :
    Meets (Respects ok) (Behaves ok rule) (fun x : Client Λ => x.pool.Links ok) (queueFor key)
      fun _ => Served ok key := by
  intro x hx
  refine ⟨⟨courteous_join key x, .quietly (untouched_modify _ _ fun _ => rfl)⟩, fun y b hy hb => ?_⟩
  cases b with
  | false => exact absurd rfl hb
  | true =>
    refine ⟨hy.links ((courteous_join key x).links hx), x.pool.nextNumber key, hy.place, ?_⟩
    have hserved : y.isServed = true := hb
    rw [Client.isServed, hy.place] at hserved
    exact hserved

/-- claims are no matter of links and queues -/
theorem claim_meets {key : String} {P : Λ → Prop} (e : Entry Λ) :
    Meets (Respects ok) (Behaves ok rule) (Has ok key P)
      (Proc.step fun s : Client Λ => match s.pool.claim e with
        | .ok p => ({ s with pool := p }, Except.ok ())
        | .error err => (s, .error err)) fun _ => Has ok key P := by
  refine meets_step (fun x _ => ?_) fun x hx => ?_
  · split
    · rename_i q h
      exact ⟨.of_entries (untouched_claim h).2, .quietly (untouched_claim h).1⟩
    · exact .refl x
  · split
    · rename_i q h
      exact hx.of_entries rfl (untouched_claim h).2
    · exact hx

theorem unclaim_meets {key : String} {P : Λ → Prop} (e : Entry Λ) :
    Meets (Respects ok) (Behaves ok rule) (Has ok key P)
      (update fun s : Client Λ => { s with pool := s.pool.unclaim e }) fun _ => Has ok key P :=
  meets_update (fun x _ => ⟨.of_entries (entries_unclaim x.pool e), .quietly (untouched_unclaim x.pool e)⟩)
    fun x hx => hx.of_entries rfl (entries_unclaim x.pool e)

section Leases

variable (stays : ∀ c l, ok l → ok (Link.call c l).link)

include stays

/-- an interface that is ours is still ours when it has been connected, or could not be -/
theorem connectIfNeeded_meets {key : String} (hconnect : ∀ l, rule key .connect l) (e : Entry Λ) :
    Meets (Respects ok) (Behaves ok rule) (Has ok key fun _ => True) (connectIfNeeded key e)
      fun _ => Has ok key fun _ => True := by
  unfold connectIfNeeded
  split
  · exact meets_done fun _ h => h
  · refine meets_andThen (claim_meets e) (fun _ =>
      meets_bind (perform_meets_any stays fun l _ => hconnect l) fun r => ?_) fun _ _ h => h
    cases r with
    | ok => exact meets_done fun _ h => h
    | error err => exact meets_bind (unclaim_meets e) fun _ => meets_done fun _ h => h

theorem makeReady_meets (name : String) {key : String} (hconnect : ∀ l, rule key .connect l) :
    Meets (Respects ok) (Behaves ok rule) (Served ok key) (makeReady name key)
      fun r x => x.pool.Links ok ∧ (r = .ok () → Has ok key (fun _ => True) x) := by
  refine meets_get_bind .refl fun x hx => ?_
  split
  · exact meets_done fun y hy => ⟨hy ▸ hx.1, fun h => nomatch h⟩
  · rename_i e he
    split
    · refine (connectIfNeeded_meets stays hconnect e).mono (fun y hy => ?_) fun r y hy => ⟨hy.1, fun _ => hy⟩
      subst hy
      obtain ⟨hlinks, number, hplace, hserved⟩ := hx
      exact ⟨hlinks, number, e.link, hplace, serving_of_isServed hserved he, trivial⟩
    · exact meets_done fun y hy => ⟨hy ▸ hx.1, fun h => nomatch h⟩

/-- **A lease gives an interface for oneself** -/
theorem lease_meets (name : String) (hconnect : ∀ l, rule (key name) .connect l) :
    Meets (Respects ok) (Behaves ok rule) (fun x => x.pool.Links ok) (lease name)
      fun r x => x.pool.Links ok ∧ ∀ k, r = .ok k → k = key name ∧ Has ok k (fun _ => True) x := by
  refine meets_get_bind .refl fun x hx => ?_
  split
  · exact meets_done fun y hy => ⟨hy ▸ hx, fun _ h => nomatch h⟩
  · split
    · refine meets_bind ((queueFor_meets (key name)).mono (fun y hy => hy ▸ hx) fun _ _ h => h) fun _ =>
        meets_bind (makeReady_meets stays name hconnect) fun r => ?_
      cases r with
      | ok => exact meets_done fun y hy => ⟨hy.1, fun k hk => by cases hk; exact ⟨rfl, hy.2 rfl⟩⟩
      | error err =>
        refine meets_bind (meets_update (Q := fun _ y => y.pool.Links ok) (fun y _ => acts_leave y)
          fun y hy => (courteous_leave y).links hy.1) fun _ => ?_
        exact meets_done fun y hy => ⟨hy, fun _ h => nomatch h⟩
    · exact meets_done fun y hy => ⟨hy ▸ hx, fun _ h => nomatch h⟩

/-- **While an interface is leased nobody else calls its link** -/
theorem withLease_meets (name : String) (hconnect : ∀ l, rule (key name) .connect l)
    {use : String → Fallible (Client Λ) LinkError α}
    (hu : Meets (Respects ok) (Behaves ok rule) (Has ok (key name) fun _ => True) (use (key name))
      fun _ x => x.pool.Links ok) :
    Meets (Respects ok) (Behaves ok rule) (fun x => x.pool.Links ok) (withLease name use)
      fun _ x => x.pool.Links ok := by
  refine meets_andThen (lease_meets stays name hconnect) (fun k => ?_) fun _ _ h => h.1
  intro x hx
  obtain ⟨rfl, hhas⟩ := hx.2 k rfl
  refine meets_bind hu (fun _ => meets_bind (meets_update (Q := fun _ y => y.pool.Links ok)
    (fun y _ => acts_leave y) fun y hy => (courteous_leave y).links hy) fun _ => meets_done fun _ h => h) x hhas

end Leases

end Pool

end CalBench
