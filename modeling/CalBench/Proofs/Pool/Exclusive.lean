/-
Physical links are owned by one interface at a time.

Interfaces are registered, enabled, leased, reset and disabled in any order, and used in between; links open or fail to
open as they like, and a close is known to close them. While an operation waits, others use the pool. `Leads` says what
an operation makes of a pool in these circumstances.

Results:
- `lease_leads`, `resetInterface_leads`: a lease and a reset keep the owners;
- `disableAll_shuts`, `disableAll_leads`: disabling all interfaces shuts the pool down;
- `physical_links_are_exclusive`: in every pool that is reached, what is open is enabled and owns its resource, so that
  no two interfaces over one resource are open; and a pool that has been shut down stays so until it is enabled.
Witness `port_is_not_shared`: a serial line and a controller on one port.
-/
import CalBench.Run.Executor
import CalBench.Proofs.Pool.Owned
import CalBench.Proofs.Process.Turns

namespace CalBench

open Proc

variable {Λ α β : Type} [Link Λ] {ok : Λ → Prop}

namespace Pool

/-! ## Operations on a pool that others change -/

section Operations

variable {theirs : Client Λ → Client Λ → Prop} {P : Pool Λ → Prop} {k : String}

omit [Link Λ] in
theorem meets_giveBack (hleave : ∀ c : Client Λ, P c.pool → P c.leave.pool) :
    Meets theirs Anything (fun c => P c.pool) giveBack fun _ c => P c.pool := meets_update (fun _ _ => trivial) hleave

omit [Link Λ] in
theorem meets_queueFor (hP : ∀ c d, theirs c d → P c.pool → P d.pool) (hjoin : ∀ p, P p → P (p.join k)) :
    Meets theirs Anything (fun c => P c.pool) (queueFor k) fun _ c => P c.pool := by
  have hjoined : Meets theirs Anything (fun c => P c.pool) (update (Client.join k)) fun _ c => P c.pool :=
    meets_update (fun _ _ => trivial) fun c hc => hjoin c.pool hc
  exact meets_bind hjoined fun _ c hc d _ hd _ => hP c d hd hc

theorem meets_perform {c : Call} {Q : Except LinkError c.Answer → Pool Λ → Prop}
    (hQ : ∀ r c d, theirs c d → Q r c.pool → Q r d.pool) (h : ∀ p, P p → Q (callLink k c p).2.2 (callLink k c p).1) :
    Meets theirs Anything (fun c => P c.pool) (perform k c) fun r c => Q r c.pool := by
  intro s hs
  refine ⟨trivial, obeys_bind ?_⟩
  exact meets_sleepIfAny (P := fun d => Q (callLink k c s.pool).2.2 d.pool) (hQ _) _
    { s with pool := (callLink k c s.pool).1 } (h s.pool hs)

end Operations

/-! ## What an operation leads to -/

/-- others use the pool -/
def Using (ok : Λ → Prop) (c d : Client Λ) : Prop := Used ok c.pool d.pool

theorem Using.refl (c : Client Λ) : Using ok c c := Used.refl c.pool

/-- from pools that meet a condition the operation leads to a result and a pool that meet another, while others use the
pool -/
def Leads (ok : Λ → Prop) (P : Pool Λ → Prop) (p : Proc (Client Λ) α) (Q : α → Pool Λ → Prop) : Prop :=
  ∀ c : Client Λ, P c.pool → p.Obeys (Using ok) Anything (fun d a => Q a d.pool) c

def Lasts (ok : Λ → Prop) (P : Pool Λ → Prop) : Prop := ∀ p q, Used ok p q → P p → P q

section Rules

variable {P : Pool Λ → Prop} {Q : α → Pool Λ → Prop}

/-- what an operation leads to is what it meets, as far as it is about the pool -/
theorem leads_iff_meets {p : Proc (Client Λ) α} :
    Leads ok P p Q ↔ Meets (Using ok) Anything (fun c => P c.pool) p fun a c => Q a c.pool := Iff.rfl

theorem leads_done {a : α} (h : ∀ p, P p → Q a p) : Leads ok P (.done a) Q := meets_done fun c => h c.pool

theorem Leads.mono {P' : Pool Λ → Prop} {Q' : α → Pool Λ → Prop} {p : Proc (Client Λ) α} (h : Leads ok P p Q)
    (hP : ∀ p, P' p → P p) (hQ : ∀ a p, Q a p → Q' a p) : Leads ok P' p Q' :=
  (leads_iff_meets.1 h).mono (fun c => hP c.pool) fun a c => hQ a c.pool

theorem leads_bind {R : β → Pool Λ → Prop} {p : Proc (Client Λ) β} {f : β → Proc (Client Λ) α} (hp : Leads ok P p R)
    (hf : ∀ b, Leads ok (R b) (f b) Q) : Leads ok P (p.bind f) Q :=
  meets_bind (leads_iff_meets.1 hp) hf

theorem leads_andThen {ε : Type} {R : Except ε β → Pool Λ → Prop} {Q : Except ε α → Pool Λ → Prop}
    {p : Fallible (Client Λ) ε β} {f : β → Fallible (Client Λ) ε α} (hp : Leads ok P p R)
    (hf : ∀ b, Leads ok (R (.ok b)) (f b) Q) (he : ∀ e p, R (.error e) p → Q (.error e) p) :
    Leads ok P (p.andThen f) Q := meets_andThen (leads_iff_meets.1 hp) hf fun e c => he e c.pool

theorem leads_get_bind {f : Client Λ → Proc (Client Λ) α} (hf : ∀ c, P c.pool → Leads ok (· = c.pool) (f c) Q) :
    Leads ok P (Proc.get.bind f) Q :=
  fun c hc => obeys_get_bind trivial (hf c hc c rfl)

theorem leads_step {f : Client Λ → Client Λ × α} (h : ∀ c, P c.pool → Q (f c).2 (f c).1.pool) :
    Leads ok P (Proc.step f) Q := meets_step (fun _ _ => trivial) h

theorem leads_update {u : Client Λ → Client Λ} {Q : Pool Λ → Prop} (h : ∀ c, P c.pool → Q (u c).pool) :
    Leads ok P (update u) fun _ => Q := meets_update (fun _ _ => trivial) h

theorem leads_giveBack (hP : Lasts ok P) : Leads ok P giveBack fun _ => P :=
  meets_giveBack fun c hc => hP _ _ (used_leave c) hc

theorem leads_queueFor (hP : Lasts ok P) (k : String) : Leads ok P (queueFor k) fun _ => P :=
  meets_queueFor (fun _ _ h hp => hP _ _ h hp) fun p hp => hP _ _ (used_join p k) hp

theorem leads_perform {k : String} {c : Call} {Q : Except LinkError c.Answer → Pool Λ → Prop}
    (hQ : ∀ r, Lasts ok (Q r)) (h : ∀ p, P p → Q (callLink k c p).2.2 (callLink k c p).1) :
    Leads ok P (perform k c) Q := meets_perform (fun r _ _ hused => hQ r _ _ hused) h

end Rules

theorem lasts_and {P Q : Pool Λ → Prop} (hP : Lasts ok P) (hQ : Lasts ok Q) : Lasts ok fun p => P p ∧ Q p :=
  fun p q h hp => ⟨hP p q h hp.1, hQ p q h hp.2⟩

theorem lasts_exclusive : Lasts ok (Exclusive ok) := fun _ _ h hp => hp.used h

theorem lasts_holds (k : String) : Lasts ok (Holds k) := fun _ _ h hp => hp.used h

/-! ## Shutting down -/

/-- the interface under a key, as it was, has been disabled and closed -/
def Dark (k : String) (e : Entry Λ) (p : Pool Λ) : Prop :=
  ∃ e', p.entries.get? k = some e' ∧ e'.name = e.name ∧ e'.resource = e.resource ∧ e'.enabled = false ∧
    Link.connected e'.link = false

theorem Dark.used {k : String} {e : Entry Λ} {p q : Pool Λ} (hp : Dark k e p) (h : Used ok p q) : Dark k e q := by
  obtain ⟨e', he', hname, hresource, hdisabled, hclosed⟩ := hp
  obtain ⟨e'', he'', hw⟩ := h.entries.after he'
  exact ⟨e'', he'', hw.name.trans hname, hw.resource.trans hresource, hw.enabled.trans hdisabled, hw.closed hclosed⟩

/-- an interface that is disabled and closed is shut once it has given up its resource -/
theorem Dark.shut {k : String} {e : Entry Λ} {p : Pool Λ} (h : Dark k e p) : Shut k (p.unclaim e) := by
  obtain ⟨e', he', hname, hresource, hdisabled, hclosed⟩ := h
  intro e'' he''
  rw [entries_unclaim, he'] at he''
  cases he''
  refine ⟨hdisabled, hclosed, ?_⟩
  rw [claims_unclaim, hresource, hname]
  split
  · exact fun h => nomatch h
  · rename_i hno
    exact fun hclaim => hno ⟨rfl, hclaim⟩

theorem fading_unclaim (p : Pool Λ) (e : Entry Λ) : Fading p (p.unclaim e) := by
  refine ⟨fun resource name hr => ?_, .of_entries Entry.Faded.refl (entries_unclaim p e)⟩
  rw [claims_unclaim] at hr
  split at hr
  · cases hr
  · exact hr

theorem fading_off (p : Pool Λ) (k : String) : Fading p (p.modify k fun e => { e with enabled := false }) := by
  have h := changed_modify p k fun e => { e with enabled := false }
  refine ⟨fun resource name hr => ?_, h.related Entry.Faded.refl fun e _ => ⟨rfl, rfl, fun _ => rfl, id⟩⟩
  rw [← h.claims]
  exact hr

theorem Dark.isClosed {k : String} {e : Entry Λ} {p : Pool Λ} (h : Dark k e p) (hp : Registered ok p) :
    IsClosed e.name p := by
  obtain ⟨e', he', hname, -, -, hclosed⟩ := h
  have hkey : k = key e.name := by rw [← hname]; exact hp.keyed k e' he'
  intro e'' he''
  rw [← hkey, he'] at he''
  cases he''
  exact hclosed

/-- what is done to a pool to shut it down: it is used, an interface is switched off, or one that is closed gives up
its resource -/
inductive Dims (ok : Λ → Prop) (p q : Pool Λ) : Prop
  | used (h : Used ok p q)
  | off (k : String) (h : q = p.modify k fun e => { e with enabled := false })
  | unclaim (e : Entry Λ) (hclosed : IsClosed e.name p) (h : q = p.unclaim e)

namespace Dims

variable {p q : Pool Λ}

theorem fading (h : Dims ok p q) : Fading p q := by
  cases h with
  | used h => exact h.fading
  | off k h => exact h ▸ fading_off p k
  | unclaim e _ h => exact h ▸ fading_unclaim p e

theorem registered (h : Dims ok p q) (hp : Registered ok p) : Registered ok q := by
  cases h with
  | used h => exact hp.used h
  | off k h =>
    rw [h]
    exact hp.changed (changed_modify p k _) (fun _ => rfl) (fun _ => rfl) fun _ => id
  | unclaim e _ h => exact h ▸ hp.unclaim e

theorem owned (h : Dims ok p q) (hp : Owned ok p) : Owned ok q := by
  cases h with
  | used h => exact hp.used h
  | off k h => exact h ▸ hp.off k
  | unclaim e hclosed h => exact h ▸ hp.unclaim hclosed

end Dims

section Disable

variable {I : Pool Λ → Prop} (hI : ∀ p q, Dims ok p q → I p → I q) {k : String} {e : Entry Λ}

include hI

theorem lasts_registered {J : Pool Λ → Prop} (hJ : Lasts ok J) : Lasts ok fun p => Registered ok p ∧ I p ∧ J p :=
  fun p q h hp => ⟨hp.1.used h, hI p q (.used h) hp.2.1, hJ p q h hp.2.2⟩

/-- an interface that has been switched off is closed, if it is open -/
theorem disconnect_leads (closing : Link.Closing ok) {p₀ : Pool Λ} (hregistered : Registered ok p₀) (hi : I p₀)
    (he : p₀.entries.get? k = some e) (hoff : e.enabled = false) :
    Leads ok (· = p₀) (if Link.connected e.link then (perform k .disconnect).bind fun _ => .done () else .done ())
      fun _ p => Registered ok p ∧ I p ∧ Dark k e p := by
  have hdark : Lasts ok fun p => Registered ok p ∧ I p ∧ Dark k e p := lasts_registered hI fun _ _ h hp => hp.used h
  split
  · refine leads_bind (R := fun _ p => Registered ok p ∧ I p ∧ Dark k e p) (leads_perform (fun _ => hdark) ?_) fun _ =>
      leads_done fun _ hp => hp
    intro p hp
    subst hp
    have hused := used_disconnect closing hregistered.links k
    have hclosed := closing.closes e.link (hregistered.links k e he)
    exact ⟨hregistered.used hused, hI _ _ (.used hused) hi, called .disconnect e, entry_callLink he .disconnect, rfl,
      rfl, hoff, hclosed⟩
  · rename_i hclosed
    refine leads_done ?_
    intro p hp
    subst hp
    exact ⟨hregistered, hi, e, he, rfl, rfl, hoff, Bool.eq_false_iff.2 hclosed⟩

/-- disabling an interface shuts it, and keeps what every change on the way keeps -/
theorem disable_leads (closing : Link.Closing ok) (k : String) :
    Leads ok (fun p => Registered ok p ∧ I p) (disable k) fun _ p => Registered ok p ∧ I p ∧ Shut k p := by
  have hshut : Lasts ok fun p => Registered ok p ∧ I p ∧ Shut k p :=
    lasts_registered hI fun _ _ h hp => hp.fading h.fading
  have hdisabled : Lasts ok fun p : Pool Λ =>
      Registered ok p ∧ I p ∧ ∀ e, p.entries.get? k = some e → e.enabled = false := by
    refine lasts_registered hI fun p q h hp e he => ?_
    obtain ⟨e', he', hw⟩ := h.entries.before he
    exact hw.enabled.trans (hp e' he')
  refine leads_bind (R := fun _ p => Registered ok p ∧ I p ∧ ∀ e, p.entries.get? k = some e → e.enabled = false)
    (leads_update ?_) fun _ => leads_bind (leads_queueFor hdisabled k) fun _ => leads_get_bind fun c hc => ?_
  · intro c hc
    have hdims : Dims ok c.pool (c.pool.modify k fun e => { e with enabled := false }) := .off k rfl
    refine ⟨hdims.registered hc.1, hI _ _ hdims hc.2, fun e he => ?_⟩
    rw [get?_modify, if_pos rfl] at he
    obtain ⟨e', -, rfl⟩ := Option.map_eq_some_iff.1 he
    rfl
  · obtain ⟨hregistered, hi, hoff⟩ := hc
    split
    · rename_i hnone
      refine (leads_giveBack hshut).mono ?_ fun _ _ h => h
      intro p hp
      subst hp
      exact ⟨hregistered, hi, fun e he => by rw [hnone] at he; cases he⟩
    · rename_i e he
      refine leads_bind (disconnect_leads hI closing hregistered hi he (hoff e he)) fun _ =>
        leads_bind (leads_update ?_) fun _ => leads_giveBack hshut
      intro d hd
      obtain ⟨hregistered, hi, hdark⟩ := hd
      have hdims : Dims ok d.pool (d.pool.unclaim e) := .unclaim e (hdark.isClosed hregistered) rfl
      exact ⟨hdims.registered hregistered, hI _ _ hdims hi, hdark.shut⟩

end Disable

theorem disableEach_leads (closing : Link.Closing ok) (keys : List String) {I : Pool Λ → Prop}
    (hI : ∀ p q, Dims ok p q → I p → I q) :
    Leads ok (fun p => Registered ok p ∧ I p) (disableEach keys) fun _ p =>
      Registered ok p ∧ I p ∧ ∀ k ∈ keys, Shut k p := by
  induction keys generalizing I with
  | nil => exact leads_done fun p hp => ⟨hp.1, hp.2, fun k hk => nomatch hk⟩
  | cons first rest ih =>
    -- the first one stays shut while the others are being shut
    refine leads_bind (disable_leads hI closing first) fun _ => ?_
    refine (ih (I := fun p => I p ∧ Shut first p) fun p q h hp => ⟨hI p q h hp.1, hp.2.fading h.fading⟩).mono
      (fun p hp => hp) fun _ p hp => ⟨hp.1, hp.2.1.1, fun k hk => ?_⟩
    rcases List.mem_cons.1 hk with rfl | hk
    · exact hp.2.1.2
    · exact hp.2.2 k hk

/-- **Disabling all interfaces shuts the pool down**, if links can be relied on to close -/
theorem disableAll_shuts (closing : Link.Closing ok) {I : Pool Λ → Prop} (hI : ∀ p q, Dims ok p q → I p → I q) :
    Leads ok (fun p => Registered ok p ∧ I p) disableAll fun _ p => Registered ok p ∧ I p ∧ Off p := by
  refine leads_get_bind fun c hc => ?_
  have hkept : ∀ p q, Dims ok p q → I p ∧ Fading c.pool p → I q ∧ Fading c.pool q :=
    fun p q h hp => ⟨hI p q h hp.1, hp.2.trans h.fading⟩
  refine (disableEach_leads closing _ hkept).mono (fun p hp => ?_) fun _ p hp => ?_
  · rw [hp]
    exact ⟨hc.1, hc.2, .refl _⟩
  · obtain ⟨hregistered, ⟨hi, hfading⟩, hshut⟩ := hp
    refine ⟨hregistered, hi, off_of_shut hregistered fun k e he => ?_⟩
    obtain ⟨e', he', -⟩ := hfading.entries.before he
    exact hshut k (Table.mem_keys_of_get? he')

/-- and it keeps the owners, if they can be told -/
theorem disableAll_leads (tidy : Link.Tidy ok) :
    Leads ok (Owned ok) disableAll fun _ p => Exclusive ok p ∧ Off p := by
  refine (disableAll_shuts tidy.closing fun _ _ h => h.owned).mono (fun p hp => ⟨hp.registered, hp⟩) fun _ p hp => ?_
  obtain ⟨-, howned, hoff⟩ := hp
  refine ⟨⟨howned, fun k e he hopen => ?_⟩, hoff⟩
  rw [hoff.closed k e he] at hopen
  exact absurd hopen Bool.false_ne_true

/-! ## Leases -/

section Connect

variable {k : String} {e : Entry Λ}

/-- the interface under a key is enabled, and its resource has been claimed for it -/
def Claimed (k : String) (e : Entry Λ) (p : Pool Λ) : Prop :=
  p.entries.get? k = some e ∧ e.enabled = true ∧ p.claims.get? e.resource = some e.name

theorem claim_leads (k : String) (e : Entry Λ) :
    Leads ok (fun p => Exclusive ok p ∧ p.entries.get? k = some e ∧ e.enabled = true)
      (Proc.step fun s : Client Λ => match s.pool.claim e with
        | .ok p => ({ s with pool := p }, Except.ok ())
        | .error err => (s, .error err))
      fun r p => Exclusive ok p ∧ (r = .ok () → Claimed k e p) := by
  refine leads_step ?_
  intro c hc
  obtain ⟨hexclusive, he, henabled⟩ := hc
  split
  · rename_i q hclaim
    obtain ⟨hq, hentries, howner⟩ := hexclusive.claim he hclaim
    exact ⟨hq, fun _ => ⟨by rw [hentries]; exact he, henabled, howner⟩⟩
  · exact ⟨hexclusive, fun h => nomatch h⟩

/-- a claimed interface is held if its link opens, and closed as before if it does not -/
theorem connect_leads (tidy : Link.Tidy ok) (hclosed : Link.connected e.link = false) :
    Leads ok (fun p => Exclusive ok p ∧ Claimed k e p) (perform k .connect) fun r p =>
      Exclusive ok p ∧ (r = .ok () → Holds k p) ∧ (r ≠ .ok () → IsClosed e.name p) := by
  refine leads_perform ?_ ?_
  · intro r p q h hp
    exact ⟨hp.1.used h, fun hr => (hp.2.1 hr).used h, fun hr => (hp.2.2 hr).used h⟩
  · intro p hp
    obtain ⟨hexclusive, he, henabled, hclaim⟩ := hp
    have hholds : Holds k p := ⟨e, he, henabled, hclaim⟩
    refine ⟨hexclusive.call tidy hholds .connect, fun _ => hholds.call .connect, ?_⟩
    intro hr e' he'
    rw [← hexclusive.keyed k e he, entry_callLink he .connect] at he'
    cases he'
    exact (tidy.opens e.link (hexclusive.links k e he) hclosed).resolve_left fun hok =>
      hr ((result_callLink he .connect).trans hok)

/-- who gets an interface ready holds it, if it can be connected -/
theorem connectIfNeeded_leads (tidy : Link.Tidy ok) (k : String) (e : Entry Λ) :
    Leads ok (fun p => Exclusive ok p ∧ p.entries.get? k = some e ∧ e.enabled = true) (connectIfNeeded k e)
      fun r p => Exclusive ok p ∧ (r = .ok () → Holds k p) := by
  unfold connectIfNeeded
  split
  · rename_i hopen
    refine leads_done ?_
    intro p hp
    obtain ⟨hexclusive, he, henabled⟩ := hp
    exact ⟨hexclusive, fun _ => ⟨e, he, henabled, hexclusive.owner k e he hopen⟩⟩
  · rename_i hclosed
    have hconnect := connect_leads (k := k) tidy (Bool.eq_false_iff.2 hclosed)
    refine leads_andThen (claim_leads k e) (fun _ => leads_bind (hconnect.mono (fun p hp => ⟨hp.1, hp.2 rfl⟩)
      fun _ _ h => h) fun r => ?_) fun err p hp => ⟨hp.1, fun h => nomatch h⟩
    cases r with
    | ok a => exact leads_done fun p hp => ⟨hp.1, fun _ => hp.2.1 rfl⟩
    | error err =>
      -- a link that fails to open is still closed when its resource is given up
      refine leads_bind (leads_update (Q := Exclusive ok) ?_) fun _ => leads_done fun p hp => ⟨hp, fun h => nomatch h⟩
      intro c hc
      exact hc.1.unclaim (hc.2.2 fun h => nomatch h)

end Connect

theorem makeReady_leads (tidy : Link.Tidy ok) (name k : String) :
    Leads ok (Exclusive ok) (makeReady name k) fun r p => Exclusive ok p ∧ (r = .ok () → Holds k p) := by
  refine leads_get_bind fun c hc => ?_
  split
  · exact leads_done fun p hp => ⟨hp ▸ hc, fun h => nomatch h⟩
  · rename_i e he
    split
    · rename_i henabled
      exact (connectIfNeeded_leads tidy k e).mono (fun p hp => hp ▸ ⟨hc, he, henabled⟩) fun _ _ h => h
    · exact leads_done fun p hp => ⟨hp ▸ hc, fun h => nomatch h⟩

/-- **A lease keeps the owners**, and gives an interface that holds its resource -/
theorem lease_leads (tidy : Link.Tidy ok) (name : String) :
    Leads ok (Exclusive ok) (lease name) fun r p => Exclusive ok p ∧ ∀ k, r = .ok k → Holds k p := by
  refine leads_get_bind fun c hc => ?_
  split
  · exact leads_done fun p hp => ⟨hp ▸ hc, fun k h => nomatch h⟩
  · split
    · refine leads_bind ((leads_queueFor lasts_exclusive _).mono (fun p hp => hp ▸ hc) fun _ _ h => h) fun _ =>
        leads_bind (makeReady_leads tidy name (key name)) fun r => ?_
      cases r with
      | ok a =>
        refine leads_done fun p hp => ⟨hp.1, fun k hk => ?_⟩
        cases hk
        exact hp.2 rfl
      | error err =>
        refine leads_bind ((leads_giveBack lasts_exclusive).mono (fun p hp => hp.1) fun _ _ h => h) fun _ => ?_
        exact leads_done fun p hp => ⟨hp, fun k h => nomatch h⟩
    · exact leads_done fun p hp => ⟨hp ▸ hc, fun k h => nomatch h⟩

theorem withLease_leads (tidy : Link.Tidy ok) (name : String) {use : String → Fallible (Client Λ) LinkError α}
    (hu : ∀ k, Leads ok (fun p => Exclusive ok p ∧ Holds k p) (use k) fun _ => Exclusive ok) :
    Leads ok (Exclusive ok) (withLease name use) fun _ => Exclusive ok := by
  refine leads_andThen (lease_leads tidy name) (fun k => ?_) fun e p hp => hp.1
  refine leads_bind ((hu k).mono (fun p hp => ⟨hp.1, hp.2 k rfl⟩) fun _ _ h => h) fun r => ?_
  exact leads_bind (leads_giveBack lasts_exclusive) fun _ => leads_done fun _ hp => hp

/-- whoever holds an interface calls its link and holds it still -/
theorem perform_leads (tidy : Link.Tidy ok) (k : String) (c : Call) :
    Leads ok (fun p => Exclusive ok p ∧ Holds k p) (perform k c) fun _ p => Exclusive ok p ∧ Holds k p :=
  leads_perform (fun _ => lasts_and lasts_exclusive (lasts_holds k)) fun _ hp =>
    ⟨hp.1.call tidy hp.2 c, hp.2.call c⟩

/-- **A reset of an interface keeps the owners**, also when the link does not open again -/
theorem resetInterface_leads (tidy : Link.Tidy ok) (name : String) :
    Leads ok (Exclusive ok) (Executor.resetInterface name) fun _ => Exclusive ok := by
  refine withLease_leads tidy name fun k => leads_get_bind fun c hc => ?_
  have hcall (call : Call) := (perform_leads tidy k call).mono (fun p hp => hp) fun _ _ hq => hq.1
  split
  · exact (hcall .reset).mono (fun p hp => hp ▸ hc) fun _ _ h => h
  · exact (leads_andThen (perform_leads tidy k .disconnect) (fun _ => hcall .connect) fun _ _ hp => hp.1).mono
      (fun p hp => hp ▸ hc) fun _ _ h => h

/-! ## While the pool is shut down -/

def titleOf (p : Pool Λ) (name : String) : String := ((p.entry? name).map Entry.name).getD name

/-- **In a pool that is shut down every lease is refused at once** -/
theorem lease_off {c : Client Λ} (h : Off c.pool) (name : String) :
    (lease name).advance c = (c, .ended (.error (.disabled (titleOf c.pool name)))) := by
  rw [lease, advance_get_bind, titleOf]
  cases he : c.pool.entry? name with
  | none => rfl
  | some e =>
    have hdisabled : ¬ e.enabled = true := by rw [h.disabled _ e he]; exact Bool.false_ne_true
    dsimp only
    rw [if_neg hdisabled]
    rfl

theorem lease_leads_off (name : String) :
    Leads ok Off (lease name) fun r p => Off p ∧ ∃ e, r = .error e := by
  refine leads_get_bind fun c hc => ?_
  split
  · exact leads_done fun p hp => ⟨hp ▸ hc, _, rfl⟩
  · rename_i e he
    rw [hc.disabled _ e he]
    exact leads_done fun p hp => ⟨hp ▸ hc, _, rfl⟩

theorem resetInterface_leads_off (name : String) : Leads ok Off (Executor.resetInterface name) fun _ => Off := by
  refine leads_andThen (lease_leads_off name) (fun k => ?_) fun _ _ hp => hp.1
  rintro c ⟨-, e, he⟩
  cases he

/-! ## Histories -/

inductive Step (ok : Λ → Prop) (p : Pool Λ) : Pool Λ → Prop
  | register {l : Λ} {q : Pool Λ} (hl : ok l) (hclosed : Link.connected l = false) (h : p.register l = .ok q) :
    Step ok p q
  | disableAll {place : Option Place} {c : Client Λ} (h : disableAll.Yields (Using ok) ⟨p, place⟩ c ()) :
    Step ok p c.pool
  | lease {name : String} {place : Option Place} {c : Client Λ} {r : Except LinkError String}
    (h : (lease name).Yields (Using ok) ⟨p, place⟩ c r) : Step ok p c.pool
  | reset {name : String} {place : Option Place} {c : Client Λ} {r : Except LinkError Unit}
    (h : (Executor.resetInterface name).Yields (Using ok) ⟨p, place⟩ c r) : Step ok p c.pool
  | used {q : Pool Λ} (h : Used ok p q) : Step ok p q

/-- what may come of a pool without interfaces -/
inductive Reached (ok : Λ → Prop) : Pool Λ → Prop
  | empty : Reached ok {}
  | step {p q : Pool Λ} (h : Reached ok p) (hs : Step ok p q) : Reached ok q
  | enableAll {p : Pool Λ} (h : Reached ok p) : Reached ok p.enableAll

variable {p q : Pool Λ}

/-- **One operation keeps the owners** -/
theorem Step.exclusive (tidy : Link.Tidy ok) (h : Step ok p q) (hp : Exclusive ok p) : Exclusive ok q := by
  cases h with
  | register hl hclosed h => exact hp.register hclosed h hl
  | disableAll h => exact ((disableAll_leads tidy _ hp.toOwned).of_yields h).1
  | lease h => exact ((lease_leads tidy _ _ hp).of_yields h).1
  | reset h => exact (resetInterface_leads tidy _ _ hp).of_yields h
  | used h => exact hp.used h

/-- a pool that is shut down stays so -/
theorem Step.off (tidy : Link.Tidy ok) (h : Step ok p q) (hp : Exclusive ok p) (hoff : Off p) : Off q := by
  cases h with
  | register hl hclosed h => exact hoff.register hclosed h
  | disableAll h => exact ((disableAll_leads tidy _ hp.toOwned).of_yields h).2
  | lease h => exact ((lease_leads_off _ _ hoff).of_yields h).1
  | reset h => exact (resetInterface_leads_off _ _ hoff).of_yields h
  | used h => exact hoff.fading h.fading

theorem Reached.exclusive (tidy : Link.Tidy ok) (h : Reached ok p) : Exclusive ok p := by
  induction h with
  | empty => exact exclusive_empty
  | step _ hs ih => exact hs.exclusive tidy ih
  | enableAll _ ih => exact ih.enableAll

theorem off_run (tidy : Link.Tidy ok) (h : Relation.ReflTransGen (Step ok) p q) (hp : Exclusive ok p) (hoff : Off p) :
    Exclusive ok q ∧ Off q := by
  induction h with
  | refl => exact ⟨hp, hoff⟩
  | tail _ hs ih => exact ⟨hs.exclusive tidy ih.1, hs.off tidy ih.1 ih.2⟩

/-- **A physical link is open for one interface at a time.** In every pool that registering, enabling, leasing,
resetting and disabling lead to, an interface that is open is enabled and owns its resource; two interfaces over one
resource are not both open; and once all interfaces have been disabled, none is open, no resource is owned and every
lease is refused at once, until they are enabled. -/
theorem physical_links_are_exclusive (tidy : Link.Tidy ok) (h : Reached ok p) :
    (∀ name e, p.entry? name = some e → Link.connected e.link = true →
      e.enabled = true ∧ p.claims.get? e.resource = some e.name) ∧
    (∀ name name' e e', p.entry? name = some e → p.entry? name' = some e' → e.resource = e'.resource →
      Link.connected e.link = true → Link.connected e'.link = true → key name = key name') ∧
    ∀ place c, disableAll.Yields (Using ok) ⟨p, place⟩ c () → ∀ q, Relation.ReflTransGen (Step ok) c.pool q →
      (∀ name e, q.entry? name = some e → Link.connected e.link = false) ∧
      (∀ resource, q.claims.get? resource = none) ∧
      ∀ name place, (lease name).advance ⟨q, place⟩ = (⟨q, place⟩, .ended (.error (.disabled (titleOf q name)))) := by
  have hp := h.exclusive tidy
  refine ⟨fun name e he hopen => ⟨hp.live _ e he hopen, hp.owner _ e he hopen⟩,
    fun name name' e e' he he' hresource hopen hopen' => ?_, fun place c hc q hq => ?_⟩
  · -- both own the resource, so they have one name
    have howner := hp.owner _ e he hopen
    rw [hresource, hp.owner _ e' he' hopen'] at howner
    rw [hp.keyed _ e he, hp.keyed _ e' he', Option.some.inj howner]
  · obtain ⟨hexclusive, hoff⟩ := (disableAll_leads tidy _ hp.toOwned).of_yields hc
    obtain ⟨-, hq⟩ := off_run tidy hq hexclusive hoff
    exact ⟨fun name e he => hq.closed _ e he, hq.free, fun name place => lease_off (c := ⟨q, place⟩) hq name⟩

/-! ## Two interfaces on one port -/

omit [Link Λ]

def rawLine : Interface ScriptedPeer :=
  { device := .serial { name := "raw", settings := { path := "/dev/ttyUSB7" }, wire := {} } }

theorem rawLine_built : InterfaceRecord.build
    { name := "raw", kind := .serialLine, serial := some { path := "/dev/ttyUSB7" } } {} (fun _ => {}) =
      .ok rawLine := rfl

/-- a controller on the same port -/
def busBox : Interface ScriptedPeer :=
  { device := .controller { name := "prologix", endpoint := .usb { path := "/dev/ttyUSB7" }, wire := {} } }

theorem busBox_built : InterfaceRecord.build
    { name := "prologix", kind := .usbController, serial := some { path := "/dev/ttyUSB7" } } {} (fun _ => {}) =
      .ok busBox := rfl

def withLink (p : Pool (Interface ScriptedPeer)) (l : Interface ScriptedPeer) : Pool (Interface ScriptedPeer) :=
  (p.register l).toOption.getD p

theorem register_withLink {p : Pool (Interface ScriptedPeer)} {l : Interface ScriptedPeer}
    (h : (p.register l).isOk = true) : p.register l = .ok (p.withLink l) := by
  unfold withLink
  cases hr : p.register l with
  | error e => rw [hr] at h; cases h
  | ok q => rfl

/-- a pool with the two, enabled -/
def onePort : Pool (Interface ScriptedPeer) := ((withLink {} rawLine).withLink busBox).enableAll

theorem reached_onePort : Reached Interface.Faithful onePort := by
  obtain ⟨hserial, hserialClosed⟩ := build_faithful rawLine_built
  obtain ⟨hcontroller, hcontrollerClosed⟩ := build_faithful busBox_built
  have hline : Step Interface.Faithful {} (withLink {} rawLine) :=
    .register hserial hserialClosed (register_withLink (by decide +kernel))
  have hbox : Step Interface.Faithful (withLink {} rawLine) ((withLink {} rawLine).withLink busBox) :=
    .register hcontroller hcontrollerClosed (register_withLink (by decide +kernel))
  exact ((Reached.empty.step hline).step hbox).enableAll

def lineLeased : Client (Interface ScriptedPeer) := ((lease "raw").alone { pool := onePort }).state

/-- somebody else has asked for the controller -/
def boxAsked : Client (Interface ScriptedPeer) :=
  ((lease "prologix").alone { pool := lineLeased.pool }).state

def lineFree : Client (Interface ScriptedPeer) := Client.leave { boxAsked with place := lineLeased.place }

def portClosed : Client (Interface ScriptedPeer) := (disableAll.alone lineFree).state

theorem reached_boxAsked : Reached Interface.Faithful boxAsked.pool := by
  have hline : (lease "raw").Yields (Using Interface.Faithful) ⟨onePort, none⟩ lineLeased (.ok "RAW") :=
    yields_of_result Using.refl (by decide +kernel)
  have hbox : (lease "prologix").Yields (Using Interface.Faithful) ⟨lineLeased.pool, none⟩ boxAsked
      (.error (.resourceInUse "serial:/dev/ttyUSB7" "raw")) := yields_of_result Using.refl (by decide +kernel)
  exact (reached_onePort.step (.lease hline)).step (.lease hbox)

theorem reached_lineFree : Reached Interface.Faithful lineFree.pool :=
  reached_boxAsked.step (.used (used_leave { boxAsked with place := lineLeased.place }))

/-- **The controller is refused while the line is open**, which owns the port; and when all has been disabled the line
is refused too -/
theorem port_is_not_shared :
    Reached Interface.Faithful boxAsked.pool ∧
    ((lease "prologix").alone { pool := lineLeased.pool }).result? =
      some (.error (.resourceInUse "serial:/dev/ttyUSB7" "raw")) ∧
    (∃ e, boxAsked.pool.entry? "raw" = some e ∧ Link.connected e.link = true ∧ e.enabled = true ∧
      boxAsked.pool.claims.get? e.resource = some e.name) ∧
    (lease "raw").advance portClosed = (portClosed, .ended (.error (.disabled (titleOf portClosed.pool "raw")))) := by
  have hopen : ((boxAsked.pool.entry? "raw").map fun e => Link.connected e.link) = some true := by decide +kernel
  obtain ⟨e, he, hconnected⟩ := Option.map_eq_some_iff.1 hopen
  obtain ⟨howner, -, -⟩ := physical_links_are_exclusive tidy_interface reached_boxAsked
  obtain ⟨henabled, hclaim⟩ := howner "raw" e he hconnected
  have hclosed : disableAll.Yields (Using Interface.Faithful) lineFree portClosed () :=
    yields_of_result Using.refl (by decide +kernel)
  obtain ⟨-, -, hshut⟩ := physical_links_are_exclusive tidy_interface reached_lineFree
  obtain ⟨-, -, hrefused⟩ := hshut lineFree.place portClosed hclosed portClosed.pool .refl
  exact ⟨reached_boxAsked, by decide +kernel, ⟨e, he, hconnected, henabled, hclaim⟩, hrefused "raw" portClosed.place⟩

end Pool

end CalBench
