/-
Who stands behind a claim.

A lease that finds the resource of its interface claimed is refused with the name of the claimant. `Vouched` says whom
one may take that to be: behind every claim there is an interface that is open, or one of a set of interfaces that are
excused. A claim is made before the link is opened and given up if it does not open, so a lease excuses nobody for long.
A reset may: an interface without bus calls is closed and opened, and its claim stays when it does not open again. While
an operation waits, others use what is open (`Kept`).

- `Vouched.claim`, `Vouched.call`: whoever claims a resource or is called may be closed afterwards;
- `Vouched.opened`, `Vouched.unclaim`: whoever is open, or has given its resource up, needs no excuse.

Results:
- `lease_tells`: an interface that is handed out is open, and one that is refused because of its resource is blocked;
- `resetInterface_tells`: after a reset whoever failed is excused.
-/
import Mathlib.Order.BooleanAlgebra.Set
import CalBench.Proofs.Link.Truthful
import CalBench.Proofs.Pool.Exclusive

namespace CalBench

open Proc

variable {Λ α : Type} [Link Λ] {ok : Λ → Prop}

/-! ## Pools of which only what is open is used -/

namespace Entry

/-- what becomes of an interface when it is neither opened nor closed nor switched -/
structure Kept (ok : Λ → Prop) (e e' : Entry Λ) : Prop where
  name : e'.name = e.name
  resource : e'.resource = e.resource
  enabled : e'.enabled = e.enabled
  connected : Link.connected e'.link = Link.connected e.link
  isGpib : Link.isGpib e'.link = Link.isGpib e.link
  link : ok e.link → ok e'.link

theorem Kept.refl (e : Entry Λ) : Kept ok e e := ⟨rfl, rfl, rfl, rfl, rfl, id⟩

theorem Kept.trans {e e' e'' : Entry Λ} (h : Kept ok e e') (h' : Kept ok e' e'') : Kept ok e e'' :=
  ⟨h'.name.trans h.name, h'.resource.trans h.resource, h'.enabled.trans h.enabled, h'.connected.trans h.connected,
    h'.isGpib.trans h.isGpib, h'.link ∘ h.link⟩

theorem Kept.worn {e e' : Entry Λ} (h : Kept ok e e') : Worn ok e e' :=
  ⟨h.name, h.resource, h.enabled, h.connected.trans, h.link⟩

end Entry

namespace Pool

variable {p q r : Pool Λ} {S : Set String} {k : String}

/-- what those do who use interfaces that are open: no link opens or closes, no switch moves and no claim changes
hands -/
structure Kept (ok : Λ → Prop) (p q : Pool Λ) : Prop where
  claims : q.claims = p.claims
  entries : Related (Entry.Kept ok) p q

theorem Kept.refl (p : Pool Λ) : Kept ok p p := ⟨rfl, .of_entries Entry.Kept.refl rfl⟩

theorem Kept.trans (h : Kept ok p q) (h' : Kept ok q r) : Kept ok p r :=
  ⟨h'.claims.trans h.claims, h.entries.trans (fun _ _ _ => Entry.Kept.trans) h'.entries⟩

theorem Kept.used (h : Kept ok p q) : Used ok p q := ⟨h.claims, h.entries.mono fun _ _ => Entry.Kept.worn⟩

theorem kept_join (p : Pool Λ) (k : String) : Kept ok p (p.join k) := by
  have h := changed_modify p k fun e => { e with queue := e.queue ++ [e.issued], issued := e.issued + 1 }
  exact ⟨h.claims, h.related Entry.Kept.refl fun e _ => ⟨rfl, rfl, rfl, rfl, rfl, id⟩⟩

theorem kept_leave (c : Client Λ) : Kept ok c.pool c.leave.pool := by
  unfold Client.leave
  split
  · rename_i place _
    have h := changed_modify c.pool place.key fun e => { e with queue := e.queue.erase place.number }
    exact ⟨h.claims, h.related Entry.Kept.refl fun e _ => ⟨rfl, rfl, rfl, rfl, rfl, id⟩⟩
  · exact .refl _

def Beside (ok : Λ → Prop) (c d : Client Λ) : Prop := Kept ok c.pool d.pool

theorem Beside.refl (c : Client Λ) : Beside ok c c := Kept.refl c.pool

def Stays (ok : Λ → Prop) (P : Pool Λ → Prop) : Prop := ∀ p q, Kept ok p q → P p → P q

theorem stays_and {P Q : Pool Λ → Prop} (hP : Stays ok P) (hQ : Stays ok Q) : Stays ok fun p => P p ∧ Q p :=
  fun p q h hp => ⟨hP p q h hp.1, hQ p q h hp.2⟩

theorem stays_kept (p : Pool Λ) : Stays ok (Kept ok p) := fun _ _ h hp => hp.trans h

/-- from pools that meet a condition the operation comes to a result and a pool that meet another, while others use
what is open -/
abbrev Tells (ok : Λ → Prop) (P : Pool Λ → Prop) (p : Proc (Client Λ) α) (Q : α → Pool Λ → Prop) : Prop :=
  Meets (Beside ok) Anything (fun c => P c.pool) p fun a c => Q a c.pool

section Rules

variable {P : Pool Λ → Prop}

theorem tells_giveBack (hP : Stays ok P) : Tells ok P giveBack fun _ => P :=
  meets_giveBack fun c hc => hP _ _ (kept_leave c) hc

theorem tells_queueFor (hP : Stays ok P) (k : String) : Tells ok P (queueFor k) fun _ => P :=
  meets_queueFor (fun _ _ h hp => hP _ _ h hp) fun p hp => hP _ _ (kept_join p k) hp

theorem tells_perform {c : Call} {Q : Except LinkError c.Answer → Pool Λ → Prop} (hQ : ∀ r, Stays ok (Q r))
    (h : ∀ p, P p → Q (callLink k c p).2.2 (callLink k c p).1) : Tells ok P (perform k c) Q :=
  meets_perform (fun r _ _ hkept => hQ r _ _ hkept) h

theorem tells_get_bind {f : Client Λ → Proc (Client Λ) α} {Q : α → Pool Λ → Prop}
    (hf : ∀ c, P c.pool → Tells ok (· = c.pool) (f c) Q) : Tells ok P (Proc.get.bind f) Q :=
  meets_get_bind (fun _ => trivial) fun c hc => (hf c hc).mono (fun _ h => congrArg Client.pool h) fun _ _ h => h

end Rules

/-! ## Claims and who stands behind them -/

def OpenAt (k : String) (p : Pool Λ) : Prop := ∃ e, p.entries.get? k = some e ∧ Link.connected e.link = true

theorem OpenAt.kept (h : OpenAt k p) (hq : Kept ok p q) : OpenAt k q := by
  obtain ⟨e, he, hopen⟩ := h
  obtain ⟨e', he', hkept⟩ := hq.entries.after he
  exact ⟨e', he', hkept.connected.trans hopen⟩

theorem OpenAt.changed {k' : String} {f : Entry Λ → Entry Λ} (h : OpenAt k' p) (hq : Changed k f p q) (hne : k' ≠ k) :
    OpenAt k' q := by
  obtain ⟨e, he, hopen⟩ := h
  refine ⟨e, ?_, hopen⟩
  rw [hq.entries, if_neg hne]
  exact he

/-- behind every claim there is an interface that is open, or one of a few -/
structure Vouched (ok : Λ → Prop) (S : Set String) (p : Pool Λ) : Prop extends Registered ok p where
  behind : ∀ resource name, p.claims.get? resource = some name → key name ∈ S ∨ OpenAt (key name) p

namespace Vouched

theorem mono {T : Set String} (hp : Vouched ok S p) (h : S ⊆ T) : Vouched ok T p :=
  ⟨hp.toRegistered, fun resource name hr => (hp.behind resource name hr).imp_left fun hS => h hS⟩

theorem kept (hp : Vouched ok S p) (h : Kept ok p q) : Vouched ok S q := by
  refine ⟨hp.toRegistered.used h.used, fun resource name hr => ?_⟩
  rw [h.claims] at hr
  exact (hp.behind resource name hr).imp_right fun hopen => hopen.kept h

/-- an interface that is open needs no excuse -/
theorem opened (hp : Vouched ok (insert k S) p) (h : OpenAt k p) : Vouched ok (S \ {k}) p := by
  refine ⟨hp.toRegistered, fun resource name hr => ?_⟩
  by_cases hk : key name = k
  · exact .inr (hk ▸ h)
  · exact (hp.behind resource name hr).imp_left fun hS => ⟨Set.mem_of_mem_insert_of_ne hS hk, hk⟩

/-- a call to a link bears on what that interface has claimed only -/
theorem call (hstays : ∀ c l, ok l → ok (Link.call c l).link) (hp : Vouched ok S p) (k : String) (c : Call) :
    Vouched ok (insert k S) (callLink k c p).1 := by
  have hchanged := changed_callLink p k c
  refine ⟨hp.toRegistered.changed hchanged (fun _ => rfl) (fun _ => rfl) fun e => hstays c e.link,
    fun resource name hr => ?_⟩
  rw [hchanged.claims] at hr
  by_cases hk : key name = k
  · exact .inl (.inl hk)
  · exact (hp.behind resource name hr).imp (Set.mem_insert_of_mem k) fun hopen => hopen.changed hchanged hk

/-- a resource is claimed by an interface that has yet to be opened -/
theorem claim (hp : Vouched ok S p) {e : Entry Λ} (he : p.entries.get? k = some e) (h : p.claim e = .ok q) :
    Vouched ok (insert k S) q := by
  have hregistered := hp.toRegistered.claim he h
  rcases claim_eq_ok h with ⟨-, rfl⟩ | ⟨-, rfl⟩
  · exact hp.mono (Set.subset_insert k S)
  · refine ⟨hregistered, fun resource name hr => ?_⟩
    rw [Table.get?_insert] at hr
    split at hr
    · cases hr
      exact .inl (.inl (hp.keyed k e he).symm)
    · exact (hp.behind resource name hr).imp_left (Set.mem_insert_of_mem k)

/-- an interface that has given its resource up needs no excuse -/
theorem unclaim (hp : Vouched ok (insert k S) p) {e e' : Entry Λ} (he : p.entries.get? k = some e')
    (hname : e'.name = e.name) (hresource : e'.resource = e.resource) : Vouched ok S (p.unclaim e) := by
  refine ⟨hp.toRegistered.unclaim e, fun resource name hr => ?_⟩
  rw [claims_unclaim] at hr
  split at hr
  · cases hr
  · rename_i hno
    rcases hp.behind resource name hr with (hk | hS) | hopen
    · -- it would be a claim of the interface itself, which has one resource
      obtain ⟨e'', he'', rfl, rfl⟩ := hp.claimant resource name hr
      rw [hk, he] at he''
      cases he''
      exact absurd ⟨hresource, hname ▸ hr⟩ hno
    · exact .inl hS
    · obtain ⟨e'', he'', hopen⟩ := hopen
      exact .inr ⟨e'', (entries_unclaim p e).symm ▸ he'', hopen⟩

theorem register {l : Λ} (h : p.register l = .ok q) (hp : Vouched ok S p) (hl : ok l) : Vouched ok S q := by
  obtain ⟨hfree, hq⟩ := register_eq_ok h
  refine ⟨hp.toRegistered.register h hl, fun resource name hr => ?_⟩
  rw [hq] at hr
  refine (hp.behind resource name hr).imp_right fun ⟨e, he, hopen⟩ => ⟨e, ?_, hopen⟩
  have hne : key name ≠ key (Link.name l) := by
    intro hk
    rw [hk, hfree] at he
    cases he
  rw [hq, Table.get?_insert, if_neg hne]
  exact he

theorem enableAll (hp : Vouched ok S p) : Vouched ok S p.enableAll := by
  refine ⟨hp.toRegistered.enableAll, fun resource name hr => ?_⟩
  refine (hp.behind resource name hr).imp_right fun ⟨e, he, hopen⟩ => ⟨{ e with enabled := true }, ?_, hopen⟩
  rw [get?_enableAll, he]
  rfl

end Vouched

/-- where nothing is claimed nobody needs to be vouched for -/
theorem Off.vouched (h : Off p) (hp : Registered ok p) : Vouched ok ∅ p := by
  refine ⟨hp, fun resource name hr => ?_⟩
  rw [h.free] at hr
  cases hr

theorem stays_vouched : Stays ok (Vouched ok S) := fun _ _ h hp => hp.kept h

/-! ## Leases -/

/-- the resource of the interface under a key has been claimed by another -/
def Blocked (k resource owner : String) (p : Pool Λ) : Prop :=
  ∃ e, p.entries.get? k = some e ∧ e.resource = resource ∧ e.name ≠ owner ∧ p.claims.get? resource = some owner

theorem Blocked.kept {resource owner : String} (h : Blocked k resource owner p) (hq : Kept ok p q) :
    Blocked k resource owner q := by
  obtain ⟨e, he, hresource, hne, hclaim⟩ := h
  obtain ⟨e', he', hkept⟩ := hq.entries.after he
  exact ⟨e', he', hkept.resource.trans hresource, hkept.name.symm ▸ hne, hq.claims.symm ▸ hclaim⟩

/-- an answer about the interface under a key, and the claims when it is given: an interface that is handed out is open,
and if it is refused because of its resource, another one has claimed that -/
def Answered (ok : Λ → Prop) (S : Set String) (k : String) (r : Except LinkError α) (p : Pool Λ) : Prop :=
  match r with
  | .ok _ => Vouched ok (S \ {k}) p ∧ OpenAt k p
  | .error err => Vouched ok S p ∧ ∀ resource owner, err = .resourceInUse resource owner → Blocked k resource owner p

theorem stays_answered (r : Except LinkError α) : Stays ok (Answered ok S k r) := by
  intro p q h hp
  cases r with
  | ok a => exact ⟨hp.1.kept h, hp.2.kept h⟩
  | error err => exact ⟨hp.1.kept h, fun resource owner he => (hp.2 resource owner he).kept h⟩

/-- a refusal for another reason -/
theorem Vouched.answered (hp : Vouched ok S p) {err : LinkError} (herr : err.Personal) :
    Answered ok S k (.error err : Except LinkError α) p :=
  ⟨hp, fun resource owner he => absurd he (herr resource owner)⟩

omit [Link Λ] in
/-- a claim fails if another has claimed the resource -/
theorem claim_eq_error {e : Entry Λ} {err : LinkError} (h : p.claim e = .error err) :
    ∃ owner, p.claims.get? e.resource = some owner ∧ owner ≠ e.name ∧ err = .resourceInUse e.resource owner := by
  unfold Pool.claim at h
  split at h
  · rename_i owner howner
    split at h
    · cases h
    · rename_i hne
      cases h
      exact ⟨owner, howner, hne, rfl⟩
  · cases h

section Connect

variable {e : Entry Λ}

/-- what claiming the resource of an interface comes to -/
theorem claim_tells (k : String) (e : Entry Λ) :
    Tells ok (fun p => Vouched ok S p ∧ p.entries.get? k = some e)
      (Proc.step fun s : Client Λ => match s.pool.claim e with
        | .ok p => ({ s with pool := p }, Except.ok ())
        | .error err => (s, .error err))
      fun r p => (r = .ok () → Vouched ok (insert k S) p ∧ p.entries.get? k = some e) ∧
        ∀ err, r = .error err → Answered ok S k (.error err : Except LinkError Unit) p := by
  refine meets_step (fun _ _ => trivial) fun c hc => ?_
  obtain ⟨hvouched, he⟩ := hc
  split
  · rename_i q hclaim
    refine ⟨fun _ => ⟨hvouched.claim he hclaim, ?_⟩, fun err h => nomatch h⟩
    obtain ⟨-, rfl⟩ | ⟨-, rfl⟩ := claim_eq_ok hclaim
    · exact he
    · exact he
  · rename_i err hclaim
    obtain ⟨owner, hclaimed, hne, rfl⟩ := claim_eq_error hclaim
    refine ⟨fun h => (nomatch h), fun err herr => ⟨hvouched, fun resource owner' h => ?_⟩⟩
    cases herr
    cases h
    exact ⟨e, he, rfl, hne.symm, hclaimed⟩

/-- the interface under a key goes by the name and has the resource of another -/
def Like (k : String) (e : Entry Λ) (p : Pool Λ) : Prop :=
  ∃ e', p.entries.get? k = some e' ∧ e'.name = e.name ∧ e'.resource = e.resource

theorem stays_like : Stays ok (Like k e) := by
  rintro p q h ⟨e', he', hname, hresource⟩
  obtain ⟨e'', he'', hkept⟩ := h.entries.after he'
  exact ⟨e'', he'', hkept.name.trans hname, hkept.resource.trans hresource⟩

theorem Like.call (h : Like k e p) (c : Call) : Like k e (callLink k c p).1 := by
  obtain ⟨e', he', hname, hresource⟩ := h
  exact ⟨called c e', entry_callLink he' c, hname, hresource⟩

/-- what opening a link leaves of the account, and whether the link is open -/
def Tried (ok : Λ → Prop) (S : Set String) (k : String) (e : Entry Λ) (r : Except LinkError Unit) (p : Pool Λ) : Prop :=
  Vouched ok (insert k S) p ∧ Like k e p ∧ match r with
    | .ok _ => OpenAt k p
    | .error err => err.Personal

theorem stays_tried (r : Except LinkError Unit) : Stays ok (Tried ok S k e r) := by
  rintro p q h ⟨hvouched, hlike, hr⟩
  refine ⟨hvouched.kept h, stays_like p q h hlike, ?_⟩
  cases r with
  | ok u => exact OpenAt.kept hr h
  | error err => exact hr

/-- **A link that is called to open is open, or speaks of itself** -/
theorem connect_tells (truthful : Link.Truthful ok) :
    Tells ok (fun p => Vouched ok (insert k S) p ∧ Like k e p) (perform k .connect) (Tried ok S k e) := by
  refine tells_perform stays_tried fun p hp => ?_
  obtain ⟨hvouched, hlike⟩ := hp
  have hcalled := hvouched.call truthful.stays k .connect
  rw [Set.insert_idem] at hcalled
  refine ⟨hcalled, hlike.call .connect, ?_⟩
  obtain ⟨e', he', -⟩ := hlike
  have hopens := truthful.connects e'.link (hvouched.links k e' he')
  unfold Outcome.Opens at hopens
  rw [result_callLink he' .connect]
  revert hopens
  cases (Link.call .connect e'.link).result with
  | ok u => exact fun hopen => ⟨_, entry_callLink he' .connect, hopen⟩
  | error err => exact id

/-- what getting an interface ready that is ours comes to -/
theorem connectIfNeeded_tells (truthful : Link.Truthful ok) (k : String) (e : Entry Λ) :
    Tells ok (fun p => Vouched ok S p ∧ p.entries.get? k = some e) (connectIfNeeded k e) (Answered ok S k) := by
  unfold connectIfNeeded
  split
  · rename_i hopen
    refine meets_done fun c hc => ?_
    obtain ⟨hvouched, he⟩ := hc
    have hopenAt : OpenAt k c.pool := ⟨e, he, hopen⟩
    exact ⟨(hvouched.mono (Set.subset_insert k S)).opened hopenAt, hopenAt⟩
  · refine meets_andThen (claim_tells k e) (fun _ => ?_) fun err c hc => hc.2 err rfl
    have hconnect := connect_tells (S := S) (k := k) (e := e) truthful
    refine meets_bind (hconnect.mono (fun c hc => ?_) fun _ _ h => h) fun r => ?_
    · obtain ⟨hvouched, he⟩ := hc.1 rfl
      exact ⟨hvouched, e, he, rfl, rfl⟩
    · cases r with
      | ok u => exact meets_done fun c hc => ⟨hc.1.opened hc.2.2, hc.2.2⟩
      | error err =>
        -- an interface that does not open gives its resource up
        refine meets_bind (R := fun _ c => Vouched ok S c.pool ∧ err.Personal) (meets_update (fun _ _ => trivial)
          fun c hc => ?_) fun _ => meets_done fun c hc => hc.1.answered hc.2
        obtain ⟨hvouched, ⟨e', he', hname, hresource⟩, hpersonal⟩ := hc
        exact ⟨hvouched.unclaim he' hname hresource, hpersonal⟩

end Connect

theorem makeReady_tells (truthful : Link.Truthful ok) (name k : String) :
    Tells ok (Vouched ok S) (makeReady name k) (Answered ok S k) := by
  refine tells_get_bind fun c hc => ?_
  split
  · exact meets_done fun d hd => Vouched.answered (hd ▸ hc) (LinkError.personal_disabled _)
  · rename_i e he
    split
    · exact (connectIfNeeded_tells truthful k e).mono (fun d hd => hd ▸ ⟨hc, he⟩) fun _ _ h => h
    · exact meets_done fun d hd => Vouched.answered (hd ▸ hc) (LinkError.personal_disabled _)

/-- **An interface that is handed out is open, and one that is refused because of its resource is blocked by another**;
whoever was vouched for is so still -/
theorem lease_tells (truthful : Link.Truthful ok) (name : String) :
    Tells ok (Vouched ok S) (lease name) fun r p => (∀ k, r = .ok k → k = key name) ∧ Answered ok S (key name) r p := by
  refine tells_get_bind fun c hc => ?_
  split
  · exact meets_done fun d hd => ⟨fun _ h => (nomatch h), Vouched.answered (hd ▸ hc) (LinkError.personal_disabled _)⟩
  · split
    · refine meets_bind ((tells_queueFor stays_vouched _).mono (fun d hd => hd ▸ hc) fun _ _ h => h) fun _ =>
        meets_bind (makeReady_tells truthful name (key name)) fun r => ?_
      cases r with
      | ok u =>
        refine meets_done fun d hd => ⟨fun k hk => ?_, hd⟩
        cases hk
        rfl
      | error err =>
        have hstays : Stays ok (Answered ok S (key name) (.error err : Except LinkError String)) := stays_answered _
        exact meets_bind (tells_giveBack hstays) fun _ => meets_done fun d hd => ⟨fun _ h => (nomatch h), hd⟩
    · exact meets_done fun d hd => ⟨fun _ h => (nomatch h), Vouched.answered (hd ▸ hc) (LinkError.personal_disabled _)⟩

/-! ## Resets -/

/-- the account after a reset: who failed is excused -/
def Excused (ok : Λ → Prop) (S : Set String) (k : String) (r : Except LinkError Unit) (p : Pool Λ) : Prop :=
  match r with
  | .ok _ => Vouched ok (S \ {k}) p
  | .error _ => Vouched ok (insert k S) p

theorem stays_excused (r : Except LinkError Unit) : Stays ok (Excused ok S k r) := by
  intro p q h hp
  cases r with
  | ok u => exact Vouched.kept hp h
  | error err => exact Vouched.kept hp h

theorem Vouched.excused (hp : Vouched ok (S \ {k}) p) (r : Except LinkError Unit) : Excused ok S k r p := by
  cases r with
  | ok u => exact hp
  | error err => exact hp.mono (Set.sdiff_subset.trans (Set.subset_insert k S))

/-- a reset over the bus closes nothing -/
theorem reset_tells (truthful : Link.Truthful ok) (k : String) :
    Tells ok (fun p => Vouched ok (S \ {k}) p ∧ OpenAt k p) (perform k .reset) (Excused ok S k) := by
  refine tells_perform stays_excused fun p hp => ?_
  obtain ⟨hvouched, e, he, hopen⟩ := hp
  have hcalled := hvouched.call truthful.stays k .reset
  have hopenAt : OpenAt k (callLink k .reset p).1 :=
    ⟨called .reset e, entry_callLink he .reset, truthful.resets e.link (hvouched.links k e he) hopen⟩
  exact Vouched.excused ((hcalled.opened hopenAt).mono Set.sdiff_subset) _

/-- a link that is closed and opened is closed if it does not open -/
theorem reconnect_tells (truthful : Link.Truthful ok) (k : String) :
    Tells ok (fun p => Vouched ok (S \ {k}) p ∧ OpenAt k p)
      ((perform k .disconnect).andThen fun _ => perform k .connect) (Excused ok S k) := by
  intro s hs
  obtain ⟨e, he, hopen⟩ := hs.2
  have hclose : Tells ok (fun p => Vouched ok (S \ {k}) p ∧ Like k e p) (perform k .disconnect) fun _ p =>
      Vouched ok (insert k S) p ∧ Like k e p := by
    refine tells_perform (fun _ => stays_and stays_vouched stays_like) fun p hp => ⟨?_, hp.2.call .disconnect⟩
    exact (hp.1.call truthful.stays k .disconnect).mono (Set.insert_subset_insert Set.sdiff_subset)
  refine meets_andThen hclose (fun _ => (connect_tells truthful).mono (fun _ h => h) fun r c hc => ?_)
    (fun _ _ hc => hc.1) s ⟨hs.1, e, he, rfl, rfl⟩
  cases r with
  | ok u => exact hc.1.opened hc.2.2
  | error err => exact hc.1

/-- **After a reset whoever has claimed a resource is open, or failed to be reset** -/
theorem resetInterface_tells (truthful : Link.Truthful ok) (name : String) :
    Tells ok (Vouched ok S) (Executor.resetInterface name) (Excused ok S (key name)) := by
  refine meets_andThen (lease_tells truthful name) (fun k => ?_)
    fun _ _ hc => hc.2.1.mono (Set.subset_insert (key name) S)
  refine meets_bind (R := fun r c => Excused ok S (key name) r c.pool) ?_ fun r =>
    meets_bind (tells_giveBack (stays_excused r)) fun _ => meets_done fun _ h => h
  rintro s ⟨hk, hs⟩
  obtain rfl := hk k rfl
  refine tells_get_bind (fun c hc => ?_) s hs
  split
  · exact (reset_tells truthful _).mono (fun d hd => hd ▸ hc) fun _ _ h => h
  · exact (reconnect_tells truthful _).mono (fun d hd => hd ▸ hc) fun _ _ h => h

end Pool

end CalBench
