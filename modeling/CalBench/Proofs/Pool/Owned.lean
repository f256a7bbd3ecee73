/-
Who owns a physical resource.

Ownership is spread over the claims, the switches and the links of a pool. In every pool claims are made by interfaces
that are there (`Registered`). `Owned` adds that whatever is open has claimed its resource, which is so if links can be
relied on not to open when they fail to; `Exclusive` adds that it is enabled. Most of what is done to a pool only wears
it: queues change and links close, but no link opens, no switch moves and no claim changes hands (`Used`). While the
pool is shut down, interfaces are switched off and claims are given up too (`Fading`).

Results:
- `Registered.used`, `Owned.used`, `Exclusive.used`: a used pool keeps its owners;
- `Exclusive.call`: whoever holds an interface may call its link;
- `Exclusive.claim`, `Owned.unclaim`: a resource may be claimed by an interface if it is free, and given up by one that
  is closed;
- `off_of_shut`: when every interface is shut, no resource is owned.
-/
import CalBench.Proofs.Link.Tidy
import CalBench.Proofs.Pool.Switch

namespace CalBench

variable {Λ : Type}

theorem Table.get?_erase {α : Type} (t : Table α) (key key' : String) :
    (t.erase key).get? key' = if key' = key then none else t.get? key' := by
  unfold erase get?
  rw [List.find?_filter]
  by_cases h : key' = key
  · subst h
    simp
  · rw [if_neg h]
    congr 2
    funext e
    by_cases he : e.1 = key'
    · simp [he, h]
    · simp [he]

/-! ## Pools whose interfaces are related -/

namespace Pool

/-- the interfaces of two pools have the same keys and are related one by one -/
def Related (R : Entry Λ → Entry Λ → Prop) (p q : Pool Λ) : Prop :=
  ∀ key, Option.Rel R (p.entries.get? key) (q.entries.get? key)

section Related

variable {R : Entry Λ → Entry Λ → Prop} {p q r : Pool Λ}

theorem Related.of_entries (hR : ∀ e, R e e) (h : q.entries = p.entries) : Related R p q := by
  intro key
  rw [h]
  cases p.entries.get? key with
  | none => exact .none
  | some e => exact .some (hR e)

theorem Related.trans (hR : ∀ e e' e'', R e e' → R e' e'' → R e e'') (h : Related R p q) (h' : Related R q r) :
    Related R p r := by
  intro key
  have hfirst := h key
  have hsecond := h' key
  revert hfirst hsecond
  generalize p.entries.get? key = x, q.entries.get? key = y, r.entries.get? key = z
  intro hfirst hsecond
  cases hfirst with
  | none => exact hsecond
  | some hfirst => cases hsecond with | some hsecond => exact .some (hR _ _ _ hfirst hsecond)

theorem Related.before (h : Related R p q) {key : String} {e' : Entry Λ} (he : q.entries.get? key = some e') :
    ∃ e, p.entries.get? key = some e ∧ R e e' := by
  have hkey := h key
  rw [he] at hkey
  generalize p.entries.get? key = x at hkey
  cases hkey with | some hR => exact ⟨_, rfl, hR⟩

theorem Related.after (h : Related R p q) {key : String} {e : Entry Λ} (he : p.entries.get? key = some e) :
    ∃ e', q.entries.get? key = some e' ∧ R e e' := by
  have hkey := h key
  rw [he] at hkey
  generalize q.entries.get? key = x at hkey
  cases hkey with | some hR => exact ⟨_, rfl, hR⟩

theorem Related.mono {R' : Entry Λ → Entry Λ → Prop} (hR : ∀ e e', R e e' → R' e e') (h : Related R p q) :
    Related R' p q := by
  intro key
  have hkey := h key
  revert hkey
  generalize p.entries.get? key = x, q.entries.get? key = y
  intro hkey
  cases hkey with
  | none => exact .none
  | some h => exact .some (hR _ _ h)

structure Changed (key : String) (f : Entry Λ → Entry Λ) (p q : Pool Λ) : Prop where
  claims : q.claims = p.claims
  entries : ∀ key', q.entries.get? key' =
    if key' = key then (p.entries.get? key).map f else p.entries.get? key'

theorem changed_modify (p : Pool Λ) (key : String) (f : Entry Λ → Entry Λ) : Changed key f p (p.modify key f) := by
  refine ⟨?_, fun key' => get?_modify p key key' f⟩
  unfold modify
  split <;> rfl

def called [Link Λ] (c : Call) (e : Entry Λ) : Entry Λ := { e with link := (Link.call c e.link).link }

theorem changed_callLink [Link Λ] (p : Pool Λ) (key : String) (c : Call) :
    Changed key (called c) p (callLink key c p).1 := by
  unfold callLink
  split
  · rename_i e he
    obtain ⟨hclaims, hentries⟩ := changed_modify p key fun e' => { e' with link := (Link.call c e.link).link }
    refine ⟨hclaims, fun key' => (hentries key').trans ?_⟩
    rw [he]
    rfl
  · rename_i he
    refine ⟨rfl, fun key' => ?_⟩
    by_cases hkey : key' = key
    · rw [if_pos hkey, hkey, he]
      rfl
    · rw [if_neg hkey]

theorem entry_callLink [Link Λ] {key : String} {e : Entry Λ} (he : p.entries.get? key = some e) (c : Call) :
    (callLink key c p).1.entries.get? key = some (called c e) := by
  rw [(changed_callLink p key c).entries, if_pos rfl, he]
  rfl

theorem result_callLink [Link Λ] {key : String} {e : Entry Λ} (he : p.entries.get? key = some e) (c : Call) :
    (callLink key c p).2.2 = (Link.call c e.link).result := by
  unfold callLink
  rw [he]

theorem Changed.before {key key' : String} {f : Entry Λ → Entry Λ} (h : Changed key f p q) {e' : Entry Λ}
    (he : q.entries.get? key' = some e') :
    (key' = key ∧ ∃ e, p.entries.get? key = some e ∧ f e = e') ∨ p.entries.get? key' = some e' := by
  rw [h.entries] at he
  split at he
  · rename_i hkey
    exact .inl ⟨hkey, Option.map_eq_some_iff.1 he⟩
  · exact .inr he

theorem Changed.related {key : String} {f : Entry Λ → Entry Λ} (h : Changed key f p q) (hR : ∀ e, R e e)
    (hf : ∀ e, p.entries.get? key = some e → R e (f e)) : Related R p q := by
  intro key'
  rw [h.entries]
  by_cases hkey : key' = key
  · rw [if_pos hkey, hkey]
    cases he : p.entries.get? key with
    | none => exact .none
    | some e => exact .some (hf e he)
  · rw [if_neg hkey]
    cases p.entries.get? key' with
    | none => exact .none
    | some e => exact .some (hR e)

end Related

end Pool

/-! ## Pools that are used -/

variable [Link Λ] {ok : Λ → Prop}

namespace Entry

/-- what becomes of an interface when it is neither opened nor switched -/
structure Worn (ok : Λ → Prop) (e e' : Entry Λ) : Prop where
  name : e'.name = e.name
  resource : e'.resource = e.resource
  enabled : e'.enabled = e.enabled
  closed : Link.connected e.link = false → Link.connected e'.link = false
  link : ok e.link → ok e'.link

theorem Worn.refl (e : Entry Λ) : Worn ok e e := ⟨rfl, rfl, rfl, id, id⟩

/-- what becomes of an interface when it is neither opened nor switched on -/
structure Faded (e e' : Entry Λ) : Prop where
  name : e'.name = e.name
  resource : e'.resource = e.resource
  disabled : e.enabled = false → e'.enabled = false
  closed : Link.connected e.link = false → Link.connected e'.link = false

theorem Faded.refl (e : Entry Λ) : Faded e e := ⟨rfl, rfl, id, id⟩

theorem Faded.trans {e e' e'' : Entry Λ} (h : Faded e e') (h' : Faded e' e'') : Faded e e'' :=
  ⟨h'.name.trans h.name, h'.resource.trans h.resource, h'.disabled ∘ h.disabled, h'.closed ∘ h.closed⟩

theorem Worn.faded {e e' : Entry Λ} (h : Worn ok e e') : Faded e e' :=
  ⟨h.name, h.resource, h.enabled.trans, h.closed⟩

end Entry

namespace Pool

variable {p q r : Pool Λ}

/-- what those do who use interfaces: no link opens, no switch moves and no claim changes hands -/
structure Used (ok : Λ → Prop) (p q : Pool Λ) : Prop where
  claims : q.claims = p.claims
  entries : Related (Entry.Worn ok) p q

theorem Used.refl (p : Pool Λ) : Used ok p p := ⟨rfl, .of_entries Entry.Worn.refl rfl⟩

theorem used_join (p : Pool Λ) (key : String) : Used ok p (p.join key) := by
  have h := changed_modify p key fun e => { e with queue := e.queue ++ [e.issued], issued := e.issued + 1 }
  exact ⟨h.claims, h.related Entry.Worn.refl fun e _ => ⟨rfl, rfl, rfl, id, id⟩⟩

theorem used_leave (c : Client Λ) : Used ok c.pool c.leave.pool := by
  unfold Client.leave
  split
  · rename_i place _
    have h := changed_modify c.pool place.key fun e => { e with queue := e.queue.erase place.number }
    exact ⟨h.claims, h.related Entry.Worn.refl fun e _ => ⟨rfl, rfl, rfl, id, id⟩⟩
  · exact .refl _

/-- closing a link opens none -/
theorem used_disconnect (closing : Link.Closing ok) (hlinks : ∀ key e, p.entries.get? key = some e → ok e.link)
    (key : String) : Used ok p (callLink key .disconnect p).1 := by
  have h := changed_callLink p key .disconnect
  refine ⟨h.claims, h.related Entry.Worn.refl fun e he =>
    ⟨rfl, rfl, rfl, fun _ => ?_, closing.stays .disconnect e.link⟩⟩
  exact closing.closes e.link (hlinks key e he)

/-- what shutting a pool down does to it: no link opens, nothing is switched on, and claims are only given up -/
structure Fading (p q : Pool Λ) : Prop where
  claims : ∀ resource name, q.claims.get? resource = some name → p.claims.get? resource = some name
  entries : Related Entry.Faded p q

theorem Fading.refl (p : Pool Λ) : Fading p p := ⟨fun _ _ h => h, .of_entries Entry.Faded.refl rfl⟩

theorem Fading.trans (h : Fading p q) (h' : Fading q r) : Fading p r :=
  ⟨fun resource name hr => h.claims _ _ (h'.claims resource name hr),
    h.entries.trans (fun _ _ _ => Entry.Faded.trans) h'.entries⟩

theorem Used.fading (h : Used ok p q) : Fading p q := by
  refine ⟨fun resource name hq => ?_, h.entries.mono fun _ _ => Entry.Worn.faded⟩
  rw [← h.claims]
  exact hq

/-! ## Owners -/

/-- interfaces have keys of their own, their links are of a kind, and whoever has claimed a resource is an interface
over it -/
structure Registered (ok : Λ → Prop) (p : Pool Λ) : Prop where
  keyed : ∀ k e, p.entries.get? k = some e → k = key e.name
  links : ∀ k e, p.entries.get? k = some e → ok e.link
  claimant : ∀ resource name, p.claims.get? resource = some name →
    ∃ e, p.entries.get? (key name) = some e ∧ e.name = name ∧ e.resource = resource

/-- the claims fit the interfaces and their links -/
structure Owned (ok : Λ → Prop) (p : Pool Λ) : Prop where
  keyed : ∀ k e, p.entries.get? k = some e → k = key e.name
  links : ∀ k e, p.entries.get? k = some e → ok e.link
  /-- an open interface has claimed its resource -/
  owner : ∀ k e, p.entries.get? k = some e → Link.connected e.link = true → p.claims.get? e.resource = some e.name
  /-- whoever has claimed a resource is an interface over it -/
  claimant : ∀ resource name, p.claims.get? resource = some name →
    ∃ e, p.entries.get? (key name) = some e ∧ e.name = name ∧ e.resource = resource

/-- the claims fit, and what is open is enabled -/
structure Exclusive (ok : Λ → Prop) (p : Pool Λ) : Prop extends Owned ok p where
  live : ∀ k e, p.entries.get? k = some e → Link.connected e.link = true → e.enabled = true

/-- the interface under a key is enabled and has claimed its resource -/
def Holds (k : String) (p : Pool Λ) : Prop :=
  ∃ e, p.entries.get? k = some e ∧ e.enabled = true ∧ p.claims.get? e.resource = some e.name

/-- the interface under a key is disabled and closed, and has claimed nothing -/
def Shut (k : String) (p : Pool Λ) : Prop :=
  ∀ e, p.entries.get? k = some e →
    e.enabled = false ∧ Link.connected e.link = false ∧ p.claims.get? e.resource ≠ some e.name

/-- the interface with a name, if there is one, is closed -/
def IsClosed (name : String) (p : Pool Λ) : Prop :=
  ∀ e, p.entries.get? (key name) = some e → Link.connected e.link = false

theorem Entry.Worn.open_before {e e' : Entry Λ} (h : Entry.Worn ok e e') (he : Link.connected e'.link = true) :
    Link.connected e.link = true := by
  by_contra hc
  rw [h.closed (Bool.eq_false_iff.2 hc)] at he
  exact absurd he Bool.false_ne_true

theorem Owned.registered (hp : Owned ok p) : Registered ok p := ⟨hp.keyed, hp.links, hp.claimant⟩

theorem Registered.owned (hp : Registered ok p)
    (howner : ∀ k e, p.entries.get? k = some e → Link.connected e.link = true →
      p.claims.get? e.resource = some e.name) : Owned ok p := ⟨hp.keyed, hp.links, howner, hp.claimant⟩

theorem Registered.used (hp : Registered ok p) (h : Used ok p q) : Registered ok q := by
  refine ⟨fun k e' he => ?_, fun k e' he => ?_, fun resource name hr => ?_⟩
  · obtain ⟨e, he, hw⟩ := h.entries.before he
    rw [hw.name]
    exact hp.keyed k e he
  · obtain ⟨e, he, hw⟩ := h.entries.before he
    exact hw.link (hp.links k e he)
  · rw [h.claims] at hr
    obtain ⟨e, he, hname, hresource⟩ := hp.claimant resource name hr
    obtain ⟨e', he', hw⟩ := h.entries.after he
    exact ⟨e', he', hw.name.trans hname, hw.resource.trans hresource⟩

theorem Owned.used (hp : Owned ok p) (h : Used ok p q) : Owned ok q := by
  refine (hp.registered.used h).owned fun k e' he hopen => ?_
  obtain ⟨e, he, hw⟩ := h.entries.before he
  rw [h.claims, hw.name, hw.resource]
  exact hp.owner k e he (Entry.Worn.open_before hw hopen)

theorem Exclusive.used (hp : Exclusive ok p) (h : Used ok p q) : Exclusive ok q := by
  refine ⟨hp.toOwned.used h, fun k e' he hopen => ?_⟩
  obtain ⟨e, he, hw⟩ := h.entries.before he
  rw [hw.enabled]
  exact hp.live k e he (Entry.Worn.open_before hw hopen)

theorem Holds.used {k : String} (hp : Holds k p) (h : Used ok p q) : Holds k q := by
  obtain ⟨e, he, henabled, hclaim⟩ := hp
  obtain ⟨e', he', hw⟩ := h.entries.after he
  exact ⟨e', he', hw.enabled.trans henabled, by rw [h.claims, hw.resource, hw.name]; exact hclaim⟩

theorem IsClosed.used {name : String} (hp : IsClosed name p) (h : Used ok p q) : IsClosed name q := by
  intro e' he'
  obtain ⟨e, he, hw⟩ := h.entries.before he'
  exact hw.closed (hp e he)

/-- what is shut stays so while the pool is shut down -/
theorem Shut.fading {k : String} (hp : Shut k p) (h : Fading p q) : Shut k q := by
  intro e' he'
  obtain ⟨e, he, hf⟩ := h.entries.before he'
  obtain ⟨hdisabled, hclosed, hclaim⟩ := hp e he
  refine ⟨hf.disabled hdisabled, hf.closed hclosed, fun hr => hclaim ?_⟩
  rw [← hf.resource, ← hf.name]
  exact h.claims _ _ hr

/-! ## What keeps the owners -/

omit [Link Λ] in
/-- an interface is changed, but neither its name nor its resource -/
theorem Registered.changed (hp : Registered ok p) {k : String} {f : Entry Λ → Entry Λ} (h : Changed k f p q)
    (hname : ∀ e, (f e).name = e.name) (hresource : ∀ e, (f e).resource = e.resource)
    (hlink : ∀ e, ok e.link → ok (f e).link) : Registered ok q := by
  refine ⟨fun k' e' he => ?_, fun k' e' he => ?_, fun resource name hr => ?_⟩
  · rcases h.before he with ⟨rfl, e, hb, rfl⟩ | hb
    · rw [hname]
      exact hp.keyed k' e hb
    · exact hp.keyed k' e' hb
  · rcases h.before he with ⟨rfl, e, hb, rfl⟩ | hb
    · exact hlink e (hp.links k' e hb)
    · exact hp.links k' e' hb
  · rw [h.claims] at hr
    obtain ⟨e, hb, rfl, rfl⟩ := hp.claimant resource name hr
    have hsame : Related (fun e e' : Entry Λ => e'.name = e.name ∧ e'.resource = e.resource) p q :=
      h.related (fun _ => ⟨rfl, rfl⟩) fun e _ => ⟨hname e, hresource e⟩
    exact hsame.after hb

/-- an interface is changed that may be open afterwards only if it has claimed its resource -/
theorem Owned.changed (hp : Owned ok p) {k : String} {f : Entry Λ → Entry Λ} (h : Changed k f p q)
    (hname : ∀ e, (f e).name = e.name) (hresource : ∀ e, (f e).resource = e.resource)
    (hlink : ∀ e, ok e.link → ok (f e).link)
    (howner : ∀ e, p.entries.get? k = some e → Link.connected (f e).link = true →
      p.claims.get? e.resource = some e.name) : Owned ok q := by
  refine (hp.registered.changed h hname hresource hlink).owned fun k' e' he hopen => ?_
  rw [h.claims]
  rcases h.before he with ⟨rfl, e, hb, rfl⟩ | hb
  · rw [hname, hresource]
    exact howner e hb hopen
  · exact hp.owner k' e' hb hopen

/-- **Whoever holds an interface may call its link** -/
theorem Exclusive.call (tidy : Link.Tidy ok) (hp : Exclusive ok p) {k : String} (h : Holds k p) (c : Call) :
    Exclusive ok (callLink k c p).1 := by
  obtain ⟨held, hheld, henabled, hclaim⟩ := h
  have hchanged := changed_callLink p k c
  refine ⟨hp.toOwned.changed hchanged (fun _ => rfl) (fun _ => rfl) (fun e => tidy.stays c e.link) fun e he _ => ?_,
    fun k' e' he hopen => ?_⟩
  · rw [hheld] at he
    cases he
    exact hclaim
  · rcases hchanged.before he with ⟨rfl, e, hb, rfl⟩ | hb
    · rw [hheld] at hb
      cases hb
      exact henabled
    · exact hp.live k' e' hb hopen

theorem Holds.call {k : String} (h : Holds k p) (c : Call) : Holds k (callLink k c p).1 := by
  obtain ⟨e, he, henabled, hclaim⟩ := h
  refine ⟨called c e, entry_callLink he c, henabled, ?_⟩
  rw [(changed_callLink p k c).claims]
  exact hclaim

/-- switching an interface off is no matter of owners -/
theorem Owned.off (hp : Owned ok p) (k : String) : Owned ok (p.modify k fun e => { e with enabled := false }) :=
  hp.changed (changed_modify p k _) (fun _ => rfl) (fun _ => rfl) (fun _ => id) fun e he hopen => hp.owner k e he hopen

omit [Link Λ] in
/-- a claim that succeeds gives a free resource to an interface, or leaves it where it is -/
theorem claim_eq_ok {e : Entry Λ} (h : p.claim e = .ok q) :
    p.claims.get? e.resource = some e.name ∧ q = p ∨
      p.claims.get? e.resource = none ∧ q = { p with claims := p.claims.insert e.resource e.name } := by
  unfold Pool.claim at h
  split at h
  · rename_i owner howner
    split at h
    · rename_i heq
      cases h
      exact .inl ⟨heq ▸ howner, rfl⟩
    · cases h
  · rename_i hfree
    cases h
    exact .inr ⟨hfree, rfl⟩

omit [Link Λ] in
/-- a resource may be claimed by an interface over it -/
theorem Registered.claim (hp : Registered ok p) {k : String} {e : Entry Λ} (he : p.entries.get? k = some e)
    (h : p.claim e = .ok q) : Registered ok q := by
  rcases claim_eq_ok h with ⟨-, rfl⟩ | ⟨-, rfl⟩
  · exact hp
  · refine ⟨hp.keyed, hp.links, fun resource name hr => ?_⟩
    rw [Table.get?_insert] at hr
    split at hr
    · rename_i hresource
      cases hr
      exact ⟨e, hp.keyed k e he ▸ he, rfl, hresource.symm⟩
    · exact hp.claimant resource name hr

/-- **A claim that succeeds gives a free resource to an interface**, or leaves it where it is -/
theorem Exclusive.claim (hp : Exclusive ok p) {k : String} {e : Entry Λ} (he : p.entries.get? k = some e)
    (h : p.claim e = .ok q) :
    Exclusive ok q ∧ q.entries = p.entries ∧ q.claims.get? e.resource = some e.name := by
  have hregistered := hp.registered.claim he h
  rcases claim_eq_ok h with ⟨howner, rfl⟩ | ⟨hfree, rfl⟩
  · exact ⟨hp, rfl, howner⟩
  · refine ⟨⟨hregistered.owned fun k' e' he' hopen => ?_, hp.live⟩, rfl, Table.get?_insert_self ..⟩
    -- an interface that is open has another resource
    have howner := hp.owner k' e' he' hopen
    have hne : e'.resource ≠ e.resource := by
      intro heq
      rw [heq, hfree] at howner
      cases howner
    rw [Table.get?_insert, if_neg hne]
    exact howner

omit [Link Λ] in
theorem entries_unclaim (p : Pool Λ) (e : Entry Λ) : (p.unclaim e).entries = p.entries := by
  unfold unclaim
  split <;> rfl

omit [Link Λ] in
theorem claims_unclaim (p : Pool Λ) (e : Entry Λ) (resource : String) :
    (p.unclaim e).claims.get? resource =
      if resource = e.resource ∧ p.claims.get? resource = some e.name then none else p.claims.get? resource := by
  unfold unclaim
  by_cases hr : resource = e.resource
  · subst hr
    by_cases hc : p.claims.get? e.resource = some e.name
    · simp [hc, Table.get?_erase]
    · simp [hc]
  · by_cases hc : p.claims.get? e.resource = some e.name
    · simp [hc, hr, Table.get?_erase]
    · simp [hc, hr]

omit [Link Λ] in
theorem Registered.unclaim (hp : Registered ok p) (e : Entry Λ) : Registered ok (p.unclaim e) := by
  refine ⟨?_, ?_, fun resource name hr => ?_⟩
  · rw [entries_unclaim]
    exact hp.keyed
  · rw [entries_unclaim]
    exact hp.links
  · rw [claims_unclaim] at hr
    rw [entries_unclaim]
    split at hr
    · cases hr
    · exact hp.claimant resource name hr

/-- **A resource is given up by an interface that is closed** -/
theorem Owned.unclaim (hp : Owned ok p) {e : Entry Λ} (hclosed : IsClosed e.name p) : Owned ok (p.unclaim e) := by
  refine (hp.registered.unclaim e).owned fun k e' he hopen => ?_
  rw [entries_unclaim] at he
  have howner := hp.owner k e' he hopen
  rw [claims_unclaim, if_neg]
  · exact howner
  · rintro ⟨-, hclaim⟩
    -- it is the interface itself, for names have keys of their own
    rw [howner] at hclaim
    rw [hp.keyed k e' he, Option.some.inj hclaim] at he
    rw [hclosed e' he] at hopen
    exact absurd hopen Bool.false_ne_true

theorem Exclusive.unclaim (hp : Exclusive ok p) {e : Entry Λ} (hclosed : IsClosed e.name p) :
    Exclusive ok (p.unclaim e) := by
  refine ⟨hp.toOwned.unclaim hclosed, ?_⟩
  rw [entries_unclaim]
  exact hp.live

omit [Link Λ] in
theorem registered_empty : Registered ok ({} : Pool Λ) :=
  ⟨fun _ _ h => (nomatch h), fun _ _ h => (nomatch h), fun _ _ h => (nomatch h)⟩

theorem exclusive_empty : Exclusive ok ({} : Pool Λ) :=
  ⟨registered_empty.owned fun _ _ h => (nomatch h), fun _ _ h => (nomatch h)⟩

omit [Link Λ] in
theorem enableAll_before {k : String} {e' : Entry Λ} (h : p.enableAll.entries.get? k = some e') :
    ∃ e, p.entries.get? k = some e ∧ { e with enabled := true } = e' := by
  rw [get?_enableAll] at h
  exact Option.map_eq_some_iff.1 h

omit [Link Λ] in
theorem Registered.enableAll (hp : Registered ok p) : Registered ok p.enableAll := by
  refine ⟨fun k e' he => ?_, fun k e' he => ?_, fun resource name hr => ?_⟩
  · obtain ⟨e, hb, rfl⟩ := enableAll_before he
    exact hp.keyed k e hb
  · obtain ⟨e, hb, rfl⟩ := enableAll_before he
    exact hp.links k e hb
  · obtain ⟨e, hb, hname, hresource⟩ := hp.claimant resource name hr
    exact ⟨{ e with enabled := true }, by rw [get?_enableAll, hb]; rfl, hname, hresource⟩

theorem Exclusive.enableAll (hp : Exclusive ok p) : Exclusive ok p.enableAll := by
  refine ⟨hp.registered.enableAll.owned fun k e' he hopen => ?_, fun k e' he _ => ?_⟩
  · obtain ⟨e, hb, rfl⟩ := enableAll_before he
    exact hp.owner k e hb hopen
  · obtain ⟨e, -, rfl⟩ := enableAll_before he
    rfl

section Register

variable {l : Λ}

/-- the interface that is made of a link when it is registered -/
def registered (l : Λ) : Entry Λ := { name := Link.name l, kind := Link.kind l, resource := Link.resource l, link := l }

theorem register_eq_ok (h : p.register l = .ok q) : p.entries.get? (key (Link.name l)) = none ∧
    q = { p with entries := p.entries.insert (key (Link.name l)) (registered l) } := by
  unfold Pool.register at h
  dsimp only at h
  split at h
  · cases h
  · rename_i hfree
    cases h
    rw [contains, Table.contains_eq_isSome] at hfree
    exact ⟨by simpa using hfree, rfl⟩

theorem register_before (h : p.register l = .ok q) {k : String} {e : Entry Λ} (he : q.entries.get? k = some e) :
    (k = key (Link.name l) ∧ registered l = e) ∨ p.entries.get? k = some e := by
  obtain ⟨-, rfl⟩ := register_eq_ok h
  rw [Table.get?_insert] at he
  split at he
  · rename_i hk
    exact .inl ⟨hk, Option.some.inj he⟩
  · exact .inr he

/-- a link is registered under a name that is free -/
theorem Registered.register (h : p.register l = .ok q) (hp : Registered ok p) (hl : ok l) : Registered ok q := by
  obtain ⟨hfree, hq⟩ := register_eq_ok h
  have hclaims : q.claims = p.claims := by rw [hq]
  refine ⟨fun k e he => ?_, fun k e he => ?_, fun resource name hr => ?_⟩
  · rcases register_before h he with ⟨rfl, rfl⟩ | hb
    · rfl
    · exact hp.keyed k e hb
  · rcases register_before h he with ⟨-, rfl⟩ | hb
    · exact hl
    · exact hp.links k e hb
  · rw [hclaims] at hr
    obtain ⟨e, hb, hname, hresource⟩ := hp.claimant resource name hr
    refine ⟨e, ?_, hname, hresource⟩
    have hne : key name ≠ key (Link.name l) := by
      intro hk
      rw [hk, hfree] at hb
      cases hb
    rw [hq, Table.get?_insert, if_neg hne]
    exact hb

variable (hclosed : Link.connected l = false) (h : p.register l = .ok q)

include hclosed h

theorem register_open {k : String} {e : Entry Λ} (he : q.entries.get? k = some e)
    (hopen : Link.connected e.link = true) : p.entries.get? k = some e := by
  rcases register_before h he with ⟨-, rfl⟩ | hb
  · exact absurd (hclosed.symm.trans hopen) Bool.false_ne_true
  · exact hb

/-- a closed link owns nothing -/
theorem Exclusive.register (hp : Exclusive ok p) (hl : ok l) : Exclusive ok q := by
  refine ⟨(hp.registered.register h hl).owned fun k e he hopen => ?_, fun k e he hopen => ?_⟩
  · have hclaims : q.claims = p.claims := by rw [(register_eq_ok h).2]
    rw [hclaims]
    exact hp.owner k e (register_open hclosed h he hopen) hopen
  · exact hp.live k e (register_open hclosed h he hopen) hopen

end Register

/-! ## Pools that are shut down -/

structure Off (p : Pool Λ) : Prop where
  disabled : ∀ k e, p.entries.get? k = some e → e.enabled = false
  closed : ∀ k e, p.entries.get? k = some e → Link.connected e.link = false
  free : ∀ resource, p.claims.get? resource = none

/-- **When every interface is shut, no resource is owned** -/
theorem off_of_shut (hp : Registered ok p) (h : ∀ k e, p.entries.get? k = some e → Shut k p) : Off p := by
  refine ⟨fun k e he => (h k e he e he).1, fun k e he => (h k e he e he).2.1, fun resource => ?_⟩
  cases hr : p.claims.get? resource with
  | none => rfl
  | some name =>
    obtain ⟨e, he, rfl, rfl⟩ := hp.claimant resource name hr
    exact absurd hr (h _ e he e he).2.2

theorem Off.fading (hp : Off p) (h : Fading p q) : Off q := by
  refine ⟨fun k e' he => ?_, fun k e' he => ?_, fun resource => ?_⟩
  · obtain ⟨e, he, hf⟩ := h.entries.before he
    exact hf.disabled (hp.disabled k e he)
  · obtain ⟨e, he, hf⟩ := h.entries.before he
    exact hf.closed (hp.closed k e he)
  · cases hr : q.claims.get? resource with
    | none => rfl
    | some name =>
      have hclaim := h.claims resource name hr
      rw [hp.free] at hclaim
      cases hclaim

theorem Off.register (hp : Off p) {l : Λ} (hclosed : Link.connected l = false) (h : p.register l = .ok q) : Off q := by
  refine ⟨fun k e he => ?_, fun k e he => ?_, ?_⟩
  · rcases register_before h he with ⟨-, rfl⟩ | hb
    · rfl
    · exact hp.disabled k e hb
  · rcases register_before h he with ⟨-, rfl⟩ | hb
    · exact hclosed
    · exact hp.closed k e hb
  · rw [(register_eq_ok h).2]
    exact hp.free

end Pool

end CalBench
