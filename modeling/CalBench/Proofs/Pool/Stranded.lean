/-
Resources that are stranded.

`History` keeps account of the interfaces whose last reset failed. Behind every claim there is an open interface or one
of these (`Vouched`), so these are the ones on whose behalf a lease may be refused though they are closed. It does come
to that: an interface without bus calls that does not open again after a reset keeps its claim, and with it everybody
else from the resource.

- `lease_unchanged`: what a lease comes to that changes nothing, from what getting the interface ready comes to;
- `resetInterface_strands`, `lease_blocked`: a reset that fails leaves the claim, and whoever else asks is refused.

Results:
- `History.vouched`: behind every claim there is an open interface or one whose last reset failed;
- `claims_outlive_failed_resets`: when a lease is refused, who is named, and what a failed reset does to the others.
Witnesses:
- `line_is_stranded`: a serial line that does not open again keeps its port from a controller;
- `refused_for_a_closed_line`: it is not so that whoever is named is open.
-/
import CalBench.Proofs.Pool.Vouched

namespace CalBench

open Proc

variable {Λ α : Type} [Link Λ] {ok : Λ → Prop}

namespace Pool

variable {p q : Pool Λ} {S : Set String} {k : String}

/-! ## Histories -/

/-- what may come of a pool without interfaces, with the keys of those whose last reset failed: they were neither leased
nor reset with success since, nor have all been disabled -/
inductive History (ok : Λ → Prop) : Set String → Pool Λ → Prop
  | empty : History ok ∅ {}
  | register {S : Set String} {p q : Pool Λ} (h : History ok S p) {l : Λ} (hl : ok l)
    (hclosed : Link.connected l = false) (hq : p.register l = .ok q) : History ok S q
  | enableAll {S : Set String} {p : Pool Λ} (h : History ok S p) : History ok S p.enableAll
  | disableAll {S : Set String} {p : Pool Λ} (h : History ok S p) {place : Option Place} {c : Client Λ}
    (hc : disableAll.Yields (Beside ok) ⟨p, place⟩ c ()) : History ok ∅ c.pool
  | leased {S : Set String} {p : Pool Λ} (h : History ok S p) {name k : String} {place : Option Place} {c : Client Λ}
    (hc : (lease name).Yields (Beside ok) ⟨p, place⟩ c (.ok k)) : History ok (S \ {key name}) c.pool
  | refused {S : Set String} {p : Pool Λ} (h : History ok S p) {name : String} {place : Option Place} {c : Client Λ}
    {err : LinkError} (hc : (lease name).Yields (Beside ok) ⟨p, place⟩ c (.error err)) : History ok S c.pool
  | reset {S : Set String} {p : Pool Λ} (h : History ok S p) {name : String} {place : Option Place} {c : Client Λ}
    (hc : (Executor.resetInterface name).Yields (Beside ok) ⟨p, place⟩ c (.ok ())) : History ok (S \ {key name}) c.pool
  | resetFailed {S : Set String} {p : Pool Λ} (h : History ok S p) {name : String} {place : Option Place} {c : Client Λ}
    {err : LinkError} (hc : (Executor.resetInterface name).Yields (Beside ok) ⟨p, place⟩ c (.error err)) :
    History ok (insert (key name) S) c.pool
  | used {S : Set String} {p q : Pool Λ} (h : History ok S p) (hq : Kept ok p q) : History ok S q

/-- what an operation leads to where others may close what they use, it comes to where they leave it open -/
theorem Leads.tells {P : Pool Λ → Prop} {x : Proc (Client Λ) α} {Q : α → Pool Λ → Prop} (h : Leads ok P x Q) :
    Tells ok P x Q :=
  fun c hc => (h c hc).mono (fun _ _ hkept => Kept.used hkept) (fun _ _ _ => trivial) fun _ _ hQ => hQ

theorem History.exclusive (tidy : Link.Tidy ok) (h : History ok S p) : Exclusive ok p := by
  induction h with
  | empty => exact exclusive_empty
  | register _ hl hclosed hq ih => exact ih.register hclosed hq hl
  | enableAll _ ih => exact ih.enableAll
  | disableAll _ hc ih => exact ((disableAll_leads tidy).tells _ ih.toOwned |>.of_yields hc).1
  | leased _ hc ih => exact ((lease_leads tidy _).tells _ ih |>.of_yields hc).1
  | refused _ hc ih => exact ((lease_leads tidy _).tells _ ih |>.of_yields hc).1
  | reset _ hc ih => exact (resetInterface_leads tidy _).tells _ ih |>.of_yields hc
  | resetFailed _ hc ih => exact (resetInterface_leads tidy _).tells _ ih |>.of_yields hc
  | used _ hq ih => exact ih.used hq.used

/-- **Behind every claim there is an open interface, or one whose last reset failed** -/
theorem History.vouched (truthful : Link.Truthful ok) (h : History ok S p) : Vouched ok S p := by
  induction h with
  | empty => exact ⟨registered_empty, fun _ _ h => nomatch h⟩
  | register _ hl _ hq ih => exact ih.register hq hl
  | enableAll _ ih => exact ih.enableAll
  | disableAll h hc ih =>
    have hshut := disableAll_shuts (I := fun _ => True) truthful.closing fun _ _ _ _ => trivial
    obtain ⟨hregistered, -, hoff⟩ := (hshut.tells _ ⟨ih.toRegistered, trivial⟩).of_yields hc
    exact hoff.vouched hregistered
  | leased _ hc ih => exact ((lease_tells truthful _ _ ih).of_yields hc).2.1
  | refused _ hc ih => exact ((lease_tells truthful _ _ ih).of_yields hc).2.1
  | reset _ hc ih => exact (resetInterface_tells truthful _ _ ih).of_yields hc
  | resetFailed _ hc ih => exact (resetInterface_tells truthful _ _ ih).of_yields hc
  | used _ hq ih => exact ih.kept hq

/-! ## What a failed reset leaves behind -/

section Stranded

variable {name : String} {e : Entry Λ}

/-- a lease of an interface that is enabled comes to what getting it ready comes to, if that changes nothing -/
theorem lease_unchanged (he : p.entries.get? (key name) = some e) (henabled : e.enabled = true)
    {a : Except LinkError Unit} (hready : ∀ e' q, Entry.Kept ok e e' → Kept ok p q →
      Tells ok (· = q) (connectIfNeeded (key name) e') fun r q => r = a ∧ Kept ok p q) :
    Tells ok (Kept ok p) (lease name) fun r q => r = a.map (fun _ => key name) ∧ Kept ok p q := by
  have hmade : Tells ok (Kept ok p) (makeReady name (key name)) fun r q => r = a ∧ Kept ok p q := by
    refine tells_get_bind fun c hc => ?_
    obtain ⟨e', he', hkept⟩ := hc.entries.after he
    rw [he']
    dsimp only
    rw [if_pos (hkept.enabled.trans henabled)]
    exact hready e' c.pool hkept hc
  refine tells_get_bind fun c hc => ?_
  obtain ⟨e', he', hkept⟩ := hc.entries.after he
  unfold entry?
  rw [he']
  dsimp only
  rw [if_pos (hkept.enabled.trans henabled)]
  refine meets_bind ((tells_queueFor (stays_kept p) _).mono (fun d hd => hd ▸ hc) fun _ _ h => h) fun _ =>
    meets_bind hmade fun r => ?_
  cases r with
  | ok u =>
    refine meets_done fun d hd => ⟨?_, hd.2⟩
    rw [← hd.1]
    rfl
  | error err =>
    have hstays : Stays ok fun q => (.error err : Except LinkError Unit) = a ∧ Kept ok p q :=
      fun x y h hx => ⟨hx.1, hx.2.trans h⟩
    refine meets_bind (tells_giveBack hstays) fun _ => meets_done fun d hd => ⟨?_, hd.2⟩
    rw [← hd.1]
    rfl

/-- an interface that is open is handed out as it is -/
theorem lease_open (he : p.entries.get? (key name) = some e) (henabled : e.enabled = true)
    (hopen : Link.connected e.link = true) :
    Tells ok (Kept ok p) (lease name) fun r q => r = .ok (key name) ∧ Kept ok p q := by
  refine lease_unchanged (a := .ok ()) he henabled fun e' q hkept hq => ?_
  unfold connectIfNeeded
  rw [if_pos (hkept.connected.trans hopen)]
  exact meets_done fun c hc => ⟨rfl, hc ▸ hq⟩

/-- **An interface that is closed is refused as long as another has claimed its resource**, and so it stays -/
theorem lease_blocked (he : p.entries.get? (key name) = some e) (henabled : e.enabled = true)
    (hclosed : Link.connected e.link = false) {owner : String} (hclaim : p.claims.get? e.resource = some owner)
    (hne : owner ≠ e.name) :
    Tells ok (Kept ok p) (lease name) fun r q => r = .error (.resourceInUse e.resource owner) ∧ Kept ok p q := by
  refine lease_unchanged (a := .error (.resourceInUse e.resource owner)) he henabled fun e' q hkept hq => ?_
  have hrefused : q.claim e' = .error (.resourceInUse e.resource owner) := by
    unfold Pool.claim
    rw [hq.claims, hkept.resource, hclaim, hkept.name]
    exact if_neg hne
  unfold connectIfNeeded
  rw [if_neg (by rw [hkept.connected, hclosed]; exact Bool.false_ne_true)]
  refine meets_andThen (R := fun r c => r = .error (.resourceInUse e.resource owner) ∧ Kept ok p c.pool)
    (meets_step (fun _ _ => trivial) fun c hc => ?_) (fun _ c hc => nomatch hc.1) fun err c hc => ?_
  · subst hc
    rw [hrefused]
    exact ⟨rfl, hq⟩
  · cases hc.1
    exact ⟨rfl, hc.2⟩

/-- the interface under a key is closed, and the claims are those of before -/
def Dropped (ok : Λ → Prop) (p : Pool Λ) (k : String) (e : Entry Λ) (q : Pool Λ) : Prop :=
  q.claims = p.claims ∧ ∃ e', q.entries.get? k = some e' ∧ e'.name = e.name ∧ e'.resource = e.resource ∧
    Link.connected e'.link = false ∧ ok e'.link

theorem stays_dropped : Stays ok (Dropped ok p k e) := by
  rintro q r h ⟨hclaims, e', he', hname, hresource, hclosed, hl⟩
  obtain ⟨e'', he'', hkept⟩ := h.entries.after he'
  exact ⟨h.claims.trans hclaims, e'', he'', hkept.name.trans hname, hkept.resource.trans hresource,
    hkept.connected.trans hclosed, hkept.link hl⟩

theorem stays_dropped_of_error (r : Except LinkError Unit) :
    Stays ok fun q => ∀ err, r = .error err → Dropped ok p k e q :=
  fun x y h hx err hr => stays_dropped x y h (hx err hr)

/-- the interface is closed after a call that leaves its link closed -/
theorem dropped_call (hclaims : q.claims = p.claims) {e' : Entry Λ} (he : q.entries.get? k = some e')
    (hname : e'.name = e.name) (hresource : e'.resource = e.resource) {c : Call}
    (hclosed : Link.connected (Link.call c e'.link).link = false) (hl : ok (Link.call c e'.link).link) :
    Dropped ok p k e (callLink k c q).1 :=
  ⟨(changed_callLink q k c).claims.trans hclaims, called c e', entry_callLink he c, hname, hresource, hclosed, hl⟩

/-- closing an interface and opening it in vain -/
theorem reconnect_drops (tidy : Link.Tidy ok) (he : p.entries.get? k = some e) (hl : ok e.link) :
    Tells ok (Kept ok p) ((perform k .disconnect).andThen fun _ => perform k .connect)
      fun r q => ∀ err, r = .error err → Dropped ok p k e q := by
  have hclose : Tells ok (Kept ok p) (perform k .disconnect) fun _ q => Dropped ok p k e q := by
    refine tells_perform (fun _ => stays_dropped) fun q hq => ?_
    obtain ⟨e', he', hkept⟩ := hq.entries.after he
    exact dropped_call hq.claims he' hkept.name hkept.resource (tidy.closes e'.link (hkept.link hl))
      (tidy.stays .disconnect e'.link (hkept.link hl))
  refine meets_andThen hclose (fun _ => tells_perform (c := .connect) stays_dropped_of_error fun q hq err herr => ?_)
    fun _ _ hq _ _ => hq
  obtain ⟨hclaims, e', he', hname, hresource, hclosed, hl'⟩ := hq
  refine dropped_call hclaims he' hname hresource ((tidy.opens e'.link hl' hclosed).resolve_left fun hok => ?_)
    (tidy.stays .connect e'.link hl')
  rw [result_callLink he' .connect, hok] at herr
  cases herr

/-- **A reset that fails leaves the interface closed and its claim as it was**, if the interface has no bus calls -/
theorem resetInterface_strands (tidy : Link.Tidy ok) (he : p.entries.get? (key name) = some e) (hl : ok e.link)
    (henabled : e.enabled = true) (hopen : Link.connected e.link = true) (hplain : Link.isGpib e.link = false) :
    Tells ok (Kept ok p) (Executor.resetInterface name)
      fun r q => ∀ err, r = .error err → Dropped ok p (key name) e q := by
  have hbody : Tells ok (Kept ok p) (Executor.ifOnBus (key name) (perform (key name) .reset)
      ((perform (key name) .disconnect).andThen fun _ => perform (key name) .connect))
      fun r q => ∀ err, r = .error err → Dropped ok p (key name) e q := by
    refine tells_get_bind fun c hc => ?_
    obtain ⟨e', he', hkept⟩ := hc.entries.after he
    have hbus : Executor.onBus (key name) c = false := by
      unfold Executor.onBus
      rw [he']
      exact hkept.isGpib.trans hplain
    rw [hbus]
    exact (reconnect_drops tidy he hl).mono (fun d hd => hd ▸ hc) fun _ _ h => h
  refine meets_andThen (lease_open he henabled hopen) (fun k => ?_) fun _ _ hc => nomatch hc.1
  rintro s ⟨hk, hs⟩
  cases hk
  exact meets_bind hbody (fun r => meets_bind (tells_giveBack (stays_dropped_of_error r)) fun _ =>
    meets_done fun _ h => h) s hs

end Stranded

/-- **A claim is backed by an open interface, unless a reset failed.** In every pool that registering, enabling,
disabling, leasing and resetting lead to, a lease that is refused because of its resource names an interface that is
registered over the resource, and is open or one whose last reset failed. For when an open interface without bus calls
is reset and does not open again, it is closed and its claim stays, and every lease of another interface over the
resource is refused in its name. -/
theorem claims_outlive_failed_resets (truthful : Link.Truthful ok) (h : History ok S p) :
    (∀ name place c resource owner,
      (lease name).Yields (Beside ok) ⟨p, place⟩ c (.error (.resourceInUse resource owner)) →
      (∃ e, c.pool.entry? name = some e ∧ e.resource = resource ∧ e.name ≠ owner) ∧
      ∃ e, c.pool.entry? owner = some e ∧ e.name = owner ∧ e.resource = resource ∧
        (Link.connected e.link = true ∨ key owner ∈ S)) ∧
    ∀ name e place c err, p.entry? name = some e → e.enabled = true → Link.connected e.link = true →
      Link.isGpib e.link = false → (Executor.resetInterface name).Yields (Beside ok) ⟨p, place⟩ c (.error err) →
      (∃ e', c.pool.entry? name = some e' ∧ e'.name = e.name ∧ e'.resource = e.resource ∧
        Link.connected e'.link = false) ∧
      ∀ name' e' place' d r, c.pool.entry? name' = some e' → e'.enabled = true → e'.resource = e.resource →
        key name' ≠ key name → (lease name').Yields (Beside ok) ⟨c.pool, place'⟩ d r →
        r = .error (.resourceInUse e.resource e.name) ∧ Kept ok c.pool d.pool := by
  have hvouched := h.vouched truthful
  have hexclusive := h.exclusive truthful.toTidy
  refine ⟨fun name place c resource owner hc => ?_, fun name e place c err he henabled hopen hplain hc => ?_⟩
  · obtain ⟨-, hvouched, hblocked⟩ := (lease_tells truthful name _ hvouched).of_yields hc
    obtain ⟨e, he, hresource, hne, hclaim⟩ := hblocked resource owner rfl
    obtain ⟨e', he', hname', hresource'⟩ := hvouched.claimant resource owner hclaim
    refine ⟨⟨e, he, hresource, hne⟩, e', he', hname', hresource', ?_⟩
    rcases hvouched.behind resource owner hclaim with hS | ⟨e'', he'', hopen⟩
    · exact .inr hS
    · rw [he'] at he''
      cases he''
      exact .inl hopen
  · have hl := hexclusive.links _ e he
    have hstrands := resetInterface_strands truthful.toTidy he hl henabled hopen hplain
    obtain ⟨hclaims, e', he', hname, hresource, hclosed, -⟩ := (hstrands ⟨p, place⟩ (.refl p)).of_yields hc err rfl
    have hafter := (h.resetFailed hc).exclusive truthful.toTidy
    have hclaim : c.pool.claims.get? e.resource = some e.name := hclaims ▸ hexclusive.owner _ e he hopen
    refine ⟨⟨e', he', hname, hresource, hclosed⟩, fun name' e'' place' d r he'' henabled'' hsame hkey hd => ?_⟩
    have hne : e.name ≠ e''.name := by
      intro heq
      rw [hafter.keyed _ e'' he'', ← heq, hexclusive.keyed _ e he] at hkey
      exact hkey rfl
    -- the other one is closed too, for it does not own the resource
    have hclosed'' : Link.connected e''.link = false := by
      rw [Bool.eq_false_iff]
      intro hopen''
      have howner := hafter.owner _ e'' he'' hopen''
      rw [hsame, hclaim] at howner
      exact hne (Option.some.inj howner)
    have hblocked : Tells ok (Kept ok c.pool) (lease name') _ :=
      lease_blocked he'' henabled'' hclosed'' (hsame ▸ hclaim) hne
    rw [hsame] at hblocked
    exact (hblocked ⟨c.pool, place'⟩ (.refl c.pool)).of_yields hd

/-! ## A line that is unplugged -/

omit [Link Λ]

/-- an interface whose serial line is gone, which is not noticed until it is opened -/
def unplug (p : Interface ScriptedPeer) : Interface ScriptedPeer :=
  match p.device with
  | .serial d =>
    { p with device := .serial { d with wire := { d.wire with refusal := some "No such file or directory" } } }
  | _ => p

theorem kept_unplug (p : Pool (Interface ScriptedPeer)) (k : String) :
    Kept Interface.Faithful p (p.modify k fun e => { e with link := unplug e.link }) := by
  have h := changed_modify p k fun e => { e with link := unplug e.link }
  refine ⟨h.claims, h.related Entry.Kept.refl fun e _ => ?_⟩
  obtain ⟨name, kind, resource, enabled, ⟨device, plain⟩, queue, issued⟩ := e
  cases device with
  | serial d => exact ⟨rfl, rfl, rfl, rfl, rfl, fun _ d hd => nomatch hd⟩
  | emulated d => exact .refl _
  | rehearsal d => exact .refl _
  | controller d => exact .refl _
  | board d => exact .refl _

def lineUnplugged : Client (Interface ScriptedPeer) :=
  { pool := lineLeased.leave.pool.modify (key "raw") fun e => { e with link := unplug e.link } }

def lineLost : Client (Interface ScriptedPeer) := ((Executor.resetInterface "raw").alone lineUnplugged).state

def boxRefused : Client (Interface ScriptedPeer) := ((lease "prologix").alone { pool := lineLost.pool }).state

theorem history_lineUnplugged : History Interface.Faithful (∅ \ {key "raw"}) lineUnplugged.pool := by
  obtain ⟨hserial, hserialClosed⟩ := build_faithful rawLine_built
  obtain ⟨hcontroller, hcontrollerClosed⟩ := build_faithful busBox_built
  have hline : History Interface.Faithful ∅ (withLink {} rawLine) :=
    .register .empty hserial hserialClosed (register_withLink (by decide +kernel))
  have hbox : History Interface.Faithful ∅ ((withLink {} rawLine).withLink busBox) :=
    .register hline hcontroller hcontrollerClosed (register_withLink (by decide +kernel))
  have hleased : (lease "raw").Yields (Beside Interface.Faithful) ⟨onePort, none⟩ lineLeased (.ok "RAW") :=
    yields_of_result Beside.refl (by decide +kernel)
  have hfree : History Interface.Faithful (∅ \ {key "raw"}) lineLeased.leave.pool :=
    (hbox.enableAll.leased hleased).used (kept_leave lineLeased)
  exact hfree.used (kept_unplug _ (key "raw"))

theorem line_is_lost : (Executor.resetInterface "raw").Yields (Beside Interface.Faithful) lineUnplugged lineLost
    (.error (.connect "/dev/ttyUSB7 at 9600 baud" "No such file or directory")) :=
  yields_of_result Beside.refl (by decide +kernel)

theorem box_is_refused : (lease "prologix").Yields (Beside Interface.Faithful) ⟨lineLost.pool, none⟩ boxRefused
    (.error (.resourceInUse "serial:/dev/ttyUSB7" "raw")) :=
  yields_of_result Beside.refl (by decide +kernel)

/-- **The controller is refused for the sake of a line that is closed**: not whenever a resource is in use is the
interface named open -/
theorem refused_for_a_closed_line :
    ¬ ∀ (S : Set String) (p : Pool (Interface ScriptedPeer)), History Interface.Faithful S p →
      ∀ name place c resource owner, (lease name).Yields (Beside Interface.Faithful) ⟨p, place⟩ c
        (.error (.resourceInUse resource owner)) →
      ∃ e, c.pool.entry? owner = some e ∧ e.resource = resource ∧ Link.connected e.link = true := by
  intro hopen
  obtain ⟨e, he, -, hconnected⟩ := hopen _ _ (history_lineUnplugged.resetFailed line_is_lost) _ _ _ _ _ box_is_refused
  have hclosed : ((boxRefused.pool.entry? "raw").map fun e => Link.connected e.link) = some false := by decide +kernel
  rw [he, Option.map_some, hconnected] at hclosed
  cases hclosed

/-- **The line is stranded**: it does not open again, its claim stays, and the controller on its port is refused in the
name of a line that is closed, now and as long as the line is left alone -/
theorem line_is_stranded :
    (∃ e, lineLost.pool.entry? "raw" = some e ∧ e.name = "raw" ∧ Link.connected e.link = false) ∧
    (∃ e, boxRefused.pool.entry? "raw" = some e ∧ e.name = "raw" ∧ e.resource = "serial:/dev/ttyUSB7") ∧
    ∀ place d r, (lease "prologix").Yields (Beside Interface.Faithful) ⟨lineLost.pool, place⟩ d r →
      r = .error (.resourceInUse "serial:/dev/ttyUSB7" "raw") ∧ Kept Interface.Faithful lineLost.pool d.pool := by
  have htruthful := truthful_interface speaksForItself_scriptedPeer
  have hbefore : ((lineUnplugged.pool.entry? "raw").map fun e =>
      (e.name, e.resource, e.enabled, Link.connected e.link, Link.isGpib e.link)) =
        some ("raw", "serial:/dev/ttyUSB7", true, true, false) := by decide +kernel
  obtain ⟨e, he, hfields⟩ := Option.map_eq_some_iff.1 hbefore
  simp only [Prod.mk.injEq] at hfields
  obtain ⟨hname, hresource, henabled, hopen, hplain⟩ := hfields
  have hbox : ((lineLost.pool.entry? "prologix").map fun e => (e.resource, e.enabled)) =
      some ("serial:/dev/ttyUSB7", true) := by decide +kernel
  obtain ⟨e', he', hfields'⟩ := Option.map_eq_some_iff.1 hbox
  simp only [Prod.mk.injEq] at hfields'
  obtain ⟨hresource', henabled'⟩ := hfields'
  obtain ⟨-, hstrands⟩ := claims_outlive_failed_resets htruthful history_lineUnplugged
  obtain ⟨⟨e'', he'', hname'', -, hclosed⟩, hrefused⟩ := hstrands "raw" e none lineLost _ he henabled hopen hplain
    line_is_lost
  obtain ⟨hnamed, -⟩ := claims_outlive_failed_resets htruthful (history_lineUnplugged.resetFailed line_is_lost)
  obtain ⟨-, owner, howner, hnameOwner, hresourceOwner, -⟩ := hnamed "prologix" none boxRefused _ _ box_is_refused
  refine ⟨⟨e'', he'', hname''.trans hname, hclosed⟩, ⟨owner, howner, hnameOwner, hresourceOwner⟩,
    fun place d r hd => ?_⟩
  have hsame : e'.resource = e.resource := hresource'.trans hresource.symm
  have h := hrefused "prologix" e' place d r he' henabled' hsame (by decide +kernel) hd
  rw [hname, hresource] at h
  exact h

end Pool

end CalBench
