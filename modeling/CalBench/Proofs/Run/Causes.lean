/-
Why steps fail.

A step that finds what it looks up can still fail, for one of a few causes (`Cause`): its interface is there but
disabled, or the resource of the interface is taken, or a link has failed, or a response is not what was asked for, or a
device that is to be triggered has no address, or a text cannot be rendered. That a unit or an interface is unknown is
not among them. What a process comes to depends on the states that it finds (`ReturnsIf`), and a bound plan finds its
interfaces in every one of them.

Results:
- `Obeys.and_returnsIf`: what a process returns from the states that it finds it also returns among others;
- `lease_returns`, `withLease_fails`: why an interface that is there cannot be used;
- `carryOut_causes`: why a step fails that finds what it looks up;
- `bound_plan_serves`: every failure of a run of a bound plan has one of the causes, whatever else goes on at the bench.
-/
import CalBench.Proofs.Run.Binding
import CalBench.Proofs.Run.LastWriter

namespace CalBench

/-! ## What a process returns from the states that it finds -/

namespace Proc

variable {σ τ α β ε : Type} {I : σ → Prop}

/-- every result of the process meets a condition, if every state in which it makes a change meets another -/
def ReturnsIf (I : σ → Prop) (post : α → Prop) : Proc σ α → Prop
  | done a => post a
  | act _ next => ∀ s, I s → ReturnsIf I post (next s)
  | pause _ _ next => ∀ b, ReturnsIf I post (next b)

theorem Returns.returnsIf {post : α → Prop} {p : Proc σ α} (h : p.Returns post) : p.ReturnsIf I post := by
  induction p with
  | done a => exact h
  | act update next ih => exact fun s _ => ih s (h s)
  | pause ticks ready next ih => exact fun b => ih b (h b)

theorem ReturnsIf.mono {post post' : α → Prop} {p : Proc σ α} (hp : p.ReturnsIf I post)
    (h : ∀ a, post a → post' a) : p.ReturnsIf I post' := by
  induction p with
  | done a => exact h a hp
  | act update next ih => exact fun s hs => ih s (hp s hs)
  | pause ticks ready next ih => exact fun b => ih b (hp b)

theorem returnsIf_bind {post : α → Prop} {post' : β → Prop} {p : Proc σ α} {f : α → Proc σ β}
    (hp : p.ReturnsIf I post) (hf : ∀ a, post a → (f a).ReturnsIf I post') : (p.bind f).ReturnsIf I post' := by
  induction p with
  | done a => exact hf a hp
  | act update next ih => exact fun s hs => ih s (hp s hs)
  | pause ticks ready next ih => exact fun b => ih b (hp b)

/-- what comes before does not matter -/
theorem returnsIf_after {post : β → Prop} (p : Proc σ α) {f : α → Proc σ β} (hf : ∀ a, (f a).ReturnsIf I post) :
    (p.bind f).ReturnsIf I post :=
  returnsIf_bind (returns_trivial p).returnsIf fun a _ => hf a

theorem returnsIf_get_bind {post : α → Prop} {f : σ → Proc σ α} (hf : ∀ s, I s → (f s).ReturnsIf I post) :
    (Proc.get.bind f).ReturnsIf I post := hf

theorem ReturnsIf.onPart {part : Part τ σ} {I' : τ → Prop} {post : α → Prop} {p : Proc σ α} (hp : p.ReturnsIf I post)
    (hI : ∀ t, I' t → I (part.get t)) : (p.onPart part).ReturnsIf I' post := by
  induction p with
  | done a => exact hp
  | act update next ih => exact fun t ht => ih (part.get t) (hp (part.get t) (hI t ht))
  | pause ticks ready next ih => exact fun b => ih b (hp b)

/-- **What a process returns from the states that it finds it also returns among others**, if it finds such states -/
theorem Obeys.and_returnsIf {theirs mine : σ → σ → Prop} {post : σ → α → Prop} {q : α → Prop} {p : Proc σ α} {s : σ}
    (h : p.Obeys theirs mine post s) (hI : ∀ x y, mine x y → I x) (hq : p.ReturnsIf I q) :
    p.Obeys theirs mine (fun t a => post t a ∧ q a) s := by
  induction p generalizing s with
  | done a => exact ⟨h, hq⟩
  | act update next ih => exact ⟨h.1, ih s h.2 (hq s (hI _ _ h.1))⟩
  | pause ticks ready next ih => exact fun t b hb hr => ih b (h t b hb hr) (hq b)

/-- every error of the process is among some, if every state in which it makes a change meets a condition -/
def FailsFor (I : σ → Prop) (bad : ε → Prop) (p : Fallible σ ε α) : Prop :=
  p.ReturnsIf I fun r => ∀ e, r = .error e → bad e

variable {bad : ε → Prop}

theorem failsFor_ok (a : α) : FailsFor I bad (.done (.ok a)) := fun _ h => nomatch h

theorem failsFor_error {e : ε} (h : bad e) : FailsFor I bad (.done (.error e) : Fallible σ ε α) :=
  fun _ he => Except.error.inj he ▸ h

theorem FailsFor.mono {bad' : ε → Prop} {p : Fallible σ ε α} (h : p.FailsFor I bad) (hbad : ∀ e, bad e → bad' e) :
    p.FailsFor I bad' :=
  ReturnsIf.mono h fun _ hr e he => hbad e (hr e he)

theorem failsFor_andThen {p : Fallible σ ε α} {f : α → Fallible σ ε β} (hp : p.FailsFor I bad)
    (hf : ∀ a, (f a).FailsFor I bad) : (p.andThen f).FailsFor I bad := by
  refine returnsIf_bind hp fun r hr => ?_
  cases r with
  | ok a => exact hf a
  | error e => exact failsFor_error (hr e rfl)

end Proc

open Proc

variable {Λ α : Type} [Link Λ]

/-! ## Interfaces that are there -/

/-- why the link of an interface cannot be used that is there; `known` are the names of interfaces that there are -/
inductive LinkCause (Λ : Type) [Link Λ] (known : String → Prop) : LinkError → Prop
  | disabled (name : String) (h : known name) : LinkCause Λ known (.disabled name)
  | taken (resource owner : String) : LinkCause Λ known (.resourceInUse resource owner)
  | failed (c : Call) (l : Λ) (err : LinkError) (h : (Link.call c l).result = .error err) : LinkCause Λ known err
  | malformed (type : ResponseType) (raw : Bytes) (err : LinkError) (h : type.convert raw = .error err) :
    LinkCause Λ known err
  /-- the last cause is kept; so it was with every other attempt -/
  | exhausted (attempts : Nat) (err : LinkError) (h : LinkCause Λ known err) :
    LinkCause Λ known (.readFailure attempts err)

namespace Pool

variable {known : String → Prop} {name : String}

omit [Link Λ] in
theorem Present.entry {x : Client Λ} (h : x.pool.Present name) :
    ∃ e, x.pool.entries.get? (key name) = some e ∧ key e.name = key name := by
  obtain ⟨n, hn, hkey⟩ := h
  obtain ⟨e, he, rfl⟩ := Option.map_eq_some_iff.1 hn
  exact ⟨e, he, hkey⟩

theorem perform_fails (c : Call) :
    (perform (Λ := Λ) (key name) c).FailsFor (fun x => x.pool.Present name) (LinkCause Λ known) := by
  intro x hx
  refine returnsIf_after _ fun _ err herr => ?_
  obtain ⟨e, he, -⟩ := hx.entry
  rw [callLink, he] at herr
  exact .failed c e.link err herr

theorem claim_fails {p : Pool Λ} {e : Entry Λ} {err : LinkError} (h : p.claim e = .error err) :
    LinkCause Λ known err := by
  unfold claim at h
  split at h
  · split at h
    · cases h
    · cases h
      exact .taken _ _
  · cases h

theorem connectIfNeeded_fails (e : Entry Λ) :
    (connectIfNeeded (key name) e).FailsFor (fun x => x.pool.Present name) (LinkCause Λ known) := by
  unfold connectIfNeeded
  split
  · exact failsFor_ok ()
  · refine failsFor_andThen (fun x _ err herr => ?_) fun _ => ?_
    · -- the claim
      dsimp only at herr
      split at herr
      · cases herr
      · rename_i err' hclaim
        cases herr
        exact claim_fails hclaim
    · have hconnect : (perform (key name) .connect).FailsFor (fun x : Client Λ => x.pool.Present name)
          (LinkCause Λ known) := perform_fails .connect
      refine returnsIf_bind hconnect fun r hr => ?_
      cases r with
      | ok => exact failsFor_ok ()
      | error err => exact returnsIf_after _ fun _ => failsFor_error (hr err rfl)

variable (hknown : ∀ n, key n = key name → known n)

include hknown

theorem makeReady_fails :
    (makeReady name (key name)).FailsFor (fun x : Client Λ => x.pool.Present name) (LinkCause Λ known) := by
  refine returnsIf_get_bind fun x hx => ?_
  obtain ⟨e, he, hkey⟩ := hx.entry
  rw [he]
  dsimp only
  split
  · exact connectIfNeeded_fails e
  · exact failsFor_error (.disabled e.name (hknown _ hkey))

/-- **Why an interface that is there cannot be had** -/
theorem lease_returns : (lease name).ReturnsIf (fun x : Client Λ => x.pool.Present name) fun r => match r with
    | .ok k => k = key name
    | .error err => LinkCause Λ known err := by
  refine returnsIf_get_bind fun x hx => ?_
  obtain ⟨e, he, hkey⟩ := hx.entry
  unfold entry?
  rw [he]
  dsimp only
  split
  · refine returnsIf_after _ fun _ => returnsIf_bind (makeReady_fails hknown) fun r hr => ?_
    cases r with
    | ok => rfl
    | error err => exact returnsIf_after _ fun _ => hr err rfl
  · exact .disabled e.name (hknown _ hkey)

/-- **Why an interface that is there cannot be used**: it cannot be had, or the use fails -/
theorem withLease_fails {bad : LinkError → Prop} (hbad : ∀ err, LinkCause Λ known err → bad err)
    {use : String → Fallible (Client Λ) LinkError α}
    (huse : (use (key name)).FailsFor (fun x => x.pool.Present name) bad) :
    (withLease name use).FailsFor (fun x => x.pool.Present name) bad := by
  refine returnsIf_bind (lease_returns hknown) fun r hr => ?_
  cases r with
  | error err => exact failsFor_error (hbad err hr)
  | ok k =>
    subst hr
    exact returnsIf_bind huse fun r hr => returnsIf_after _ fun _ => hr

end Pool

namespace Executor

variable {known : String → Prop} {name : String}

/-! ## Uses of an interface -/

theorem ifOnBus_fails {I : Client Λ → Prop} {bad : LinkError → Prop} {yes no : Fallible (Client Λ) LinkError α}
    (hyes : yes.FailsFor I bad) (hno : no.FailsFor I bad) (key : String) : (ifOnBus key yes no).FailsFor I bad := by
  refine returnsIf_get_bind fun x _ => ?_
  split
  · exact hyes
  · exact hno

theorem select_fails (address : Option UInt8) :
    (select (Λ := Λ) (Pool.key name) address).FailsFor (fun x => x.pool.Present name) (LinkCause Λ known) := by
  unfold select
  split
  · exact failsFor_ok ()
  · exact ifOnBus_fails (Pool.perform_fails _) (failsFor_ok ()) _

/-- however often a read is tried, it fails for what one attempt fails for -/
theorem tryFrom_fails {I : Client Λ → Prop} {read : Fallible (Client Λ) LinkError α}
    (hread : read.FailsFor I (LinkCause Λ known)) (backoff : Duration) (left made : Nat) :
    (RetryPolicy.tryFrom backoff read left made).FailsFor I (LinkCause Λ known) := by
  induction left generalizing made with
  | zero =>
    rw [RetryPolicy.tryFrom]
    refine returnsIf_bind hread fun r hr => ?_
    cases r with
    | ok a => exact failsFor_ok _
    | error err =>
      dsimp only
      split
      · exact failsFor_error (.exhausted _ err (hr err rfl))
      · exact failsFor_error (hr err rfl)
  | succ left ih =>
    rw [RetryPolicy.tryFrom]
    refine returnsIf_bind hread fun r hr => ?_
    cases r with
    | ok a => exact failsFor_ok _
    | error err =>
      dsimp only
      split
      · exact returnsIf_after _ fun _ => ih (made + 1)
      · exact failsFor_error (hr err rfl)

theorem readOnce_fails (spec : ReadSpec) :
    (readOnce (Λ := Λ) (Pool.key name) spec).FailsFor (fun x => x.pool.Present name) (LinkCause Λ known) := by
  refine failsFor_andThen (Pool.perform_fails _) fun raw => ?_
  cases h : spec.type.convert raw with
  | ok value => exact failsFor_ok _
  | error err => exact failsFor_error (.malformed spec.type raw err h)

theorem exchange_fails (e : Executor) (c : Command) (d : DeviceBinding) (text : Option String) :
    (e.exchange (Λ := Λ) c d text (Pool.key name)).FailsFor (fun x => x.pool.Present name) (LinkCause Λ known) := by
  refine failsFor_andThen (select_fails d.address) fun _ => failsFor_andThen ?_ fun _ => ?_
  · split
    · exact Pool.perform_fails _
    · exact failsFor_ok ()
  · split
    · exact failsFor_ok none
    · refine failsFor_andThen (failsFor_andThen ?_ fun _ => failsFor_ok _) fun _ => failsFor_ok _
      exact tryFrom_fails (readOnce_fails _) _ _ _

/-! ## Steps -/

/-- why a step fails that finds what it looks up -/
inductive Cause (Λ : Type) [Link Λ] (e : Executor) (known : String → Prop) (step : Step) : StepFailure → Prop
  | link (err : LinkError) (h : LinkCause Λ known err) : Cause Λ e known step (.link err)
  /-- a device that is to be triggered has no address -/
  | unaddressed (unit : String) (d : DeviceBinding) (hs : step = .trigger unit) (hd : e.device unit = .ok d)
      (ha : d.address = none) : Cause Λ e known step (.link .notConfigured)
  | unrendered (source : BoundInstruction) (refs : References) (err : RenderError) (hs : step.source? = some source)
      (h : source.instruction.render source.arguments refs = .error err) : Cause Λ e known step (.render err)

/-- what a step has come to that was begun with a result: its position, and a cause if it has failed -/
def Explains (Λ : Type) [Link Λ] (e : Executor) (known : String → Prop) (step : Step) (r : StepResult)
    (o : StepOutcome) : Prop :=
  o.1.index = r.index ∧ ∀ f, o.2 = some f → e.Cause Λ known step f

section Steps

variable {e : Executor} {step : Step} {r : StepResult}

theorem Explains.of_success {o : StepResult} (h : o.index = r.index) : e.Explains Λ known step r (o, none) :=
  ⟨h, fun _ h => nomatch h⟩

theorem Explains.of_failure {o : StepResult} {f : StepFailure} (h : o.index = r.index)
    (hf : e.Cause Λ known step f) : e.Explains Λ known step r (o, some f) :=
  ⟨h, fun _ h => Option.some.inj h ▸ hf⟩

omit [Link Λ] in
/-- a step finds the interface of the device that its unit has -/
theorem Finds.interfaceOf {there : String → Prop} (h : e.Finds there step) {unit : String} {d : DeviceBinding}
    (hunit : step.unit? = some unit) (hd : e.device unit = .ok d) : there d.interface := by
  obtain ⟨d', hd', hthere⟩ := h.device unit hunit
  rw [hd] at hd'
  exact Except.ok.inj hd' ▸ hthere

theorem linkStep_causes {I : Bench Λ × Run → Prop} {J : Client Λ → Prop} {p : Fallible (Client Λ) LinkError Unit}
    (hp : p.FailsFor J fun err => e.Cause Λ known step (.link err)) (hJ : ∀ x, I x → J (Run.client.get x)) :
    (linkStep p r).ReturnsIf I (e.Explains Λ known step r) := by
  refine returnsIf_bind (hp.onPart hJ) fun x hx => ?_
  cases x with
  | ok => exact .of_success rfl
  | error err => exact .of_failure rfl (hx err rfl)

/-- what keeps a command from being carried out, other than a unit without a device -/
theorem prepare_causes {c : Command} {b : Bindings} {f : StepFailure} {d : DeviceBinding} (hd : e.device c.unit = .ok d)
    (h : e.prepare c b = .error f) : e.Cause Λ known (.command c) f := by
  unfold prepare at h
  rw [hd] at h
  dsimp only at h
  split at h
  · rename_i err htext
    cases h
    unfold commandText at htext
    split at htext
    · rename_i source hsource
      exact .unrendered source b.references err hsource (Except.error_of_map htext)
    · cases htext
  · cases h

theorem prepare_eq_ok {c : Command} {b : Bindings} {d : DeviceBinding} {text : Option String}
    (h : e.prepare c b = .ok (d, text)) : e.device c.unit = .ok d := by
  unfold prepare at h
  split at h
  · cases h
  · rename_i d' hd
    split at h
    · cases h
    · cases h
      exact hd

variable (hknown : ∀ n name, Pool.key n = Pool.key name → known name → known n)

include hknown

/-- the use of an interface that is known fails for the causes of the step, if the use itself does -/
theorem use_causes {use : String → Fallible (Client Λ) LinkError α} (hname : known name)
    (huse : (use (Pool.key name)).FailsFor (fun x => x.pool.Present name) fun err => e.Cause Λ known step (.link err)) :
    (Pool.withLease name use).FailsFor (fun x => x.pool.Present name) fun err => e.Cause Λ known step (.link err) :=
  Pool.withLease_fails (fun n hn => hknown n name hn hname) (fun err => .link err) huse

theorem command_causes {c : Command} (hf : e.Finds known (.command c)) :
    (e.command (Λ := Λ) c r).ReturnsIf (fun x => e.Finds x.1.pool.Present (.command c))
      (e.Explains Λ known (.command c) r) := by
  refine returnsIf_after _ fun _ => returnsIf_get_bind fun s _ => ?_
  split
  · rename_i f hprepare
    obtain ⟨d, hd, -⟩ := hf.device c.unit rfl
    exact .of_failure rfl (prepare_causes hd hprepare)
  · rename_i d text hprepare
    have hd := prepare_eq_ok hprepare
    have hexchange : (e.exchange (Λ := Λ) c d text (Pool.key d.interface)).FailsFor
        (fun x => x.pool.Present d.interface) fun err => e.Cause Λ known (.command c) (.link err) :=
      (exchange_fails e c d text).mono fun err => .link err
    have hlease := use_causes hknown (hf.interfaceOf rfl hd) hexchange
    refine returnsIf_bind (hlease.onPart fun x hx => hx.interfaceOf rfl hd) fun x hx => ?_
    cases x with
    | error err => exact .of_failure rfl (hx err rfl)
    | ok received =>
      refine returnsIf_after _ fun _ => returnsIf_after _ fun _ => .of_success ?_
      cases received <;> rfl

omit hknown in
theorem assign_causes (I : Bench Λ × Run → Prop) (name : String) (source : BoundInstruction) :
    (assign (Λ := Λ) name source r).ReturnsIf I (e.Explains Λ known (.setVariable name source) r) := by
  refine returnsIf_get_bind fun s _ => ?_
  split
  · rename_i err hrender
    exact .of_failure rfl (.unrendered source s.2.bindings.references err rfl hrender)
  · exact returnsIf_after _ fun _ => .of_success rfl

theorem clearDevice_causes {unit : String} (hf : e.Finds known (.resetDevice unit)) :
    (linkStep (e.clearDevice (Λ := Λ) unit) r).ReturnsIf (fun x => e.Finds x.1.pool.Present (.resetDevice unit))
      (e.Explains Λ known (.resetDevice unit) r) := by
  obtain ⟨d, hd, hinterface⟩ := hf.device unit rfl
  unfold clearDevice
  rw [hd]
  refine linkStep_causes (use_causes hknown hinterface ?_) fun x hx => hx.interfaceOf rfl hd
  exact ifOnBus_fails ((Pool.perform_fails _).mono fun err => .link err) (failsFor_ok ()) _

theorem triggerDevice_causes {unit : String} (hf : e.Finds known (.trigger unit)) :
    (linkStep (e.triggerDevice (Λ := Λ) unit) r).ReturnsIf (fun x => e.Finds x.1.pool.Present (.trigger unit))
      (e.Explains Λ known (.trigger unit) r) := by
  obtain ⟨d, hd, hinterface⟩ := hf.device unit rfl
  unfold triggerDevice
  rw [hd]
  refine linkStep_causes (use_causes hknown hinterface ?_) fun x hx => hx.interfaceOf rfl hd
  refine ifOnBus_fails ?_ (failsFor_ok ()) _
  split
  · exact (Pool.perform_fails _).mono fun err => .link err
  · rename_i haddress
    exact failsFor_error (.unaddressed unit d rfl hd haddress)

theorem resetInterface_causes {name : String} (hf : e.Finds known (.resetInterface name)) :
    (linkStep (resetInterface (Λ := Λ) name) r).ReturnsIf (fun x => e.Finds x.1.pool.Present (.resetInterface name))
      (e.Explains Λ known (.resetInterface name) r) := by
  have hcall (c : Call) : (Pool.perform (Λ := Λ) (Pool.key name) c).FailsFor (fun x => x.pool.Present name)
      fun err => e.Cause Λ known (.resetInterface name) (.link err) :=
    (Pool.perform_fails c).mono fun err => .link err
  refine linkStep_causes (use_causes hknown (hf.interface name rfl) ?_) fun x hx => hx.interface name rfl
  exact ifOnBus_fails (hcall .reset) (failsFor_andThen (hcall .disconnect) fun _ => hcall .connect) _

/-- **Why a step fails that finds what it looks up** -/
theorem carryOut_causes (hf : e.Finds known step) :
    (e.carryOut (Λ := Λ) step r).ReturnsIf (fun x => e.Finds x.1.pool.Present step) (e.Explains Λ known step r) := by
  cases step with
  | command c => exact command_causes hknown hf
  | setVariable name source => exact assign_causes _ name source
  | delay d => exact returnsIf_after _ fun _ => .of_success rfl
  | resetDevice unit => exact clearDevice_causes hknown hf
  | resetInterface name => exact resetInterface_causes hknown hf
  | trigger unit => exact triggerDevice_causes hknown hf

end Steps

end Executor

/-! ## Runs -/

/-- a change of a bench that leaves its interfaces there, and sends none but some results -/
structure Run.Sends (ok : StepResult → Prop) (x y : Bench Λ × Run) : Prop where
  names : y.1.pool.nameAt = x.1.pool.nameAt
  sent : ∃ more, y.1.outputs = x.1.outputs ++ more ∧ ∀ r ∈ emitted more, ok r

omit [Link Λ] in
theorem Run.Sends.of_quiet {ok : StepResult → Prop} {x y : Bench Λ × Run} (hnames : y.1.pool.nameAt = x.1.pool.nameAt)
    (h : y.1.outputs = x.1.outputs) : Run.Sends ok x y :=
  ⟨hnames, [], h.trans (List.append_nil _).symm, fun _ hr => nomatch hr⟩

theorem Run.allows_sends (ok : StepResult → Prop) : Run.Allows (Run.Sends (Λ := Λ) ok) :=
  ⟨fun _ => .of_quiet rfl rfl, fun _ _ h => .of_quiet h.names rfl, fun _ _ => .of_quiet rfl rfl⟩

omit [Link Λ] in
theorem Run.send_makes {ok : StepResult → Prop} {o : RunOutput} (h : ∀ r ∈ o.results, ok r) :
    (Run.send (Λ := Λ) o).Makes (Run.Sends ok) := by
  refine makes_update fun s => ⟨rfl, [o], rfl, fun r hr => h r ?_⟩
  rwa [emitted, List.flatMap_singleton] at hr

namespace Executor

/-- the error of a result is that of the step at its position, which has one of the causes -/
def ResultExplained (Λ : Type) [Link Λ] (e : Executor) (known : String → Prop) (p : Plan) (r : StepResult) : Prop :=
  ∀ message, r.error = some message →
    ∃ step f, p.steps[r.index]? = some step ∧ e.Cause Λ known step f ∧ f.message = message

/-- a run has failed because a step did, for one of the causes, or because it was stopped -/
def FailureExplained (Λ : Type) [Link Λ] (e : Executor) (known : String → Prop) (p : Plan) (f : Failure) : Prop :=
  f = .cancelled ∨ ∃ i step cause, f = .step i cause ∧ p.steps[i]? = some step ∧ e.Cause Λ known step cause

section Runs

variable {others : Bench Λ → Bench Λ → Prop} {e : Executor} {p : Plan} {known : String → Prop}

theorem Explains.result {index : Nat} {id : String} {step : Step} {o : StepOutcome}
    (hstep : p.steps[index]? = some step) (h : e.Explains Λ known step (blank index id step) o) :
    e.ResultExplained Λ known p o.result := by
  intro message hmessage
  obtain ⟨f, hf, rfl⟩ := Option.map_eq_some_iff.1 hmessage
  have hindex : o.result.index = index := h.1
  exact ⟨step, f, hindex ▸ hstep, h.2 f hf, rfl⟩

omit [Link Λ] in
theorem FindsAll.sends {ok : StepResult → Prop} {x y : Bench Λ × Run} (hx : e.FindsAll p x) (h : Run.Sends ok x y) :
    e.FindsAll p y :=
  hx.extends fun _ _ hn => h.names ▸ hn

variable (hothers : ∀ b b', others b b' → b.pool.Extends b'.pool)

include hothers

omit [Link Λ] in
theorem FindsAll.amid {x y : Bench Λ × Run} (hx : e.FindsAll p x) (h : Run.Amid others x y) : e.FindsAll p y :=
  hx.extends (hothers _ _ h.1)

omit [Link Λ] in
/-- whatever a run does, its steps find what they look up, if they did at first -/
theorem FindsAll.throughout {ok : StepResult → Prop} {q : Proc (Bench Λ × Run) α} {s : Bench Λ × Run}
    (hs : e.FindsAll p s) (hq : q.Makes (Run.Sends ok)) :
    q.Obeys (Run.Amid others) (fun x y => Run.Sends ok x y ∧ e.FindsAll p x ∧ e.FindsAll p y)
      (fun t _ => e.FindsAll p t) s := by
  have hsends : q.Obeys (Run.Amid others) (Run.Sends ok) (fun _ _ => True) s :=
    (hq s).mono (fun _ _ _ => trivial) (fun _ _ h => h) fun _ _ h => h
  have hthroughout := hsends.throughout (fun _ _ h hx => FindsAll.amid hothers hx h) (fun _ _ h hx => hx.sends h) hs
  exact hthroughout.imp fun _ _ h => h.2

omit [Link Λ] in
/-- so they do at the end -/
theorem FindsAll.after {ok : StepResult → Prop} {q : Proc (Bench Λ × Run) α} {s : Bench Λ × Run}
    (hs : e.FindsAll p s) (hq : q.Makes (Run.Sends ok)) :
    q.Obeys (Run.Amid others) (Run.Sends ok) (fun t _ => e.FindsAll p t) s :=
  (hs.throughout hothers hq).mono (fun _ _ h => h) (fun _ _ h => h.1) fun _ _ h => h

variable (hknown : ∀ n name, Pool.key n = Pool.key name → known name → known n)
  (hplan : ∀ step ∈ p.steps, e.Finds known step)

include hknown hplan

/-- a step of the plan -/
theorem carryOut_explained {ok : StepResult → Prop} {index : Nat} {step : Step} {s : Bench Λ × Run} (id : String)
    (hstep : p.steps[index]? = some step) (hs : e.FindsAll p s) :
    (e.carryOut step (blank index id step)).Obeys (Run.Amid others) (Run.Sends ok)
      (fun t o => e.FindsAll p t ∧ e.Explains Λ known step (blank index id step) o) s := by
  have hmem : step ∈ p.steps := List.mem_of_getElem? hstep
  have hfinds := hs.throughout hothers (carryOut_changes (Run.allows_sends ok) e step (blank index id step))
  have hreturns := hfinds.and_returnsIf (fun _ _ h => h.2.1 step hmem) (carryOut_causes hknown (hplan step hmem))
  exact hreturns.mono (fun _ _ h => h) (fun _ _ h => h.1) fun _ _ h => h

/-- a step of the plan, unless the run is told to stop -/
theorem carryOutUnlessStopped_explained {ok : StepResult → Prop} {index : Nat} {step : Step} {s : Bench Λ × Run}
    (hstep : p.steps[index]? = some step) (hs : e.FindsAll p s) :
    (e.carryOutUnlessStopped index step).Obeys (Run.Amid others) (Run.Sends ok)
      (fun t r => e.FindsAll p t ∧ ∀ o, r = some o → e.ResultExplained Λ known p o.result ∧
        ∀ cause, o.2 = some cause → e.Cause Λ known step cause) s := by
  have hallows : Run.Allows (Run.Sends (Λ := Λ) ok) := Run.allows_sends ok
  refine obeys_get_bind (hallows.refl s) ?_
  split
  · exact ⟨hs, fun _ h => nomatch h⟩
  · refine obeys_guarded (I := e.FindsAll p) hallows.refl (fun _ _ h hx => FindsAll.amid hothers hx h)
      (fun _ _ h hx => hx.sends h) (fun t ht => ?_) Run.isStopped hs ?_
    · -- it gives back what it has leased
      exact obeys_bind ((ht.after hothers (letGo_changes hallows)).imp fun _ _ h => ⟨h, fun _ h => nomatch h⟩)
    · refine obeys_bind ((carryOut_explained hothers hknown hplan s.2.id hstep hs).imp fun t o h => ?_)
      refine ⟨h.1, fun o' ho => ?_⟩
      cases ho
      exact ⟨h.2.result hstep, h.2.2⟩

/-- the steps of the plan from a position on -/
theorem steps_explained (inBulk : Bool) (index : Nat) (l : List Step) (results : List StepResult) {s : Bench Λ × Run}
    (hl : p.steps.drop index = l) (hresults : ∀ r ∈ results, e.ResultExplained Λ known p r) (hs : e.FindsAll p s) :
    (e.steps inBulk index l results).Obeys (Run.Amid others) (Run.Sends (e.ResultExplained Λ known p))
      (fun t progress => e.FindsAll p t ∧ (∀ r ∈ progress.results, e.ResultExplained Λ known p r) ∧
        ∀ f, progress.failure = some f → e.FailureExplained Λ known p f) s := by
  induction l generalizing index results s with
  | nil => exact ⟨hs, hresults, fun _ h => nomatch h⟩
  | cons step rest ih =>
    have hstep : p.steps[index]? = some step := by
      have hhead := congrArg (fun l => l[0]?) hl
      simpa using hhead
    have hrest : p.steps.drop (index + 1) = rest := by
      rw [← List.drop_drop, hl, List.drop_one, List.tail_cons]
    refine obeys_bind ((carryOutUnlessStopped_explained hothers hknown hplan hstep hs).imp fun t r h => ?_)
    obtain ⟨ht, hr⟩ := h
    cases r with
    | none => exact ⟨ht, hresults, fun f hf => .inl (Option.some.inj hf).symm⟩
    | some o =>
      obtain ⟨hresult, hcause⟩ := hr o rfl
      have hmore : ∀ r ∈ results ++ [o.result], e.ResultExplained Λ known p r := by
        intro r hr
        rcases List.mem_append.1 hr with hr | hr
        · exact hresults r hr
        · rw [List.mem_singleton.1 hr]
          exact hresult
      have hannounced : (if inBulk then .done () else Run.send (Λ := Λ) (.step (.step o.result))).Makes
          (Run.Sends (e.ResultExplained Λ known p)) := by
        split
        · exact makes_done _
        · exact Run.send_makes fun r hr => List.mem_singleton.1 hr ▸ hresult
      refine obeys_bind ((ht.after hothers hannounced).imp fun t' _ ht' => ?_)
      split
      · rename_i cause ho
        split
        · exact ⟨ht', hmore, fun f hf =>
            .inr ⟨index, step, cause, (Option.some.inj hf).symm, hstep, hcause cause ho⟩⟩
        · exact ih (index + 1) _ hrest hmore ht'
      · exact ih (index + 1) _ hrest hmore ht'

/-- the execution of the plan, which is bound once more -/
theorem execute_explained {s : Bench Λ × Run} (hs : e.FindsAll p s) :
    (e.execute p).Obeys (Run.Amid others) (Run.Sends (e.ResultExplained Λ known p))
      (fun t r => e.FindsAll p t ∧ match r with
        | .ok results => ∀ r ∈ results, e.ResultExplained Λ known p r
        | .error f => e.FailureExplained Λ known p f) s := by
  have hbound : e.bind s.1.pool.contains p = .ok () :=
    bind_eq_ok_iff.2 fun step hstep => (hs step hstep).mono fun _ hname => hname.contains
  have hsteps := steps_explained hothers hknown hplan p.respondInBulk 0 p.steps [] List.drop_zero
    (fun _ hr => nomatch hr) hs
  refine obeys_get_bind ((Run.allows_sends _).refl s) ?_
  rw [hbound]
  refine obeys_bind (hsteps.imp fun t progress h => ?_)
  obtain ⟨ht, hresults, hfailure⟩ := h
  have hbatch : (if p.respondInBulk then sendBatch (Λ := Λ) progress else .done ()).Makes
      (Run.Sends (e.ResultExplained Λ known p)) := by
    unfold sendBatch
    split
    · split
      · exact makes_done _
      · exact Run.send_makes hresults
    · exact makes_done _
  refine obeys_bind ((ht.after hothers hbatch).imp fun t' _ ht' => ?_)
  split
  · rename_i f hf
    exact ⟨ht', hfailure f hf⟩
  · exact ⟨ht', hresults⟩

end Runs

/-- a run of a plan from a state on finds what it looks up and has no failures but some. Whenever it makes a change, its
steps find their devices and interfaces. Every result that it sends, every result that it gives back, and what it ends
with if it fails, has one of the causes, unless the run was told to stop. -/
def Serves (e : Executor) (known : String → Prop) (p : Plan) (others : Bench Λ → Bench Λ → Prop) (s : Bench Λ × Run) :
    Prop :=
  (e.execute p).Obeys (Run.Amid others)
    (fun x y => e.FindsAll p x ∧ e.FindsAll p y ∧ Run.Sends (e.ResultExplained Λ known p) x y)
    (fun t r => e.FindsAll p t ∧ match r with
      | .ok results => ∀ r ∈ results, e.ResultExplained Λ known p r
      | .error f => e.FailureExplained Λ known p f) s

/-- **Every failure of a run of a bound plan has one of the causes**, for every behaviour of the links and whatever else
goes on at the bench, as long as no interface is taken out that was there when the plan was bound. That a unit or an
interface is unknown is not among them. -/
theorem bound_plan_serves {e : Executor} {p : Plan} {others : Bench Λ → Bench Λ → Prop} {q : Pool Λ}
    {s : Bench Λ × Run} (hothers : ∀ b b', others b b' → b.pool.Extends b'.pool) (hkeyed : q.Keyed)
    (hb : e.bind q.contains p = .ok ()) (hq : q.Extends s.1.pool) :
    e.Serves (fun name => q.contains name = true) p others s := by
  have hplan : ∀ step ∈ p.steps, e.Finds (fun name => q.contains name = true) step := bind_eq_ok_iff.1 hb
  have hs : e.FindsAll p s := by
    intro step hstep
    exact (hplan step hstep).mono fun _ hname => (hkeyed.present hname).extends hq
  have hknown : ∀ n name, Pool.key n = Pool.key name → q.contains name = true → q.contains n = true := by
    intro n name hkey hname
    rw [Pool.contains, hkey]
    exact hname
  have hrun := execute_explained (Λ := Λ) hothers hknown hplan hs
  have hthroughout := hrun.throughout (fun _ _ h hx => FindsAll.amid hothers hx h) (fun _ _ h hx => hx.sends h) hs
  exact hthroughout.mono (fun _ _ h => h) (fun _ _ h => ⟨h.2.1, h.2.2, h.1⟩) fun _ _ h => h.1

end Executor

end CalBench
