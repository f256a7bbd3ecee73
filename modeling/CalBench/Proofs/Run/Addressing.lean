/-
Every operation goes to the device of its unit.

What is written to an interface goes to the device that was selected on it last, by whichever step and whichever run. A
unit with an address is safe from that: between selecting its device and the last read of a command nobody else calls
the link. A unit without one selects nothing, and its commands go wherever the interface happens to be directed.

Results:
- `exchange_meets`: all of an exchange reaches the device that was selected for it;
- `carryOutUnlessStopped_meets`: a step calls no link but that of its unit's interface, and only so;
- `calls_reach_their_unit`: so it is for every step of a plan that is executed.
Witnesses:
- `units_are_kept_apart`: two units with addresses of their own on one interface;
- `unaddressed_unit_misdirects`: a unit without an address writes to the device of the unit before it.
-/
import CalBench.Config.Installation
import CalBench.Proofs.Link.Address
import CalBench.Proofs.Pool.Courtesy

namespace CalBench

open Proc Client

variable {Λ α β : Type}

namespace Executor

variable [Link Λ]

/-! ## What may be asked of a link -/

/-- the device of a unit is selected, if the unit has an address and the link a bus -/
def Aimed (selected : Λ → Option UInt8) (address : Option UInt8) (l : Λ) : Prop :=
  Link.isGpib l = true → ∀ a, address = some a → selected l = some a

/-- the calls for a unit: what is written and read and cleared is aimed at its device, and a trigger names just that -/
def Permits (selected : Λ → Option UInt8) (address : Option UInt8) : Call → Λ → Prop
  | .connect, _ => True
  | .setAddress a, _ => address = some a
  | .writeString _, l => Aimed selected address l
  | .read _, l => Aimed selected address l
  | .clearDevice a, l => a = address ∧
    ((Link.call (.clearDevice a) l).result = .ok () → Aimed selected address (Link.call (.clearDevice a) l).link)
  | .trigger group, _ => ∃ a, address = some a ∧ group = [a]
  | _, _ => False

def Directs (e : Executor) (selected : Λ → Option UInt8) (step : Step) (key : String) (c : Call) (l : Λ) : Prop :=
  match step with
  | .resetInterface name => key = Pool.key name ∧ (c = .reset ∨ c = .disconnect ∨ c = .connect)
  | step => ∃ unit d, step.unit? = some unit ∧ e.devices.get? unit = some d ∧ key = Pool.key d.interface ∧
    Permits selected d.address c l

section Exchanges

variable {ok : Λ → Prop} {selected : Λ → Option UInt8} (steers : Link.Steers ok selected)
  {rule : String → Call → Λ → Prop} {key : String} {address : Option UInt8}
  (hrule : ∀ c l, Permits selected address c l → rule key c l)

/-- what is done on an interface that is ours depends on whether it has bus calls -/
theorem ifOnBus_meets {P : Λ → Prop} {Q : Except LinkError α → Client Λ → Prop}
    {yes no : Fallible (Client Λ) LinkError α}
    (hyes : Meets (Respects ok) (Behaves ok rule) (Has ok key fun l => P l ∧ Link.isGpib l = true) yes Q)
    (hno : Meets (Respects ok) (Behaves ok rule) (Has ok key fun l => P l ∧ Link.isGpib l = false) no Q) :
    Meets (Respects ok) (Behaves ok rule) (Has ok key P) (ifOnBus key yes no) Q := by
  refine meets_get_bind .refl fun x hx => ?_
  obtain ⟨hlinks, number, l, hplace, hserving, hl⟩ := hx
  have hbus : onBus key x = Link.isGpib l := by
    obtain ⟨e, he, -, rfl⟩ := hserving
    rw [onBus, he]
    rfl
  rw [hbus]
  split
  · rename_i hgpib
    exact hyes.mono (fun y hy => hy ▸ ⟨hlinks, number, l, hplace, hserving, hl, hgpib⟩) fun _ _ h => h
  · rename_i hgpib
    have hstream := Bool.eq_false_iff.2 hgpib
    exact hno.mono (fun y hy => hy ▸ ⟨hlinks, number, l, hplace, hserving, hl, hstream⟩) fun _ _ h => h

include steers hrule

/-- **A device that has been selected is the one that is aimed at** -/
theorem select_meets :
    Meets (Respects ok) (Behaves ok rule) (Has ok key fun _ => True) (select key address)
      fun r => Has ok key fun l => r = .ok () → Aimed selected address l := by
  cases address with
  | none => exact meets_done fun x hx => hx.imp fun l _ _ _ a ha => nomatch ha
  | some a =>
    refine ifOnBus_meets (Pool.perform_meets steers.stays (fun l _ _ => hrule _ l rfl) fun l hl _ hr _ b hb => ?_)
      (meets_done fun x hx => hx.imp fun l hl _ hgpib => ?_)
    · cases hb
      exact steers.selects a l hl hr
    · rw [hl.2] at hgpib
      cases hgpib

/-- what was aimed at a device stays so while it is written and read -/
theorem aimed_meets {c : Call} (hcall : ∀ l, ok l → selected (Link.call c l).link = selected l)
    (hpermits : ∀ l, Aimed selected address l → Permits selected address c l) :
    Meets (Respects ok) (Behaves ok rule) (Has ok key (Aimed selected address)) (Pool.perform key c)
      fun _ => Has ok key (Aimed selected address) := by
  refine Pool.perform_meets steers.stays (fun l _ hl => hrule c l (hpermits l hl)) fun l hl haimed hgpib a ha => ?_
  rw [steers.bus] at hgpib
  rw [hcall l hl]
  exact haimed hgpib a ha

theorem collect_meets (policy : RetryPolicy) (spec : ReadSpec) :
    Meets (Respects ok) (Behaves ok rule) (Has ok key (Aimed selected address)) (collect key policy spec)
      fun _ => Has ok key (Aimed selected address) := by
  have hread : Meets (Respects ok) (Behaves ok rule) (Has ok key (Aimed selected address)) (readOnce (Λ := Λ) key spec)
      fun _ => Has ok key (Aimed selected address) :=
    meets_andThen (aimed_meets steers hrule (fun l hl => steers.reads _ l hl) fun l hl => hl)
      (fun _ => meets_done fun _ h => h) fun _ _ h => h
  exact meets_andThen (RetryPolicy.tryFrom_meets (fun _ _ h hx => hx.respects h) _ hread _ _)
    (fun _ => meets_done fun _ h => h) fun _ _ h => h

/-- **All of an exchange reaches the device that was selected for it** -/
theorem exchange_meets (e : Executor) (c : Command) (d : DeviceBinding) (hd : d.address = address)
    (text : Option String) :
    Meets (Respects ok) (Behaves ok rule) (Has ok key fun _ => True) (e.exchange c d text key)
      fun _ x => x.pool.Links ok := by
  subst hd
  refine meets_andThen (select_meets steers hrule) (fun _ => ?_) fun _ _ h => h.1
  have hwritten : Meets (Respects ok) (Behaves ok rule) (Has ok key (Aimed selected d.address))
      (if c.kind.writes then Pool.perform key (.writeString (text.getD "")) else .done (.ok ()))
      fun _ => Has ok key (Aimed selected d.address) := by
    split
    · exact aimed_meets steers hrule (fun l hl => steers.writes _ l hl) fun l hl => hl
    · exact meets_done fun _ h => h
  refine (meets_andThen hwritten (fun _ => ?_) fun _ _ h => h.1).mono (fun x hx => hx.imp fun l hl => hl rfl)
    fun _ _ h => h
  split
  · exact meets_done fun _ h => h.1
  · exact meets_andThen (collect_meets steers hrule _ _) (fun _ => meets_done fun _ h => h.1) fun _ _ h => h.1

/-- a device is cleared by its address, or whatever is selected if it has none -/
theorem clearing_meets :
    Meets (Respects ok) (Behaves ok rule) (Has ok key fun _ => True)
      (ifOnBus key (Pool.perform key (.clearDevice address)) (.done (.ok ()))) fun _ x => x.pool.Links ok := by
  have haimed (l : Λ) (hl : ok l) (hr : (Link.call (.clearDevice address) l).result = .ok ()) :
      Aimed selected address (Link.call (.clearDevice address) l).link := by
    rintro - a rfl
    exact steers.clears a l hl hr
  refine ifOnBus_meets ?_ (meets_done fun _ h => h.1)
  exact (Pool.perform_meets_any steers.stays fun l hl => hrule (.clearDevice address) l ⟨rfl, haimed l hl⟩).mono
    (fun _ h => h) fun _ _ h => h.1

/-- a trigger needs an address -/
theorem triggering_meets (d : DeviceBinding) (hd : d.address = address) :
    Meets (Respects ok) (Behaves ok rule) (Has ok key fun _ => True)
      (ifOnBus key
        (match d.address with
          | some a => Pool.perform key (.trigger [a])
          | none => .done (.error .notConfigured))
        (.done (.ok ()))) fun _ x => x.pool.Links ok := by
  subst hd
  refine ifOnBus_meets ?_ (meets_done fun _ h => h.1)
  split
  · rename_i a ha
    exact (Pool.perform_meets_any steers.stays fun l _ => hrule (.trigger [a]) l ⟨a, ha, rfl⟩).mono (fun _ h => h)
      fun _ _ h => h.1
  · exact meets_done fun _ h => h.1

end Exchanges

section Steps

variable {ok : Λ → Prop} {selected : Λ → Option UInt8} (steers : Link.Steers ok selected) (e : Executor)

theorem directs_of_unit {step : Step} {unit : String} {d : DeviceBinding} (hunit : step.unit? = some unit)
    (hd : e.devices.get? unit = some d) {c : Call} {l : Λ} (h : Permits selected d.address c l) :
    e.Directs selected step (Pool.key d.interface) c l := by
  unfold Directs
  split
  · cases hunit
  · exact ⟨unit, d, hunit, hd, rfl, h⟩

theorem get?_of_device {unit : String} {d : DeviceBinding} (h : e.device unit = .ok d) :
    e.devices.get? unit = some d := by
  unfold device at h
  split at h
  · rename_i d' hd
    cases h
    exact hd
  · cases h

theorem get?_of_prepare {c : Command} {b : Bindings} {d : DeviceBinding} {text : Option String}
    (h : e.prepare c b = .ok (d, text)) : e.devices.get? c.unit = some d := by
  unfold prepare at h
  split at h
  · cases h
  · rename_i d' hd
    split at h <;> cases h
    exact e.get?_of_device hd

include steers

theorem clearDevice_meets (unit : String) :
    Meets (Respects ok) (Behaves ok (e.Directs selected (.resetDevice unit))) (fun x => x.pool.Links ok)
      (e.clearDevice unit) fun _ x => x.pool.Links ok := by
  unfold clearDevice
  split
  · exact meets_done fun _ h => h
  · rename_i d hd
    have hrule (c : Call) (l : Λ) (h : Permits selected d.address c l) :
        e.Directs selected (.resetDevice unit) (Pool.key d.interface) c l :=
      e.directs_of_unit rfl (e.get?_of_device hd) h
    exact Pool.withLease_meets steers.stays d.interface (fun l => hrule .connect l trivial)
      (clearing_meets steers hrule)

theorem triggerDevice_meets (unit : String) :
    Meets (Respects ok) (Behaves ok (e.Directs selected (.trigger unit))) (fun x => x.pool.Links ok)
      (e.triggerDevice unit) fun _ x => x.pool.Links ok := by
  unfold triggerDevice
  split
  · exact meets_done fun _ h => h
  · rename_i d hd
    have hrule (c : Call) (l : Λ) (h : Permits selected d.address c l) :
        e.Directs selected (.trigger unit) (Pool.key d.interface) c l :=
      e.directs_of_unit rfl (e.get?_of_device hd) h
    exact Pool.withLease_meets steers.stays d.interface (fun l => hrule .connect l trivial)
      (triggering_meets steers hrule d rfl)

theorem resetInterface_meets (name : String) :
    Meets (Respects ok) (Behaves ok (e.Directs selected (.resetInterface name))) (fun x => x.pool.Links ok)
      (resetInterface name) fun _ x => x.pool.Links ok := by
  have hcall {P : Λ → Prop} (c : Call) (hc : c = .reset ∨ c = .disconnect ∨ c = .connect) :
      Meets (Respects ok) (Behaves ok (e.Directs selected (.resetInterface name))) (Has ok (Pool.key name) P)
        (Pool.perform (Pool.key name) c) fun _ => Has ok (Pool.key name) fun _ => True :=
    Pool.perform_meets_any steers.stays fun _ _ => ⟨rfl, hc⟩
  refine Pool.withLease_meets steers.stays name (fun _ => ⟨rfl, .inr (.inr rfl)⟩) (ifOnBus_meets ?_ ?_)
  · exact (hcall .reset (.inl rfl)).mono (fun _ h => h) fun _ _ h => h.1
  · refine meets_andThen (hcall .disconnect (.inr (.inl rfl))) (fun _ => ?_) fun _ _ h => h.1
    exact (hcall .connect (.inr (.inr rfl))).mono (fun _ h => h) fun _ _ h => h.1

end Steps

end Executor

/-! ## Steps -/

namespace Run

variable [Link Λ] {ok : Λ → Prop}

def Respecting (ok : Λ → Prop) (x y : Bench Λ × Run) : Prop := Respects ok (client.get x) (client.get y)

def Behaving (ok : Λ → Prop) (rule : String → Call → Λ → Prop) (x y : Bench Λ × Run) : Prop :=
  Behaves ok rule (client.get x) (client.get y)

def Linked (ok : Λ → Prop) (x : Bench Λ × Run) : Prop := x.1.pool.Links ok

omit [Link Λ] in
theorem Respecting.linked {x y : Bench Λ × Run} (h : Respecting ok x y) (hx : Linked ok x) : Linked ok y := h.links hx

theorem Behaving.linked {rule : String → Call → Λ → Prop} {x y : Bench Λ × Run} (h : Behaving ok rule x y)
    (hx : Linked ok x) : Linked ok y := h.courteous.links hx

theorem behaving_refl {rule : String → Call → Λ → Prop} (x : Bench Λ × Run) : Behaving ok rule x x := .refl _

theorem client_meets {rule : String → Call → Λ → Prop} {p : Proc (Client Λ) α}
    (h : Meets (Respects ok) (Behaves ok rule) (fun x => x.pool.Links ok) p fun _ x => x.pool.Links ok) :
    Meets (Respecting ok) (Behaving ok rule) (Linked ok) (p.onPart client) fun _ => Linked ok :=
  h.onPart (fun _ _ => rfl) (fun _ _ h => h) fun _ _ h => h

end Run

namespace Executor

open Run

section Steps

variable [Link Λ] {ok : Λ → Prop} {selected : Λ → Option UInt8} (steers : Link.Steers ok selected) (e : Executor)

include steers

theorem command_meets (c : Command) (r : StepResult) :
    Meets (Respecting ok) (Behaving ok (e.Directs selected (.command c))) (Linked ok) (e.command c r)
      fun _ => Linked ok := by
  have hsleep (ticks : Nat) : Meets (Respecting ok) (Behaving ok (e.Directs selected (.command c))) (Linked ok)
      (sleepIfAny ticks) fun _ => Linked ok := meets_sleepIfAny (fun _ _ h => h.linked) ticks
  refine meets_bind (hsleep _) fun _ => meets_get_bind behaving_refl fun s hs => ?_
  split
  · exact meets_done fun t ht => ht ▸ hs
  · rename_i d text hp
    have hrule (call : Call) (l : Λ) (h : Permits selected d.address call l) :
        e.Directs selected (.command c) (Pool.key d.interface) call l :=
      e.directs_of_unit rfl (e.get?_of_prepare hp) h
    have hlease := Pool.withLease_meets steers.stays d.interface (fun l => hrule .connect l trivial)
      (exchange_meets steers hrule e c d rfl text)
    refine meets_bind ((client_meets hlease).mono (fun t ht => ht ▸ hs) fun _ _ h => h) fun x => ?_
    cases x with
    | error err => exact meets_done fun _ h => h
    | ok received =>
      have hstore : Meets (Respecting ok) (Behaving ok (e.Directs selected (.command c))) (Linked ok)
          (store received) fun _ => Linked ok := by
        cases received with
        | none => exact meets_done fun _ h => h
        | some r => exact meets_update (fun t _ => behaving_refl t) fun _ h => h
      exact meets_bind hstore fun _ => meets_bind (hsleep _) fun _ => meets_done fun _ h => h

omit steers in
theorem linkStep_meets {rule : String → Call → Λ → Prop} {p : Fallible (Client Λ) LinkError Unit}
    (hp : Meets (Respects ok) (Behaves ok rule) (fun x => x.pool.Links ok) p fun _ x => x.pool.Links ok)
    (r : StepResult) : Meets (Respecting ok) (Behaving ok rule) (Linked ok) (linkStep p r) fun _ => Linked ok := by
  refine meets_bind (client_meets hp) fun x => ?_
  cases x with
  | ok => exact meets_done fun _ h => h
  | error err => exact meets_done fun _ h => h

theorem carryOut_meets (step : Step) (r : StepResult) :
    Meets (Respecting ok) (Behaving ok (e.Directs selected step)) (Linked ok) (e.carryOut step r)
      fun _ => Linked ok := by
  cases step with
  | command c => exact command_meets steers e c r
  | setVariable name source =>
    refine meets_get_bind behaving_refl fun s hs => ?_
    split
    · exact meets_done fun t ht => ht ▸ hs
    · refine meets_bind (meets_update (Q := fun _ => Linked ok) (fun t _ => behaving_refl t) fun t ht => ?_) fun _ =>
        meets_done fun _ h => h
      exact ht ▸ hs
  | delay d => exact meets_bind (meets_sleep (fun x y h => h.linked) _) fun _ => meets_done fun _ h => h
  | resetDevice unit => exact linkStep_meets (clearDevice_meets steers e unit) r
  | resetInterface name => exact linkStep_meets (resetInterface_meets steers e name) r
  | trigger unit => exact linkStep_meets (triggerDevice_meets steers e unit) r

/-- **A step calls only the link that its unit is wired to, and only for its unit**, also when it is given up -/
theorem carryOutUnlessStopped_meets (index : Nat) (step : Step) :
    Meets (Respecting ok) (Behaving ok (e.Directs selected step)) (Linked ok) (e.carryOutUnlessStopped index step)
      fun _ => Linked ok := by
  refine meets_get_bind behaving_refl fun s hs => ?_
  split
  · exact meets_done fun t ht => ht ▸ hs
  · have hstep : Meets (Respecting ok) (Behaving ok (e.Directs selected step)) (Linked ok)
        ((e.carryOut step (blank index s.2.id step)).bind fun o => .done (some o)) fun _ => Linked ok :=
      meets_bind (carryOut_meets steers e step _) fun _ => meets_done fun _ h => h
    have hgiveUp : Meets (Respecting ok) (Behaving ok (e.Directs selected step)) (Linked ok)
        (Run.letGo.bind fun _ => .done (none : Option StepOutcome)) fun _ => Linked ok := by
      refine meets_bind (client_meets ?_) fun _ => meets_done fun _ h => h
      exact meets_update (fun x _ => Pool.acts_leave x) fun x hx => (courteous_leave x).links hx
    refine (meets_guarded behaving_refl (fun x y h => h.linked) (fun x y h => h.linked) hstep hgiveUp _).mono
      (fun t ht => ht ▸ hs) fun _ _ h => h

/-! ## Plans -/

/-- the changes between steps: no link is called, and others are left alone -/
def Idles (ok : Λ → Prop) : Bench Λ × Run → Bench Λ × Run → Prop := Behaving ok fun _ _ _ => False

omit steers in
theorem announce_meets (inBulk : Bool) (o : StepOutcome) :
    Meets (Respecting ok) (Idles ok) (Linked ok)
      (if inBulk then .done () else Run.send (Λ := Λ) (.step (.step o.result))) fun _ => Linked ok := by
  split
  · exact meets_done fun _ h => h
  · exact meets_update (fun t _ => behaving_refl t) fun _ h => h

theorem steps_inTurn {γ : Type} (inBulk : Bool) (index : Nat) (steps : List Step) (results : List StepResult)
    {f : Progress → Proc (Bench Λ × Run) γ}
    (hf : ∀ progress, Meets (Respecting ok) (Idles ok) (Linked ok) (f progress) fun _ => Linked ok)
    {s : Bench Λ × Run} (hs : Linked ok s) :
    InTurn (Respecting ok) (Idles ok) (fun x : Step × Nat => e.carryOutUnlessStopped x.2 x.1)
      (fun x => Behaving ok (e.Directs selected x.1)) (steps.zipIdx index)
      ((e.steps inBulk index steps results).bind f) s := by
  induction steps generalizing index results s with
  | nil => exact inTurn_idly (hf _ s hs)
  | cons step rest ih =>
    unfold Executor.steps
    rw [List.zipIdx_cons, bind_assoc]
    refine inTurn_part ((carryOutUnlessStopped_meets steers e index step s hs).imp fun t o ht => ?_)
    cases o with
    | none => exact inTurn_idly (hf _ t ht)
    | some o =>
      dsimp only
      rw [bind_assoc]
      refine inTurn_quietly ((announce_meets inBulk o t ht).imp fun u _ hu => ?_)
      split
      · split
        · exact inTurn_idly (hf _ u hu)
        · exact ih (index + 1) _ hu
      · exact ih (index + 1) _ hu

/-- **Every operation goes to the device of its unit.** Whatever the units are wired to, whatever a plan holds and
whatever others do in the meantime, if they respect the run: the execution of a plan carries out its steps in turn and
calls no link between them. For a step with a unit it calls the link of the interface of that unit only, while the
interface is its own. If the unit has an address, everything that is written and read on a bus happens with that address
selected, and a device clear names it and leaves it selected. A trigger names just the address, and is not sent for a
unit without one. A unit without an address selects nothing. -/
theorem calls_reach_their_unit (plan : Plan) {s : Bench Λ × Run} (hs : Linked ok s) :
    InTurn (Respecting ok) (Idles ok) (fun x : Step × Nat => e.carryOutUnlessStopped x.2 x.1)
      (fun x => Behaving ok (e.Directs selected x.1)) plan.steps.zipIdx (e.execute plan) s := by
  refine inTurn_get_bind (behaving_refl s) ?_
  split
  · exact inTurn_done _
  · refine steps_inTurn steers e plan.respondInBulk 0 plan.steps [] (fun progress => ?_) hs
    refine meets_bind (R := fun _ => Linked ok) ?_ fun _ => ?_
    · unfold sendBatch
      split
      · split
        · exact meets_done fun _ h => h
        · exact meets_update (fun t _ => behaving_refl t) fun _ h => h
      · exact meets_done fun _ h => h
    · split <;> exact meets_done fun _ h => h

end Steps

end Executor

/-! ## Installed interfaces -/

theorem Pool.links_empty {Λ : Type} (ok : Λ → Prop) : ({} : Pool Λ).Links ok := fun _ _ h => (nomatch h)

theorem Pool.links_install {ω : Type} [Wire ω] {defaults : Timeouts} {reach : Endpoint → ω}
    {records : List InterfaceRecord} {p q : Pool (Interface ω)} (hp : p.Links Interface.Faithful)
    (h : p.install defaults reach records = .ok q) : q.Links Interface.Faithful := by
  induction records generalizing p with
  | nil =>
    cases h
    exact hp
  | cons r rest ih =>
    unfold install at h
    cases hl : r.build defaults reach with
    | error e => rw [hl] at h; cases h
    | ok l =>
      rw [hl] at h
      change (p.register l >>= fun p => p.install defaults reach rest) = .ok q at h
      cases hr : p.register l with
      | error e => rw [hr] at h; cases h
      | ok p' =>
        rw [hr] at h
        refine ih (fun key e he => ?_) h
        rcases register_before hr he with ⟨-, rfl⟩ | he
        · exact (build_faithful hl).1
        · exact hp key e he

/-- **The interfaces of a configuration can be relied on** -/
theorem EngineConfig.links_pool {ω : Type} [Wire ω] {c : EngineConfig} {reach : Endpoint → ω} {p : Pool (Interface ω)}
    (h : c.pool reach = .ok p) : p.enableAll.Links Interface.Faithful := by
  intro key e he
  rw [Pool.get?_enableAll] at he
  obtain ⟨e', he', rfl⟩ := Option.map_eq_some_iff.1 he
  exact Pool.links_install (Pool.links_empty _) h key e' he'

/-! ## Two units on one interface -/

/-- a meter with an address and a source that may have one, on one interface -/
def sharedBus (source : Option UInt8) : EngineConfig :=
  { interfaces := [{ name := "gpib0", kind := .emulated }]
    devices := [{ unitId := "meter", interface := "gpib0", address := some 22 },
      { unitId := "source", interface := "GPIB0", address := source }] }

def sharedBench (source : Option UInt8) : Bench (Interface ScriptedPeer) × Run :=
  ({ pool := (((sharedBus source).pool unplugged).toOption.getD {}).enableAll, signals := [false] },
    { id := "run", signal := 0 })

def writeTo (unit text : String) : Step :=
  .command { unit, kind := .write, writeData := some text, read := none, instruction := none, readAttempts := none,
             delayBefore := .zero, delayAfter := .zero }

def readFrom (unit tag : String) : Step :=
  .command { unit, kind := .read, writeData := none, read := some ⟨.string, none, tag⟩, instruction := none,
             readAttempts := none, delayBefore := .zero, delayAfter := .zero }

def sharedPlan : Plan :=
  { steps := [writeTo "meter" "VOLT?", writeTo "source" "OUTP ON", readFrom "meter" "volts", .trigger "source",
      .resetDevice "meter"] }

theorem sharedBench_linked (source : Option UInt8) : Run.Linked Interface.Faithful (sharedBench source) := by
  unfold Run.Linked sharedBench
  cases h : (sharedBus source).pool (ω := ScriptedPeer) unplugged with
  | error e => exact Pool.links_empty _
  | ok p => exact EngineConfig.links_pool h

/-- the bench after a plan, if nothing else goes on -/
def sharedAfter (source : Option UInt8) (plan : Plan) : Bench (Interface ScriptedPeer) :=
  (((sharedBus source).executor.execute plan).alone (sharedBench source)).state.1

/-- **Two units with addresses of their own are kept apart**, on an interface that they take turns on -/
theorem units_are_kept_apart :
    Proc.InTurn (Run.Respecting Interface.Faithful) (Executor.Idles Interface.Faithful)
      (fun x : Step × Nat => (sharedBus (some 5)).executor.carryOutUnlessStopped x.2 x.1)
      (fun x => Run.Behaving Interface.Faithful ((sharedBus (some 5)).executor.Directs Interface.selected x.1))
      sharedPlan.steps.zipIdx ((sharedBus (some 5)).executor.execute sharedPlan) (sharedBench (some 5)) ∧
    (sharedAfter (some 5) sharedPlan).pool.calls.map Prod.snd =
      [.connect, .setAddress 22, .writeString "VOLT?", .setAddress 5, .writeString "OUTP ON", .setAddress 22,
        .read .terminated, .trigger [5], .clearDevice (some 22)] :=
  ⟨Executor.calls_reach_their_unit steers_interface _ sharedPlan (sharedBench_linked (some 5)), by decide +kernel⟩

/-- **A unit without an address writes to the device of the unit before it.** The meter is at 22 and the source, on the
same interface, has no address; when both have been written to, in turn and with success, 22 is what has been selected
all the time. -/
theorem unaddressed_unit_misdirects :
    ((sharedBus none).executor.devices.get? "meter").map DeviceBinding.address = some (some 22) ∧
    ((sharedBus none).executor.devices.get? "source").map DeviceBinding.address = some none ∧
    (sharedAfter none { steps := [writeTo "meter" "VOLT?", writeTo "source" "OUTP ON"] }).events.length = 2 ∧
    ((sharedAfter none { steps := [writeTo "meter" "VOLT?", writeTo "source" "OUTP ON"] }).pool.entry? "gpib0").map
      (fun e => (e.link.log?, e.link.selected)) =
        some (some ["connect", "address: 22", "write: VOLT?", "write: OUTP ON"], some 22) := by
  decide +kernel

end CalBench
