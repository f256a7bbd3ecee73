/-
Interfaces follow the last start or halt.

A start enables all interfaces, and the end of a run disables all of them, whichever actions these are: no count is kept
of the runs that go on. So among several actions the last start or halt of any of them decides, and it can be read off
the announcements.

The calls are made one after the other here (`History`). While one of them waits, whoever uses interfaces may do so; the
actions, the announcements and the switches of the interfaces are left to the calls.

- `Supplied`: the switches are as the last announced start or halt left them, and no action runs before the first start;
- `call_supplied`: each call keeps it, from its beginning to its end.

Results:
- `interfaces_follow_last_transition`: in every state that calls lead to, all interfaces are enabled if the last start
  or halt was a start, none is if it was a halt; while an action runs there has been one of them.
Witness `supplied_then_cut_off`, and `running_action_loses_links`: an action that runs on with all interfaces disabled,
because another one was stopped.
-/
import CalBench.Link.Emulated
import CalBench.Proofs.Pool.Switch
import CalBench.Proofs.Procedure.RunSlot

namespace CalBench

open Proc

/-! ## Announcements -/

/-- what coming to a state does to the interfaces -/
def ActionState.switch? : ActionState → Option Bool
  | .idle => none
  | .running => some true
  | .completed => some false
  | .stopped => some false

def ActionEvent.switch? : ActionEvent → Option Bool
  | .stateChanged _ _ _ state _ => state.switch?
  | .nodeReset _ _ => none

/-- was the last start or halt that was announced a start -/
def lastSwitch (events : List ActionEvent) : Option Bool := (events.filterMap ActionEvent.switch?).getLast?

namespace Station

variable {Λ : Type} {p : Procedure} {b : Bench Λ}

theorem lastSwitch_resetDownstream (s : Station Λ) (p : Procedure) (node : Nat) (runId : Option String) :
    lastSwitch (s.resetDownstream p node runId).events = lastSwitch s.events := by
  have hnone : ((p.downstream node).map fun i => ActionEvent.nodeReset (p.node i).id runId).filterMap
      ActionEvent.switch? = [] := by
    refine List.filterMap_eq_nil_iff.2 fun e he => ?_
    obtain ⟨i, -, rfl⟩ := List.mem_map.1 he
    rfl
  rw [lastSwitch, resetDownstream, List.filterMap_append, hnone, List.append_nil, lastSwitch]

theorem lastSwitch_announce (s : Station Λ) (p : Procedure) (node : Nat) (state : ActionState)
    (ticket : Option RunTicket) :
    lastSwitch (s.announce p node state ticket).events = state.switch?.or (lastSwitch s.events) := by
  rw [lastSwitch, announce, List.filterMap_append, List.getLast?_append]
  cases state <;> rfl

/-! ## Supply -/

/-- those who use interfaces leave the actions, the announcements and the switches alone -/
structure UsesLinks (s t : Station Λ) : Prop where
  slots : t.slots = s.slots
  events : t.events = s.events
  switches : t.bench.pool.switch? = s.bench.pool.switch?

/-- the switches are as the last start or halt left them, or as they were at the beginning -/
structure Supplied (b : Bench Λ) (s : Station Λ) : Prop where
  switches : ∀ key, s.bench.pool.switch? key = (b.pool.switch? key).map fun on => (lastSwitch s.events).getD on
  /-- no action runs before the first start -/
  begun : lastSwitch s.events = none → ∀ node, s.activeRun node = none

theorem UsesLinks.supplied {s t : Station Λ} (h : UsesLinks s t) (hs : Supplied b s) : Supplied b t where
  switches := by rw [h.switches, h.events]; exact hs.switches
  begun := by
    have hactive : ∀ node, t.activeRun node = s.activeRun node := by
      intro node
      unfold activeRun slot?
      rw [h.slots]
    intro hlast node
    rw [hactive]
    exact hs.begun (h.events ▸ hlast) node

theorem Begun.supplied {s : Station Λ} (h : Begun p b s) : Supplied b s where
  switches key := by
    rw [h.bench, h.events]
    cases b.pool.switch? key <;> rfl
  begun _ := h.activeRun_eq

theorem grant_pool (s : Station Λ) (p : Procedure) (node : Nat) (ticket : RunTicket) :
    (s.grant p node ticket).1.bench.pool = s.bench.pool.enableAll := rfl

theorem lastSwitch_grant (s : Station Λ) (p : Procedure) (node : Nat) (ticket : RunTicket) :
    lastSwitch (s.grant p node ticket).1.events = some true := by
  unfold grant
  rw [lastSwitch_announce]
  rfl

/-- a start switches all interfaces on -/
theorem Supplied.grant {s : Station Λ} (hs : Supplied b s) (node : Nat) (ticket : RunTicket) :
    Supplied b (s.grant p node ticket).1 where
  switches key := by
    rw [grant_pool, lastSwitch_grant, Pool.switch?_enableAll, hs.switches, Option.map_map]
    rfl
  begun hnone := by
    rw [lastSwitch_grant] at hnone
    cases hnone

/-- the end of a run by itself leaves the interfaces as they are -/
theorem Supplied.retire {s : Station Λ} (hs : Supplied b s) {node : Nat} {slot : Slot}
    (hslot : s.slot? node = some slot)
    (state : ActionState) : Supplied b (s.retire node slot state) := by
  obtain ⟨hpool, hevents⟩ := retire_pool s node slot state
  refine ⟨by rw [hpool, hevents]; exact hs.switches, fun hnone node' => ?_⟩
  rw [retire_activeRun hslot]
  split
  · rfl
  · exact hs.begun (hevents ▸ hnone) node'

/-- announcements that are neither a start nor a halt -/
theorem Supplied.announce_idle {s : Station Λ} (hs : Supplied b s) (node : Nat) (runId : Option String)
    (ticket : Option RunTicket) : Supplied b ((s.resetDownstream p node runId).announce p node .idle ticket) := by
  have hlast : lastSwitch ((s.resetDownstream p node runId).announce p node .idle ticket).events =
      lastSwitch s.events := by
    rw [lastSwitch_announce, lastSwitch_resetDownstream]
    rfl
  exact ⟨by rw [hlast]; exact hs.switches, by rw [hlast]; exact hs.begun⟩

theorem lastSwitch_reset {s t : Station Λ} {node : Nat} (h : reset p node s = .ok t) :
    lastSwitch t.events = lastSwitch s.events := by
  unfold reset at h
  cases hslot : s.slot node with
  | error e => rw [hslot] at h; cases h
  | ok slot =>
    rw [hslot] at h
    cases h
    rw [lastSwitch_announce, lastSwitch_resetDownstream, (retire_pool s node slot .idle).2]
    rfl

theorem Supplied.reset {s t : Station Λ} (hs : Supplied b s) {node : Nat} (h : reset p node s = .ok t) :
    Supplied b t := by
  unfold Station.reset at h
  cases hslot : s.slot node with
  | error e => rw [hslot] at h; cases h
  | ok slot =>
    rw [hslot] at h
    cases h
    exact (hs.retire (slot_eq_ok_iff.1 hslot) .idle).announce_idle node slot.lastRun none

variable [Link Λ]

/-- disabling all interfaces switches them off and does nothing else -/
theorem disableAll_obeys (s : Station Λ) : (disableAll (Λ := Λ)).Obeys UsesLinks Anything
    (fun t _ => (∀ key, t.bench.pool.switch? key = (s.bench.pool.switch? key).map fun _ => false) ∧
      t.slots = s.slots ∧ t.events = s.events) s := by
  have hpart : (Pool.disableAll.onPart client).Obeys (fun x y : Station Λ × Option Place => UsesLinks x.1 y.1) Anything
      (fun t _ => ∀ key, t.1.bench.pool.switch? key = (s.bench.pool.switch? key).map fun _ => false) (s, none) :=
    (Pool.disableAll_switches ⟨s.bench.pool, none⟩).onPart (fun _ _ => rfl) (fun _ _ h => h.switches)
      (fun _ _ _ => trivial) fun _ _ h => h
  have hoff : (disableAll (Λ := Λ)).Obeys UsesLinks Anything
      (fun t _ => ∀ key, t.bench.pool.switch? key = (s.bench.pool.switch? key).map fun _ => false) s :=
    obeys_bind (hpart.within (fun _ _ _ h => h) (fun _ _ _ _ => trivial) fun _ _ _ h => h)
  have hframe := (disableAll_makes (Λ := Λ)).obeys (returns_trivial _) UsesLinks s
  refine ((hoff.and hframe).stable (I := fun t => t.slots = s.slots ∧ t.events = s.events) ?_ ?_ ⟨rfl, rfl⟩).mono
    (fun _ _ h => h) (fun _ _ _ => trivial) fun t _ h => ⟨h.1.1, h.2⟩
  · exact fun x y hxy hx => ⟨hxy.slots.trans hx.1, hxy.events.trans hx.2⟩
  · rintro x y ⟨-, pool, rfl⟩ hx
    exact hx

/-- the end of a run switches all interfaces off, and that is announced -/
theorem close_supplied {s : Station Λ} (hs : Supplied b s) (node : Nat) (slot : Slot) {state : ActionState}
    (hstate : state.switch? = some false) : (close (Λ := Λ) p node slot state).Obeys UsesLinks Anything
      (fun t _ => Supplied b t ∧ lastSwitch t.events = some false) s := by
  refine obeys_bind ((disableAll_obeys s).imp fun t _ ht => ⟨trivial, ?_⟩)
  obtain ⟨hoff, hslots, hevents⟩ := ht
  have hlast : lastSwitch ((t.resetDownstream p node slot.lastRun).announce p node state
      (slot.active.map Grant.ticket)).events = some false := by
    rw [lastSwitch_announce, hstate]
    rfl
  refine ⟨⟨fun key => ?_, fun hnone => ?_⟩, hlast⟩
  · rw [hlast]
    show t.bench.pool.switch? key = _
    rw [hoff, hs.switches, Option.map_map]
    rfl
  · rw [hlast] at hnone
    cases hnone

theorem halt_supplied {s : Station Λ} (hs : Supplied b s) (node : Nat) {state : ActionState}
    (hstate : state.switch? = some false) : (halt (Λ := Λ) p node state).Obeys UsesLinks Anything
      (fun t r => Supplied b t ∧ (r = .ok () → lastSwitch t.events = some false)) s := by
  refine halt_obeys trivial (fun _ => ⟨hs, fun h => nomatch h⟩) fun slot hslot => ⟨trivial, ?_⟩
  exact (close_supplied (hs.retire hslot state) node slot hstate).imp fun t _ ht => ⟨ht.1, fun _ => ht.2⟩

/-! ## Calls -/

/-- the call halts an action, unless it fails: it stops one, completes a running one or resets a running one -/
def Halts (p : Procedure) (s : Station Λ) : Call → Prop
  | .start _ _ _ _ => False
  | .stop _ => True
  | .reset _ => False
  | .completed t => s.named? t ≠ none
  | .apply _ request =>
    ∃ node, p.action request.normalized.sectionName request.normalized.action = .ok node ∧
      (request.kind = .stop ∨ request.kind = .reset ∧ s.isRunning node = true)

/-- what a call leaves: the interfaces supplied, after a granted start and after a halt as these demand -/
structure Outcome (b : Bench Λ) (halts : Prop) (t : Station Λ) (r : Except Failure (Option Grant)) : Prop where
  supplied : Supplied b t
  granted : ∀ g, r = .ok (some g) → lastSwitch t.events = some true
  halted : halts → ∀ a, r = .ok a → lastSwitch t.events = some false

omit [Link Λ] in
theorem Outcome.error {halts : Prop} {t : Station Λ} (ht : Supplied b t) (e : Failure) : Outcome b halts t (.error e) :=
  ⟨ht, fun _ h => (nomatch h), fun _ _ h => (nomatch h)⟩

section Outcomes

variable {halts : Prop} {s : Station Λ} (hs : Supplied b s)

include hs

omit [Link Λ] in
theorem startCall_outcome (hno : ¬ halts) (node : Nat) (sessionId runId : Option String) (fresh : String) :
    (startCall p node sessionId runId fresh).Obeys UsesLinks Anything (Outcome b halts) s := by
  refine atOnce_obeys (fun e _ => ⟨trivial, .error hs e⟩) fun t r h => ⟨trivial, ?_⟩
  obtain ⟨g, -, hok⟩ := start_call_eq h
  obtain ⟨slot, name, -, -, -, hgrant⟩ := start_eq_ok_iff.1 hok
  cases hgrant
  exact ⟨hs.grant node _, fun _ _ => lastSwitch_grant s p node _, fun hh => absurd hh hno⟩

theorem haltCall_outcome (node : Nat) {state : ActionState} (hstate : state.switch? = some false) :
    ((halt (Λ := Λ) p node state).andThen fun _ => .done (.ok (none : Option Grant))).Obeys UsesLinks Anything
      (Outcome b halts) s := by
  refine obeys_andThen ((halt_supplied hs node hstate).imp fun t r ht => ?_)
  cases r with
  | ok _ => exact ⟨ht.1, fun _ h => (nomatch h), fun _ _ _ => ht.2 rfl⟩
  | error e => exact .error ht.1 e

omit [Link Λ] in
theorem resetCall_outcome (hlast : halts → lastSwitch s.events = some false) (node : Nat) :
    (atOnce fun s : Station Λ => (reset p node s).map fun s => (s, (none : Option Grant))).Obeys UsesLinks Anything
      (Outcome b halts) s := by
  refine atOnce_obeys (fun e _ => ⟨trivial, .error hs e⟩) fun t r h => ⟨trivial, ?_⟩
  cases hr : reset p node s with
  | error e => rw [hr] at h; cases h
  | ok u =>
    rw [hr] at h
    cases h
    refine ⟨hs.reset hr, fun _ h => (nomatch h), fun hh _ _ => ?_⟩
    rw [lastSwitch_reset hr]
    exact hlast hh

/-- a request to reset an action halts it first if it is running -/
theorem haltAndReset_outcome (node : Nat) (hiff : halts → s.isRunning node = true) :
    ((if s.isRunning node then halt (Λ := Λ) p node .stopped else .done (.ok ())).andThen fun _ =>
      atOnce fun s => (reset p node s).map fun s => (s, (none : Option Grant))).Obeys UsesLinks Anything
      (Outcome b halts) s := by
  refine obeys_andThen ?_
  by_cases hrunning : s.isRunning node = true
  · rw [if_pos hrunning]
    refine (halt_supplied hs node rfl).imp fun t r ht => ?_
    cases r with
    | ok _ => exact resetCall_outcome ht.1 (fun _ => ht.2 rfl) node
    | error e => exact .error ht.1 e
  · rw [if_neg hrunning]
    exact resetCall_outcome hs (fun hh => absurd (hiff hh) hrunning) node

end Outcomes

/-- **Each call leaves the interfaces as the last start or halt demands** -/
theorem call_supplied {s : Station Λ} (hs : Supplied b s) (c : Call) :
    (call (Λ := Λ) p c).Obeys UsesLinks Anything (Outcome b (Halts p s c)) s := by
  cases c with
  | start node sessionId runId fresh => exact startCall_outcome hs id node sessionId runId fresh
  | stop node => exact haltCall_outcome hs node rfl
  | reset node => exact resetCall_outcome hs False.elim node
  | completed t =>
    unfold call completed
    refine obeys_andThen (obeys_get_bind trivial ?_)
    split
    · rename_i hnone
      exact ⟨hs, fun _ h => (nomatch h), fun hh => absurd hnone hh⟩
    · refine obeys_andThen ((halt_supplied hs _ rfl).imp fun u r hu => ?_)
      cases r with
      | ok _ => exact ⟨hu.1, fun _ h => (nomatch h), fun _ _ _ => hu.2 rfl⟩
      | error e => exact .error hu.1 e
  | apply fresh request =>
    unfold call apply
    dsimp only
    split
    · exact .error hs _
    · rename_i node hnode
      have hhalts : Halts p s (.apply fresh request) →
          request.kind = .stop ∨ request.kind = .reset ∧ s.isRunning node = true := by
        rintro ⟨node', hnode', h⟩
        rw [hnode] at hnode'
        cases hnode'
        exact h
      split
      · rename_i hkind
        have hkind' : request.kind = .start := hkind
        exact startCall_outcome hs (fun hh => by simpa [hkind'] using hhalts hh) node _ _ fresh
      · exact haltCall_outcome hs node rfl
      · rename_i hkind
        have hkind' : request.kind = .reset := hkind
        exact obeys_get_bind trivial (haltAndReset_outcome hs node fun hh => by simpa [hkind'] using hhalts hh)

/-! ## Histories -/

/-- what calls can lead to, each begun after the one before has ended, while interfaces are used at any time -/
inductive History (p : Procedure) (b : Bench Λ) : Station Λ → Prop
  | begin {s : Station Λ} (h : Begun p b s) : History p b s
  | call {s t : Station Λ} {r : Except Failure (Option Grant)} (h : History p b s) (c : Call)
    (hc : (call p c).Yields UsesLinks s t r) : History p b t
  | uses {s t : Station Λ} (h : History p b s) (ht : UsesLinks s t) : History p b t

theorem History.supplied {s : Station Λ} (h : History p b s) : Supplied b s := by
  induction h with
  | begin h => exact h.supplied
  | call _ c hc ih => exact ((call_supplied ih c).of_yields hc).supplied
  | uses _ ht ih => exact ht.supplied ih

omit [Link Λ] in
theorem Supplied.isEnabled {s : Station Λ} (hs : Supplied b s) {name : String}
    (h : s.bench.pool.contains name = true) :
    s.bench.pool.isEnabled name = (lastSwitch s.events).getD (b.pool.isEnabled name) := by
  rw [Pool.contains_eq, hs.switches, Option.isSome_map] at h
  obtain ⟨on, hon⟩ := Option.isSome_iff_exists.1 h
  rw [Pool.isEnabled_eq, Pool.isEnabled_eq, hs.switches, hon]
  rfl

/-- **Interfaces follow the last start or halt of any action.** In every state that calls lead to, the registered
interfaces are those of the beginning; while an action runs, a start or a halt has been announced; each interface is
enabled iff the last of these was a start; and so after the next call, a granted start leaves all interfaces enabled,
and a halt of whichever action leaves all of them disabled. -/
theorem interfaces_follow_last_transition (p : Procedure) (b : Bench Λ) {s : Station Λ} (h : History p b s) :
    (∀ name, s.bench.pool.contains name = b.pool.contains name) ∧
    (∀ node, s.isRunning node = true → lastSwitch s.events ≠ none) ∧
    (∀ name, s.bench.pool.contains name = true →
      s.bench.pool.isEnabled name = (lastSwitch s.events).getD (b.pool.isEnabled name)) ∧
    ∀ c t r, (call p c).Yields UsesLinks s t r →
      (∀ g, r = .ok (some g) → lastSwitch t.events = some true ∧
        ∀ name, t.bench.pool.contains name = true → t.bench.pool.isEnabled name = true) ∧
      (Halts p s c → ∀ a, r = .ok a → lastSwitch t.events = some false ∧
        ∀ name, t.bench.pool.contains name = true → t.bench.pool.isEnabled name = false) := by
  have hs := h.supplied
  refine ⟨fun name => ?_, fun node hrunning hnone => ?_, fun name => hs.isEnabled, fun c t r hc => ?_⟩
  · rw [Pool.contains_eq, Pool.contains_eq, hs.switches, Option.isSome_map]
  · obtain ⟨g, hg⟩ := isRunning_iff.1 hrunning
    rw [hs.begun hnone node] at hg
    cases hg
  · have ht := (call_supplied hs c).of_yields hc
    have hlast (on : Bool) (hon : lastSwitch t.events = some on) (name : String)
        (hname : t.bench.pool.contains name = true) : t.bench.pool.isEnabled name = on := by
      rw [ht.supplied.isEnabled hname, hon]
      rfl
    exact ⟨fun g hg => ⟨ht.granted g hg, hlast true (ht.granted g hg)⟩,
      fun hh a ha => ⟨ht.halted hh a ha, hlast false (ht.halted hh a ha)⟩⟩

/-! ## Two actions and an interface -/

omit [Link Λ]

def twoActions : Procedure := ⟨[
  { id := "s1", type := NodeType.sectionConfiguration.name, name := "DC", shortName := some "dcv" },
  { id := "a1", type := NodeType.actionStart.name, name := "Verify", sectionId := some "s1" },
  { id := "a2", type := NodeType.actionStart.name, name := "Adjust", sectionId := some "s1" }]⟩

def oneInterface : Bench Emulated := { pool := (Pool.register {} { name := "bench" }).toOption.getD {} }

def request (kind : Trigger) (action : String) : Call := .apply "run" { kind, sectionName := "dcv", action }

/-- the station of the two actions after a call that nobody gets in the way of -/
def told (s : Station Emulated) (c : Call) : Station Emulated := ((call twoActions c).alone s).state

theorem told_yields {s : Station Emulated} {c : Call} {r : Except Failure (Option Grant)}
    (h : ((call twoActions c).alone s).result? = some r) : (call twoActions c).Yields UsesLinks s (told s c) r :=
  yields_of_result (fun _ => ⟨rfl, rfl, rfl⟩) h

def oneStarted : Station Emulated := told (ofProcedure twoActions oneInterface) (request .start "verify")

def bothStarted : Station Emulated := told oneStarted (request .start "adjust")

def oneStopped : Station Emulated := told bothStarted (request .stop "verify")

theorem oneStarted_yields : (call twoActions (request .start "verify")).Yields UsesLinks
    (ofProcedure twoActions oneInterface) oneStarted (.ok (some ⟨1, ⟨"", "run", "dcv", "Verify"⟩, 0⟩)) :=
  told_yields (by decide +kernel)

theorem bothStarted_yields : (call twoActions (request .start "adjust")).Yields UsesLinks oneStarted bothStarted
    (.ok (some ⟨2, ⟨"", "run", "dcv", "Adjust"⟩, 1⟩)) :=
  told_yields (by decide +kernel)

theorem oneStopped_yields : (call twoActions (request .stop "verify")).Yields UsesLinks bothStarted oneStopped
    (.ok none) :=
  told_yields (by decide +kernel)

theorem history_oneStarted : History twoActions oneInterface oneStarted :=
  (History.begin (begun_ofProcedure twoActions oneInterface)).call _ oneStarted_yields

theorem history_bothStarted : History twoActions oneInterface bothStarted :=
  history_oneStarted.call _ bothStarted_yields

theorem history_oneStopped : History twoActions oneInterface oneStopped := history_bothStarted.call _ oneStopped_yields

theorem History.contains_bench {s : Station Emulated} (h : History twoActions oneInterface s) :
    s.bench.pool.contains "bench" = true := by
  rw [Pool.contains_eq, h.supplied.switches, Option.isSome_map, ← Pool.contains_eq]
  decide +kernel

theorem isRunning_oneStopped : oneStopped.isRunning 2 = true := by decide +kernel

/-- **The second start leaves the interface enabled, and one stop disables it**, though the other action runs on -/
theorem supplied_then_cut_off :
    History twoActions oneInterface bothStarted ∧ bothStarted.bench.pool.isEnabled "bench" = true ∧
    History twoActions oneInterface oneStopped ∧ oneStopped.bench.pool.isEnabled "bench" = false ∧
    oneStopped.isRunning 2 = true ∧ lastSwitch oneStopped.events ≠ none := by
  obtain ⟨-, -, -, hstart⟩ := interfaces_follow_last_transition twoActions oneInterface history_oneStarted
  obtain ⟨-, -, -, hstop⟩ := interfaces_follow_last_transition twoActions oneInterface history_bothStarted
  obtain ⟨-, hbegun, -, -⟩ := interfaces_follow_last_transition twoActions oneInterface history_oneStopped
  have hgranted := (hstart _ _ _ bothStarted_yields).1 _ rfl
  have hhalted := (hstop _ _ _ oneStopped_yields).2 ⟨1, by decide +kernel, .inl rfl⟩ none rfl
  exact ⟨history_bothStarted, hgranted.2 "bench" history_bothStarted.contains_bench, history_oneStopped,
    hhalted.2 "bench" history_oneStopped.contains_bench, isRunning_oneStopped, hbegun 2 isRunning_oneStopped⟩

/-- **A running action can lose its links**: it is not so that all interfaces are enabled while an action runs -/
theorem running_action_loses_links :
    ¬ ∀ (p : Procedure) (b : Bench Emulated) (s : Station Emulated), History p b s →
      (∃ node, s.isRunning node = true) → ∀ name, s.bench.pool.contains name = true →
        s.bench.pool.isEnabled name = true := by
  intro h
  have hon := h twoActions oneInterface oneStopped history_oneStopped ⟨2, isRunning_oneStopped⟩ "bench"
    history_oneStopped.contains_bench
  exact absurd hon (by decide +kernel)

end Station

end CalBench
