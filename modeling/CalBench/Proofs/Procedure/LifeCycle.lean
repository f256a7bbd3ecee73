/-
The life cycle of an action.

An action is idle until it is started, runs until it is stopped or complete, and is idle again after a reset. `InCycle`
says which changes of the state of an action these are, and by which call. Every change that calls make is one of them,
but for one more (`Stray`): a stop does not ask whether the action has a run. An action that was never started, or whose
last run is complete, is stopped by it all the same, and is not known as complete any more.

- `halt_changes`: a halt changes the state of its action, and nothing else, before it waits;
- `startCall_changes`, `stop_changes`, `reset_changes`, `completed_changes`, `apply_changes`: the changes that each call
  makes;
- `enter_stop`: a stop of an action that is bound to a section leaves it stopped, whatever its state.

Results:
- `state_changes`: the changes of states over any calls, one after the other or overlapping.
Witnesses:
- `complete_action_is_stopped`: the action of a complete run, and of none;
- `stops_leave_the_cycle`: it is not so that all changes are in the cycle.
-/
import CalBench.Proofs.Procedure.RunSlot

namespace CalBench

open Proc

/-- a process is seen through to its end or its next wait -/
theorem Floor.enter_state {σ α : Type} (f : Floor σ α) (q : Proc σ α) : (f.enter q).state = (q.advance f.state).1 := by
  unfold Floor.enter
  split
  · rename_i h; rw [h]
  · rename_i h; rw [h]

namespace Station

variable {Λ : Type} {p : Procedure} {s t : Station Λ} {c : Call} {node : Nat}

/-! ## What calls ask for -/

/-- a call asks for an action to be started, stopped or reset, by its position or by its names -/
inductive Asks (p : Procedure) (node : Nat) : Trigger → Call → Prop
  | start (sessionId runId : Option String) (fresh : String) : Asks p node .start (.start node sessionId runId fresh)
  | stop : Asks p node .stop (.stop node)
  | reset : Asks p node .reset (.reset node)
  | request (fresh : String) {kind : Trigger} {r : TriggerRequest} (hkind : r.kind = kind)
    (h : p.action r.normalized.sectionName r.normalized.action = .ok node) : Asks p node kind (.apply fresh r)

/-- a call may stop an action: it asks for that, or it is a request that resets the action, which is stopped first -/
def MayStop (p : Procedure) (node : Nat) (c : Call) : Prop :=
  Asks p node .stop c ∨ ∃ fresh r, c = .apply fresh r ∧ Asks p node .reset c

/-- a change of the state of an action in the course of a call, as the life cycle has it -/
inductive InCycle (p : Procedure) (c : Call) (s t : Station Λ) (node : Nat) : Prop
  | started (g : Grant) (hc : Asks p node .start c) (hg : Granted g s t) (hnode : g.node = node)
    (hs : s.stateOf node ≠ .running) (ht : t.stateOf node = .running)
  | stopped (hc : MayStop p node c) (hs : s.stateOf node = .running) (ht : t.stateOf node = .stopped)
  /-- a run is complete, and the completion has its names in some letter case -/
  | completed (ticket : RunTicket) (g : Grant) (hc : c = .completed ticket) (hg : s.activeRun node = some g)
    (hsection : Text.sameIgnoringCase g.ticket.sectionName ticket.sectionName = true)
    (haction : Text.sameIgnoringCase g.ticket.action ticket.action = true)
    (hs : s.stateOf node = .running) (ht : t.stateOf node = .completed)
  | reset (hc : Asks p node .reset c) (ht : t.stateOf node = .idle)

/-- an action that is not running is stopped -/
structure Stray (p : Procedure) (c : Call) (s t : Station Λ) (node : Nat) : Prop where
  asked : Asks p node .stop c
  before : s.activeRun node = none
  idle : s.stateOf node ≠ .running
  after : t.stateOf node = .stopped

/-- what a call may do to the states of the actions -/
def Changes (p : Procedure) (c : Call) (s t : Station Λ) : Prop :=
  ∀ node, t.stateOf node = s.stateOf node ∨ InCycle p c s t node ∨ Stray p c s t node

/-! ## States after a move -/

theorem SameRuns.stateOf (h : SameRuns s t) (node : Nat) : t.stateOf node = s.stateOf node := by
  unfold Station.stateOf
  rw [h.slot?]

theorem SameRuns.changes (h : SameRuns s t) : Changes p c s t := fun node => .inl (h.stateOf node)

theorem stateOf_of_slots {slot slot' : Slot} (hslot : s.slot? node = some slot)
    (h : t.slots = (s.setSlot node slot').slots) (node' : Nat) :
    t.stateOf node' = if node' = node then slot'.state else s.stateOf node' := by
  unfold Station.stateOf
  rw [slot?_of_slots hslot h]
  split <;> rfl

theorem retire_stateOf {slot : Slot} (hslot : s.slot? node = some slot) (state : ActionState) (node' : Nat) :
    (s.retire node slot state).stateOf node' = if node' = node then state else s.stateOf node' :=
  stateOf_of_slots hslot (retire_slots s node slot state) node'

/-- the run of an action ends in a state; what is to be shown is only about that action -/
theorem changes_of_retire {slot : Slot} {state : ActionState} (hslot : s.slot? node = some slot)
    (h : SameRuns (s.retire node slot state) t)
    (hnode : t.stateOf node = state → InCycle p c s t node ∨ Stray p c s t node) : Changes p c s t := by
  intro node'
  have ht := (h.stateOf node').trans (retire_stateOf hslot state node')
  by_cases hn : node' = node
  · subst hn
    rw [if_pos rfl] at ht
    exact .inr (hnode ht)
  · rw [if_neg hn] at ht
    exact .inl ht

theorem Sound.running_iff (h : Sound p s) (node : Nat) : s.stateOf node = .running ↔ ∃ g, s.activeRun node = some g :=
  (h.state_iff node).trans isRunning_iff

theorem Sound.not_running (h : Sound p s) (hnone : s.activeRun node = none) : s.stateOf node ≠ .running := by
  intro hs
  obtain ⟨g, hg⟩ := (h.running_iff node).1 hs
  rw [hnone] at hg
  cases hg

/-! ## Calls -/

theorem startCall_changes (hs : Sound p s) (hc : Asks p node .start c) (sessionId runId : Option String)
    (fresh : String) :
    (startCall p node sessionId runId fresh).Obeys Anything (Changes p c) (fun _ _ => True) s := by
  refine atOnce_obeys (fun e _ => ⟨(SameRuns.refl s).changes, trivial⟩) fun t r h => ⟨?_, trivial⟩
  obtain ⟨g, -, hstart⟩ := start_call_eq h
  have hgranted := start_granted hstart
  obtain ⟨slot, name, hslot, hidle, -, hgrant⟩ := start_eq_ok_iff.1 hstart
  have hnode : g.node = node := (congrArg (fun x => x.2.node) hgrant).symm
  have hnone : s.activeRun node = none := by rw [activeRun, hslot, Option.bind_some, hidle]
  intro node'
  have ht := stateOf_of_slots (hnode.symm ▸ hslot) hgranted.slots node'
  by_cases hn : node' = g.node
  · rw [if_pos hn] at ht
    rw [hnode] at hn
    subst hn
    exact .inr (.inl (.started g hc hgranted hnode (hs.not_running hnone) ht))
  · rw [if_neg hn] at ht
    exact .inl ht

variable [Link Λ]

/-- a halt changes the state of its action before it waits, and nothing afterwards -/
theorem halt_changes {state : ActionState} {post : Station Λ → Except Failure Unit → Prop}
    (h : ∀ slot, s.slot? node = some slot → (s.retire node slot state).stateOf node = state →
      InCycle p c s (s.retire node slot state) node ∨ Stray p c s (s.retire node slot state) node)
    (hpost : ∀ t r, post t r) : (halt p node state).Obeys Anything (Changes p c) post s := by
  refine halt_obeys (SameRuns.refl s).changes (fun f => hpost s _) fun slot hslot => ?_
  refine ⟨changes_of_retire hslot (.refl _) (h slot hslot), ?_⟩
  exact (close_makes p node slot state _).mono (fun _ _ hx => hx) (fun _ _ hx => hx.changes) fun t _ _ => hpost t _

theorem stop_changes (hs : Sound p s) (hc : Asks p node .stop c) :
    ((halt p node .stopped).andThen fun _ => .done (.ok (none : Option Grant))).Obeys Anything (Changes p c)
      (fun _ _ => True) s := by
  refine obeys_andThen (halt_changes (fun slot _ ht => ?_) fun t r => by cases r <;> trivial)
  cases hactive : s.activeRun node with
  | some g => exact .inl (.stopped (.inl hc) ((hs.running_iff node).2 ⟨g, hactive⟩) ht)
  | none => exact .inr ⟨hc, hactive, hs.not_running hactive, ht⟩

omit [Link Λ] in
theorem reset_changes (hc : Asks p node .reset c) (s : Station Λ) :
    (atOnce fun s : Station Λ => (reset p node s).map fun s => (s, (none : Option Grant))).Obeys Anything (Changes p c)
      (fun _ _ => True) s := by
  refine atOnce_obeys (fun e _ => ⟨(SameRuns.refl s).changes, trivial⟩) fun t r h => ⟨?_, trivial⟩
  unfold reset at h
  cases hslot : s.slot node with
  | error e => rw [hslot] at h; cases h
  | ok slot =>
    rw [hslot] at h
    cases h
    refine changes_of_retire (slot_eq_ok_iff.1 hslot) (?_ : SameRuns (s.retire node slot .idle) _) fun ht => ?_
    · exact ⟨rfl, rfl⟩
    · exact .inl (.reset hc ht)

theorem completed_changes (hs : Sound p s) {ticket : RunTicket} (hc : c = .completed ticket) :
    ((completed p ticket).andThen fun _ => .done (.ok (none : Option Grant))).Obeys Anything (Changes p c)
      (fun _ _ => True) s := by
  refine obeys_andThen (obeys_get_bind (SameRuns.refl s).changes ?_)
  split
  · trivial
  · rename_i node hnamed
    obtain ⟨g, hg, hsection, haction⟩ := runsAs_of_named hs.nodes hnamed
    refine obeys_andThen (halt_changes (fun slot _ ht => ?_) fun t r => by cases r <;> trivial)
    exact .inl (.completed ticket g hc hg hsection haction ((hs.running_iff node).2 ⟨g, hg⟩) ht)

theorem apply_changes (hs : Sound p s) (fresh : String) (request : TriggerRequest) :
    (apply p fresh request).Obeys Anything (Changes p (.apply fresh request)) (fun _ _ => True) s := by
  unfold apply
  dsimp only
  split
  · trivial
  · rename_i node haction
    have hask : ∀ kind, request.normalized.kind = kind → Asks p node kind (.apply fresh request) :=
      fun kind hkind => .request (r := request) fresh hkind haction
    split
    · rename_i hkind
      exact startCall_changes hs (hask _ hkind) _ _ fresh
    · rename_i hkind
      exact stop_changes hs (hask _ hkind)
    · rename_i hkind
      have hc := hask _ hkind
      refine obeys_get_bind (SameRuns.refl s).changes (obeys_andThen ?_)
      split
      · rename_i hrunning
        refine halt_changes (fun slot _ ht => ?_) fun t x => ?_
        · exact .inl (.stopped (.inr ⟨fresh, request, rfl, hc⟩) ((hs.state_iff node).2 hrunning) ht)
        · cases x with
          | ok _ => exact reset_changes hc t
          | error e => trivial
      · exact reset_changes hc s

theorem call_changes (hs : Sound p s) (c : Call) :
    (call p c).Obeys Anything (Changes p c) (fun _ _ => True) s := by
  cases c with
  | start node sessionId runId fresh => exact startCall_changes hs (.start sessionId runId fresh) _ _ _
  | stop node => exact stop_changes hs .stop
  | reset node => exact reset_changes .reset s
  | completed ticket => exact completed_changes hs rfl
  | apply fresh r => exact apply_changes hs fresh r

/-- **A stop leaves an action stopped, whatever its state was** -/
theorem enter_stop {f : Desk Λ} (hs : Sound p f.state) (hnode : p.BoundAction node) :
    (f.enter (call p (.stop node))).state.stateOf node = .stopped := by
  obtain ⟨hlt, haction, id, sec, name, hid, hsec, hkind, hshort⟩ := hnode
  obtain ⟨slot, hslot⟩ := Option.isSome_iff_exists.1
    ((hs.slot?_isSome_iff node).2 (Procedure.mem_ofType_iff.2 ⟨hlt, haction⟩))
  have hname := Procedure.sectionName?_eq_some_iff.2 ⟨id, sec, hid, hsec, hkind, hshort⟩
  -- after the run has ended nothing changes the states any more
  have hrest : (((close (Λ := Λ) p node slot .stopped).bind fun _ => .done (.ok ())).andThen fun _ =>
      .done (.ok (none : Option Grant)) : Fallible (Station Λ) Failure (Option Grant)).Makes SameRuns :=
    makes_andThen (makes_bind (close_makes p node slot .stopped) fun _ => makes_done _) fun _ => makes_done _
  have hadvance : (call p (.stop node)).advance f.state =
      (((close p node slot .stopped).bind fun _ => .done (.ok ())).andThen fun _ =>
        .done (.ok (none : Option Grant))).advance (f.state.retire node slot .stopped) := by
    show ((halt p node .stopped).andThen _).advance f.state = _
    rw [halt_eq, andThen, bind_assoc, advance_get_bind, slot_eq_ok_iff.2 hslot, sectionName, hname]
    rfl
  rw [Floor.enter_state, hadvance]
  obtain ⟨hchain, -⟩ := (hrest (f.state.retire node slot .stopped)).advance fun _ => trivial
  have hkept : ∀ t, Relation.ReflTransGen SameRuns (f.state.retire node slot .stopped) t →
      t.stateOf node = .stopped := by
    intro t ht
    induction ht with
    | refl => rw [retire_stateOf hslot, if_pos rfl]
    | tail _ hm ih => rw [hm.stateOf, ih]
  exact hkept _ hchain

/-- **The changes of states over any calls, one after the other or overlapping.** Every change that a call makes is in
the cycle, whatever the others do while it waits, but for those of a stop that meets no run. And every stop of an action
that is bound to a section leaves it stopped, also if it was never started or its last run is complete. -/
theorem state_changes (p : Procedure) (b : Bench Λ) {f : Desk Λ} (h : Reached p b f) :
    (∀ c, (call p c).Obeys Anything
      (fun s t => ∀ node, t.stateOf node = s.stateOf node ∨ InCycle p c s t node ∨ Stray p c s t node)
      (fun _ _ => True) f.state) ∧
    ∀ node, p.BoundAction node → (f.enter (call p (.stop node))).state.stateOf node = .stopped :=
  ⟨call_changes h.inOrder.sound, fun _ hnode => enter_stop h.inOrder.sound hnode⟩

def untouched : Desk Emulated := { state := ofProcedure oneAction {} }

def finished : Desk Emulated :=
  (untouched.enter (call oneAction (.start 1 none (some "r1") ""))).enter
    (call oneAction (.completed ⟨"", "r1", "dcv", "Verify"⟩))

omit [Link Λ] in
theorem reached_finished : Reached oneAction {} finished :=
  ((Reached.begin oneAction {}).enter (.start 1 none (some "r1") "")).enter (.completed ⟨"", "r1", "dcv", "Verify"⟩)

omit [Link Λ] in
theorem oneAction_bound : oneAction.BoundAction 1 :=
  ⟨by decide, by decide, "s1", 0, "dcv", by decide, by decide, by decide, by decide⟩

omit [Link Λ] in
/-- **A stop makes a complete action a stopped one**, and likewise one that has not been started -/
theorem complete_action_is_stopped :
    (Reached oneAction {} finished ∧ oneAction.BoundAction 1 ∧ finished.state.activeRun 1 = none ∧
      finished.state.stateOf 1 = .completed ∧
      (finished.enter (call oneAction (.stop 1))).state.stateOf 1 = .stopped) ∧
    Reached oneAction {} untouched ∧ untouched.state.stateOf 1 = .idle ∧
      (untouched.enter (call oneAction (.stop 1))).state.stateOf 1 = .stopped :=
  ⟨⟨reached_finished, oneAction_bound, by decide +kernel, by decide +kernel,
      (state_changes oneAction {} reached_finished).2 1 oneAction_bound⟩,
    .begin oneAction {}, by decide +kernel, (state_changes oneAction {} (.begin oneAction {})).2 1 oneAction_bound⟩

omit [Link Λ] in
/-- **The cycle is left**: it is not so that every change of a call is in it -/
theorem stops_leave_the_cycle :
    ¬ ∀ (p : Procedure) (b : Bench Emulated) (f : Desk Emulated), Reached p b f → ∀ c, (call p c).Obeys Anything
      (fun s t => ∀ node, t.stateOf node = s.stateOf node ∨ InCycle p c s t node) (fun _ _ => True) f.state := by
  intro h
  obtain ⟨hchain, -⟩ := (h oneAction {} finished reached_finished (.stop 1)).advance fun _ => trivial
  -- no change in the cycle that a stop makes leads away from a complete run
  have hkept : ∀ t, Relation.ReflTransGen (fun s t : Station Emulated => ∀ node, t.stateOf node = s.stateOf node ∨
      InCycle oneAction (.stop 1) s t node) finished.state t → t.stateOf 1 = .completed := by
    intro t ht
    induction ht with
    | refl => decide +kernel
    | tail _ hm ih =>
      rcases hm 1 with hsame | hcycle
      · rw [hsame, ih]
      · cases hcycle with
        | started g hc => cases hc
        | stopped _ hs => cases ih.symm.trans hs
        | completed ticket g hc => cases hc
        | reset hc => cases hc
  have hend := hkept _ hchain
  rw [← Floor.enter_state, enter_stop reached_finished.inOrder.sound oneAction_bound] at hend
  cases hend

end Station

end CalBench
