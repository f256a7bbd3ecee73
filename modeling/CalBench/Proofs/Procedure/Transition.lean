/-
What calls on a station do to the actions.

A station is told to `start`, to stop, to `reset` or to take a completion, or it gets a request that comes to one of
these: a `Call`. Whatever a call does, each of its changes is one of three `Moves`: it leaves the actions and their
stop signals alone, it grants a run to an action that has none, or it ends the run of an action and raises its signal.
Everything that is said about actions over any history is derived from this list.

Results:
- `start_eq_ok_iff`: when a start succeeds, and what it does then;
- `halt_eq`, `close_makes`: after the run has ended a halt only disables interfaces and announces the state;
- `call_makes`: each change of a call is one of the moves;
- `apply_cases`, `call_cases`: a request or another call is a start, which does not wait, or it grants nothing.
-/
import CalBench.Procedure.Station
import CalBench.Proofs.Process.Floor

namespace CalBench

open Proc

namespace Station

variable {Λ : Type}

/-! ## Slots -/

def activeRun (s : Station Λ) (node : Nat) : Option Grant := (s.slot? node).bind Slot.active

theorem slot?_setSlot (s : Station Λ) (node node' : Nat) (slot : Slot) :
    (s.setSlot node slot).slot? node' = if node' = node then (s.slot? node).map fun _ => slot else s.slot? node' := by
  have hkey : ∀ e : Nat × Slot, (if e.1 == node then (node, slot) else e).1 = e.1 := by
    intro e
    by_cases h : e.1 = node <;> simp [h]
  simp only [slot?, setSlot, List.find?_map, Function.comp_def, hkey]
  by_cases hn : node' = node
  · subst hn
    cases hf : s.slots.find? fun e => e.1 == node' with
    | none => simp
    | some e =>
      have he : e.1 = node' := by simpa using List.find?_some hf
      simp [he]
  · cases hf : s.slots.find? fun e => e.1 == node' with
    | none => simp [hn]
    | some e =>
      have he : e.1 = node' := by simpa using List.find?_some hf
      simp [he, hn]

theorem slot_eq_ok_iff {s : Station Λ} {node : Nat} {slot : Slot} :
    s.slot node = .ok slot ↔ s.slot? node = some slot := by
  unfold Station.slot
  cases s.slot? node <;> simp

theorem isRunning_iff {s : Station Λ} {node : Nat} : s.isRunning node = true ↔ ∃ g, s.activeRun node = some g := by
  unfold isRunning activeRun
  cases s.slot? node with
  | none => simp
  | some slot => simp [Option.isSome_iff_exists]

/-! ## Changes -/

/-- the actions and their stop signals are as they were -/
structure SameRuns (s t : Station Λ) : Prop where
  slots : t.slots = s.slots
  signals : t.bench.signals = s.bench.signals

theorem SameRuns.refl (s : Station Λ) : SameRuns s s := ⟨rfl, rfl⟩

theorem SameRuns.slot? {s t : Station Λ} (h : SameRuns s t) (node : Nat) : t.slot? node = s.slot? node := by
  unfold Station.slot?
  rw [h.slots]

/-- only the pool has changed -/
def PoolOnly (s t : Station Λ) : Prop := ∃ pool, t = s.onBench fun b => { b with pool }

theorem PoolOnly.sameRuns {s t : Station Λ} (h : PoolOnly s t) : SameRuns s t := by
  obtain ⟨pool, rfl⟩ := h
  exact ⟨rfl, rfl⟩

/-- the slot of an action that has got a run -/
def runningSlot (g : Grant) : Slot := { state := .running, active := some g, lastRun := some g.ticket.runId }

/-- an action without a run has got one, with a signal of its own -/
structure Granted (g : Grant) (s t : Station Λ) : Prop where
  idle : ∃ slot, s.slot? g.node = some slot ∧ slot.active = none
  fresh : g.signal = s.bench.signals.length
  slots : t.slots = (s.setSlot g.node (runningSlot g)).slots
  signals : t.bench.signals = s.bench.signals ++ [false]

/-- what one change may do to the actions and their stop signals -/
inductive Moves (s t : Station Λ) : Prop
  | aside (h : SameRuns s t)
  | grants (g : Grant) (h : Granted g s t)
  | retires (node : Nat) (slot : Slot) (state : ActionState) (hslot : s.slot? node = some slot)
    (hstate : state ≠ .running) (h : SameRuns (s.retire node slot state) t)

theorem retire_slots (s : Station Λ) (node : Nat) (slot : Slot) (state : ActionState) :
    (s.retire node slot state).slots = (s.setSlot node { slot with state, active := none }).slots := by
  unfold retire
  cases slot.active <;> rfl

theorem retire_signals (s : Station Λ) (node : Nat) (slot : Slot) (state : ActionState) :
    (s.retire node slot state).bench.signals = match slot.active with
      | some g => s.bench.signals.set g.signal true
      | none => s.bench.signals := by
  unfold retire
  cases slot.active <;> rfl

theorem retire_pool (s : Station Λ) (node : Nat) (slot : Slot) (state : ActionState) :
    (s.retire node slot state).bench.pool = s.bench.pool ∧ (s.retire node slot state).events = s.events := by
  unfold retire
  cases slot.active <;> exact ⟨rfl, rfl⟩

/-! ## Starts -/

/-- **When a start succeeds**: the node is an action with a named section and without a run -/
theorem start_eq_ok_iff {p : Procedure} {node : Nat} {sessionId runId : Option String} {fresh : String}
    {s t : Station Λ} {g : Grant} :
    start p node sessionId runId fresh s = .ok (t, g) ↔
      ∃ slot name, s.slot? node = some slot ∧ slot.active = none ∧ p.sectionName? node = some name ∧
        s.grant p node { sessionId := sessionId.getD "", runId := runId.getD fresh, sectionName := name,
                         action := (p.node node).name } = (t, g) := by
  unfold start Station.slot sectionName
  cases hslot : s.slot? node with
  | none => simp [Bind.bind, Except.bind]
  | some slot =>
    cases hname : p.sectionName? node with
    | none => simp [Bind.bind, Except.bind]
    | some name =>
      cases hactive : slot.active with
      | none => simp [Bind.bind, Except.bind, hactive, Pure.pure, Except.pure]
      | some run => simp [Bind.bind, Except.bind, hactive]

theorem start_granted {p : Procedure} {node : Nat} {sessionId runId : Option String} {fresh : String}
    {s t : Station Λ} {g : Grant} (h : start p node sessionId runId fresh s = .ok (t, g)) : Granted g s t := by
  obtain ⟨slot, name, hslot, hidle, -, hgrant⟩ := start_eq_ok_iff.1 h
  cases hgrant
  exact ⟨⟨slot, hslot, hidle⟩, rfl, rfl, rfl⟩

/-! ## Halts -/

variable [Link Λ]

/-- what a halt does after the run has ended -/
def close (p : Procedure) (node : Nat) (slot : Slot) (state : ActionState) : Proc (Station Λ) Unit :=
  disableAll.bind fun _ => .update fun s =>
    (s.resetDownstream p node slot.lastRun).announce p node state (slot.active.map Grant.ticket)

theorem halt_eq (p : Procedure) (node : Nat) (state : ActionState) :
    halt (Λ := Λ) p node state = Proc.get.bind fun s => match s.slot node, sectionName p node with
      | .error f, _ => .done (.error f)
      | .ok _, .error f => .done (.error f)
      | .ok slot, .ok _ =>
        (Proc.update (retire node slot state)).bind fun _ =>
          (close p node slot state).bind fun _ => .done (.ok ()) := by
  unfold halt close
  congr 1
  funext s
  cases s.slot node with
  | error f => rfl
  | ok slot =>
    cases sectionName p node with
    | error f => rfl
    | ok name => simp only [Proc.bind_assoc]

theorem disableAll_makes : (disableAll : Proc (Station Λ) Unit).Makes PoolOnly := by
  have hpart : (Pool.disableAll.onPart client).Makes fun x y : Station Λ × Option Place => PoolOnly x.1 y.1 :=
    makes_onPart (fun c t => ⟨c.pool, rfl⟩) _
  exact makes_bind (makes_within hpart (fun _ _ _ h => h) none) fun _ => makes_done _

/-- after the run has ended, a halt leaves the actions and their signals alone -/
theorem close_makes (p : Procedure) (node : Nat) (slot : Slot) (state : ActionState) :
    (close (Λ := Λ) p node slot state).Makes SameRuns :=
  makes_bind (disableAll_makes.mono fun _ _ h => h.sameRuns) fun _ => makes_update fun _ => ⟨rfl, rfl⟩

/-- a halt fails at once, or ends the run and closes -/
theorem halt_obeys {p : Procedure} {node : Nat} {state : ActionState} {theirs mine : Station Λ → Station Λ → Prop}
    {post : Station Λ → Except Failure Unit → Prop} {s : Station Λ} (hrefl : mine s s) (hfail : ∀ f, post s (.error f))
    (hretire : ∀ slot, s.slot? node = some slot → mine s (s.retire node slot state) ∧
      (close p node slot state).Obeys theirs mine (fun t _ => post t (.ok ())) (s.retire node slot state)) :
    (halt p node state).Obeys theirs mine post s := by
  rw [halt_eq]
  refine obeys_get_bind hrefl ?_
  split
  · exact hfail _
  · exact hfail _
  · rename_i slot _ hslot _
    obtain ⟨hm, hclose⟩ := hretire slot (slot_eq_ok_iff.1 hslot)
    exact obeys_update_bind hm (obeys_bind hclose)

theorem halt_makes (p : Procedure) (node : Nat) {state : ActionState} (hstate : state ≠ .running) :
    (halt (Λ := Λ) p node state).Makes Moves := by
  intro s
  refine halt_obeys (.aside (.refl s)) (fun _ => trivial) fun slot hslot => ?_
  have hclose := (close_makes (Λ := Λ) p node slot state).mono fun _ _ h => Moves.aside h
  exact ⟨.retires node slot state hslot hstate (.refl _), hclose _⟩

theorem completed_makes (p : Procedure) (t : RunTicket) : (completed (Λ := Λ) p t).Makes Moves := by
  refine makes_get_bind (fun s => .aside (.refl s)) fun s => ?_
  split
  · exact makes_done _
  · exact makes_andThen (halt_makes p _ (by decide)) fun _ => makes_done _

omit [Link Λ] in
/-- a transition that happens at once succeeds, or leaves the station alone -/
theorem atOnce_obeys {α : Type} {f : Station Λ → Except Failure (Station Λ × α)}
    {theirs mine : Station Λ → Station Λ → Prop} {post : Station Λ → Except Failure α → Prop} {s : Station Λ}
    (herror : ∀ e, f s = .error e → mine s s ∧ post s (.error e))
    (hok : ∀ t a, f s = .ok (t, a) → mine s t ∧ post t (.ok a)) : (atOnce f).Obeys theirs mine post s := by
  unfold atOnce Proc.step
  simp only [Obeys]
  cases hf : f s with
  | error e => exact herror e hf
  | ok r => exact hok r.1 r.2 hf

omit [Link Λ] in
theorem reset_moves {p : Procedure} {node : Nat} {s t : Station Λ} (h : reset p node s = .ok t) : Moves s t := by
  unfold reset at h
  cases hslot : s.slot node with
  | error e => rw [hslot] at h; cases h
  | ok slot =>
    rw [hslot] at h
    cases h
    exact .retires node slot .idle (slot_eq_ok_iff.1 hslot) (by decide) ⟨rfl, rfl⟩

omit [Link Λ] in
/-- a reset, as a process -/
theorem atOnce_reset_makes (p : Procedure) (node : Nat) :
    (atOnce fun s : Station Λ => (reset p node s).map fun s => (s, (none : Option Grant))).Makes Moves := by
  intro s
  refine atOnce_obeys (fun e _ => ⟨.aside (.refl s), trivial⟩) fun t a h => ⟨?_, trivial⟩
  cases hr : reset p node s with
  | error e => rw [hr] at h; cases h
  | ok u =>
    rw [hr] at h
    cases h
    exact reset_moves hr

/-! ## Calls -/

end Station

inductive Station.Call
  /-- the last text is the id of the run if none is given -/
  | start (node : Nat) (sessionId runId : Option String) (fresh : String)
  | stop (node : Nat)
  | reset (node : Nat)
  | completed (t : RunTicket)
  | apply (fresh : String) (request : TriggerRequest)

namespace Station

variable {Λ : Type}

/-- a start, as a process; it does not wait -/
def startCall (p : Procedure) (node : Nat) (sessionId runId : Option String) (fresh : String) :
    Fallible (Station Λ) Failure (Option Grant) :=
  atOnce fun s => (start p node sessionId runId fresh s).map fun (s, g) => (s, some g)

/-- a call, as a process; a start yields the granted run -/
def call [Link Λ] (p : Procedure) : Call → Fallible (Station Λ) Failure (Option Grant)
  | .start node sessionId runId fresh => startCall p node sessionId runId fresh
  | .stop node => (halt p node .stopped).andThen fun _ => .done (.ok none)
  | .reset node => atOnce fun s => (reset p node s).map fun s => (s, none)
  | .completed t => (completed p t).andThen fun _ => .done (.ok none)
  | .apply fresh request => apply p fresh request

def NoGrant (r : Except Failure (Option Grant)) : Prop := ∀ g, r ≠ .ok (some g)

theorem start_call_eq {p : Procedure} {node : Nat} {sessionId runId : Option String} {fresh : String} {s t : Station Λ}
    {r : Option Grant} (h : ((start p node sessionId runId fresh s).map fun (s, g) => (s, some g)) = .ok (t, r)) :
    ∃ g, r = some g ∧ start p node sessionId runId fresh s = .ok (t, g) := by
  cases hs : start p node sessionId runId fresh s with
  | error e => rw [hs] at h; cases h
  | ok x =>
    rw [hs] at h
    cases h
    exact ⟨x.2, rfl, rfl⟩

theorem returns_atOnce {α : Type} {f : Station Λ → Except Failure (Station Λ × α)} {post : Except Failure α → Prop}
    (herror : ∀ e, post (.error e)) (hok : ∀ s t a, f s = .ok (t, a) → post (.ok a)) : (atOnce f).Returns post := by
  intro s
  unfold Returns
  dsimp only
  cases hf : f s with
  | error e => exact herror e
  | ok r => exact hok s r.1 r.2 hf

theorem noGrant_of_andThen {α : Type} {q : Fallible (Station Λ) Failure α} :
    (q.andThen fun _ => .done (.ok (none : Option Grant))).Returns NoGrant := by
  refine returns_bind (returns_trivial q) fun r _ => ?_
  cases r with
  | ok a => exact fun g h => nomatch h
  | error e => exact fun g h => nomatch h

theorem noGrant_reset (p : Procedure) (node : Nat) :
    (atOnce fun s : Station Λ => (reset p node s).map fun s => (s, (none : Option Grant))).Returns NoGrant := by
  refine returns_atOnce (fun _ _ h => nomatch h) fun s t a h => ?_
  cases hr : reset p node s with
  | error e => rw [hr] at h; cases h
  | ok u =>
    rw [hr] at h
    cases h
    exact fun _ h => nomatch h

variable [Link Λ]

/-- a stop makes moves and grants nothing -/
theorem stop_cases (p : Procedure) (node : Nat) :
    ((halt (Λ := Λ) p node .stopped).andThen fun _ => .done (.ok (none : Option Grant))).Makes Moves ∧
      ((halt (Λ := Λ) p node .stopped).andThen fun _ => .done (.ok (none : Option Grant))).Returns NoGrant :=
  ⟨makes_andThen (halt_makes p node (by decide)) fun _ => makes_done _, noGrant_of_andThen⟩

/-- **A request is for a start, which does not wait, or it grants nothing**; one that resets an action halts it first if
it is running -/
theorem apply_cases (p : Procedure) (fresh : String) (request : TriggerRequest) :
    (request.kind = .start ∧ ∃ node sessionId runId,
      apply (Λ := Λ) p fresh request = startCall p node sessionId runId fresh) ∨
      ((apply (Λ := Λ) p fresh request).Makes Moves ∧ (apply (Λ := Λ) p fresh request).Returns NoGrant) := by
  unfold apply
  dsimp only
  split
  · exact .inr ⟨makes_done _, fun _ h => nomatch h⟩
  · rename_i node _
    split
    · rename_i hkind
      exact .inl ⟨hkind, node, _, _, rfl⟩
    · exact .inr (stop_cases p node)
    · refine .inr ⟨makes_get_bind (fun s => .aside (.refl s)) fun s => ?_, returns_get_bind fun s => ?_⟩
      · refine makes_andThen ?_ fun _ => atOnce_reset_makes p node
        split
        · exact halt_makes p node (by decide)
        · exact makes_done _
      · refine returns_bind (returns_trivial _) fun r _ => ?_
        cases r with
        | ok _ => exact noGrant_reset p node
        | error e => exact fun _ h => nomatch h

/-- **A call is a start, which does not wait, or it grants nothing** -/
theorem call_cases (p : Procedure) (c : Call) :
    (∃ node sessionId runId fresh, call (Λ := Λ) p c = startCall p node sessionId runId fresh) ∨
      ((call (Λ := Λ) p c).Makes Moves ∧ (call (Λ := Λ) p c).Returns NoGrant) := by
  cases c with
  | start node sessionId runId fresh => exact .inl ⟨node, sessionId, runId, fresh, rfl⟩
  | stop node => exact .inr (stop_cases p node)
  | reset node => exact .inr ⟨atOnce_reset_makes p node, noGrant_reset p node⟩
  | completed t =>
    exact .inr ⟨makes_andThen (completed_makes p t) fun _ => makes_done _, noGrant_of_andThen⟩
  | apply fresh request =>
    rcases apply_cases (Λ := Λ) p fresh request with ⟨-, node, sessionId, runId, h⟩ | h
    · exact .inl ⟨node, sessionId, runId, fresh, h⟩
    · exact .inr h

end Station

end CalBench
