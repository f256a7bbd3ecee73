/-
Runs, slots and stop signals.

Whether an action is running is kept in three places: its state, the run in its slot and the stop signal of that run.
Here they are shown to agree in every state that any calls on a station can lead to, whether they are made one after
the other or overlap, and whatever else is done to the interfaces in the meantime. Nobody but the calls changes the
actions or raises their signals.

- `Sound`: the invariant, with one field for each fact; `Moves.sound` is its step lemma;
- `Known`: a run that was granted has been told to stop, or is the active run of its action: `Moves.known`;
- `InOrder`: both for all runs that were granted so far, each with a later signal than those before: `Reached.inOrder`.

Results:
- `one_live_run_per_action`: an action is running iff it has an active run; the signal of a granted run is raised iff it
  is not the active run of its action, so that of the runs of an action at most one goes on; and a start succeeds iff
  the node is an action in a section with a short name and has no active run.
Witness `restart_leaves_one_live_run`: a run that was stopped and a later run of the same action.
-/
import Mathlib.Data.List.Nodup
import Mathlib.Data.List.Perm.Subperm
import CalBench.Link.Emulated
import CalBench.Proofs.Procedure.Transition

namespace CalBench

open Proc

/-! ## Actions of a procedure -/

/-- the node is an action and refers to a section that has a short name -/
def Procedure.BoundAction (p : Procedure) (node : Nat) : Prop :=
  node < p.nodes.length ∧ (p.node node).is .actionStart = true ∧
    ∃ id sec name, (p.node node).sectionId = some id ∧ p.find? id = some sec ∧
      (p.node sec).is .sectionConfiguration = true ∧ (p.node sec).shortName = some name

theorem Procedure.mem_ofType_iff {p : Procedure} {type : NodeType} {i : Nat} :
    i ∈ p.ofType type ↔ i < p.nodes.length ∧ (p.node i).is type = true := by
  unfold ofType positions node
  rw [List.mem_filter, List.mem_range]
  refine and_congr_right fun hi => ?_
  simp [List.getElem?_eq_getElem hi]

theorem Procedure.sectionName?_eq_some_iff {p : Procedure} {node : Nat} {name : String} :
    p.sectionName? node = some name ↔ ∃ id sec, (p.node node).sectionId = some id ∧ p.find? id = some sec ∧
      (p.node sec).is .sectionConfiguration = true ∧ (p.node sec).shortName = some name := by
  simp only [sectionName?, sectionOf?, Option.bind_eq_some_iff, Option.filter_eq_some_iff]
  constructor
  · rintro ⟨sec, ⟨⟨id, hid, hsec⟩, hkind⟩, hname⟩
    exact ⟨id, sec, hid, hsec, hkind, hname⟩
  · rintro ⟨id, sec, hid, hsec, hkind, hname⟩
    exact ⟨sec, ⟨⟨id, hid, hsec⟩, hkind⟩, hname⟩

/-! ## Signals -/

namespace Bench

variable {Λ : Type}

theorem isRaised_lt {b : Bench Λ} {signal : Nat} (h : b.isRaised signal = true) : signal < b.signals.length := by
  unfold isRaised at h
  by_contra hlt
  simp [List.getElem?_eq_none (Nat.le_of_not_lt hlt)] at h

end Bench

namespace Station

variable {Λ : Type} {p : Procedure} {s t : Station Λ}

/-- one station has the signals of another -/
theorem isRaised_congr (h : t.bench.signals = s.bench.signals) (signal : Nat) :
    t.bench.isRaised signal = s.bench.isRaised signal := by
  unfold Bench.isRaised
  rw [h]

/-- a new signal is not raised, and the others are as they were -/
theorem isRaised_append (h : t.bench.signals = s.bench.signals ++ [false]) (signal : Nat) :
    t.bench.isRaised signal = s.bench.isRaised signal := by
  unfold Bench.isRaised
  rw [h]
  by_cases hlt : signal < s.bench.signals.length
  · rw [List.getElem?_append_left hlt]
  · have hge := Nat.le_of_not_lt hlt
    rw [List.getElem?_append_right hge, List.getElem?_eq_none hge]
    cases signal - s.bench.signals.length <;> rfl

theorem isRaised_set {raised : Nat} (h : t.bench.signals = s.bench.signals.set raised true) (signal : Nat) :
    t.bench.isRaised signal =
      if signal = raised ∧ raised < s.bench.signals.length then true else s.bench.isRaised signal := by
  unfold Bench.isRaised
  rw [h, List.getElem?_set]
  by_cases hs : raised = signal
  · subst hs
    by_cases hlt : raised < s.bench.signals.length
    · simp [hlt]
    · simp [hlt]
  · simp [hs, Ne.symm hs]

/-! ## One move -/

/-- the three places agree -/
structure Sound (p : Procedure) (s : Station Λ) : Prop where
  /-- every action has a slot, in some order -/
  nodes : (s.slots.map Prod.fst).Perm (p.ofType .actionStart)
  running : ∀ node slot, s.slot? node = some slot → (slot.state = .running ↔ slot.active.isSome = true)
  own : ∀ node g, s.activeRun node = some g → g.node = node
  live : ∀ node g, s.activeRun node = some g → g.signal < s.bench.signals.length ∧ s.bench.isRaised g.signal = false
  apart : ∀ node node' g g', s.activeRun node = some g → s.activeRun node' = some g' → g.signal = g'.signal →
    node = node'

/-- a granted run has been told to stop, or is the active run of its action -/
structure Known (g : Grant) (s : Station Λ) : Prop where
  issued : g.signal < s.bench.signals.length
  fate : s.bench.isRaised g.signal = true ∨ s.activeRun g.node = some g

theorem slots_setSlot_keys (s : Station Λ) (node : Nat) (slot : Slot) :
    (s.setSlot node slot).slots.map Prod.fst = s.slots.map Prod.fst := by
  simp only [setSlot, List.map_map]
  refine List.map_congr_left fun e _ => ?_
  by_cases h : e.1 = node <;> simp [h]

/-- what is kept of an action is found under its position -/
theorem slot?_eq_of_mem (hs : (s.slots.map Prod.fst).Perm (p.ofType .actionStart)) {e : Nat × Slot}
    (he : e ∈ s.slots) : s.slot? e.1 = some e.2 := by
  have hnodup : (s.slots.map Prod.fst).Nodup := hs.nodup_iff.2 (List.nodup_range.filter _)
  unfold Station.slot?
  cases hfind : s.slots.find? fun e' => e'.1 == e.1 with
  | none => simpa using List.find?_eq_none.1 hfind e he
  | some e' =>
    have hkey : e'.1 = e.1 := by simpa using List.find?_some hfind
    have heq : e' = e := List.inj_on_of_nodup_map hnodup (List.mem_of_find?_eq_some hfind) he hkey
    rw [heq]
    rfl

/-- the action is running under the names in a ticket, in any letter case -/
def RunsAs (s : Station Λ) (t : RunTicket) (node : Nat) : Prop :=
  ∃ g, s.activeRun node = some g ∧ Text.sameIgnoringCase g.ticket.sectionName t.sectionName = true ∧
    Text.sameIgnoringCase g.ticket.action t.action = true

/-- an action that a completion matches is running under its names -/
theorem runsAs_of_named (hs : (s.slots.map Prod.fst).Perm (p.ofType .actionStart)) {t : RunTicket} {node : Nat}
    (h : s.named? t = some node) : s.RunsAs t node := by
  unfold named? at h
  obtain ⟨e, hfind, rfl⟩ := Option.map_eq_some_iff.1 h
  have hmatch := List.find?_some hfind
  obtain ⟨g, hg, hnames⟩ := (Option.any_eq_true _ _).1 hmatch
  refine ⟨g, ?_, by simpa using hnames⟩
  rw [activeRun, slot?_eq_of_mem hs (List.mem_of_find?_eq_some hfind), Option.bind_some, hg]

/-- a completion that matches nothing finds no action running under its names -/
theorem not_runsAs_of_named {t : RunTicket} (h : s.named? t = none) (node : Nat) : ¬ s.RunsAs t node := by
  rintro ⟨g, hg, hsection, haction⟩
  obtain ⟨slot, hslot, hactive⟩ := Option.bind_eq_some_iff.1 hg
  obtain ⟨e, hfind, rfl⟩ := Option.map_eq_some_iff.1 hslot
  have hno := List.find?_eq_none.1 (Option.map_eq_none_iff.1 h) e (List.mem_of_find?_eq_some hfind)
  rw [hactive] at hno
  exact hno (by simp [hsection, haction])

/-- the slots after a move that changes one of them -/
theorem slot?_of_slots {node : Nat} {slot slot' : Slot} (hslot : s.slot? node = some slot)
    (h : t.slots = (s.setSlot node slot').slots) (node' : Nat) :
    t.slot? node' = if node' = node then some slot' else s.slot? node' := by
  have ht : t.slot? node' = (s.setSlot node slot').slot? node' := by
    unfold Station.slot?
    rw [h]
  rw [ht, slot?_setSlot, hslot, Option.map_some]

theorem activeRun_of_slots {node : Nat} {slot slot' : Slot} (hslot : s.slot? node = some slot)
    (h : t.slots = (s.setSlot node slot').slots) (node' : Nat) :
    t.activeRun node' = if node' = node then slot'.active else s.activeRun node' := by
  unfold activeRun
  rw [slot?_of_slots hslot h]
  split <;> rfl

theorem SameRuns.activeRun (h : SameRuns s t) (node : Nat) : t.activeRun node = s.activeRun node := by
  unfold Station.activeRun
  rw [h.slot?]

theorem SameRuns.sound (h : SameRuns s t) (hs : Sound p s) : Sound p t where
  nodes := by rw [h.slots]; exact hs.nodes
  running node slot hslot := hs.running node slot (h.slot? node ▸ hslot)
  own node g hg := hs.own node g (h.activeRun node ▸ hg)
  live node g hg := by
    rw [h.signals, isRaised_congr h.signals]
    exact hs.live node g (h.activeRun node ▸ hg)
  apart node node' g g' hg hg' := hs.apart node node' g g' (h.activeRun node ▸ hg) (h.activeRun node' ▸ hg')

theorem SameRuns.known {g : Grant} (h : SameRuns s t) (hg : Known g s) : Known g t where
  issued := by rw [h.signals]; exact hg.issued
  fate := by rw [isRaised_congr h.signals, h.activeRun]; exact hg.fate

section Grants

variable {g : Grant}

theorem Granted.activeRun (h : Granted g s t) (node : Nat) :
    t.activeRun node = if node = g.node then some g else s.activeRun node := by
  obtain ⟨slot, hslot, -⟩ := h.idle
  exact activeRun_of_slots hslot h.slots node

theorem Granted.length (h : Granted g s t) : t.bench.signals.length = s.bench.signals.length + 1 := by
  rw [h.signals, List.length_append]
  rfl

theorem Granted.sound (h : Granted g s t) (hs : Sound p s) : Sound p t := by
  have hactive := h.activeRun
  have hlength := h.length
  have hfresh := h.fresh
  refine ⟨by rw [h.slots, slots_setSlot_keys]; exact hs.nodes, ?running, ?own, ?live, ?apart⟩
  case running =>
    intro node slot' hslot'
    obtain ⟨slot, hslot, -⟩ := h.idle
    rw [slot?_of_slots hslot h.slots] at hslot'
    split at hslot'
    · cases hslot'
      exact iff_of_true rfl rfl
    · exact hs.running node slot' hslot'
  case own =>
    intro node g' hg
    rw [hactive] at hg
    split at hg
    · rename_i hn
      cases hg
      exact hn.symm
    · exact hs.own node g' hg
  case live =>
    intro node g' hg
    rw [hactive] at hg
    rw [isRaised_append h.signals, hlength]
    split at hg
    · cases hg
      refine ⟨by omega, ?_⟩
      -- the signal is new
      refine Bool.eq_false_iff.2 fun hr => ?_
      have hlt := Bench.isRaised_lt hr
      omega
    · have hlive := hs.live node g' hg
      exact ⟨by omega, hlive.2⟩
  case apart =>
    intro node node' g₁ g₂ h₁ h₂ heq
    rw [hactive] at h₁ h₂
    split at h₁ <;> split at h₂
    · rename_i hn hn'
      exact hn.trans hn'.symm
    · cases h₁
      have hlive := (hs.live node' g₂ h₂).1
      omega
    · cases h₂
      have hlive := (hs.live node g₁ h₁).1
      omega
    · exact hs.apart node node' g₁ g₂ h₁ h₂ heq

theorem Granted.known {g' : Grant} (h : Granted g s t) (hg : Known g' s) : Known g' t := by
  refine ⟨by rw [h.length]; exact Nat.lt_add_right 1 hg.issued, ?_⟩
  rw [isRaised_append h.signals, h.activeRun]
  rcases hg.fate with hr | ha
  · exact .inl hr
  · -- the action that gets the run had none
    obtain ⟨slot, hslot, hidle⟩ := h.idle
    have hne : g'.node ≠ g.node := by
      intro heq
      rw [Station.activeRun, heq, hslot, Option.bind_some, hidle] at ha
      cases ha
    rw [if_neg hne]
    exact .inr ha

/-- the run itself is accounted for -/
theorem Granted.known_self (h : Granted g s t) : Known g t where
  issued := by rw [h.length, h.fresh]; exact Nat.lt_succ_self _
  fate := by rw [h.activeRun, if_pos rfl]; exact .inr rfl

end Grants

section Retires

variable {node : Nat} {slot : Slot} {state : ActionState}

theorem retire_length (s : Station Λ) (node : Nat) (slot : Slot) (state : ActionState) :
    (s.retire node slot state).bench.signals.length = s.bench.signals.length := by
  rw [retire_signals]
  cases slot.active with
  | none => rfl
  | some g => exact List.length_set

theorem retire_isRaised (s : Station Λ) (node : Nat) (slot : Slot) (state : ActionState) (signal : Nat) :
    (s.retire node slot state).bench.isRaised signal =
      if ∃ g, slot.active = some g ∧ signal = g.signal ∧ g.signal < s.bench.signals.length then true
      else s.bench.isRaised signal := by
  have hsignals := retire_signals s node slot state
  cases hactive : slot.active with
  | none =>
    rw [hactive] at hsignals
    simp [isRaised_congr hsignals]
  | some g =>
    rw [hactive] at hsignals
    simp [isRaised_set hsignals]

theorem retire_raises {g : Grant} (hactive : slot.active = some g) (hissued : g.signal < s.bench.signals.length) :
    (s.retire node slot state).bench.isRaised g.signal = true := by
  rw [retire_isRaised, if_pos ⟨g, hactive, rfl, hissued⟩]

variable (hslot : s.slot? node = some slot)

include hslot

theorem retire_activeRun (node' : Nat) :
    (s.retire node slot state).activeRun node' = if node' = node then none else s.activeRun node' :=
  activeRun_of_slots hslot (retire_slots s node slot state) node'

theorem retire_sound (hstate : state ≠ .running) (hs : Sound p s) : Sound p (s.retire node slot state) := by
  have hslots := retire_slots s node slot state
  have hactive : ∀ node', (s.retire node slot state).activeRun node' =
      if node' = node then none else s.activeRun node' := retire_activeRun hslot
  refine ⟨by rw [hslots, slots_setSlot_keys]; exact hs.nodes, ?running, ?own, ?live, ?apart⟩
  case running =>
    intro node' slot' h
    rw [slot?_of_slots hslot hslots] at h
    split at h
    · cases h
      exact iff_of_false hstate Bool.false_ne_true
    · exact hs.running node' slot' h
  case own =>
    intro node' g h
    rw [hactive] at h
    split at h
    · cases h
    · exact hs.own node' g h
  case live =>
    intro node' g h
    rw [hactive] at h
    split at h
    · cases h
    · rename_i hne
      have hlive := hs.live node' g h
      refine ⟨by rw [retire_length]; exact hlive.1, ?_⟩
      -- the signal that is raised belongs to another run
      rw [retire_isRaised, if_neg]
      · exact hlive.2
      · rintro ⟨g', hg', heq, -⟩
        exact hne (hs.apart node' node g g' h (by rw [activeRun, hslot, Option.bind_some, hg']) heq)
  case apart =>
    intro node₁ node₂ g₁ g₂ h₁ h₂ heq
    rw [hactive] at h₁ h₂
    split at h₁ <;> split at h₂
    · cases h₁
    · cases h₁
    · cases h₂
    · exact hs.apart node₁ node₂ g₁ g₂ h₁ h₂ heq

theorem retire_known {g : Grant} (hg : Known g s) : Known g (s.retire node slot state) := by
  refine ⟨by rw [retire_length]; exact hg.issued, ?_⟩
  rw [retire_isRaised, retire_activeRun hslot]
  rcases hg.fate with hr | ha
  · left
    split
    · rfl
    · exact hr
  · by_cases hn : g.node = node
    · -- it is the run that ends
      left
      rw [activeRun, hn, hslot, Option.bind_some] at ha
      rw [if_pos ⟨g, ha, rfl, hg.issued⟩]
    · right
      rw [if_neg hn]
      exact ha

end Retires

/-- **A move keeps the three places in agreement** -/
theorem Moves.sound (h : Moves s t) (hs : Sound p s) : Sound p t := by
  cases h with
  | aside h => exact h.sound hs
  | grants g h => exact h.sound hs
  | retires node slot state hslot hstate h => exact h.sound (retire_sound hslot hstate hs)

/-- **A move leaves no granted run unaccounted for** -/
theorem Moves.known {g : Grant} (h : Moves s t) (hg : Known g s) : Known g t := by
  cases h with
  | aside h => exact h.known hg
  | grants g' h => exact h.known hg
  | retires node slot state hslot hstate h => exact h.known (retire_known hslot hg)

/-! ## At the beginning -/

/-- all actions are idle, in whichever order they are kept, and nothing has been announced -/
structure Begun (p : Procedure) (b : Bench Λ) (s : Station Λ) : Prop where
  bench : s.bench = b
  slots : s.slots.Perm ((p.ofType .actionStart).map fun i => (i, {}))
  events : s.events = []

theorem begun_ofProcedure (p : Procedure) (b : Bench Λ) : Begun p b (ofProcedure p b) := ⟨rfl, .refl _, rfl⟩

namespace Begun

variable {b : Bench Λ} (h : Begun p b s)

include h

theorem slot?_eq {node : Nat} {slot : Slot} (hslot : s.slot? node = some slot) : slot = {} := by
  obtain ⟨e, hfind, rfl⟩ := Option.map_eq_some_iff.1 hslot
  obtain ⟨i, -, rfl⟩ := List.mem_map.1 (h.slots.mem_iff.1 (List.mem_of_find?_eq_some hfind))
  rfl

theorem activeRun_eq (node : Nat) : s.activeRun node = none := by
  unfold activeRun
  cases hslot : s.slot? node with
  | none => rfl
  | some slot => rw [h.slot?_eq hslot]; rfl

theorem sound : Sound p s := by
  have hnone := h.activeRun_eq
  refine ⟨by simpa [Function.comp_def] using h.slots.map Prod.fst, fun node slot hslot => ?_, fun node g hg => ?_,
    fun node g hg => ?_, fun node _ g _ hg => ?_⟩
  · rw [h.slot?_eq hslot]
    exact iff_of_false (by decide) (by decide)
  · rw [hnone] at hg; cases hg
  · rw [hnone] at hg; cases hg
  · rw [hnone] at hg; cases hg

end Begun

/-! ## Any number of calls -/

abbrev Desk (Λ : Type) := Floor (Station Λ) (Except Failure (Option Grant))

/-- the runs that calls have granted, oldest first -/
def grants (f : Desk Λ) : List Grant := f.ended.filterMap fun r => r.toOption.join

/-- what may come of calls on the station of a procedure, while others leave its actions and their signals alone -/
def Reached [Link Λ] (p : Procedure) (b : Bench Λ) (f : Desk Λ) : Prop :=
  ∃ s, Begun p b s ∧ Floor.Reached (fun q => ∃ c, q = call p c) SameRuns s f

/-- the invariant of a station and its calls -/
structure InOrder (p : Procedure) (f : Desk Λ) : Prop where
  sound : Sound p f.state
  known : ∀ g ∈ grants f, Known g f.state
  fresh : (grants f).Pairwise fun g g' => g.signal < g'.signal
  /-- the calls that wait will grant nothing -/
  orderly : f.Orderly Moves NoGrant

theorem moves_run {s t : Station Λ} (h : Relation.ReflTransGen Moves s t) (hs : Sound p s) :
    Sound p t ∧ ∀ g, Known g s → Known g t := by
  induction h with
  | refl => exact ⟨hs, fun _ hg => hg⟩
  | tail _ hm ih => exact ⟨hm.sound ih.1, fun g hg => hm.known (ih.2 g hg)⟩

/-- a call that grants nothing goes on -/
theorem InOrder.yielded {f f' : Desk Λ} (hf : InOrder p f) (h : Floor.Yielded Moves NoGrant f f') : InOrder p f' := by
  obtain ⟨hsound, hknown⟩ := moves_run h.changes hf.sound
  have hgrants : grants f' = grants f := by
    obtain ⟨l, hl, hno⟩ := h.results
    have hnone : (l.filterMap fun r => r.toOption.join) = [] := by
      refine List.filterMap_eq_nil_iff.2 fun r hr => ?_
      rcases r with e | _ | g
      · rfl
      · rfl
      · exact absurd rfl (hno _ hr g)
    rw [grants, hl, List.filterMap_append, hnone, List.append_nil, grants]
  exact ⟨hsound, fun g hg => hknown g (hf.known g (hgrants ▸ hg)), hgrants ▸ hf.fresh, h.orderly⟩

theorem enter_startCall (f : Desk Λ) (p : Procedure) (node : Nat) (sessionId runId : Option String) (fresh : String) :
    f.enter (startCall p node sessionId runId fresh) = match start p node sessionId runId fresh f.state with
      | .ok (t, g) => { f with state := t, ended := f.ended ++ [.ok (some g)] }
      | .error e => { f with ended := f.ended ++ [.error e] } := by
  unfold Floor.enter startCall atOnce Proc.step
  simp only [Proc.advance]
  cases start p node sessionId runId fresh f.state with
  | error e => rfl
  | ok r => rfl

/-- a start grants a run with a signal that no run has had, or it fails and changes nothing -/
theorem InOrder.startCall {f : Desk Λ} (hf : InOrder p f) (node : Nat) (sessionId runId : Option String)
    (fresh : String) : InOrder p (f.enter (startCall p node sessionId runId fresh)) := by
  rw [enter_startCall]
  split
  · rename_i t g hstart
    have hgranted := start_granted hstart
    have hgrants : grants { f with state := t, ended := f.ended ++ [.ok (some g)] } = grants f ++ [g] := by
      rw [grants, List.filterMap_append]
      rfl
    refine ⟨hgranted.sound hf.sound, fun g' hg' => ?_, ?_, hf.orderly⟩
    · rw [hgrants, List.mem_append, List.mem_singleton] at hg'
      rcases hg' with hg' | rfl
      · exact hgranted.known (hf.known g' hg')
      · exact hgranted.known_self
    · rw [hgrants, List.pairwise_append]
      refine ⟨hf.fresh, List.pairwise_singleton _ _, fun g₁ h₁ g₂ h₂ => ?_⟩
      cases List.mem_singleton.1 h₂
      rw [hgranted.fresh]
      exact (hf.known g₁ h₁).issued
  · have hgrants : ∀ e, grants { f with ended := f.ended ++ [.error e] } = grants f := by
      intro e
      rw [grants, List.filterMap_append]
      exact List.append_nil _
    exact ⟨hf.sound, fun g hg => hf.known g (hgrants _ ▸ hg), hgrants _ ▸ hf.fresh, hf.orderly⟩

variable [Link Λ]

theorem Reached.begin (p : Procedure) (b : Bench Λ) : Reached p b { state := ofProcedure p b } :=
  ⟨_, begun_ofProcedure p b, .refl⟩

theorem Reached.enter {b : Bench Λ} {f : Desk Λ} (h : Reached p b f) (c : Call) :
    Reached p b (f.enter (call p c)) := by
  obtain ⟨s, hs, h⟩ := h
  exact ⟨s, hs, h.tail (.start _ ⟨c, rfl⟩)⟩

/-- **Any number of calls keep a station in order** -/
theorem Reached.inOrder {b : Bench Λ} {f : Desk Λ} (h : Reached p b f) : InOrder p f := by
  obtain ⟨s, hs, h⟩ := h
  induction h with
  | refl => exact ⟨hs.sound, fun _ hg => (nomatch hg), .nil, fun _ hw => (nomatch hw)⟩
  | tail _ hstep ih =>
    cases hstep with
    | start q hq =>
      obtain ⟨c, rfl⟩ := hq
      rcases call_cases (Λ := Λ) p c with ⟨node, sessionId, runId, fresh, hstart⟩ | ⟨hmakes, hreturns⟩
      · rw [hstart]
        exact ih.startCall node sessionId runId fresh
      · exact ih.yielded (ih.orderly.enter (hmakes.obeys hreturns Anything _))
    | resume place w b hw hr => exact ih.yielded (ih.orderly.resume hw hr)
    | aside t ht =>
      exact ⟨ht.sound ih.sound, fun g hg => ht.known (ih.known g hg), ih.fresh, ih.orderly⟩

/-! ## Runs of an action -/

omit [Link Λ] in
theorem Sound.slot?_isSome_iff (h : Sound p s) (node : Nat) :
    (s.slot? node).isSome = true ↔ node ∈ p.ofType .actionStart := by
  rw [← h.nodes.mem_iff, Station.slot?, Option.isSome_map, List.find?_isSome, List.mem_map]
  simp

omit [Link Λ] in
theorem Sound.state_iff (h : Sound p s) (node : Nat) : s.stateOf node = .running ↔ s.isRunning node = true := by
  unfold stateOf isRunning
  cases hslot : s.slot? node with
  | none => simp
  | some slot => simpa using h.running node slot hslot

omit [Link Λ] in
theorem Sound.start_iff (h : Sound p s) (node : Nat) (sessionId runId : Option String) (fresh : String) :
    (∃ t g, start p node sessionId runId fresh s = .ok (t, g)) ↔ p.BoundAction node ∧ s.isRunning node = false := by
  have hmem := h.slot?_isSome_iff node
  rw [Procedure.mem_ofType_iff] at hmem
  constructor
  · rintro ⟨t, g, hstart⟩
    obtain ⟨slot, name, hslot, hidle, hname, -⟩ := start_eq_ok_iff.1 hstart
    obtain ⟨id, sec, hid, hsec, hkind, hshort⟩ := Procedure.sectionName?_eq_some_iff.1 hname
    obtain ⟨hlt, haction⟩ := hmem.1 (by rw [hslot]; rfl)
    refine ⟨⟨hlt, haction, id, sec, name, hid, hsec, hkind, hshort⟩, ?_⟩
    simp [isRunning, hslot, hidle]
  · rintro ⟨⟨hlt, haction, id, sec, name, hid, hsec, hkind, hshort⟩, hidle⟩
    obtain ⟨slot, hslot⟩ := Option.isSome_iff_exists.1 (hmem.2 ⟨hlt, haction⟩)
    have hname := Procedure.sectionName?_eq_some_iff.2 ⟨id, sec, hid, hsec, hkind, hshort⟩
    have hnone : slot.active = none := by
      simpa [isRunning, hslot] using hidle
    exact ⟨_, _, start_eq_ok_iff.2 ⟨slot, name, hslot, hnone, hname, rfl⟩⟩

omit [Link Λ] in
/-- a granted run goes on iff it is the active run of its action -/
theorem Sound.raised_iff (h : Sound p s) {g : Grant} (hg : Known g s) :
    s.bench.isRaised g.signal = true ↔ s.activeRun g.node ≠ some g := by
  constructor
  · intro hr ha
    rw [(h.live g.node g ha).2] at hr
    cases hr
  · intro ha
    exact hg.fate.resolve_right ha

/-- **Of the runs of an action at most one goes on.** In every state that calls on a station lead to, one after the
other or overlapping: an action is running iff it has an active run; the signal of a granted run is raised iff the run
is not the active one of its action; every granted run has a signal of its own, and of those of an action at most one
is not raised; and a start succeeds iff the node is an action in a section with a short name and has no active run. -/
theorem one_live_run_per_action (p : Procedure) (b : Bench Λ) {f : Desk Λ} (h : Reached p b f) :
    (∀ node, f.state.stateOf node = .running ↔ f.state.isRunning node = true) ∧
    (∀ g ∈ grants f, f.state.bench.isRaised g.signal = true ↔ f.state.activeRun g.node ≠ some g) ∧
    ((grants f).map Grant.signal).Nodup ∧
    (∀ node, ((grants f).filter fun g => g.node == node && !f.state.bench.isRaised g.signal).length ≤ 1) ∧
    ∀ node sessionId runId fresh, (∃ t g, start p node sessionId runId fresh f.state = .ok (t, g)) ↔
      p.BoundAction node ∧ f.state.isRunning node = false := by
  have hf := h.inOrder
  have hdistinct : ((grants f).map Grant.signal).Nodup := by
    refine (List.pairwise_map.2 hf.fresh).imp ?_
    exact fun hlt => Nat.ne_of_lt hlt
  refine ⟨hf.sound.state_iff, fun g hg => hf.sound.raised_iff (hf.known g hg), hdistinct, fun node => ?_,
    hf.sound.start_iff⟩
  -- those that go on are all the active run
  have hsubset : ((grants f).filter fun g => g.node == node && !f.state.bench.isRaised g.signal) ⊆
      (f.state.activeRun node).toList := by
    intro g hg
    obtain ⟨hg, hlive⟩ := List.mem_filter.1 hg
    obtain ⟨hn, hr⟩ : g.node = node ∧ f.state.bench.isRaised g.signal = false := by simpa using hlive
    have ha := (hf.known g hg).fate.resolve_left (by rw [hr]; exact Bool.false_ne_true)
    rw [← hn, ha]
    exact List.mem_singleton_self g
  have hle := (List.subperm_of_subset (hdistinct.of_map.filter _) hsubset).length_le
  refine Nat.le_trans hle ?_
  cases f.state.activeRun node with
  | none => exact Nat.zero_le 1
  | some g => exact Nat.le_refl 1

def oneAction : Procedure := ⟨[
  { id := "s1", type := NodeType.sectionConfiguration.name, name := "DC", shortName := some "dcv" },
  { id := "a1", type := NodeType.actionStart.name, name := "Verify", sectionId := some "s1" }]⟩

def restarted : Desk Emulated :=
  ((Floor.enter { state := ofProcedure oneAction {} } (call oneAction (.start 1 none (some "r1") ""))).enter
    (call oneAction (.stop 1))).enter (call oneAction (.start 1 none (some "r2") ""))

omit [Link Λ] in
theorem reached_restarted : Reached oneAction {} restarted :=
  ((Reached.begin oneAction {}).enter (.start 1 none (some "r1") "")).enter (.stop 1) |>.enter
    (.start 1 none (some "r2") "")

omit [Link Λ] in
/-- **The first run has been told to stop, the second one goes on**, and the action cannot be started again -/
theorem restart_leaves_one_live_run :
    Reached oneAction {} restarted ∧ (grants restarted).map Grant.signal = [0, 1] ∧
    restarted.state.stateOf 1 = .running ∧ restarted.state.bench.isRaised 0 = true ∧
    restarted.state.bench.isRaised 1 = false ∧
    ¬ ∃ t g, start oneAction 1 none (some "r3") "" restarted.state = .ok (t, g) := by
  obtain ⟨hstate, hraised, -, -, hstart⟩ := one_live_run_per_action oneAction {} reached_restarted
  have hgrants : grants restarted = [⟨1, ⟨"", "r1", "dcv", "Verify"⟩, 0⟩, ⟨1, ⟨"", "r2", "dcv", "Verify"⟩, 1⟩] := by
    decide +kernel
  have hactive : restarted.state.activeRun 1 = some ⟨1, ⟨"", "r2", "dcv", "Verify"⟩, 1⟩ := by
    decide +kernel
  have hrunning : restarted.state.isRunning 1 = true := isRunning_iff.2 ⟨_, hactive⟩
  rw [hgrants] at hraised
  refine ⟨reached_restarted, by rw [hgrants]; rfl, (hstate 1).2 hrunning, ?_, ?_, ?_⟩
  · refine (hraised _ List.mem_cons_self).2 fun h => ?_
    rw [hactive] at h
    exact absurd h (by decide)
  · refine Bool.eq_false_iff.2 fun h => ?_
    exact (hraised _ (List.mem_cons_of_mem _ List.mem_cons_self)).1 h hactive
  · rw [hstart, hrunning]
    exact fun h => Bool.false_ne_true h.2.symm

end Station

end CalBench
