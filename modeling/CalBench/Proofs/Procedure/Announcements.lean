/-
What the announcements of a station tell.

Whoever watches a station sees its announcements only. Beside them stands what the calls have done, call by call: a
`Turn` starts, halts or resets an action, and a `Chronicle` is the list of all turns so far with the state they have led
to. A call that is refused, and a completion that matches no run, is no turn. From the list of turns alone it is said
which run of an action is the latest one and which one is still open, and what each turn has to announce
(`Turn.announcements`): a reset for each node downstream of the action, then the state that the action has come to.

The calls are made one after the other, while interfaces may be used at any time.

- `mem_downstream_iff`: the nodes downstream of an action are those that wires lead to, other than the action itself;
- `Tells`: the invariant that what is kept of the actions, and all announcements, are those of the turns; `Takes.tells`
  is its step lemma and `Chronicle.tells` follows by induction;
- `History.chronicle`: whatever calls and requests have led to, there is a chronicle of it.

Results:
- `announcements_tell_the_state`: each turn makes its announcements and no others, the runs they name are those that
  were granted, and the last state that was announced for an action is the state it is in.
Witness `loop_announced`: a start and a completion of an action whose wires lead back to it.
-/
import CalBench.Proofs.Procedure.InterfaceSwitch
import CalBench.Proofs.Procedure.Refusal
import CalBench.Proofs.Procedure.Traversal

namespace CalBench

open Proc

/-! ## Downstream -/

namespace Procedure

theorem downstream_eq (p : Procedure) (i : Nat) : p.downstream i = (p.visit [i] (p.targets i)).1 := rfl

theorem downstream_nodup (p : Procedure) (i : Nat) : (p.downstream i).Nodup := by
  rw [downstream_eq]
  exact (visit_nodup p [i] (p.targets i)).1

/-- **The nodes downstream are those that wires lead to**, without the node itself -/
theorem mem_downstream_iff {p : Procedure} {i n : Nat} :
    n ∈ p.downstream i ↔ n ≠ i ∧ Relation.TransGen p.Wired i n := by
  have hopen : ∀ k, (p.Open [] : Nat → Nat → Prop) k = p.Wired k := fun k => by
    funext j
    simp [Open]
  rw [downstream_eq]
  constructor
  · intro hn
    have hne := (visit_nodup p [i] (p.targets i)).2 n hn
    obtain ⟨s, hs, -, -, hpath⟩ := (mem_visit_iff p [i] _ n).1 hn
    refine ⟨by simpa using hne, Relation.TransGen.head' (mem_targets_iff.1 hs) ?_⟩
    exact Relation.ReflTransGen.mono (fun _ _ h => h.1) _ _ hpath
  · rintro ⟨hne, hpath⟩
    have hwhole : Relation.ReflTransGen (p.Open []) i n :=
      Relation.ReflTransGen.mono (fun a b h => by rw [hopen]; exact h) _ _ hpath.to_reflTransGen
    -- after its last visit of the action the path does not come back to it
    rcases path_cut (i := i) hwhole with hn | ⟨hi, -⟩ | ⟨k, hk, hrest⟩
    · exact absurd hn hne
    · exact absurd rfl hi
    · exact (mem_visit_iff p [i] _ n).2 ⟨k, mem_targets_iff.2 hk.1, hk.1.lt, hk.2, hrest⟩

end Procedure

/-! ## Turns -/

/-- what a call has done to an action -/
inductive Turn
  | started (g : Grant)
  /-- its run has ended, if it had one -/
  | halted (node : Nat) (state : ActionState)
  | reset (node : Nat)

def Turn.node : Turn → Nat
  | started g => g.node
  | halted node _ => node
  | reset node => node

def Turn.state : Turn → ActionState
  | started _ => .running
  | halted _ state => state
  | reset _ => .idle

/-- the run that was granted, if one was -/
def Turn.grant? : Turn → Option Grant
  | started g => some g
  | halted _ _ => none
  | reset _ => none

/-- the last turn of an action, of turns with the latest one first -/
def lastTurn? (log : List Turn) (node : Nat) : Option Turn := log.find? fun turn => turn.node == node

/-- the state an action is in after some turns -/
def stateAfter (log : List Turn) (node : Nat) : ActionState := ((lastTurn? log node).map Turn.state).getD .idle

/-- the run of an action that nothing has ended -/
def openRun? (log : List Turn) (node : Nat) : Option Grant := (lastTurn? log node).bind Turn.grant?

/-- the latest run of an action, ended or not -/
def latestRun? (log : List Turn) (node : Nat) : Option Grant :=
  log.findSome? fun turn => turn.grant?.filter fun g => g.node == node

def slotAfter (log : List Turn) (node : Nat) : Slot where
  state := stateAfter log node
  active := openRun? log node
  lastRun := (latestRun? log node).map fun g => g.ticket.runId

/-- a reset for each node downstream of an action, in the order in which they are found, and then a state -/
def announcement (p : Procedure) (node : Nat) (runId : Option String) (state : ActionState)
    (ticket : Option RunTicket) : List ActionEvent :=
  (p.downstream node).map (fun i => .nodeReset (p.node i).id runId) ++
    [.stateChanged (p.node node).id (p.sectionName? node) (p.node node).name state ticket]

/-- What a turn has to announce, given the turns before it. The resets name the run that begins, or else the latest one;
the end of a run names that run. -/
def Turn.announcements (p : Procedure) (before : List Turn) : Turn → List ActionEvent
  | started g => announcement p g.node (some g.ticket.runId) .running (some g.ticket)
  | halted node state =>
    announcement p node ((latestRun? before node).map fun g => g.ticket.runId) state
      ((openRun? before node).map Grant.ticket)
  | reset node => announcement p node ((latestRun? before node).map fun g => g.ticket.runId) .idle none

/-- all that some turns have announced, oldest first, each with the action it is about -/
def published (p : Procedure) : List Turn → List (Nat × ActionEvent)
  | [] => []
  | turn :: before => published p before ++ (turn.announcements p before).map fun e => (turn.node, e)

def ActionEvent.state? : ActionEvent → Option ActionState
  | .stateChanged _ _ _ state _ => some state
  | .nodeReset _ _ => none

def ActionEvent.stateOf? (id : String) : ActionEvent → Option ActionState
  | .stateChanged nodeId _ _ state _ => if nodeId = id then some state else none
  | .nodeReset _ _ => none

theorem lastTurn?_cons (turn : Turn) (log : List Turn) (node : Nat) :
    lastTurn? (turn :: log) node = if turn.node = node then some turn else lastTurn? log node := by
  unfold lastTurn?
  by_cases h : turn.node = node <;> simp [h]

theorem latestRun?_cons (turn : Turn) (log : List Turn) (node : Nat) :
    latestRun? (turn :: log) node =
      if turn.node = node then turn.grant?.or (latestRun? log node) else latestRun? log node := by
  unfold latestRun?
  rw [List.findSome?_cons]
  cases turn with
  | started g => by_cases h : g.node = node <;> simp [Turn.grant?, Turn.node, Option.filter, h]
  | halted node' state => simp [Turn.grant?]
  | reset node' => simp [Turn.grant?]

/-- a turn changes what is kept of its action only -/
theorem slotAfter_cons (turn : Turn) (log : List Turn) (node : Nat) :
    slotAfter (turn :: log) node = if turn.node = node then
      { state := turn.state, active := turn.grant?,
        lastRun := (turn.grant?.or (latestRun? log node)).map fun g => g.ticket.runId }
    else slotAfter log node := by
  unfold slotAfter stateAfter openRun?
  rw [lastTurn?_cons, latestRun?_cons]
  by_cases h : turn.node = node <;> simp [h]

/-! ## Announced states -/

theorem states_announcement (f : ActionEvent → Option ActionState) (hf : ∀ id runId, f (.nodeReset id runId) = none)
    (p : Procedure) (node : Nat) (runId : Option String) (state : ActionState) (ticket : Option RunTicket) :
    (announcement p node runId state ticket).filterMap f =
      (f (.stateChanged (p.node node).id (p.sectionName? node) (p.node node).name state ticket)).toList := by
  have hresets : ((p.downstream node).map fun i => ActionEvent.nodeReset (p.node i).id runId).filterMap f = [] := by
    refine List.filterMap_eq_nil_iff.2 fun e he => ?_
    obtain ⟨i, -, rfl⟩ := List.mem_map.1 he
    exact hf _ _
  rw [announcement, List.filterMap_append, hresets, List.nil_append, List.filterMap_cons]
  split
  · rename_i h
    rw [h]
    rfl
  · rename_i st h
    rw [h]
    rfl

/-- each turn announces one state, for the node with the id of its action -/
theorem Turn.states_announcements (f : Nat × ActionEvent → Option ActionState)
    (hf : ∀ node id runId, f (node, .nodeReset id runId) = none) (p : Procedure) (before : List Turn) (turn : Turn) :
    ∃ ticket, ((turn.announcements p before).map fun e => (turn.node, e)).filterMap f =
      (f (turn.node, .stateChanged (p.node turn.node).id (p.sectionName? turn.node) (p.node turn.node).name turn.state
        ticket)).toList := by
  have hone : ∀ node runId ticket state,
      ((announcement p node runId state ticket).map fun e => (node, e)).filterMap f =
        (f (node, .stateChanged (p.node node).id (p.sectionName? node) (p.node node).name state ticket)).toList := by
    intro node runId ticket state
    rw [List.filterMap_map]
    exact states_announcement (fun e => f (node, e)) (hf node) p node runId state ticket
  cases turn with
  | started g => exact ⟨some g.ticket, hone _ _ _ _⟩
  | halted node state => exact ⟨(openRun? before node).map Grant.ticket, hone _ _ _ _⟩
  | reset node => exact ⟨none, hone _ _ _ _⟩

/-- **The last announced state is that of the last turn**, among the events of an action as among all announcements for
an id, as long as no other action has it -/
theorem last_published (f : Nat × ActionEvent → Option ActionState)
    (hf : ∀ node id runId, f (node, .nodeReset id runId) = none) (p : Procedure) (node : Nat) (log : List Turn)
    (hstate : ∀ turn ∈ log, ∀ ticket, f (turn.node, .stateChanged (p.node turn.node).id (p.sectionName? turn.node)
      (p.node turn.node).name turn.state ticket) = if turn.node = node then some turn.state else none) :
    (((published p log).filterMap f).getLast?).getD .idle = stateAfter log node := by
  induction log with
  | nil => rfl
  | cons turn before ih =>
    obtain ⟨ticket, hturn⟩ := turn.states_announcements f hf p before
    rw [published, List.filterMap_append, hturn, hstate turn List.mem_cons_self, stateAfter, lastTurn?_cons]
    by_cases h : turn.node = node
    · simp [h]
    · simp only [h, if_false, Option.toList_none, List.append_nil]
      exact ih fun turn' hturn' => hstate turn' (List.mem_cons_of_mem _ hturn')

namespace Station

variable {Λ : Type} {p : Procedure} {b : Bench Λ} {log : List Turn} {turn : Turn} {s t : Station Λ}

/-! ## What transitions announce -/

theorem announce_resetDownstream (s : Station Λ) (p : Procedure) (node : Nat) (runId : Option String)
    (state : ActionState) (ticket : Option RunTicket) :
    ((s.resetDownstream p node runId).announce p node state ticket).events =
      s.events ++ announcement p node runId state ticket :=
  List.append_assoc _ _ _

theorem start_announces {node : Nat} {sessionId runId : Option String} {fresh : String} {g : Grant}
    (h : start p node sessionId runId fresh s = .ok (t, g)) :
    g.node = node ∧ (∃ slot, s.slot? node = some slot) ∧ (∃ name, p.sectionName? node = some name) ∧
      t.slots = (s.setSlot node (runningSlot g)).slots ∧
      t.events = s.events ++ announcement p node (some g.ticket.runId) .running (some g.ticket) := by
  obtain ⟨slot, name, hslot, -, hname, hgrant⟩ := start_eq_ok_iff.1 h
  cases hgrant
  exact ⟨rfl, ⟨slot, hslot⟩, ⟨name, hname⟩, rfl, announce_resetDownstream _ _ _ _ _ _⟩

theorem reset_announces {node : Nat} (h : reset p node s = .ok t) :
    ∃ slot, s.slot? node = some slot ∧
      t.slots = (s.setSlot node { slot with state := .idle, active := none }).slots ∧
      t.events = s.events ++ announcement p node slot.lastRun .idle none := by
  unfold reset at h
  cases hslot : s.slot node with
  | error e => rw [hslot] at h; cases h
  | ok slot =>
    rw [hslot] at h
    cases h
    refine ⟨slot, slot_eq_ok_iff.1 hslot, retire_slots s node slot .idle, ?_⟩
    rw [announce_resetDownstream, (retire_pool s node slot .idle).2]

variable [Link Λ]

theorem close_announces {node : Nat} {slot : Slot} {state : ActionState}
    (h : (close p node slot state).Yields UsesLinks s t ()) :
    t.slots = s.slots ∧
      t.events = s.events ++ announcement p node slot.lastRun state (slot.active.map Grant.ticket) := by
  obtain ⟨m, u, hoff, hlast⟩ := yields_bind_iff.1 h
  obtain ⟨-, hslots, hevents⟩ := (disableAll_obeys s).of_yields hoff
  rw [yields_update_iff.1 hlast, announce_resetDownstream, hevents]
  exact ⟨hslots, rfl⟩

theorem halt_announces {node : Nat} {state : ActionState} (h : (halt p node state).Yields UsesLinks s t (.ok ())) :
    ∃ slot, s.slot? node = some slot ∧ t.slots = (s.setSlot node { slot with state, active := none }).slots ∧
      t.events = s.events ++ announcement p node slot.lastRun state (slot.active.map Grant.ticket) := by
  rw [halt_eq, yields_get_bind_iff] at h
  split at h
  · cases (yields_done_iff.1 h).2
  · cases (yields_done_iff.1 h).2
  · rename_i slot _ hslot _
    obtain ⟨m, u, hclose, hdone⟩ := yields_bind_iff.1 (yields_update_bind_iff.1 h)
    obtain ⟨rfl, -⟩ := yields_done_iff.1 hdone
    obtain ⟨hslots, hevents⟩ := close_announces hclose
    refine ⟨slot, slot_eq_ok_iff.1 hslot, ?_, ?_⟩
    · rw [hslots, retire_slots]
    · rw [hevents, (retire_pool s node slot state).2]

/-! ## Chronicles -/

/-- a call that is carried out, and the turn that it is -/
inductive Takes (p : Procedure) (s : Station Λ) : Turn → Station Λ → Prop
  | start {node : Nat} {sessionId runId : Option String} {fresh : String} {t : Station Λ} {g : Grant}
    (h : start p node sessionId runId fresh s = .ok (t, g)) : Takes p s (.started g) t
  | stop {node : Nat} {t : Station Λ} (h : (halt p node .stopped).Yields UsesLinks s t (.ok ())) :
    Takes p s (.halted node .stopped) t
  | completed {ticket : RunTicket} {node : Nat} {t : Station Λ}
    (h : (completed p ticket).Yields UsesLinks s t (.ok (some node))) : Takes p s (.halted node .completed) t
  | reset {node : Nat} {t : Station Λ} (h : reset p node s = .ok t) : Takes p s (.reset node) t

/-- what calls made one after the other can lead to, with their turns, the latest one first -/
inductive Chronicle (p : Procedure) (b : Bench Λ) : List Turn → Station Λ → Prop
  | begin {s : Station Λ} (h : Begun p b s) : Chronicle p b [] s
  | takes {log : List Turn} {turn : Turn} {s t : Station Λ} (h : Chronicle p b log s) (ht : Takes p s turn t) :
    Chronicle p b (turn :: log) t
  | refused {log : List Turn} {s t : Station Λ} {e : Failure} (h : Chronicle p b log s) (c : Call)
    (hc : (call p c).Yields UsesLinks s t (.error e)) : Chronicle p b log t
  /-- a completion that matches no run is no turn -/
  | unmatched {log : List Turn} {s t : Station Λ} (h : Chronicle p b log s) (ticket : RunTicket)
    (hc : (Station.completed p ticket).Yields UsesLinks s t (.ok none)) : Chronicle p b log t
  | uses {log : List Turn} {s t : Station Λ} (h : Chronicle p b log s) (ht : UsesLinks s t) : Chronicle p b log t

/-- what is kept of the actions and all announcements are those of the turns -/
structure Tells (p : Procedure) (log : List Turn) (s : Station Λ) : Prop where
  nodes : (s.slots.map Prod.fst).Perm (p.ofType .actionStart)
  slots : ∀ node slot, s.slot? node = some slot → slot = slotAfter log node
  events : s.events = (published p log).map Prod.snd
  actions : ∀ turn ∈ log, turn.node ∈ p.ofType .actionStart
  /-- a run is granted only to an action whose section has a short name -/
  sectioned : ∀ node g, openRun? log node = some g → ∃ name, p.sectionName? node = some name

omit [Link Λ] in
theorem Begun.tells (h : Begun p b s) : Tells p [] s where
  nodes := h.sound.nodes
  slots _ _ hslot := h.slot?_eq hslot
  events := h.events
  actions _ h := nomatch h
  sectioned _ _ h := nomatch h

omit [Link Λ] in
theorem UsesLinks.tells (h : UsesLinks s t) (hs : Tells p log s) : Tells p log t where
  nodes := by rw [h.slots]; exact hs.nodes
  slots node slot hslot := hs.slots node slot (by rw [← hslot, Station.slot?, Station.slot?, h.slots])
  events := by rw [h.events, hs.events]
  actions := hs.actions
  sectioned := hs.sectioned

omit [Link Λ] in
theorem UsesLinks.sameNodes (h : UsesLinks s t) : SameNodes s t := by
  unfold SameNodes
  rw [h.slots]

section Tells

variable (hs : Tells p log s)

include hs

omit [Link Λ] in
theorem Tells.mem_of_slot? {node : Nat} {slot : Slot} (h : s.slot? node = some slot) :
    node ∈ p.ofType .actionStart := by
  obtain ⟨e, hfind, -⟩ := Option.map_eq_some_iff.1 h
  have hkey : e.1 = node := by simpa using List.find?_some hfind
  rw [← hs.nodes.mem_iff, ← hkey]
  exact List.mem_map_of_mem (List.mem_of_find?_eq_some hfind)

omit [Link Λ] in
/-- a turn that changes what is kept of its action as the turns say, and makes its announcements -/
theorem Tells.extend {slot : Slot} (hslot : s.slot? turn.node = some slot)
    (hslots : t.slots = (s.setSlot turn.node (slotAfter (turn :: log) turn.node)).slots)
    (hevents : t.events = s.events ++ turn.announcements p log)
    (hnamed : turn.grant? ≠ none → ∃ name, p.sectionName? turn.node = some name) : Tells p (turn :: log) t where
  nodes := by rw [hslots, slots_setSlot_keys]; exact hs.nodes
  slots node slot' h := by
    rw [slot?_of_slots hslot hslots] at h
    split at h
    · rename_i hnode
      cases h
      rw [hnode]
    · rename_i hnode
      rw [hs.slots node slot' h, slotAfter_cons, if_neg (Ne.symm hnode)]
  events := by
    rw [hevents, hs.events, published, List.map_append, List.map_map]
    congr 1
    exact (List.map_id _).symm
  actions turn' h := by
    rcases List.mem_cons.1 h with rfl | h
    · exact hs.mem_of_slot? hslot
    · exact hs.actions turn' h
  sectioned node g h := by
    rw [openRun?, lastTurn?_cons] at h
    split at h
    · rename_i hnode
      rw [Option.bind_some] at h
      rw [← hnode]
      exact hnamed (by rw [h]; exact Option.some_ne_none g)
    · exact hs.sectioned node g h

omit [Link Λ] in
/-- only actions take turns -/
theorem Tells.lastTurn?_eq_none {node : Nat} (hslot : s.slot? node = none) : lastTurn? log node = none := by
  refine List.find?_eq_none.2 fun turn hturn hnode => ?_
  have hmem := hs.actions turn hturn
  rw [beq_iff_eq.1 hnode] at hmem
  exact slot?_isSome_of_mem hs.nodes hmem hslot

omit [Link Λ] in
theorem Tells.stateOf (node : Nat) : s.stateOf node = stateAfter log node := by
  unfold Station.stateOf
  cases hslot : s.slot? node with
  | some slot =>
    rw [hs.slots node slot hslot]
    rfl
  | none =>
    rw [stateAfter, hs.lastTurn?_eq_none hslot]
    rfl

omit [Link Λ] in
theorem Tells.activeRun (node : Nat) : s.activeRun node = openRun? log node := by
  unfold Station.activeRun
  cases hslot : s.slot? node with
  | some slot =>
    rw [hs.slots node slot hslot]
    rfl
  | none =>
    rw [openRun?, hs.lastTurn?_eq_none hslot]
    rfl

/-- the end of a run, by a stop or a completion -/
theorem Tells.halted {node : Nat} {state : ActionState} (h : (halt p node state).Yields UsesLinks s t (.ok ())) :
    Tells p (.halted node state :: log) t ∧
      t.events = s.events ++ (Turn.halted node state).announcements p log := by
  obtain ⟨slot, hslot, hslots, hevents⟩ := halt_announces h
  have hkept := hs.slots node slot hslot
  have hevents' : t.events = s.events ++ (Turn.halted node state).announcements p log := by
    rw [hevents, hkept]
    rfl
  refine ⟨hs.extend hslot ?_ hevents' fun hno => absurd rfl hno, hevents'⟩
  rw [hslots, hkept, slotAfter_cons, if_pos rfl]
  rfl

/-- **Each turn changes what is kept of the actions as it says, and makes its announcements** -/
theorem Takes.tells (h : Takes p s turn t) :
    Tells p (turn :: log) t ∧ t.events = s.events ++ turn.announcements p log := by
  cases h with
  | @start node sessionId runId fresh t g h =>
    obtain ⟨rfl, ⟨slot, hslot⟩, hname, hslots, hevents⟩ := start_announces h
    have hgrown : Tells p (.started g :: log) t := by
      refine hs.extend hslot ?_ hevents fun _ => hname
      rw [hslots, slotAfter_cons, if_pos rfl]
      rfl
    exact ⟨hgrown, hevents⟩
  | stop h => exact hs.halted h
  | @completed ticket node t h =>
    unfold Station.completed at h
    rw [yields_get_bind_iff] at h
    split at h
    · cases (yields_done_iff.1 h).2
    · rcases yields_andThen_iff.1 h with ⟨m, u, hhalt, hdone⟩ | ⟨e, -, he⟩
      · obtain ⟨rfl, hnode⟩ := yields_done_iff.1 hdone
        cases hnode
        exact hs.halted hhalt
      · cases he
  | @reset node t h =>
    obtain ⟨slot, hslot, hslots, hevents⟩ := reset_announces h
    have hkept := hs.slots node slot hslot
    have hevents' : t.events = s.events ++ (Turn.reset node).announcements p log := by
      rw [hevents, hkept]
      rfl
    have hgrown : Tells p (.reset node :: log) t := by
      refine hs.extend hslot ?_ hevents' fun hno => absurd rfl hno
      rw [hslots, hkept, slotAfter_cons, if_pos rfl]
      rfl
    exact ⟨hgrown, hevents'⟩

/-- a completion succeeds: it matches an action that is running under its names, or there is none and it does nothing -/
theorem Tells.completed {ticket : RunTicket} {r : Except Failure (Option Nat)}
    (h : (Station.completed p ticket).Yields UsesLinks s t r) :
    (∃ node, s.RunsAs ticket node ∧ r = .ok (some node)) ∨
      (∀ node, ¬ s.RunsAs ticket node) ∧ r = .ok none ∧ t = s := by
  unfold Station.completed at h
  rw [yields_get_bind_iff] at h
  split at h
  · rename_i hnone
    obtain ⟨hts, hr⟩ := yields_done_iff.1 h
    exact .inr ⟨not_runsAs_of_named hnone, hr, hts⟩
  · rename_i node hnode
    have hruns := runsAs_of_named hs.nodes hnode
    rcases yields_andThen_iff.1 h with ⟨m, u, -, hdone⟩ | ⟨e, hhalt, -⟩
    · exact .inl ⟨node, hruns, (yields_done_iff.1 hdone).2⟩
    · -- a running action is there and its section has a short name
      obtain ⟨g, hg, -⟩ := hruns
      obtain ⟨slot, hslot, -⟩ := Option.bind_eq_some_iff.1 hg
      rw [hs.activeRun] at hg
      obtain ⟨name, hname⟩ := hs.sectioned node g hg
      rcases (halt_refused hhalt).2 with ⟨hnone, -⟩ | ⟨hnone, -⟩
      · rw [hslot] at hnone
        cases hnone
      · rw [hname] at hnone
        cases hnone

end Tells

theorem Chronicle.tells (h : Chronicle p b log s) : Tells p log s := by
  induction h with
  | begin h => exact h.tells
  | takes _ ht ih => exact (Takes.tells ih ht).1
  | refused _ c hc ih =>
    obtain ⟨rfl, -⟩ := call_refused (fun _ _ hxy => hxy.sameNodes) ih.nodes hc
    exact ih
  | unmatched _ ticket hc ih =>
    obtain ⟨rfl, -⟩ := completed_unmatched hc
    exact ih
  | uses _ ht ih => exact ht.tells ih

/-- a start is a turn, or it is refused -/
theorem Chronicle.startCall (h : Chronicle p b log s) {node : Nat} {sessionId runId : Option String} {fresh : String}
    {a : Option Grant} (hc : (startCall p node sessionId runId fresh).Yields UsesLinks s t (.ok a)) :
    ∃ log', Chronicle p b log' t := by
  rcases atOnce_yields_iff.1 hc with ⟨a', ha, -⟩ | ⟨e, -, -, he⟩
  · obtain ⟨g, -, hg⟩ := start_call_eq ha
    exact ⟨_, h.takes (.start hg)⟩
  · cases he

theorem Chronicle.resetCall (h : Chronicle p b log s) {node : Nat} {a : Option Grant}
    (hc : (atOnce fun s : Station Λ => (Station.reset p node s).map fun s => (s, (none : Option Grant))).Yields
      UsesLinks s t (.ok a)) : ∃ log', Chronicle p b log' t := by
  rcases atOnce_yields_iff.1 hc with ⟨a', ha, -⟩ | ⟨e, -, -, he⟩
  · cases hreset : Station.reset p node s with
    | error e => rw [hreset] at ha; cases ha
    | ok u =>
      rw [hreset] at ha
      cases ha
      exact ⟨_, h.takes (.reset hreset)⟩
  · cases he

/-- **There is a chronicle of every history**; a request is one turn, or two if it resets a running action -/
theorem History.chronicle (h : History p b s) : ∃ log, Chronicle p b log s := by
  induction h with
  | begin h => exact ⟨[], .begin h⟩
  | uses _ ht ih =>
    obtain ⟨log, hlog⟩ := ih
    exact ⟨log, hlog.uses ht⟩
  | @call s t r _ c hc ih =>
    obtain ⟨log, hlog⟩ := ih
    cases r with
    | error e => exact ⟨log, hlog.refused c hc⟩
    | ok a =>
      have hstop : ∀ node, ((halt p node .stopped).andThen fun _ => .done (.ok (none : Option Grant))).Yields UsesLinks
          s t (.ok a) → ∃ log', Chronicle p b log' t := by
        intro node hc
        rcases yields_andThen_iff.1 hc with ⟨m, u, hhalt, hdone⟩ | ⟨e, -, he⟩
        · obtain ⟨rfl, -⟩ := yields_done_iff.1 hdone
          exact ⟨_, hlog.takes (.stop hhalt)⟩
        · cases he
      cases c with
      | start node sessionId runId fresh => exact hlog.startCall hc
      | stop node => exact hstop node hc
      | reset node => exact hlog.resetCall hc
      | completed ticket =>
        rcases yields_andThen_iff.1 hc with ⟨m, matched, hcompleted, hdone⟩ | ⟨e, -, he⟩
        · obtain ⟨rfl, -⟩ := yields_done_iff.1 hdone
          cases matched with
          | none => exact ⟨log, hlog.unmatched ticket hcompleted⟩
          | some node => exact ⟨_, hlog.takes (.completed hcompleted)⟩
        · cases he
      | apply fresh request =>
        unfold Station.call apply at hc
        dsimp only at hc
        split at hc
        · cases (yields_done_iff.1 hc).2
        · rename_i node _
          split at hc
          · exact hlog.startCall hc
          · exact hstop node hc
          · rw [yields_get_bind_iff] at hc
            rcases yields_andThen_iff.1 hc with ⟨m, u, hhalted, hreset⟩ | ⟨e, -, he⟩
            · split at hhalted
              · exact (hlog.takes (.stop hhalted)).resetCall hreset
              · obtain ⟨rfl, -⟩ := yields_done_iff.1 hhalted
                exact hlog.resetCall hreset
            · cases he

/-- **The announcements tell the truth.** In every state that starts, stops, resets and completions, made one after the
other, lead to, by the turns they have taken:
- the next call that is carried out makes the announcements of its turn and no others, that is a reset for each node
  downstream of the action and one change of its state, to the state it then is in;
- the run that is open by the turns is the active one, so that the end of a run names that run;
- a completion matches some action that is running under its names, or there is none and it announces nothing; nor does
  a call that fails;
- all announcements are those of the turns;
- the last state announced for an action, if any, is the state it is in; so is the last one announced for its id, if no
  other action has this id;
- the nodes downstream are listed once each, and are those other than the action to which its wires lead. -/
theorem announcements_tell_the_state (p : Procedure) (b : Bench Λ) {log : List Turn} {s : Station Λ}
    (h : Chronicle p b log s) :
    (∀ turn t, Takes p s turn t →
      t.events = s.events ++ turn.announcements p log ∧ t.stateOf turn.node = turn.state) ∧
    (∀ node, openRun? log node = s.activeRun node) ∧
    (∀ ticket t r, (completed p ticket).Yields UsesLinks s t r →
      (∃ node, s.RunsAs ticket node ∧ r = .ok (some node)) ∨
        (∀ node, ¬ s.RunsAs ticket node) ∧ r = .ok none ∧ t.events = s.events) ∧
    (∀ c t e, (call p c).Yields UsesLinks s t (.error e) → t.events = s.events) ∧
    s.events = (published p log).map Prod.snd ∧
    (∀ node, (((published p log).filterMap fun e => if e.1 = node then e.2.state? else none).getLast?).getD .idle =
      s.stateOf node) ∧
    (∀ node ∈ p.ofType .actionStart,
      (∀ other ∈ p.ofType .actionStart, (p.node other).id = (p.node node).id → other = node) →
        ((s.events.filterMap (ActionEvent.stateOf? (p.node node).id)).getLast?).getD .idle = s.stateOf node) ∧
    ∀ node, (p.downstream node).Nodup ∧
      ∀ n, n ∈ p.downstream node ↔ n ≠ node ∧ Relation.TransGen p.Wired node n := by
  have hs := h.tells
  refine ⟨fun turn t ht => ?turns, fun node => (hs.activeRun node).symm, fun ticket t r hc => ?completions,
    fun c t e hc => ?refused, hs.events, fun node => ?last, fun node hnode hunique => ?byId,
    fun node => ⟨p.downstream_nodup node, fun n => Procedure.mem_downstream_iff⟩⟩
  case turns =>
    obtain ⟨ht', hevents⟩ := Takes.tells hs ht
    refine ⟨hevents, ?_⟩
    rw [ht'.stateOf, stateAfter, lastTurn?_cons, if_pos rfl]
    rfl
  case completions =>
    refine (hs.completed hc).imp_right fun ⟨hno, hr, hts⟩ => ⟨hno, hr, ?_⟩
    rw [hts]
  case refused =>
    rw [(call_refused (fun _ _ hxy => hxy.sameNodes) hs.nodes hc).1]
  case last =>
    rw [hs.stateOf]
    refine last_published _ (fun _ _ _ => ?_) p node log fun turn _ ticket => rfl
    exact ite_self none
  case byId =>
    rw [hs.events, hs.stateOf, List.filterMap_map]
    refine last_published _ (fun _ _ _ => rfl) p node log fun turn hturn ticket => ?_
    -- among actions the id stands for the node
    have hiff : (p.node turn.node).id = (p.node node).id ↔ turn.node = node :=
      ⟨hunique turn.node (hs.actions turn hturn), fun heq => by rw [heq]⟩
    simp [ActionEvent.stateOf?, hiff]

omit [Link Λ]

/-- an action with two nodes downstream; the wires of the first one lead back to it -/
def loop : Procedure := ⟨[
  { id := "s1", type := NodeType.sectionConfiguration.name, name := "DC", shortName := some "dcv" },
  { id := "a1", type := NodeType.actionStart.name, name := "Verify", sectionId := some "s1", wires := [["n1"]] },
  { id := "n1", type := NodeType.actionCompleted.name, wires := [["n2", "a1"]] },
  { id := "n2", type := NodeType.actionCompleted.name, wires := [["A1"]] }]⟩

theorem downstream_loop : loop.downstream 1 = [2, 3] := by
  have haction : loop.targets 1 = [2] := by decide +kernel
  have hfirst : loop.targets 2 = [3, 1] := by decide +kernel
  have hsecond : loop.targets 3 = [1] := by decide +kernel
  rw [Procedure.downstream_eq, haction, Procedure.visit, dif_pos (by decide), hfirst, List.append_nil, Procedure.visit,
    dif_pos (by decide), hsecond]
  -- wires back to the action lead to nothing new
  simp [Procedure.visit]

def loopTicket : RunTicket := ⟨"session", "r1", "dcv", "Verify"⟩

def loopStarted : Station Emulated := ((ofProcedure loop oneInterface).grant loop 1 loopTicket).1

def loopCompleted : Station Emulated := ((completed loop loopTicket).alone loopStarted).state

theorem loopStarted_taken : Takes loop (ofProcedure loop oneInterface) (.started ⟨1, loopTicket, 0⟩) loopStarted := by
  have hstart : start loop 1 (some "session") (some "r1") "" (ofProcedure loop oneInterface) =
      .ok (loopStarted, ⟨1, loopTicket, 0⟩) :=
    start_eq_ok_iff.2 ⟨{}, "dcv", by decide +kernel, rfl, by decide +kernel, rfl⟩
  exact .start hstart

theorem loopCompleted_taken : Takes loop loopStarted (.halted 1 .completed) loopCompleted :=
  .completed (yields_of_result (fun _ => ⟨rfl, rfl, rfl⟩) (by decide +kernel))

/-- **A start and a completion are announced**, each to the two nodes that its wires lead to and then by the new state;
the completion names the run that has ended -/
theorem loop_announced :
    Chronicle loop oneInterface [.halted 1 .completed, .started ⟨1, loopTicket, 0⟩] loopCompleted ∧
    loopCompleted.events = [
      .nodeReset "n1" (some "r1"), .nodeReset "n2" (some "r1"),
      .stateChanged "a1" (some "dcv") "Verify" .running (some loopTicket),
      .nodeReset "n1" (some "r1"), .nodeReset "n2" (some "r1"),
      .stateChanged "a1" (some "dcv") "Verify" .completed (some loopTicket)] ∧
    loopCompleted.stateOf 1 = .completed := by
  have hstarted : Chronicle loop oneInterface [.started ⟨1, loopTicket, 0⟩] loopStarted :=
    .takes (.begin (begun_ofProcedure loop oneInterface)) loopStarted_taken
  obtain ⟨hturns, -⟩ := announcements_tell_the_state loop oneInterface hstarted
  obtain ⟨-, hstate⟩ := hturns _ _ loopCompleted_taken
  have hchronicle := hstarted.takes loopCompleted_taken
  obtain ⟨-, -, -, -, hevents, -⟩ := announcements_tell_the_state loop oneInterface hchronicle
  refine ⟨hchronicle, ?_, hstate⟩
  have hsection : loop.sectionName? 1 = some "dcv" := by decide +kernel
  rw [hevents]
  simp only [published, Turn.announcements, announcement, downstream_loop, hsection]
  rfl

end Station

end CalBench
