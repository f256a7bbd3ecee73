/-
A station with one run at a time.

Between runs a station is at rest: no action is running and nobody uses an interface (`Resting`). A start that is
granted makes one action run (`Solitary`). However that run comes out, its action is halted, and then the station is at
rest again: the run has been told to stop, and the interfaces have been shut down (`Ended`).

Results:
- `Begun.resting`: a station begins at rest;
- `Resting.granted`: a start that is granted at rest leaves one run;
- `halt_ends`, `completed_ends`: a halt, or a completion, of the only run does end, and leaves the station at rest.
-/
import CalBench.Proofs.Pool.Shutdown
import CalBench.Proofs.Procedure.RunSlot

namespace CalBench

open Proc

namespace Station

variable {Λ : Type} {ok : Λ → Prop} {p : Procedure} {g : Grant} {s t : Station Λ}

/-! ## At rest and with one run -/

/-- the interfaces are registered and nobody uses them -/
structure Quiet (ok : Λ → Prop) (s : Station Λ) : Prop where
  registered : s.bench.pool.Registered ok
  idle : s.bench.pool.Idle

structure Resting (ok : Λ → Prop) (p : Procedure) (s : Station Λ) : Prop extends Quiet ok s where
  sound : Sound p s
  none : ∀ node, s.activeRun node = none

/-- one action is running, which belongs to a section -/
structure Solitary (ok : Λ → Prop) (p : Procedure) (g : Grant) (s : Station Λ) : Prop extends Quiet ok s where
  sound : Sound p s
  sole : ∀ node, s.activeRun node = if node = g.node then some g else none
  sectioned : ∃ name, p.sectionName? g.node = some name

theorem Begun.resting {b : Bench Λ} (h : Begun p b s) (hregistered : b.pool.Registered ok) (hidle : b.pool.Idle) :
    Resting ok p s where
  registered := by rw [h.bench]; exact hregistered
  idle := by rw [h.bench]; exact hidle
  sound := h.sound
  none := h.activeRun_eq

namespace Solitary

/-- the run goes on while the actions and their signals are left alone -/
theorem sameRuns (h : Solitary ok p g s) (hsame : SameRuns s t) (hquiet : Quiet ok t) : Solitary ok p g t where
  toQuiet := hquiet
  sound := hsame.sound h.sound
  sole node := (hsame.activeRun node).trans (h.sole node)
  sectioned := h.sectioned

theorem active (h : Solitary ok p g s) : s.activeRun g.node = some g := by rw [h.sole, if_pos rfl]

theorem unsignalled (h : Solitary ok p g s) : s.bench.isRaised g.signal = false :=
  (h.sound.live g.node g h.active).2

end Solitary

theorem idle_enableAll {q : Pool Λ} (h : q.Idle) : q.enableAll.Idle := by
  intro key
  have hkey := h key
  unfold Pool.queueOf at hkey ⊢
  rw [Pool.get?_enableAll]
  cases he : q.entries.get? key with
  | none => rfl
  | some e =>
    rw [he] at hkey
    exact hkey

theorem idle_register [Link Λ] {q q' : Pool Λ} {l : Λ} (h : q.register l = .ok q') (hq : q.Idle) : q'.Idle := by
  intro key
  rw [(Pool.register_eq_ok h).2, Pool.queueOf, Table.get?_insert]
  split
  · rfl
  · exact hq key

/-- **A start that is granted at rest leaves one run** -/
theorem Resting.granted (h : Resting ok p s) {node : Nat} {sessionId runId : Option String} {fresh : String}
    (hstart : start p node sessionId runId fresh s = .ok (t, g)) : Solitary ok p g t := by
  have hgranted := start_granted hstart
  obtain ⟨slot, name, -, -, hname, hgrant⟩ := start_eq_ok_iff.1 hstart
  have hpool : t.bench.pool = s.bench.pool.enableAll ∧ g.node = node := by
    cases hgrant
    exact ⟨rfl, rfl⟩
  refine { registered := ?_, idle := ?_, sound := hgranted.sound h.sound, sole := fun node => ?_,
           sectioned := ⟨name, hpool.2 ▸ hname⟩ }
  · rw [hpool.1]
    exact h.registered.enableAll
  · rw [hpool.1]
    exact idle_enableAll h.idle
  · rw [hgranted.activeRun, h.none]

/-! ## The end of the run -/

variable [Link Λ]

/-- **A request that is granted a run at rest is for a start, and leaves that run** -/
theorem Resting.applied (h : Resting ok p s) {fresh : String} {request : TriggerRequest} {n : Nat}
    (hgrant : (apply p fresh request).alone s = .finished t n (.ok (some g))) :
    request.kind = .start ∧ Solitary ok p g t := by
  rcases apply_cases (Λ := Λ) p fresh request with ⟨hkind, node, sessionId, runId, happly⟩ | ⟨-, hreturns⟩
  · rw [happly] at hgrant
    refine ⟨hkind, ?_⟩
    cases hs : start p node sessionId runId fresh s with
    | error e =>
      simp only [startCall, atOnce, step, alone, hs, Except.map] at hgrant
      cases hgrant
    | ok x =>
      simp only [startCall, atOnce, step, alone, hs, Except.map] at hgrant
      cases hgrant
      exact h.granted hs
  · -- any other request is granted none
    have hyields : (apply p fresh request).Yields Eq s t (.ok (some g)) := yields_of_alone (fun _ => rfl) hgrant
    exact absurd rfl (hyields.returns hreturns g)

/-- a run has ended and left its action in a state, after all that it did to a pool -/
structure Ended (ok : Λ → Prop) (p : Procedure) (g : Grant) (state : ActionState) (q : Pool Λ) (t : Station Λ) :
    Prop where
  rest : Resting ok p t
  state : t.stateOf g.node = state
  raised : t.bench.isRaised g.signal = true
  off : t.bench.pool.Off
  /-- the interfaces have been asked to disconnect, and nothing else -/
  calls : q.Records (· = .disconnect) t.bench.pool

/-- disabling the interfaces of a quiet station ends, and does nothing else -/
theorem disableAll_ends (closing : Link.Closing ok) (h : Quiet ok s) :
    disableAll.Ends s fun t _ => SameRuns s t ∧ Pool.ShutDown ok s.bench.pool t.bench.pool := by
  have hpart : (client (Λ := Λ)).Lawful := ⟨fun _ _ => rfl, fun _ _ _ => rfl, fun _ => rfl⟩
  have hpool := Pool.disableAll_ends closing (c := client.get (s, none)) h.registered h.idle
  refine ends_bind (Ends.within (Ends.onPart hpart (hpool.mono fun c _ hc => ?_)))
  exact ends_done ⟨⟨rfl, rfl⟩, hc⟩

/-- **A halt of the only run ends, and leaves the station at rest** -/
theorem halt_ends (closing : Link.Closing ok) (h : Solitary ok p g s) {state : ActionState}
    (hstate : state ≠ .running) :
    (halt p g.node state).Ends s fun t x => x = .ok () ∧ Ended ok p g state s.bench.pool t := by
  obtain ⟨slot, hslot, hactive⟩ := Option.bind_eq_some_iff.1 h.active
  obtain ⟨name, hname⟩ := h.sectioned
  have hpool : (s.retire g.node slot state).bench.pool = s.bench.pool := (retire_pool s g.node slot state).1
  have hquiet : Quiet ok (s.retire g.node slot state) := by
    constructor <;> rw [hpool]
    · exact h.registered
    · exact h.idle
  have hclose : (close p g.node slot state).Ends (s.retire g.node slot state) fun t _ =>
      SameRuns (s.retire g.node slot state) t ∧ Pool.ShutDown ok s.bench.pool t.bench.pool := by
    refine ends_bind ((disableAll_ends closing hquiet).mono fun t _ ht => ⟨_, 0, (), rfl, ?_⟩)
    obtain ⟨hsame, hshut⟩ := ht
    rw [hpool] at hshut
    exact ⟨⟨hsame.slots, hsame.signals⟩, hshut⟩
  rw [halt_eq, Ends, alone_get_bind, slot_eq_ok_iff.2 hslot, sectionName, hname]
  refine ends_bind ⟨_, 0, (), rfl, ends_bind (hclose.mono fun t _ ht => ends_done ⟨rfl, ?_⟩)⟩
  obtain ⟨hsame, hshut⟩ := ht
  have hslot' : t.slot? g.node = some { slot with state, active := none } := by
    rw [hsame.slot?, slot?_of_slots hslot (retire_slots s g.node slot state), if_pos rfl]
  refine { rest := ?_, state := ?_, raised := ?_, off := hshut.off, calls := hshut.calls }
  · refine { registered := hshut.registered, idle := hshut.idle, none := fun node => ?_
             sound := hsame.sound (retire_sound hslot hstate h.sound) }
    rw [hsame.activeRun, retire_activeRun hslot, h.sole]
    split <;> rfl
  · rw [stateOf, hslot']
    rfl
  · rw [isRaised_congr hsame.signals]
    exact retire_raises hactive (h.sound.live g.node g h.active).1

omit [Link Λ] in
/-- the ticket of the only run names its action -/
theorem Solitary.named (h : Solitary ok p g s) : s.named? g.ticket = some g.node := by
  obtain ⟨slot, hslot, hactive⟩ := Option.bind_eq_some_iff.1 h.active
  obtain ⟨e, hfind, rfl⟩ := Option.map_eq_some_iff.1 hslot
  unfold named?
  cases hnamed : s.slots.find? fun e => e.2.active.any fun g' =>
      Text.sameIgnoringCase g'.ticket.sectionName g.ticket.sectionName &&
        Text.sameIgnoringCase g'.ticket.action g.ticket.action with
  | none =>
    have hno := List.find?_eq_none.1 hnamed e (List.mem_of_find?_eq_some hfind)
    rw [hactive] at hno
    simp [Text.sameIgnoringCase] at hno
  | some e' =>
    -- whichever it is, it is running
    obtain ⟨g', hactive', -⟩ := runsAs_of_named (t := g.ticket) h.sound.nodes
      (show s.named? g.ticket = some e'.1 by rw [named?, hnamed]; rfl)
    rw [h.sole] at hactive'
    split at hactive'
    · rename_i hnode
      rw [Option.map_some, hnode]
    · cases hactive'

/-- **A completion of the only run ends, and leaves the station at rest** -/
theorem completed_ends (closing : Link.Closing ok) (h : Solitary ok p g s) :
    (completed p g.ticket).Ends s fun t x => x = .ok (some g.node) ∧ Ended ok p g .completed s.bench.pool t := by
  rw [completed, Ends, alone_get_bind, h.named]
  refine ends_bind ((halt_ends closing h (by decide)).mono fun t x ht => ?_)
  obtain ⟨rfl, hended⟩ := ht
  exact ends_done ⟨rfl, hended⟩

end Station

end CalBench
