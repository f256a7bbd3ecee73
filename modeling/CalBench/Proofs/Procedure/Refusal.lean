/-
Refused calls.

A call on a station looks at the action before it does anything to it: whether there is one, whether its section has a
short name and, for a start, whether a run is active. What it finds wrong there it answers with a `Refusal`. Everything
after that succeeds. A request to reset a running action comes to two transitions, of which the second could only fail
if the action had gone in the meantime, and actions stay (`SameNodes`) whatever is called while the first one waits.

- `start_eq_error`, `halt_refused`, `reset_eq_error`: what each transition is refused for, and that nothing was done;
- `call_refused`: a call that fails has left the station alone, whatever others do when a call waits;
- `apply_refused`: a request is refused because its names mean nothing, or because it starts a running action.

Results:
- `refused_calls_change_nothing`: in every state that calls lead to, overlapping or not, a call that fails and a
  completion that matches no run leave the whole station as it was, and a request whose names mean an action fails only
  if it is to start an action that is running.
Witness `second_start_is_refused`.
-/
import CalBench.Proofs.Procedure.RunSlot

namespace CalBench

open Proc

inductive Failure.Refusal : Failure → Prop
  | alreadyRunning (action : String) : Refusal (.alreadyRunning action)
  | missingSection (action : String) : Refusal (.missingSection action)
  | lookup (e : LookupError) : Refusal (.lookup e)

/-- an action that is found is one, it has the name that was looked up, and so has its section -/
theorem Procedure.action_eq_ok {p : Procedure} {sectionName action : String} {i : Nat}
    (h : p.action sectionName action = .ok i) :
    i ∈ p.ofType .actionStart ∧ Text.sameIgnoringCase (p.node i).name action = true ∧
      ∃ short, p.sectionName? i = some short ∧ Text.sameIgnoringCase short sectionName = true := by
  unfold Procedure.action at h
  split at h
  · cases h
  · rename_i sec hsec
    split at h
    · rename_i j hj
      cases h
      have hfound := List.find?_some hj
      simp only [Bool.and_eq_true, beq_iff_eq] at hfound
      obtain ⟨hname, hsection⟩ := hfound
      -- the section was found by its short name
      unfold Procedure.section? at hsec
      have hshort := List.find?_some hsec
      obtain ⟨short, heq, hsame⟩ := (Option.any_eq_true _ _).1 hshort
      refine ⟨List.mem_of_find?_eq_some hj, hname, short, ?_, hsame⟩
      rw [Procedure.sectionName?, hsection, Option.bind_some, heq]
    · cases h

namespace Station

variable {Λ : Type} {p : Procedure} {s t : Station Λ} {others : Station Λ → Station Λ → Prop}

/-! ## What transitions are refused for -/

theorem slot_eq_error_iff {node : Nat} {e : Failure} :
    s.slot node = .error e ↔ s.slot? node = none ∧ e = .lookup (.notAnAction node) := by
  unfold Station.slot
  cases s.slot? node with
  | none => simp [eq_comm]
  | some slot => simp

theorem sectionName_eq_error_iff {node : Nat} {e : Failure} :
    sectionName p node = .error e ↔ p.sectionName? node = none ∧ e = .missingSection (p.node node).name := by
  unfold sectionName
  cases p.sectionName? node with
  | none => simp [eq_comm]
  | some name => simp

/-- what a start and a halt are refused for: there is no such action, or its section has no short name -/
def Unbound (p : Procedure) (node : Nat) (s : Station Λ) (e : Failure) : Prop :=
  s.slot? node = none ∧ e = .lookup (.notAnAction node) ∨
    p.sectionName? node = none ∧ e = .missingSection (p.node node).name

theorem Unbound.refusal {node : Nat} {e : Failure} (h : Unbound p node s e) : e.Refusal := by
  rcases h with ⟨-, rfl⟩ | ⟨-, rfl⟩
  · exact .lookup _
  · exact .missingSection _

/-- **When a start is refused** -/
theorem start_eq_error {node : Nat} {sessionId runId : Option String} {fresh : String} {e : Failure}
    (h : start p node sessionId runId fresh s = .error e) :
    Unbound p node s e ∨ s.isRunning node = true ∧ e = .alreadyRunning (p.node node).name := by
  unfold start at h
  cases hslot : s.slot node with
  | error e' =>
    rw [hslot] at h
    cases h
    exact .inl (.inl (slot_eq_error_iff.1 hslot))
  | ok slot =>
    rw [hslot] at h
    cases hname : sectionName p node with
    | error e' =>
      rw [hname] at h
      cases h
      exact .inl (.inr (sectionName_eq_error_iff.1 hname))
    | ok name =>
      rw [hname] at h
      cases hactive : slot.active with
      | none => simp [Bind.bind, Except.bind, hactive, Pure.pure, Except.pure] at h
      | some g =>
        simp only [Bind.bind, Except.bind, hactive, Option.isSome_some, if_true, Except.error.injEq] at h
        refine .inr ⟨?_, h.symm⟩
        rw [isRunning, slot_eq_ok_iff.1 hslot, Option.any_some, hactive]
        rfl

/-- a reset is refused only if there is no such action -/
theorem reset_eq_error {node : Nat} {e : Failure} (h : reset p node s = .error e) :
    s.slot? node = none ∧ e = .lookup (.notAnAction node) := by
  unfold reset at h
  cases hslot : s.slot node with
  | error e' =>
    rw [hslot] at h
    cases h
    exact slot_eq_error_iff.1 hslot
  | ok slot =>
    rw [hslot] at h
    cases h

theorem atOnce_yields_iff {α : Type} {f : Station Λ → Except Failure (Station Λ × α)} {r : Except Failure α} :
    (atOnce f).Yields others s t r ↔
      (∃ a, f s = .ok (t, a) ∧ r = .ok a) ∨ ∃ e, f s = .error e ∧ t = s ∧ r = .error e := by
  unfold atOnce Proc.step
  rw [yields_act_iff, yields_done_iff]
  dsimp only
  cases f s with
  | error e => simp
  | ok x =>
    obtain ⟨u, a⟩ := x
    constructor
    · rintro ⟨rfl, rfl⟩
      exact .inl ⟨a, rfl, rfl⟩
    · rintro (⟨b, hb, rfl⟩ | ⟨e, he, -⟩)
      · cases hb
        exact ⟨rfl, rfl⟩
      · cases he

theorem startCall_refused {node : Nat} {sessionId runId : Option String} {fresh : String} {e : Failure}
    (h : (startCall p node sessionId runId fresh).Yields others s t (.error e)) :
    t = s ∧ (Unbound p node s e ∨ s.isRunning node = true ∧ e = .alreadyRunning (p.node node).name) := by
  rcases atOnce_yields_iff.1 h with ⟨a, -, ha⟩ | ⟨e', he', hts, he⟩
  · cases ha
  · cases he
    cases hstart : start p node sessionId runId fresh s with
    | ok x => rw [hstart] at he'; cases he'
    | error e'' =>
      rw [hstart] at he'
      cases he'
      exact ⟨hts, start_eq_error hstart⟩

theorem resetCall_refused {node : Nat} {e : Failure}
    (h : (atOnce fun s : Station Λ => (reset p node s).map fun s => (s, (none : Option Grant))).Yields others s t
      (.error e)) : t = s ∧ s.slot? node = none ∧ e = .lookup (.notAnAction node) := by
  rcases atOnce_yields_iff.1 h with ⟨a, -, ha⟩ | ⟨e', he', hts, he⟩
  · cases ha
  · cases he
    cases hreset : reset p node s with
    | ok x => rw [hreset] at he'; cases he'
    | error e'' =>
      rw [hreset] at he'
      cases he'
      exact ⟨hts, reset_eq_error hreset⟩

/-! ## Actions stay -/

def SameNodes (s t : Station Λ) : Prop := t.slots.map Prod.fst = s.slots.map Prod.fst

theorem Moves.sameNodes (h : Moves s t) : SameNodes s t := by
  unfold SameNodes
  cases h with
  | aside h => rw [h.slots]
  | grants g h => rw [h.slots, slots_setSlot_keys]
  | retires node slot state _ _ h => rw [h.slots, retire_slots, slots_setSlot_keys]

/-- what other calls may do while one waits -/
def Meanwhile (s t : Station Λ) : Prop := Relation.ReflTransGen Moves s t

theorem Meanwhile.sameNodes (h : Meanwhile s t) : SameNodes s t := by
  induction h with
  | refl => rfl
  | tail _ hm ih => exact hm.sameNodes.trans ih

theorem slot?_isSome_of_mem {node : Nat} (hs : (s.slots.map Prod.fst).Perm (p.ofType .actionStart))
    (hnode : node ∈ p.ofType .actionStart) : s.slot? node ≠ none := by
  rw [← hs.mem_iff, List.mem_map] at hnode
  obtain ⟨e, he, rfl⟩ := hnode
  intro hnone
  have hfind := Option.map_eq_none_iff.1 hnone
  simpa using List.find?_eq_none.1 hfind e he

variable [Link Λ]

/-- **When a halt is refused**, which is before it does anything -/
theorem halt_refused {node : Nat} {state : ActionState} {e : Failure}
    (h : (halt p node state).Yields others s t (.error e)) : t = s ∧ Unbound p node s e := by
  rw [halt_eq, yields_get_bind_iff] at h
  split at h
  · rename_i e' hslot
    obtain ⟨hts, he⟩ := yields_done_iff.1 h
    cases he
    exact ⟨hts, .inl (slot_eq_error_iff.1 hslot)⟩
  · rename_i e' _ hname
    obtain ⟨hts, he⟩ := yields_done_iff.1 h
    cases he
    exact ⟨hts, .inr (sectionName_eq_error_iff.1 hname)⟩
  · -- once the run has ended nothing fails
    obtain ⟨m, a, -, hdone⟩ := yields_bind_iff.1 (yields_update_bind_iff.1 h)
    cases (yields_done_iff.1 hdone).2

theorem halt_sameNodes (hothers : ∀ x y, others x y → SameNodes x y) {node : Nat} {state : ActionState}
    (hstate : state ≠ .running) {r : Except Failure Unit} (h : (halt p node state).Yields others s t r) :
    SameNodes s t := by
  have hobeys := (halt_makes (Λ := Λ) p node hstate).obeys (returns_trivial _) others s
  have hkept := hobeys.stable (I := SameNodes s) (fun x y hxy hx => (hothers x y hxy).trans hx)
    (fun x y hxy hx => hxy.sameNodes.trans hx) rfl
  exact (hkept.of_yields h).2

theorem haltCall_refused {α : Type} {node : Nat} {state : ActionState} {a : α} {e : Failure}
    (h : ((halt p node state).andThen fun _ => .done (.ok a)).Yields others s t (.error e)) :
    t = s ∧ Unbound p node s e := by
  rcases yields_andThen_iff.1 h with ⟨m, u, -, hdone⟩ | ⟨e', hhalt, he⟩
  · cases (yields_done_iff.1 hdone).2
  · cases he
    exact halt_refused hhalt

/-- a completion fails as a halt does -/
theorem completed_refused {ticket : RunTicket} {e : Failure}
    (h : (completed p ticket).Yields others s t (.error e)) : t = s ∧ ∃ node, Unbound p node s e := by
  unfold completed at h
  rw [yields_get_bind_iff] at h
  split at h
  · cases (yields_done_iff.1 h).2
  · rename_i node _
    obtain ⟨hts, hunbound⟩ := haltCall_refused h
    exact ⟨hts, node, hunbound⟩

/-- a completion that matches no run does nothing -/
theorem completed_unmatched {ticket : RunTicket} (h : (completed p ticket).Yields others s t (.ok none)) :
    t = s ∧ s.named? ticket = none := by
  unfold completed at h
  rw [yields_get_bind_iff] at h
  split at h
  · rename_i hnone
    exact ⟨(yields_done_iff.1 h).1, hnone⟩
  · rcases yields_andThen_iff.1 h with ⟨m, u, -, hdone⟩ | ⟨e, -, he⟩
    · cases (yields_done_iff.1 hdone).2
    · cases he

/-! ## Requests -/

/-- **What a request is refused for**: its names mean nothing, or it is to start an action that is running -/
theorem apply_refused (hothers : ∀ x y, others x y → SameNodes x y)
    (hs : (s.slots.map Prod.fst).Perm (p.ofType .actionStart)) {fresh : String} {request : TriggerRequest} {e : Failure}
    (h : (apply p fresh request).Yields others s t (.error e)) :
    t = s ∧ match p.action request.normalized.sectionName request.normalized.action with
      | .error l => e = .lookup l
      | .ok node => request.kind = .start ∧ s.isRunning node = true ∧ e = .alreadyRunning (p.node node).name := by
  unfold apply at h
  dsimp only at h
  cases haction : p.action request.normalized.sectionName request.normalized.action with
  | error l =>
    rw [haction] at h
    obtain ⟨hts, he⟩ := yields_done_iff.1 h
    cases he
    exact ⟨hts, rfl⟩
  | ok node =>
    simp only [haction] at h
    -- the action is there and has a section, so only a start can be refused
    obtain ⟨hnode, -, name, hname, -⟩ := Procedure.action_eq_ok haction
    have hbound : ¬ Unbound p node s e := by
      rintro (⟨hslot, -⟩ | ⟨hnone, -⟩)
      · exact slot?_isSome_of_mem hs hnode hslot
      · rw [hname] at hnone
        cases hnone
    split at h
    · rename_i hkind
      obtain ⟨hts, hunbound | hrunning⟩ := startCall_refused h
      · exact absurd hunbound hbound
      · exact ⟨hts, hkind, hrunning⟩
    · exact absurd (haltCall_refused h).2 hbound
    · rw [yields_get_bind_iff] at h
      rcases yields_andThen_iff.1 h with ⟨m, u, hhalted, hreset⟩ | ⟨e', hhalt, he⟩
      · have hm : SameNodes s m := by
          split at hhalted
          · exact halt_sameNodes hothers (by decide) hhalted
          · obtain ⟨rfl, -⟩ := yields_done_iff.1 hhalted
            rfl
        rw [← show m.slots.map Prod.fst = s.slots.map Prod.fst from hm] at hs
        exact absurd (resetCall_refused hreset).2.1 (slot?_isSome_of_mem hs hnode)
      · cases he
        split at hhalt
        · exact absurd (halt_refused hhalt).2 hbound
        · cases (yields_done_iff.1 hhalt).2

/-- **A call that fails has left the station alone**, whatever the others do when a call waits -/
theorem call_refused (hothers : ∀ x y, others x y → SameNodes x y)
    (hs : (s.slots.map Prod.fst).Perm (p.ofType .actionStart)) {c : Call} {e : Failure}
    (h : (call p c).Yields others s t (.error e)) : t = s ∧ e.Refusal := by
  cases c with
  | start node sessionId runId fresh =>
    obtain ⟨hts, hunbound | ⟨-, rfl⟩⟩ := startCall_refused h
    · exact ⟨hts, hunbound.refusal⟩
    · exact ⟨hts, .alreadyRunning _⟩
  | stop node =>
    obtain ⟨hts, hunbound⟩ := haltCall_refused h
    exact ⟨hts, hunbound.refusal⟩
  | reset node =>
    obtain ⟨hts, -, rfl⟩ := resetCall_refused h
    exact ⟨hts, .lookup _⟩
  | completed ticket =>
    rcases yields_andThen_iff.1 h with ⟨m, u, -, hdone⟩ | ⟨e', hcompleted, he⟩
    · cases (yields_done_iff.1 hdone).2
    · cases he
      obtain ⟨hts, node, hunbound⟩ := completed_refused hcompleted
      exact ⟨hts, hunbound.refusal⟩
  | apply fresh request =>
    obtain ⟨hts, hwhy⟩ := apply_refused hothers hs h
    refine ⟨hts, ?_⟩
    split at hwhy
    · rw [hwhy]
      exact .lookup _
    · rw [hwhy.2.2]
      exact .alreadyRunning _

/-- **A refused call changes nothing.** In every state that calls lead to, one after the other or overlapping, and
whatever other calls do while one waits: a call that fails leaves the whole station as it was, that is all slots, stop
signals, interfaces, claims and announcements, and so does a completion that matches no active run; the failure is that
the action is running, that it has no section with a short name or that there is no such action. A request fails with
the error of its look-up if its names mean no action; if they do, it fails only if it is to start the action and the
action is running. -/
theorem refused_calls_change_nothing (p : Procedure) (b : Bench Λ) {f : Desk Λ} (h : Reached p b f) :
    (∀ c t e, (call p c).Yields Meanwhile f.state t (.error e) → t = f.state ∧ e.Refusal) ∧
    (∀ ticket t, (completed p ticket).Yields Meanwhile f.state t (.ok none) →
      t = f.state ∧ f.state.named? ticket = none) ∧
    ∀ fresh request t e, (apply p fresh request).Yields Meanwhile f.state t (.error e) →
      match p.action request.normalized.sectionName request.normalized.action with
      | .error l => e = .lookup l
      | .ok node => request.kind = .start ∧ f.state.isRunning node = true ∧ e = .alreadyRunning (p.node node).name := by
  have hnodes := h.inOrder.sound.nodes
  have hothers : ∀ x y : Station Λ, Meanwhile x y → SameNodes x y := fun _ _ hxy => hxy.sameNodes
  refine ⟨fun c t e hc => call_refused hothers hnodes hc, fun ticket t hc => completed_unmatched hc, ?_⟩
  intro fresh request t e hc
  exact (apply_refused hothers hnodes hc).2

omit [Link Λ] in
/-- **The action is running, so another start is refused**, as a call and as a request, and a completion that names
another action matches nothing; each leaves the running action as it is -/
theorem second_start_is_refused :
    Reached oneAction {} restarted ∧
    (∃ t e, (call oneAction (.start 1 none (some "r3") "")).Yields Meanwhile restarted.state t (.error e) ∧
      t = restarted.state ∧ e.Refusal) ∧
    (∃ t, (completed oneAction ⟨"", "r2", "dcv", "Adjust"⟩).Yields Meanwhile restarted.state t (.ok none) ∧
      t = restarted.state ∧ restarted.state.named? ⟨"", "r2", "dcv", "Adjust"⟩ = none) ∧
    ∃ t, (apply oneAction "r3" { kind := .start, sectionName := "DCV", action := "VERIFY" }).Yields Meanwhile
      restarted.state t (.error (.alreadyRunning "Verify")) ∧ restarted.state.isRunning 1 = true := by
  obtain ⟨hcall, hcompleted, hrequest⟩ := refused_calls_change_nothing oneAction {} reached_restarted
  have hrefl : ∀ s : Station Emulated, Meanwhile s s := fun s => .refl
  have hstart : (call oneAction (.start 1 none (some "r3") "")).Yields Meanwhile restarted.state _
      (.error (.alreadyRunning "Verify")) := yields_of_result hrefl (by decide +kernel)
  have hother : (completed oneAction ⟨"", "r2", "dcv", "Adjust"⟩).Yields Meanwhile restarted.state _ (.ok none) :=
    yields_of_result hrefl (by decide +kernel)
  have happly : (apply oneAction "r3" { kind := .start, sectionName := "DCV", action := "VERIFY" }).Yields Meanwhile
      restarted.state _ (.error (.alreadyRunning "Verify")) := yields_of_result hrefl (by decide +kernel)
  have haction : oneAction.action (Text.lower "DCV") (Text.lower "VERIFY") = .ok 1 := by decide +kernel
  have hwhy := hrequest _ _ _ _ happly
  simp only [TriggerRequest.normalized, haction] at hwhy
  exact ⟨reached_restarted, ⟨_, _, hstart, hcall _ _ _ hstart⟩, ⟨_, hother, hcompleted _ _ hother⟩,
    _, happly, hwhy.2.1⟩

end Station

end CalBench
