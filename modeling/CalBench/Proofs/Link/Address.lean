/-
Which device an interface talks to.

Writes and reads of a bus interface do not name a device. They go to the one that was addressed before, which the link
remembers; `Link.Steers` says what can be relied on about that: an address that was set is the one that is selected, and
neither writes nor reads select another.

Results:
- `steers_emulated`, `Controller.steers_controller`, `Board.steers`, `steers_serialLine`: this is so for links of these
  kinds, for boards with any driver;
- `steers_interface`: and for the interfaces over them.
-/
import CalBench.Proofs.Link.Dialogue

namespace CalBench

variable {Λ α β : Type}

/-- links that remember which device has been selected -/
structure Link.Steers [Link Λ] (ok : Λ → Prop) (selected : Λ → Option UInt8) : Prop where
  stays : ∀ c l, ok l → ok (Link.call c l).link
  /-- no call makes a bus of a stream, or the other way round -/
  bus : ∀ (c : Call) (l : Λ), Link.isGpib (Link.call c l).link = Link.isGpib l
  selects : ∀ a l, ok l → (Link.call (.setAddress a) l).result = .ok () →
    selected (Link.call (.setAddress a) l).link = some a
  /-- a device that is cleared by its address is selected for it -/
  clears : ∀ a l, ok l → (Link.call (.clearDevice (some a)) l).result = .ok () →
    selected (Link.call (.clearDevice (some a)) l).link = some a
  writes : ∀ s l, ok l → selected (Link.call (.writeString s) l).link = selected l
  reads : ∀ mode l, ok l → selected (Link.call (.read mode) l).link = selected l

/-! ## What a success says -/

namespace Attempt

theorem eq_of_result {o : Outcome Λ α} {r : Except LinkError α} (h : o.result = r) : o = ⟨o.link, o.delay, r⟩ := by
  rw [← h]

/-- if one operation after the other succeeds, both have succeeded -/
theorem ok_of_bind {a : Attempt Λ α} {f : α → Attempt Λ β} {l l' : Λ} {delay : Nat} {y : β}
    (h : (a >>= f) l = ⟨l', delay, .ok y⟩) :
    ∃ m d x d', a l = ⟨m, d, .ok x⟩ ∧ f x m = ⟨l', d', .ok y⟩ := by
  rw [bind_apply] at h
  revert h
  rcases a l with ⟨m, d, e | x⟩ <;> intro h
  · cases h
  · obtain ⟨hlink, -, hresult⟩ := Outcome.mk.inj h
    exact ⟨m, d, x, (f x m).delay, rfl, by rw [← hlink, ← hresult]⟩

end Attempt

/-! ## The kinds of links -/

namespace Emulated

open Attempt

theorem note_leaves (line : String) : (note line).Leaves address := leaves_update fun _ => rfl

theorem ensureConnected_leaves : ensureConnected.Leaves address := by
  refine leaves_get.bind fun d => ?_
  split
  · exact leaves_pure _
  · exact leaves_fail _

theorem writeString_leaves (s : String) : (writeString s).Leaves address := by
  unfold writeString writeBytes
  exact leaves_get.bind fun _ => ensureConnected_leaves.bind fun _ => leaves_get.bind fun _ =>
    Leaves.bind (leaves_update fun _ => rfl) fun _ => note_leaves _

theorem reply_leaves (mode : ReadMode) (d : Emulated) : (reply mode d).Leaves address := by
  unfold reply
  split
  · exact (note_leaves _).bind fun _ => leaves_fail _
  · refine Leaves.bind (leaves_update fun _ => rfl) fun _ => (note_leaves _).bind fun _ => ?_
    split <;> exact leaves_pure _

theorem read_leaves (mode : ReadMode) : (read mode).Leaves address := by
  refine ensureConnected_leaves.bind fun _ => leaves_get.bind fun d => ?_
  split
  · exact Leaves.bind (leaves_update fun _ => rfl) fun _ => (note_leaves _).bind fun _ => leaves_fail _
  · exact reply_leaves mode d

end Emulated

theorem steers_emulated : Link.Steers (fun _ : Emulated => True) Emulated.address where
  stays _ _ _ := trivial
  bus _ _ := rfl
  selects _ _ _ _ := rfl
  clears a d _ h := by
    cases hc : d.connected with
    | false => simp [Link.call, Emulated.call, Emulated.ensureConnected, Attempt.bind_apply, hc] at h
    | true => simp [Link.call, Emulated.call, Emulated.ensureConnected, Emulated.note, Attempt.bind_apply, hc]
  writes s d _ := Emulated.writeString_leaves s d
  reads mode d _ := Emulated.read_leaves mode d

namespace Board

open Attempt

variable {δ : Type} [BoardDriver δ]

omit [BoardDriver δ] in
/-- a driver does not see which device the board remembers -/
theorem drive_leaves (f : UInt8 → δ → δ × Except LinkError α) : (drive f).Leaves address :=
  leaves_get.bind fun _ => Leaves.bind (leaves_update fun _ => rfl) fun _ => leaves_ofExcept _

theorem writeString_leaves (s : String) : (writeString (δ := δ) s).Leaves address :=
  leaves_get.bind fun _ => drive_leaves _

theorem read_leaves (mode : ReadMode) : (read (δ := δ) mode).Leaves address := by
  refine leaves_get.bind fun d => (drive_leaves _).bind fun _ => ?_
  split <;> exact leaves_pure _

/-- a board selects a device by itself, whatever its driver makes of it -/
theorem steers : Link.Steers (fun _ : Board δ => True) (fun d => some d.address) where
  stays _ _ _ := trivial
  bus _ _ := rfl
  selects _ _ _ _ := rfl
  clears a d _ _ := congrArg some (drive_leaves (BoardDriver.clear (δ := δ)) { d with address := a })
  writes s d _ := congrArg some (writeString_leaves s d)
  reads mode d _ := congrArg some (read_leaves mode d)

end Board

section Wired

variable {ω : Type} [Wire ω]

/-- a serial line has no devices to select -/
theorem steers_serialLine : Link.Steers (fun _ : SerialLine ω => True) fun _ => none where
  stays _ _ _ := trivial
  bus _ _ := rfl
  selects _ _ _ h := nomatch h
  clears _ _ _ h := nomatch h
  writes _ _ _ := rfl
  reads _ _ _ := rfl

namespace Controller

open Attempt

theorem sendRaw_address (data : Bytes) : (sendRaw (ω := ω) data).Leaves address := sendRaw_leaves (fun _ _ => rfl) data

theorem receiveFrame_leaves (t : Terminator) (mode : ReadMode) :
    (receiveFrame (ω := ω) t mode).Leaves address := by
  intro d
  unfold receiveFrame
  split <;> rfl

theorem read_leaves (mode : ReadMode) : (read (ω := ω) mode).Leaves address :=
  (sendRaw_address _).bind fun _ => leaves_get.bind fun _ => receiveFrame_leaves _ mode

/-- the box has been told the address, or was told it before -/
theorem address_of_setAddress {a : UInt8} {d d' : Controller ω} {delay : Nat}
    (h : setAddress a d = ⟨d', delay, .ok ()⟩) : d'.address = some a := by
  unfold setAddress at h
  rw [get_bind] at h
  by_cases ha : d.address = some a
  · simp only [ha, if_true] at h
    cases h
    exact ha
  · simp only [ha, if_false] at h
    obtain ⟨m, _, _, _, -, hm⟩ := ok_of_bind h
    cases hm
    rfl

theorem address_of_clearDevice {a : UInt8} {d d' : Controller ω} {delay : Nat}
    (h : Link.call (.clearDevice (some a)) d = ⟨d', delay, .ok ()⟩) : d'.address = some a := by
  obtain ⟨m, _, _, _, hset, hclear⟩ := ok_of_bind (a := setAddress a) (f := fun _ => command "++clr") h
  rw [← address_of_setAddress hset]
  exact (sendRaw_address _).link hclear

theorem steers_controller : Link.Steers (fun _ : Controller ω => True) address where
  stays _ _ _ := trivial
  bus _ _ := rfl
  selects _ _ _ h := address_of_setAddress (eq_of_result h)
  clears _ _ _ h := address_of_clearDevice (eq_of_result h)
  writes _ d _ := sendRaw_address _ d
  reads mode d _ := read_leaves mode d

end Controller

/-! ## Interfaces -/

def Interface.selected (p : Interface ω) : Option UInt8 :=
  match p.device with
  | .emulated d => d.address
  | .controller d => d.address
  | .board d => some d.address
  | .serial _ => none
  | .rehearsal _ => none

theorem steers_interface : Link.Steers (fun p : Interface ω => p.Faithful) Interface.selected where
  stays := tidy_interface.stays
  bus c p := by
    obtain ⟨device, plain⟩ := p
    cases device <;> rfl
  selects a p h hp := by
    obtain ⟨device, plain⟩ := p
    cases device with
    | rehearsal d => exact absurd rfl (h d)
    | emulated d => exact steers_emulated.selects a d trivial hp
    | controller d => exact Controller.steers_controller.selects a d trivial hp
    | serial d => exact steers_serialLine.selects a d trivial hp
    | board d => exact Board.steers.selects a d trivial hp
  clears a p h hp := by
    obtain ⟨device, plain⟩ := p
    cases device with
    | rehearsal d => exact absurd rfl (h d)
    | emulated d => exact steers_emulated.clears a d trivial hp
    | controller d => exact Controller.steers_controller.clears a d trivial hp
    | serial d => exact steers_serialLine.clears a d trivial hp
    | board d => exact Board.steers.clears a d trivial hp
  writes s p h := by
    obtain ⟨device, plain⟩ := p
    cases device with
    | rehearsal d => exact absurd rfl (h d)
    | emulated d => exact steers_emulated.writes s d trivial
    | controller d => exact Controller.steers_controller.writes s d trivial
    | serial d => exact steers_serialLine.writes s d trivial
    | board d => exact Board.steers.writes s d trivial
  reads mode p h := by
    obtain ⟨device, plain⟩ := p
    cases device with
    | rehearsal d => exact absurd rfl (h d)
    | emulated d => exact steers_emulated.reads mode d trivial
    | controller d => exact Controller.steers_controller.reads mode d trivial
    | serial d => exact steers_serialLine.reads mode d trivial
    | board d => exact Board.steers.reads mode d trivial

end Wired

end CalBench
