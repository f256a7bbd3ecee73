/-
Links that can be taken at their word.

That a link closes and does not open by failing to (`Link.Tidy`) is enough to know what is closed. To know what is open
as well one has to rely on more: a link that has been opened is open, a reset over the bus leaves an open link open, and
a link that fails to open speaks of itself, not of who holds its resource, which it cannot know. Links of which this is
true are `Truthful`.

Results:
- `truthful_emulated`, `truthful_serialLine`, `truthful_controller`, `truthful_board`: the kinds of link that are tidy
  are;
- `truthful_interface`: and so are the interfaces over them, if the wires speak of themselves.
-/
import CalBench.Proofs.Link.Dialogue

namespace CalBench

/-- the error is not about who holds a resource -/
def LinkError.Personal (e : LinkError) : Prop := ∀ resource owner, e ≠ .resourceInUse resource owner

theorem LinkError.personal_connect (resource reason : String) : (connect resource reason).Personal :=
  fun _ _ h => nomatch h

theorem LinkError.personal_notConnected : notConnected.Personal := fun _ _ h => nomatch h

theorem LinkError.personal_disabled (name : String) : (disabled name).Personal := fun _ _ h => nomatch h

/-- what opening a link comes to: the link is open, or the error is not about who holds its resource -/
def Outcome.Opens {Λ : Type} [Link Λ] (o : Outcome Λ Unit) : Prop :=
  match o.result with
  | .ok _ => Link.connected o.link = true
  | .error e => e.Personal

/-- links that can be taken at their word: those of which account can be kept, where one that has been opened is open,
one that fails to open does not blame another, and a reset closes none -/
structure Link.Truthful {Λ : Type} [Link Λ] (ok : Λ → Prop) : Prop extends Link.Tidy ok where
  connects : ∀ l, ok l → (Link.call .connect l).Opens
  resets : ∀ l, ok l → Link.connected l = true → Link.connected (Link.call .reset l).link = true

/-! ## Attempts that fail in some ways only -/

namespace Attempt

variable {Λ α β : Type} {kind : LinkError → Prop}

/-- whenever the attempt fails, it is with an error of a kind -/
def FailsAs (kind : LinkError → Prop) (a : Attempt Λ α) : Prop := ∀ l e, (a l).result = .error e → kind e

theorem failsAs_get : (get : Attempt Λ Λ).FailsAs kind := fun _ _ h => nomatch h

theorem FailsAs.bind {a : Attempt Λ α} {f : α → Attempt Λ β} (ha : a.FailsAs kind) (hf : ∀ x, (f x).FailsAs kind) :
    (a >>= f).FailsAs kind := by
  intro l e h
  have hfirst := ha l
  rw [bind_apply] at h
  revert h hfirst
  rcases a l with ⟨l', delay, err | x⟩ <;> intro h hfirst
  · cases h
    exact hfirst e rfl
  · exact hf x l' e h

end Attempt

/-! ## The kinds of links -/

theorem Emulated.connect_opens (d : Emulated) : (connect d).Opens := by
  cases hf : d.failNextConnect with
  | true =>
    have hfailed : (connect d).result = .error (.connect d.resource "injected failure") := by
      simp [connect, note, resource, Attempt.bind_apply, hf]
    unfold Outcome.Opens
    rw [hfailed]
    exact LinkError.personal_connect _ _
  | false => simp [Outcome.Opens, connect, note, Attempt.bind_apply, hf, Link.connected]

theorem truthful_emulated : Link.Truthful fun _ : Emulated => True where
  toTidy := tidy_emulated
  connects d _ := Emulated.connect_opens d
  resets d _ h := by
    have hopen : d.connected = true := h
    simp [Link.call, Emulated.call, Emulated.ensureConnected, Emulated.note, Attempt.bind_apply, Link.connected, hopen]

/-- without a driver a board is never open -/
theorem truthful_board : Link.Truthful fun _ : Board NoDriver => True where
  toTidy := tidy_board
  connects _ _ := fun _ _ h => nomatch h
  resets _ _ h := nomatch h

section Wired

variable {ω : Type} [Wire ω]

theorem SerialLine.connect_opens (d : SerialLine ω) : (connect d).Opens := by
  unfold connect
  cases hc : d.connected with
  | true => simp [Outcome.Opens, Attempt.bind_apply, hc, Link.connected]
  | false =>
    simp only [Attempt.bind_apply, Attempt.get_apply, hc, Bool.false_eq_true, if_false]
    rcases Wire.dial d.wire with ⟨wire, _ | reason⟩
    · rfl
    · exact LinkError.personal_connect _ _

theorem truthful_serialLine : Link.Truthful fun _ : SerialLine ω => True where
  toTidy := tidy_serialLine
  connects d _ := SerialLine.connect_opens d
  resets _ _ h := h

def Wire.SpeaksForItself (ω : Type) [Wire ω] : Prop :=
  ∀ data (w : ω) e, (Wire.send data w).2 = .error e → e.Personal

theorem speaksForItself_scriptedPeer : Wire.SpeaksForItself ScriptedPeer := fun _ _ _ h => nomatch h

namespace Controller

theorem command_connected (s : String) : (command (ω := ω) s).Leaves connected := sendRaw_leaves (fun _ _ => rfl) _

theorem setUp_connected : (setUp (ω := ω)).Leaves connected :=
  (command_connected _).bind fun _ => (command_connected _).bind fun _ => (command_connected _).bind fun _ =>
    (command_connected _).bind fun _ => Attempt.leaves_get.bind fun _ => command_connected _

theorem command_failsAs (hsend : Wire.SpeaksForItself ω) (s : String) :
    (command (ω := ω) s).FailsAs LinkError.Personal := by
  intro d e h
  unfold command at h
  rw [sendRaw_apply] at h
  split at h
  · exact hsend _ _ e h
  · cases h
    exact LinkError.personal_notConnected

theorem setUp_failsAs (hsend : Wire.SpeaksForItself ω) : (setUp (ω := ω)).FailsAs LinkError.Personal :=
  have hcommand := command_failsAs hsend
  (hcommand _).bind fun _ => (hcommand _).bind fun _ => (hcommand _).bind fun _ => (hcommand _).bind fun _ =>
    Attempt.failsAs_get.bind fun _ => hcommand _

/-- a box that has been dialled is set up, or closed again -/
theorem setUp_opens (hsend : Wire.SpeaksForItself ω) {d : Controller ω} (h : d.connected = true) :
    (orHangUp setUp d).Opens := by
  have hleft := setUp_connected d
  have hfails := setUp_failsAs hsend d
  unfold orHangUp
  revert hleft hfails
  rcases setUp d with ⟨d', delay, e | u⟩ <;> intro hleft hfails
  · exact hfails e rfl
  · exact hleft.trans h

theorem connect_opens (hsend : Wire.SpeaksForItself ω) (d : Controller ω) : (connect d).Opens := by
  unfold connect
  cases hc : d.connected with
  | true => simp [Outcome.Opens, Attempt.bind_apply, hc, Link.connected]
  | false =>
    simp only [Attempt.bind_apply, Attempt.get_apply, hc, Bool.false_eq_true, if_false]
    rcases Wire.dial d.wire with ⟨wire, _ | reason⟩
    · exact setUp_opens hsend rfl
    · exact LinkError.personal_connect _ _

end Controller

theorem truthful_controller (hsend : Wire.SpeaksForItself ω) : Link.Truthful fun _ : Controller ω => True where
  toTidy := tidy_controller
  connects d _ := Controller.connect_opens hsend d
  resets d _ h := (Controller.command_connected _ d).trans h

/-- **Interfaces can be taken at their word**, rehearsals apart -/
theorem truthful_interface (hsend : Wire.SpeaksForItself ω) : Link.Truthful fun p : Interface ω => p.Faithful where
  toTidy := tidy_interface
  connects p h := by
    obtain ⟨device, plain⟩ := p
    cases device with
    | rehearsal d => exact absurd rfl (h d)
    | emulated d => exact truthful_emulated.connects d trivial
    | controller d => exact (truthful_controller hsend).connects d trivial
    | serial d => exact truthful_serialLine.connects d trivial
    | board d => exact truthful_board.connects d trivial
  resets p h hp := by
    obtain ⟨device, plain⟩ := p
    cases device with
    | rehearsal d => exact absurd rfl (h d)
    | emulated d => exact truthful_emulated.resets d trivial hp
    | controller d => exact (truthful_controller hsend).resets d trivial hp
    | serial d => exact truthful_serialLine.resets d trivial hp
    | board d => exact truthful_board.resets d trivial hp

end Wired

end CalBench
