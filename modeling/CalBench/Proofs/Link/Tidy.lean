/-
Links that say truly whether they are open.

Whoever keeps account of open links has to rely on two things: a close leaves the link closed, whatever comes of it, and
an open that fails leaves a closed link closed. Links of which this is true are `Tidy`. A rehearsal is not: it can be
made to get stuck when it is closed.

Results:
- `tidy_emulated`, `tidy_serialLine`, `tidy_controller`, `tidy_board`: the other kinds of link are;
- `tidy_interface`: and so are the interfaces over them, which are the ones that records describe (`build_faithful`).
-/
import CalBench.Link.Interface

namespace CalBench

/-- links that can be relied on to close: what they do leaves them among these, and a close closes them -/
structure Link.Closing {Λ : Type} [Link Λ] (ok : Λ → Prop) : Prop where
  stays : ∀ c l, ok l → ok (Link.call c l).link
  closes : ∀ l, ok l → Link.connected (Link.call .disconnect l).link = false

/-- links of which account can be kept: what they do leaves them among these, a close closes them, and an open that
fails does not open them -/
structure Link.Tidy {Λ : Type} [Link Λ] (ok : Λ → Prop) : Prop where
  stays : ∀ c l, ok l → ok (Link.call c l).link
  closes : ∀ l, ok l → Link.connected (Link.call .disconnect l).link = false
  opens : ∀ l, ok l → Link.connected l = false →
    (Link.call .connect l).result = .ok () ∨ Link.connected (Link.call .connect l).link = false

theorem Link.Tidy.closing {Λ : Type} [Link Λ] {ok : Λ → Prop} (h : Link.Tidy ok) : Link.Closing ok :=
  ⟨h.stays, h.closes⟩

/-! ## The kinds of links -/

theorem Attempt.bind_apply {Λ α β : Type} (a : Attempt Λ α) (f : α → Attempt Λ β) (l : Λ) :
    (a >>= f) l = match a l with
      | ⟨l, delay, .ok x⟩ => { f x l with delay := delay + (f x l).delay }
      | ⟨l, delay, .error e⟩ => ⟨l, delay, .error e⟩ := rfl

theorem Attempt.bind_succeeds {Λ α β : Type} {a : Attempt Λ α} {l : Λ} {x : α} (h : (a l).result = .ok x)
    (f : α → Attempt Λ β) :
    ((a >>= f) l).result = (f x (a l).link).result ∧ ((a >>= f) l).link = (f x (a l).link).link := by
  rw [bind_apply]
  rcases hl : a l with ⟨l', delay, e | y⟩
  · rw [hl] at h
    cases h
  · rw [hl] at h
    cases h
    exact ⟨rfl, rfl⟩

theorem Attempt.bind_fails {Λ α β : Type} {a : Attempt Λ α} {l : Λ} {e : LinkError} (h : (a l).result = .error e)
    (f : α → Attempt Λ β) : ((a >>= f) l).result = .error e ∧ ((a >>= f) l).link = (a l).link := by
  rw [bind_apply]
  rcases hl : a l with ⟨l', delay, e' | y⟩
  · rw [hl] at h
    cases h
    exact ⟨rfl, rfl⟩
  · rw [hl] at h
    cases h

theorem Emulated.connect_closed {d : Emulated} (h : d.connected = false) :
    (connect d).result = .ok () ∨ (connect d).link.connected = false := by
  cases hf : d.failNextConnect with
  | true => exact .inr (by simp [connect, note, Attempt.bind_apply, Attempt.get, Attempt.update, Attempt.fail, hf, h])
  | false => exact .inl (by simp [connect, note, Attempt.bind_apply, Attempt.get, Attempt.update, hf])

theorem tidy_emulated : Link.Tidy fun _ : Emulated => True where
  stays _ _ _ := trivial
  closes _ _ := rfl
  opens _ _ h := Emulated.connect_closed h

/-- without a driver a board is never open -/
theorem tidy_board : Link.Tidy fun _ : Board NoDriver => True where
  stays _ _ _ := trivial
  closes _ _ := rfl
  opens _ _ _ := .inr rfl

section Wired

variable {ω : Type} [Wire ω]

theorem SerialLine.connect_closed {d : SerialLine ω} (h : d.connected = false) :
    (connect d).result = .ok () ∨ (connect d).link.connected = false := by
  unfold connect
  simp only [Attempt.bind_apply, Attempt.get, h, Bool.false_eq_true, if_false]
  rcases Wire.dial d.wire with ⟨wire, _ | reason⟩
  · exact .inl rfl
  · exact .inr h

theorem tidy_serialLine : Link.Tidy fun _ : SerialLine ω => True where
  stays _ _ _ := trivial
  closes d _ := by
    change (if d.connected then _ else d : SerialLine ω).connected = false
    cases h : d.connected with
    | true => rfl
    | false => exact h
  opens _ _ h := SerialLine.connect_closed h

/-- a controller that cannot be set up is closed again -/
theorem Controller.connect_closed {d : Controller ω} (h : d.connected = false) :
    (connect d).result = .ok () ∨ (connect d).link.connected = false := by
  have hsetUp (d : Controller ω) : (orHangUp setUp d).result = .ok () ∨ (orHangUp setUp d).link.connected = false := by
    unfold orHangUp
    split
    · exact .inl rfl
    · exact .inr rfl
  unfold connect
  simp only [Attempt.bind_apply, Attempt.get, h, Bool.false_eq_true, if_false]
  rcases Wire.dial d.wire with ⟨wire, _ | reason⟩
  · exact hsetUp _
  · exact .inr h

theorem tidy_controller : Link.Tidy fun _ : Controller ω => True where
  stays _ _ _ := trivial
  closes _ _ := rfl
  opens _ _ h := Controller.connect_closed h

/-! ## Interfaces -/

/-- the interface is no rehearsal -/
def Interface.Faithful (p : Interface ω) : Prop := ∀ d, p.device ≠ .rehearsal d

theorem tidy_interface : Link.Tidy fun p : Interface ω => p.Faithful where
  stays c p h := by
    obtain ⟨device, plain⟩ := p
    cases device with
    | rehearsal d => exact absurd rfl (h d)
    | emulated | controller | serial | board => exact fun d hd => nomatch hd
  closes p h := by
    obtain ⟨device, plain⟩ := p
    cases device with
    | rehearsal d => exact absurd rfl (h d)
    | emulated d => exact tidy_emulated.closes d trivial
    | controller d => exact tidy_controller.closes d trivial
    | serial d => exact tidy_serialLine.closes d trivial
    | board d => exact tidy_board.closes d trivial
  opens p h hp := by
    obtain ⟨device, plain⟩ := p
    cases device with
    | rehearsal d => exact absurd rfl (h d)
    | emulated d => exact tidy_emulated.opens d trivial hp
    | controller d => exact tidy_controller.opens d trivial hp
    | serial d => exact tidy_serialLine.opens d trivial hp
    | board d => exact tidy_board.opens d trivial hp

theorem device_faithful {r : InterfaceRecord} {reach : Endpoint → ω} {d : Device ω} (h : r.device reach = .ok d) :
    Interface.Faithful { device := d } ∧ Link.connected ({ device := d } : Interface ω) = false := by
  unfold InterfaceRecord.device at h
  split at h
  · cases h
    exact ⟨fun d hd => (nomatch hd), rfl⟩
  all_goals
    split at h <;> cases h
    exact ⟨fun d hd => (nomatch hd), rfl⟩

/-- **An interface that a record describes can be relied on, and is closed** -/
theorem build_faithful {r : InterfaceRecord} {defaults : Timeouts} {reach : Endpoint → ω} {p : Interface ω}
    (h : r.build defaults reach = .ok p) : p.Faithful ∧ Link.connected p = false := by
  unfold InterfaceRecord.build at h
  cases hd : r.device reach with
  | error e => rw [hd] at h; cases h
  | ok d =>
    rw [hd] at h
    obtain ⟨hfaithful, hclosed⟩ := device_faithful hd
    change Interface.configure _ { device := d } = .ok p at h
    -- setting the time limits of a closed link changes nothing else
    cases d with
    | rehearsal d => exact absurd rfl (hfaithful d)
    | board d =>
      cases h
      exact ⟨fun d hd => (nomatch hd), rfl⟩
    | emulated d | controller d | serial d =>
      have hclosed : d.connected = false := hclosed
      simp only [Interface.configure, Link.configure, hclosed, Bool.false_eq_true, if_false] at h
      cases h
      exact ⟨fun d hd => (nomatch hd), rfl⟩

end Wired

end CalBench
