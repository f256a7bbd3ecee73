/-
Processes on their own.

Laws of `alone` for the ways in which processes are put together, so that no proof about a process looks into the
tree:
- `alone_bind`: the second process starts in the state that the first one left, at the time it ended;
- `alone_guarded`: a stop condition that never comes true is no condition;
- `alone_blind`: a process that cannot see a change of the state runs as it would without it;
- `ends_of_timed`: a process that waits for no condition ends, and keeps what each of its changes keeps;
- `alone_onPart`, `alone_within`: a process on a part of the state, or with a private state of its own.
-/
import Mathlib.Control.Monad.Basic
import CalBench.Proofs.Process.Traits

namespace CalBench.Proc

variable {σ τ α β ε : Type}

/-! ## Endings -/

namespace Ending

/-- goes on after an ending, if it is one with a result -/
def andThen (e : Ending σ α) (f : σ → α → Ending σ β) : Ending σ β :=
  match e with
  | finished s n a => (f s a).after n
  | stuck s n => stuck s n

def mapState (f : σ → τ) : Ending σ α → Ending τ α
  | finished s n a => finished (f s) n a
  | stuck s n => stuck (f s) n

@[simp] theorem after_zero (e : Ending σ α) : e.after 0 = e := by
  cases e <;> simp [after]

theorem after_after (m n : Nat) (e : Ending σ α) : (e.after n).after m = e.after (m + n) := by
  cases e <;> simp [after, Nat.add_assoc]

@[simp] theorem state_after (n : Nat) (e : Ending σ α) : (e.after n).state = e.state := by
  cases e <;> rfl

theorem andThen_after (n : Nat) (e : Ending σ α) (f : σ → α → Ending σ β) :
    (e.after n).andThen f = (e.andThen f).after n := by
  cases e with
  | finished s m a => exact (after_after n m (f s a)).symm
  | stuck s m => rfl

theorem after_eq_finished {n m : Nat} {e : Ending σ α} {s : σ} {a : α} (h : e.after n = finished s m a) :
    ∃ k, e = finished s k a ∧ m = n + k := by
  cases e with
  | finished t k b => cases h; exact ⟨k, rfl, rfl⟩
  | stuck t k => cases h

theorem finished_of_result {e : Ending σ α} {a : α} (h : e.result? = some a) : ∃ s n, e = finished s n a := by
  cases e with
  | finished s n b => cases h; exact ⟨s, n, rfl⟩
  | stuck s n => cases h

theorem mapState_after (f : σ → τ) (n : Nat) (e : Ending σ α) : (e.after n).mapState f = (e.mapState f).after n := by
  cases e <;> rfl

end Ending

/-! ## One process after another -/

@[simp] theorem alone_done (a : α) (s : σ) : (done a : Proc σ α).alone s = .finished s 0 a := rfl

@[simp] theorem alone_get_bind (f : σ → Proc σ α) (s : σ) : (Proc.get.bind f).alone s = (f s).alone s := rfl

@[simp] theorem alone_update_bind (u : σ → σ) (f : Unit → Proc σ α) (s : σ) :
    ((update u).bind f).alone s = (f ()).alone (u s) := rfl

theorem alone_bind (p : Proc σ α) (f : α → Proc σ β) (s : σ) :
    (p.bind f).alone s = (p.alone s).andThen fun t a => (f a).alone t := by
  induction p generalizing s with
  | done a => simp [bind, Ending.andThen]
  | act update next ih => exact ih s (update s)
  | pause ticks ready next ih =>
    simp only [bind, alone]
    split
    · exact ih true s
    · cases ticks with
      | none => rfl
      | some n => simp only [ih false s, Ending.andThen_after]

/-- the second process after a first one that ended -/
theorem alone_bind_of_finished {p : Proc σ α} {s t : σ} {n : Nat} {a : α} (h : p.alone s = .finished t n a)
    (f : α → Proc σ β) : (p.bind f).alone s = ((f a).alone t).after n := by
  rw [alone_bind, h]
  rfl

theorem Instant.alone_bind {p : Proc σ Unit} {u : σ → σ} (h : p.Instant u) (f : Unit → Proc σ β) (s : σ) :
    (p.bind f).alone s = (f ()).alone (u s) := by
  cases h <;> rfl

/-! ## What processes keep, and what they cannot see -/

theorem Keeps.alone {I : σ → Prop} {p : Proc σ α} (hp : p.Keeps I) {s : σ} (hs : I s) : I (p.alone s).state := by
  induction p generalizing s with
  | done a => exact hs
  | act update next ih => exact ih s (hp.2 s hs) (hp.1 s hs)
  | pause ticks ready next ih =>
    simp only [Proc.alone]
    split
    · exact ih true (hp true) hs
    · cases ticks with
      | none => exact hs
      | some n =>
        have h := ih false (hp false) hs
        cases hf : (next false).alone s with
        | finished t m a => rw [hf] at h; exact h
        | stuck t m => rw [hf] at h; exact h

theorem Keeps.of_finished {I : σ → Prop} {p : Proc σ α} (hp : p.Keeps I) {s t : σ} {n : Nat} {a : α} (hs : I s)
    (h : p.alone s = .finished t n a) : I t := by
  have ht := hp.alone hs
  rw [h] at ht
  exact ht

/-- **A stop condition that never comes true is no condition.** -/
theorem alone_guarded {I : σ → Prop} {stop : σ → Bool} (hstop : ∀ s, I s → stop s = false) {p : Proc σ α}
    (hp : p.Keeps I) (instead : Proc σ α) {s : σ} (hs : I s) : (guarded stop p instead).alone s = p.alone s := by
  induction p generalizing s with
  | done a => rfl
  | act update next ih => exact ih s (hp.2 s hs) (hp.1 s hs)
  | pause ticks ready next ih =>
    -- after the pause the guard looks again, in the same state
    have hnext : ∀ b, (act id fun s => if stop s then instead else guarded stop (next b) instead).alone s =
        (next b).alone s := by
      intro b
      simp only [Proc.alone, id_eq, hstop s hs]
      exact ih b (hp b) hs
    simp only [guarded, Proc.alone, hstop s hs, Bool.false_or] at hnext ⊢
    simp only [hnext]

/-- **A process runs past a change that it cannot see.** -/
theorem alone_blind {f : σ → σ} {p : Proc σ α} (hp : p.Blind f) (s : σ) : p.alone (f s) = (p.alone s).mapState f := by
  induction p generalizing s with
  | done a => rfl
  | act update next ih =>
    simp only [alone, (hp.1 s).1, (hp.1 s).2]
    exact ih s (hp.2 s) (update s)
  | pause ticks ready next ih =>
    simp only [alone, hp.1 s]
    split
    · exact ih true (hp.2 true) s
    · cases ticks with
      | none => rfl
      | some n => simp only [ih false (hp.2 false) s, Ending.mapState_after]

/-! ## Processes that end -/

/-- the process ends, in a state and with a result that meet a condition -/
def Ends (p : Proc σ α) (s : σ) (post : σ → α → Prop) : Prop := ∃ t n a, p.alone s = .finished t n a ∧ post t a

theorem ends_done {s : σ} {a : α} {post : σ → α → Prop} (h : post s a) : (done a : Proc σ α).Ends s post :=
  ⟨s, 0, a, rfl, h⟩

theorem ends_bind {p : Proc σ α} {f : α → Proc σ β} {s : σ} {post : σ → β → Prop}
    (h : p.Ends s fun t a => (f a).Ends t post) : (p.bind f).Ends s post := by
  obtain ⟨t, n, a, hp, u, m, b, hf, hb⟩ := h
  refine ⟨u, n + m, b, ?_, hb⟩
  rw [alone_bind_of_finished hp, hf]
  rfl

/-- alone, a process that gives way goes straight on -/
theorem ends_giveWay_bind {f : Unit → Proc σ α} {s : σ} {post : σ → α → Prop} (h : (f ()).Ends s post) :
    (giveWay.bind f).Ends s post := h

theorem Ends.mono {p : Proc σ α} {s : σ} {post post' : σ → α → Prop} (h : p.Ends s post)
    (hpost : ∀ t a, post t a → post' t a) : p.Ends s post' := by
  obtain ⟨t, n, a, hp, ha⟩ := h
  exact ⟨t, n, a, hp, hpost t a ha⟩

theorem ends_of_timed {I : σ → Prop} {p : Proc σ α} (ht : p.Timed) (hp : p.Keeps I) {s : σ} (hs : I s) :
    p.Ends s fun t _ => I t := by
  induction p generalizing s with
  | done a => exact ends_done hs
  | act update next ih => exact ih s (ht s) (hp.2 s hs) (hp.1 s hs)
  | pause ticks ready next ih =>
    obtain ⟨n, hn⟩ := Option.ne_none_iff_exists'.1 ht.1
    subst hn
    obtain ⟨t, m, a, h, hI⟩ := ih false (ht.2 false) (hp false) hs
    obtain ⟨t', m', a', h', hI'⟩ := ih true (ht.2 true) (hp true) hs
    by_cases hr : ready s
    · exact ⟨t', m', a', by simp only [alone, hr, if_true, h'], hI'⟩
    · exact ⟨t, n + m, a, by simp only [alone, hr, h]; rfl, hI⟩

/-! ## Parts and private states -/

/-- what is put into a part is what is seen there, and nothing else is touched -/
structure Part.Lawful (part : Part τ σ) : Prop where
  get_set : ∀ c t, part.get (part.set c t) = c
  set_set : ∀ c c' t, part.set c (part.set c' t) = part.set c t
  set_get : ∀ t, part.set (part.get t) t = t

/-- **A process on a part of the state runs as it does on the part alone.** -/
theorem alone_onPart {part : Part τ σ} (hpart : part.Lawful) (p : Proc σ α) (t : τ) :
    (p.onPart part).alone t = (p.alone (part.get t)).mapState fun c => part.set c t := by
  induction p generalizing t with
  | done a => simp only [onPart, alone, Ending.mapState, hpart.set_get]
  | act update next ih =>
    simp only [onPart, alone, ih, hpart.get_set]
    congr 1
    funext c
    exact hpart.set_set c _ t
  | pause ticks ready next ih =>
    simp only [onPart, alone]
    split
    · exact ih true t
    · cases ticks with
      | none => simp only [Ending.mapState, hpart.set_get]
      | some n => simp only [ih false t, Ending.mapState_after]

theorem Ends.onPart {part : Part τ σ} (hpart : part.Lawful) {p : Proc σ α} {t : τ} {post : τ → α → Prop}
    (h : p.Ends (part.get t) fun c a => post (part.set c t) a) : (p.onPart part).Ends t post := by
  obtain ⟨c, n, a, hp, ha⟩ := h
  refine ⟨part.set c t, n, a, ?_, ha⟩
  rw [alone_onPart hpart, hp]
  rfl

/-- the ending of a process with a private state, which is given back -/
def Ending.split {ρ : Type} : Ending (σ × ρ) α → Ending σ (α × ρ)
  | finished (s, r) n a => finished s n (a, r)
  | stuck (s, _) n => stuck s n

theorem alone_within {ρ : Type} (p : Proc (σ × ρ) α) (s : σ) (r : ρ) :
    (p.within r).alone s = (p.alone (s, r)).split := by
  induction p generalizing s r with
  | done a => rfl
  | act update next ih => exact ih (s, r) _ _
  | pause ticks ready next ih =>
    simp only [within, alone]
    split
    · exact ih true s r
    · cases ticks with
      | none => rfl
      | some n =>
        simp only [ih false s r]
        cases (next false).alone (s, r) <;> rfl

theorem Ends.within {ρ : Type} {p : Proc (σ × ρ) α} {s : σ} {r : ρ} {post : σ → α × ρ → Prop}
    (h : p.Ends (s, r) fun x a => post x.1 (a, x.2)) : (p.within r).Ends s post := by
  obtain ⟨⟨t, r'⟩, n, a, hp, ha⟩ := h
  refine ⟨t, n, (a, r'), ?_, ha⟩
  rw [alone_within, hp]
  rfl

end CalBench.Proc
