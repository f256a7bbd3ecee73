/-
Processes among others.

`Yields` says from which state to which a process may run, and with what result, while others change the state
whenever it waits. What the others may do is a parameter. Nothing is said about when a process goes on: any scheduler,
any number of other processes and any timing is covered.
- `yields_bind_iff`, `yields_andThen_iff`: one process after another;
- `Yields.keeps`: what the process and the others keep holds at the end;
- `Yields.of_guarded`: a process with a stop condition runs as without it, or does the other thing instead;
- `yields_of_alone`: nobody else around is a special case.
-/
import CalBench.Proofs.Process.Alone

namespace CalBench.Proc

variable {σ τ α β ε : Type}

/-- an execution of a process from a state to a state with a result, while `others` may happen at every pause -/
inductive Yields (others : σ → σ → Prop) : Proc σ α → σ → σ → α → Prop
  | done (a : α) (s : σ) : Yields others (.done a) s s a
  | act {update : σ → σ} {next : σ → Proc σ α} {s t : σ} {a : α} (h : Yields others (next s) (update s) t a) :
    Yields others (.act update next) s t a
  | woken {ticks : Option Nat} {ready : σ → Bool} {next : Bool → Proc σ α} {s s' t : σ} {a : α} (ho : others s s')
      (hr : ready s' = true) (h : Yields others (next true) s' t a) : Yields others (.pause ticks ready next) s t a
  | elapsed {n : Nat} {ready : σ → Bool} {next : Bool → Proc σ α} {s s' t : σ} {a : α} (ho : others s s')
      (h : Yields others (next false) s' t a) : Yields others (.pause (some n) ready next) s t a

variable {others : σ → σ → Prop}

theorem yields_done_iff {a b : α} {s t : σ} : (done a : Proc σ α).Yields others s t b ↔ t = s ∧ b = a := by
  constructor
  · intro h; cases h; exact ⟨rfl, rfl⟩
  · rintro ⟨rfl, rfl⟩; exact .done _ _

theorem yields_act_iff {u : σ → σ} {next : σ → Proc σ α} {s t : σ} {a : α} :
    (Proc.act u next).Yields others s t a ↔ (next s).Yields others (u s) t a := by
  constructor
  · intro h; cases h; assumption
  · exact .act

theorem yields_get_bind_iff {f : σ → Proc σ α} {s t : σ} {a : α} :
    (Proc.get.bind f).Yields others s t a ↔ (f s).Yields others s t a := yields_act_iff

theorem yields_update_bind_iff {u : σ → σ} {f : Unit → Proc σ α} {s t : σ} {a : α} :
    ((update u).bind f).Yields others s t a ↔ (f ()).Yields others (u s) t a := yields_act_iff

theorem yields_update_iff {u : σ → σ} {s t : σ} {a : Unit} : (update u).Yields others s t a ↔ t = u s := by
  unfold update
  rw [yields_act_iff, yields_done_iff]
  simp

theorem yields_bind_iff {p : Proc σ α} {f : α → Proc σ β} {s t : σ} {b : β} :
    (p.bind f).Yields others s t b ↔ ∃ m a, p.Yields others s m a ∧ (f a).Yields others m t b := by
  constructor
  · intro h
    induction p generalizing s with
    | done a => exact ⟨s, a, .done a s, h⟩
    | act u next ih =>
      obtain ⟨m, a, hp, hf⟩ := ih s (yields_act_iff.1 h)
      exact ⟨m, a, .act hp, hf⟩
    | pause ticks ready next ih =>
      cases h with
      | woken ho hr h =>
        obtain ⟨m, a, hp, hf⟩ := ih true h
        exact ⟨m, a, .woken ho hr hp, hf⟩
      | elapsed ho h =>
        obtain ⟨m, a, hp, hf⟩ := ih false h
        exact ⟨m, a, .elapsed ho hp, hf⟩
  · rintro ⟨m, a, hp, hf⟩
    induction hp with
    | done a s => exact hf
    | act _ ih => exact .act (ih hf)
    | woken ho hr _ ih => exact .woken ho hr (ih hf)
    | elapsed ho _ ih => exact .elapsed ho (ih hf)

/-- a fallible process after another one has its result, or the first error -/
theorem yields_andThen_iff {p : Fallible σ ε α} {f : α → Fallible σ ε β} {s t : σ} {r : Except ε β} :
    (p.andThen f).Yields others s t r ↔
      (∃ m a, p.Yields others s m (.ok a) ∧ (f a).Yields others m t r) ∨
        ∃ e, p.Yields others s t (.error e) ∧ r = .error e := by
  unfold andThen
  rw [yields_bind_iff]
  constructor
  · rintro ⟨m, a | e, hp, hf⟩
    · obtain ⟨rfl, rfl⟩ := yields_done_iff.1 hf
      exact .inr ⟨a, hp, rfl⟩
    · exact .inl ⟨m, e, hp, hf⟩
  · rintro (⟨m, a, hp, hf⟩ | ⟨e, hp, rfl⟩)
    · exact ⟨m, .ok a, hp, hf⟩
    · exact ⟨t, .error e, hp, .done _ _⟩

theorem Instant.yields_bind_iff {p : Proc σ Unit} {u : σ → σ} (h : p.Instant u) {f : Unit → Proc σ β} {s t : σ}
    {b : β} : (p.bind f).Yields others s t b ↔ (f ()).Yields others (u s) t b := by
  cases h with
  | none => rfl
  | change u => exact yields_act_iff

/-- what each change of the process keeps, and the others keep, holds at the end -/
theorem Yields.keeps {I : σ → Prop} {p : Proc σ α} {s t : σ} {a : α} (h : p.Yields others s t a) (hp : p.Keeps I)
    (ho : ∀ s s', others s s' → I s → I s') (hs : I s) : I t := by
  induction h with
  | done => exact hs
  | act _ ih => exact ih (hp.2 _ hs) (hp.1 _ hs)
  | woken h _ _ ih => exact ih (hp true) (ho _ _ h hs)
  | elapsed h _ ih => exact ih (hp false) (ho _ _ h hs)

/-- a process with a stop condition runs as without it, or comes to a state in which the condition holds, and does the
other thing from there; that state has what the process and the others keep -/
theorem Yields.of_guarded {I : σ → Prop} {stop : σ → Bool} {p instead : Proc σ α} {s t : σ} {a : α}
    (h : (guarded stop p instead).Yields others s t a) (hp : p.Keeps I) (ho : ∀ s s', others s s' → I s → I s')
    (hs : I s) : p.Yields others s t a ∨ ∃ m, I m ∧ stop m = true ∧ instead.Yields others m t a := by
  induction p generalizing s with
  | done b => exact .inl h
  | act u next ih =>
    rcases ih s (yields_act_iff.1 h) (hp.2 s hs) (hp.1 s hs) with h | h
    · exact .inl (.act h)
    · exact .inr h
  | pause ticks ready next ih =>
    -- after the pause the guard looks again, at the state that the others have left
    have hagain : ∀ b m, I m →
        (Proc.act id fun s => if stop s then instead else guarded stop (next b) instead).Yields others m t a →
        (stop m = false ∧ (next b).Yields others m t a) ∨ ∃ m, I m ∧ stop m = true ∧ instead.Yields others m t a := by
      intro b m hI h
      rw [yields_act_iff] at h
      cases hm : stop m with
      | true => rw [hm] at h; exact .inr ⟨m, hI, hm, h⟩
      | false =>
        rw [hm] at h
        rcases ih b h (hp b) hI with h | h
        · exact .inl ⟨rfl, h⟩
        · exact .inr h
    cases h with
    | woken hw hr h =>
      rcases hagain true _ (ho _ _ hw hs) h with ⟨hm, h⟩ | h
      · exact .inl (.woken hw (by simpa [hm] using hr) h)
      · exact .inr h
    | elapsed hw h =>
      rcases hagain false _ (ho _ _ hw hs) h with ⟨-, h⟩ | h
      · exact .inl (.elapsed hw h)
      · exact .inr h

theorem Yields.returns {post : α → Prop} {p : Proc σ α} {s t : σ} {a : α} (h : p.Yields others s t a)
    (hp : p.Returns post) : post a := by
  induction h with
  | done => exact hp
  | act _ ih => exact ih (hp _)
  | woken _ _ _ ih => exact ih (hp true)
  | elapsed _ _ ih => exact ih (hp false)

/-- **Nobody else around is a special case**, as long as the others may do nothing. -/
theorem yields_of_alone (hrefl : ∀ s, others s s) {p : Proc σ α} {s t : σ} {n : Nat} {a : α}
    (h : p.alone s = .finished t n a) : p.Yields others s t a := by
  induction p generalizing s n with
  | done b => cases h; exact .done _ _
  | act u next ih => exact .act (ih s h)
  | pause ticks ready next ih =>
    simp only [alone] at h
    split at h
    · rename_i hr
      exact .woken (hrefl s) hr (ih true h)
    · cases ticks with
      | none => cases h
      | some m =>
        obtain ⟨k, hk, -⟩ := Ending.after_eq_finished h
        exact .elapsed (hrefl s) (ih false hk)

theorem yields_of_result (hrefl : ∀ s, others s s) {p : Proc σ α} {s : σ} {a : α}
    (h : (p.alone s).result? = some a) : p.Yields others s (p.alone s).state a := by
  obtain ⟨t, n, ht⟩ := Ending.finished_of_result h
  rw [ht]
  exact yields_of_alone hrefl ht

end CalBench.Proc
