/-
What a process does to a state that others change too.

A process is given leave to make some changes, `mine`, on condition that what the others do while it waits is among
`theirs`. It `Obeys` if every change that it makes is one of `mine`, made in a state in which it may be made, and if
what it ends with meets `post` in the state at the end. Nothing is said about when it goes on after a pause.
- `obeys_bind`: the second process starts where the first one ended;
- `Obeys.onPart`, `Obeys.within`: a process on a part of the state, or with a private state of its own;
- `Makes`: all changes are among some in any state, whatever the others do;
- `obeys_guarded`, `makes_guarded`: a stop condition adds no changes but those of the other thing that is done instead;
- `Obeys.of_yields`, `Obeys.alone`, `Obeys.advance`: what follows for an execution, for a process on its own, and for a
  process up to its next wait.
-/
import Mathlib.Logic.Relation
import CalBench.Process.Schedule
import CalBench.Proofs.Process.Among

namespace CalBench.Proc

variable {σ τ ρ α β ε : Type}

/-- a pause may end in a state: because the condition holds, or because the time is up -/
def Resumes (ticks : Option Nat) (ready : σ → Bool) (s : σ) : Bool → Prop
  | true => ready s = true
  | false => ticks ≠ none

theorem resumes_comp {ticks : Option Nat} {ready : σ → Bool} {f : τ → σ} {t : τ} {b : Bool} :
    Resumes ticks (fun t => ready (f t)) t b ↔ Resumes ticks ready (f t) b := by
  cases b <;> rfl

/-- from a state on, every change of the process is one of `mine` and what it ends with meets `post`, if every change
of the others at its pauses is one of `theirs` -/
def Obeys (theirs mine : σ → σ → Prop) (post : σ → α → Prop) : Proc σ α → σ → Prop
  | done a, s => post s a
  | act update next, s => mine s (update s) ∧ Obeys theirs mine post (next s) (update s)
  | pause ticks ready next, s =>
    ∀ t b, theirs s t → Resumes ticks ready t b → Obeys theirs mine post (next b) t

def Anything (_ _ : σ) : Prop := True

section Rules

variable {theirs mine : σ → σ → Prop} {s : σ}

theorem Obeys.mono {theirs' mine' : σ → σ → Prop} {post post' : σ → α → Prop} {p : Proc σ α}
    (h : p.Obeys theirs mine post s) (ht : ∀ x y, theirs' x y → theirs x y) (hm : ∀ x y, mine x y → mine' x y)
    (hp : ∀ x a, post x a → post' x a) : p.Obeys theirs' mine' post' s := by
  induction p generalizing s with
  | done a => exact hp s a h
  | act update next ih => exact ⟨hm _ _ h.1, ih s h.2⟩
  | pause ticks ready next ih => exact fun t b hb hr => ih b (h t b (ht s t hb) hr)

theorem Obeys.imp {post post' : σ → α → Prop} {p : Proc σ α} (h : p.Obeys theirs mine post s)
    (hp : ∀ x a, post x a → post' x a) : p.Obeys theirs mine post' s :=
  h.mono (fun _ _ hx => hx) (fun _ _ hx => hx) hp

theorem obeys_bind {post : σ → β → Prop} {p : Proc σ α} {f : α → Proc σ β}
    (h : p.Obeys theirs mine (fun t a => (f a).Obeys theirs mine post t) s) :
    (p.bind f).Obeys theirs mine post s := by
  induction p generalizing s with
  | done a => exact h
  | act update next ih => exact ⟨h.1, ih s h.2⟩
  | pause ticks ready next ih => exact fun t b hb hr => ih b (h t b hb hr)

theorem obeys_andThen {post : σ → Except ε β → Prop} {p : Fallible σ ε α} {f : α → Fallible σ ε β}
    (h : p.Obeys theirs mine (fun t r => match r with
      | .ok a => (f a).Obeys theirs mine post t
      | .error e => post t (.error e)) s) : (p.andThen f).Obeys theirs mine post s := by
  refine obeys_bind (h.imp fun t r hr => ?_)
  cases r with
  | ok a => exact hr
  | error e => exact hr

theorem obeys_get_bind {post : σ → α → Prop} {f : σ → Proc σ α} (hm : mine s s)
    (h : (f s).Obeys theirs mine post s) : (Proc.get.bind f).Obeys theirs mine post s := ⟨hm, h⟩

theorem obeys_update_bind {post : σ → α → Prop} {u : σ → σ} {f : Unit → Proc σ α} (hm : mine s (u s))
    (h : (f ()).Obeys theirs mine post (u s)) : ((update u).bind f).Obeys theirs mine post s := ⟨hm, h⟩

theorem returns_get_bind {q : α → Prop} {f : σ → Proc σ α} (hf : ∀ s, (f s).Returns q) : (Proc.get.bind f).Returns q :=
  hf

/-- what every result meets can be added to the condition on the end -/
theorem Obeys.and_returns {post : σ → α → Prop} {q : α → Prop} {p : Proc σ α} (h : p.Obeys theirs mine post s)
    (hq : p.Returns q) : p.Obeys theirs mine (fun t a => post t a ∧ q a) s := by
  induction p generalizing s with
  | done a => exact ⟨h, hq⟩
  | act update next ih => exact ⟨h.1, ih s h.2 (hq s)⟩
  | pause ticks ready next ih => exact fun t b hb hr => ih b (h t b hb hr) (hq b)

end Rules

theorem Obeys.and {mine' : σ → σ → Prop} {post post' : σ → α → Prop} {p : Proc σ α} (h : p.Obeys theirs mine post s)
    (h' : p.Obeys theirs mine' post' s) :
    p.Obeys theirs (fun x y => mine x y ∧ mine' x y) (fun t a => post t a ∧ post' t a) s := by
  induction p generalizing s with
  | done a => exact ⟨h, h'⟩
  | act update next ih => exact ⟨⟨h.1, h'.1⟩, ih s h.2 h'.2⟩
  | pause ticks ready next ih => exact fun t b hb hr => ih b (h t b hb hr) (h' t b hb hr)

/-- what the changes of both sides keep can be added to the condition on the end -/
theorem Obeys.stable {I : σ → Prop} {post : σ → α → Prop} {p : Proc σ α} (h : p.Obeys theirs mine post s)
    (ht : ∀ x y, theirs x y → I x → I y) (hm : ∀ x y, mine x y → I x → I y) (hs : I s) :
    p.Obeys theirs mine (fun t a => post t a ∧ I t) s := by
  induction p generalizing s with
  | done a => exact ⟨h, hs⟩
  | act update next ih => exact ⟨h.1, ih s h.2 (hm _ _ h.1 hs)⟩
  | pause ticks ready next ih => exact fun t b hb hr => ih b (h t b hb hr) (ht s t hb hs)

/-- what the process and the others keep holds at the end -/
theorem Keeps.obeys {theirs : σ → σ → Prop} {I : σ → Prop} {p : Proc σ α} (hp : p.Keeps I)
    (ht : ∀ x y, theirs x y → I x → I y) {s : σ} (hs : I s) : p.Obeys theirs Anything (fun t _ => I t) s := by
  induction p generalizing s with
  | done a => exact hs
  | act update next ih => exact ⟨trivial, ih s (hp.2 s hs) (hp.1 s hs)⟩
  | pause ticks ready next ih => exact fun t b hb _ => ih b (hp b) (ht s t hb hs)

/-- a process with a stop condition obeys if it does so without one, and what is done instead obeys from every state
that comes about on the way -/
theorem obeys_guarded {theirs mine : σ → σ → Prop} {I : σ → Prop} {post : σ → α → Prop} (hrefl : ∀ s, mine s s)
    (ht : ∀ x y, theirs x y → I x → I y) (hm : ∀ x y, mine x y → I x → I y) {p instead : Proc σ α}
    (hi : ∀ s, I s → instead.Obeys theirs mine post s) (stop : σ → Bool) {s : σ} (hs : I s)
    (hp : p.Obeys theirs mine post s) : (guarded stop p instead).Obeys theirs mine post s := by
  induction p generalizing s with
  | done a => exact hp
  | act update next ih => exact ⟨hp.1, ih s (hm _ _ hp.1 hs) hp.2⟩
  | pause ticks ready next ih =>
    intro t b hst hr
    have hIt := ht s t hst hs
    refine ⟨hrefl t, ?_⟩
    dsimp only [id]
    by_cases hstop : stop t
    · rw [if_pos hstop]
      exact hi t hIt
    · rw [if_neg hstop]
      refine ih b hIt (hp t b hst ?_)
      -- the condition of the pause alone has ended it
      cases b with
      | true => simpa [Resumes, hstop] using hr
      | false => exact hr

/-! ## Parts and private states -/

/-- a process on a part of the state: the changes of the part are seen as changes of the whole -/
theorem Obeys.onPart {part : Part τ σ} {theirs mine : σ → σ → Prop} {theirs' mine' : τ → τ → Prop}
    {post : σ → α → Prop} {post' : τ → α → Prop} {p : Proc σ α} {t : τ}
    (h : p.Obeys theirs mine post (part.get t)) (hget : ∀ c t, part.get (part.set c t) = c)
    (ht : ∀ x y, theirs' x y → theirs (part.get x) (part.get y))
    (hm : ∀ x c, mine (part.get x) c → mine' x (part.set c x)) (hp : ∀ x a, post (part.get x) a → post' x a) :
    (p.onPart part).Obeys theirs' mine' post' t := by
  induction p generalizing t with
  | done a => exact hp t a h
  | act update next ih =>
    refine ⟨hm t _ h.1, ih (part.get t) ?_⟩
    rw [hget]
    exact h.2
  | pause ticks ready next ih =>
    exact fun u b hu hr => ih b (h (part.get u) b (ht t u hu) (resumes_comp.1 hr))

/-- a process with a private state, which the others do not see -/
theorem Obeys.within {theirs mine : σ × ρ → σ × ρ → Prop} {theirs' mine' : σ → σ → Prop} {post : σ × ρ → α → Prop}
    {post' : σ → α × ρ → Prop} {p : Proc (σ × ρ) α} {s : σ} {r : ρ} (h : p.Obeys theirs mine post (s, r))
    (ht : ∀ x y r, theirs' x y → theirs (x, r) (y, r)) (hm : ∀ x r c, mine (x, r) c → mine' x c.1)
    (hp : ∀ x r a, post (x, r) a → post' x (a, r)) : (p.within r).Obeys theirs' mine' post' s := by
  induction p generalizing s r with
  | done a => exact hp s r a h
  | act update next ih => exact ⟨hm s r _ h.1, ih (s, r) h.2⟩
  | pause ticks ready next ih =>
    exact fun u b hu hr => ih b (h (u, r) b (ht s u r hu) (resumes_comp.1 hr))

/-! ## Whatever the state -/

/-- every change of the process is one of `mine`, whatever the state and the others -/
def Makes (mine : σ → σ → Prop) (p : Proc σ α) : Prop := ∀ s, p.Obeys Anything mine (fun _ _ => True) s

section Anywhere

variable {mine : σ → σ → Prop}

theorem makes_done (a : α) : (done a : Proc σ α).Makes mine := fun _ => trivial

theorem makes_bind {p : Proc σ α} {f : α → Proc σ β} (hp : p.Makes mine) (hf : ∀ a, (f a).Makes mine) :
    (p.bind f).Makes mine :=
  fun s => obeys_bind ((hp s).imp fun t a _ => hf a t)

theorem makes_andThen {p : Fallible σ ε α} {f : α → Fallible σ ε β} (hp : p.Makes mine) (hf : ∀ a, (f a).Makes mine) :
    (p.andThen f).Makes mine := by
  refine makes_bind hp fun r => ?_
  cases r with
  | ok a => exact hf a
  | error e => exact makes_done _

theorem makes_get_bind {f : σ → Proc σ α} (hm : ∀ s, mine s s) (hf : ∀ s, (f s).Makes mine) :
    (Proc.get.bind f).Makes mine :=
  fun s => ⟨hm s, hf s s⟩

theorem makes_update {u : σ → σ} (hm : ∀ s, mine s (u s)) : (update u).Makes mine := fun s => ⟨hm s, trivial⟩

theorem Instant.makes {p : Proc σ Unit} {u : σ → σ} (h : p.Instant u) (hm : ∀ s, mine s (u s)) : p.Makes mine := by
  cases h with
  | none => exact makes_done ()
  | change u => exact makes_update hm

theorem makes_sleep (ticks : Nat) : (sleep ticks : Proc σ Unit).Makes mine := fun _ _ _ _ _ => trivial

theorem makes_sleepIfAny (ticks : Nat) : (sleepIfAny ticks : Proc σ Unit).Makes mine := by
  unfold sleepIfAny
  split
  · exact makes_done ()
  · exact makes_sleep ticks

theorem makes_onPart {part : Part τ σ} {mine : τ → τ → Prop} (hm : ∀ c t, mine t (part.set c t)) (p : Proc σ α) :
    (p.onPart part).Makes mine := by
  intro t
  induction p generalizing t with
  | done a => trivial
  | act update next ih => exact ⟨hm _ t, ih (part.get t) _⟩
  | pause ticks ready next ih => exact fun u b _ _ => ih b u

theorem Makes.onPart {part : Part τ σ} {mine' : τ → τ → Prop} {p : Proc σ α} (hp : p.Makes mine)
    (hget : ∀ c t, part.get (part.set c t) = c) (hm : ∀ t c, mine (part.get t) c → mine' t (part.set c t)) :
    (p.onPart part).Makes mine' :=
  fun t => (hp (part.get t)).onPart hget (fun _ _ h => h) hm fun _ _ _ => trivial

theorem makes_within {mine : σ × ρ → σ × ρ → Prop} {mine' : σ → σ → Prop} {p : Proc (σ × ρ) α} (hp : p.Makes mine)
    (hm : ∀ x r c, mine (x, r) c → mine' x c.1) (r : ρ) : (p.within r).Makes mine' :=
  fun s => (hp (s, r)).within (fun _ _ _ h => h) hm fun _ _ _ _ => trivial

/-- **A stop condition adds no changes**, but those of what is done instead -/
theorem makes_guarded (hrefl : ∀ s, mine s s) {p instead : Proc σ α} (hp : p.Makes mine) (hi : instead.Makes mine)
    (stop : σ → Bool) : (guarded stop p instead).Makes mine :=
  fun s => obeys_guarded (I := fun _ => True) hrefl (fun _ _ _ _ => trivial) (fun _ _ _ _ => trivial)
    (fun t _ => hi t) stop trivial (hp s)

theorem Makes.mono {mine' : σ → σ → Prop} {p : Proc σ α} (h : p.Makes mine) (hm : ∀ x y, mine x y → mine' x y) :
    p.Makes mine' := fun s => (h s).mono (fun _ _ ht => ht) hm fun _ _ ht => ht

/-- what the results meet comes from elsewhere -/
theorem Makes.obeys {p : Proc σ α} (h : p.Makes mine) {post : α → Prop} (hp : p.Returns post)
    (theirs : σ → σ → Prop) (s : σ) : p.Obeys theirs mine (fun _ a => post a) s :=
  (((h s).and_returns hp).mono (fun _ _ _ => trivial) (fun _ _ hm => hm) fun _ _ h => h.2)

end Anywhere

/-! ## Executions -/

section Executions

variable {theirs mine : σ → σ → Prop} {post : σ → α → Prop} {p : Proc σ α} {s t : σ}

theorem Obeys.of_yields {a : α} (h : p.Obeys theirs mine post s) (hy : p.Yields theirs s t a) : post t a := by
  induction hy with
  | done => exact h
  | act _ ih => exact ih h.2
  | woken ho hr _ ih => exact ih (h _ true ho hr)
  | elapsed ho _ ih => exact ih (h _ false ho (Option.some_ne_none _))

theorem advance_get_bind (f : σ → Proc σ α) (s : σ) : (Proc.get.bind f).advance s = (f s).advance s := rfl

/-- with nobody else around a process makes changes of its own only, which come to one if they are a preorder -/
theorem Obeys.alone (hothers : ∀ s, theirs s s) (hrefl : ∀ s, mine s s)
    (htrans : ∀ s t u, mine s t → mine t u → mine s u) (h : p.Obeys theirs mine post s) : mine s (p.alone s).state := by
  induction p generalizing s with
  | done a => exact hrefl s
  | act update next ih => exact htrans _ _ _ h.1 (ih s h.2)
  | pause ticks ready next ih =>
    simp only [Proc.alone]
    split
    · rename_i hr
      exact ih true (h s true (hothers s) hr)
    · cases ticks with
      | none => exact hrefl s
      | some n =>
        rw [Ending.state_after]
        exact ih false (h s false (hothers s) (Option.some_ne_none n))

theorem Makes.of_finished (hp : p.Makes mine) (hrefl : ∀ s, mine s s) (htrans : ∀ s t u, mine s t → mine t u → mine s u)
    {n : Nat} {a : α} (h : p.alone s = .finished t n a) : mine s t := by
  have hmine := (hp s).alone (fun _ => trivial) hrefl htrans
  rw [h] at hmine
  exact hmine

/-- up to its end or its next wait a process makes changes of its own only -/
theorem Obeys.advance (hrefl : ∀ s, theirs s s) (h : p.Obeys theirs mine post s) :
    Relation.ReflTransGen mine s (p.advance s).1 ∧ match (p.advance s).2 with
      | .ended a => post (p.advance s).1 a
      | .waits w => w.proc.Obeys theirs mine post (p.advance s).1 := by
  induction p generalizing s with
  | done a => exact ⟨.refl, h⟩
  | act update next ih =>
    obtain ⟨hm, hn⟩ := ih s h.2
    exact ⟨.head h.1 hm, hn⟩
  | pause ticks ready next ih =>
    by_cases hr : ready s
    · simp only [Proc.advance, hr, if_true]
      exact ih true (h s true (hrefl s) hr)
    · by_cases ht : ticks = some 0
      · simp only [Proc.advance, hr, ht, if_true]
        exact ih false (h s false (hrefl s) (by simp [Resumes, ht]))
      · simp only [Proc.advance, hr, ht, if_false]
        exact ⟨.refl, h⟩

end Executions

end CalBench.Proc
