/-
What can be read off a process.

A process is a tree, and some facts about all its executions are facts about every branch of the tree:
- `Keeps`: what each of its changes keeps;
- `Returns`: what is true of every result;
- `Blind`: a change of the state that it cannot see;
- `Timed`: it waits for no condition, so that nobody else is needed for it to go on;
- `Instant`: it is one change of the state, or none.
Each is passed on by the ways in which processes are put together, by induction on the tree.
-/
import CalBench.Process.Basic

namespace CalBench.Proc

variable {σ τ α β ε : Type}

/-! ## What a process keeps -/

/-- every change that the process may make keeps a condition -/
def Keeps (I : σ → Prop) : Proc σ α → Prop
  | done _ => True
  | act update next => (∀ s, I s → I (update s)) ∧ ∀ s, I s → Keeps I (next s)
  | pause _ _ next => ∀ b, Keeps I (next b)

theorem keeps_bind {I : σ → Prop} {p : Proc σ α} {f : α → Proc σ β} (hp : p.Keeps I) (hf : ∀ a, (f a).Keeps I) :
    (p.bind f).Keeps I := by
  induction p with
  | done a => exact hf a
  | act update next ih => exact ⟨hp.1, fun s hs => ih s (hp.2 s hs)⟩
  | pause ticks ready next ih => exact fun b => ih b (hp b)

theorem keeps_andThen {I : σ → Prop} {p : Fallible σ ε α} {f : α → Fallible σ ε β} (hp : p.Keeps I)
    (hf : ∀ a, (f a).Keeps I) : (p.andThen f).Keeps I := by
  refine keeps_bind hp fun r => ?_
  cases r with
  | ok a => exact hf a
  | error e => trivial

theorem keeps_get_bind {I : σ → Prop} {f : σ → Proc σ α} (hf : ∀ s, I s → (f s).Keeps I) : (Proc.get.bind f).Keeps I :=
  ⟨fun _ hs => hs, hf⟩

theorem keeps_update {I : σ → Prop} {u : σ → σ} (hu : ∀ s, I s → I (u s)) : (update u).Keeps I :=
  ⟨hu, fun _ _ => trivial⟩

theorem keeps_sleep (I : σ → Prop) (ticks : Nat) : (sleep ticks : Proc σ Unit).Keeps I := fun _ => trivial

theorem keeps_sleepIfAny (I : σ → Prop) (ticks : Nat) : (sleepIfAny ticks : Proc σ Unit).Keeps I := by
  unfold sleepIfAny
  split
  · trivial
  · exact keeps_sleep I ticks

theorem keeps_onPart {I : τ → Prop} {part : Part τ σ} (hset : ∀ c t, I t → I (part.set c t)) (p : Proc σ α) :
    (p.onPart part).Keeps I := by
  induction p with
  | done a => trivial
  | act update next ih => exact ⟨fun t ht => hset _ t ht, fun t _ => ih (part.get t)⟩
  | pause ticks ready next ih => exact fun b => ih b

/-! ## What a process returns -/

def Returns (post : α → Prop) : Proc σ α → Prop
  | done a => post a
  | act _ next => ∀ s, Returns post (next s)
  | pause _ _ next => ∀ b, Returns post (next b)

theorem returns_trivial (p : Proc σ α) : p.Returns fun _ => True := by
  induction p with
  | done a => trivial
  | act update next ih => exact ih
  | pause ticks ready next ih => exact ih

theorem Returns.mono {post post' : α → Prop} {p : Proc σ α} (hp : p.Returns post) (h : ∀ a, post a → post' a) :
    p.Returns post' := by
  induction p with
  | done a => exact h a hp
  | act update next ih => exact fun s => ih s (hp s)
  | pause ticks ready next ih => exact fun b => ih b (hp b)

theorem returns_bind {post : α → Prop} {post' : β → Prop} {p : Proc σ α} {f : α → Proc σ β} (hp : p.Returns post)
    (hf : ∀ a, post a → (f a).Returns post') : (p.bind f).Returns post' := by
  induction p with
  | done a => exact hf a hp
  | act update next ih => exact fun s => ih s (hp s)
  | pause ticks ready next ih => exact fun b => ih b (hp b)

theorem returns_onPart {post : α → Prop} {part : Part τ σ} {p : Proc σ α} (hp : p.Returns post) :
    (p.onPart part).Returns post := by
  induction p with
  | done a => exact hp
  | act update next ih => exact fun t => ih (part.get t) (hp (part.get t))
  | pause ticks ready next ih => exact fun b => ih b (hp b)

def Succeeds (post : α → Prop) (p : Fallible σ ε α) : Prop := p.Returns fun r => ∀ a, r = .ok a → post a

theorem succeeds_andThen {post : α → Prop} {post' : β → Prop} {p : Fallible σ ε α} {f : α → Fallible σ ε β}
    (hp : p.Succeeds post) (hf : ∀ a, post a → (f a).Succeeds post') : (p.andThen f).Succeeds post' := by
  refine returns_bind hp fun r hr => ?_
  cases r with
  | ok a => exact hf a (hr a rfl)
  | error e => exact fun b hb => by cases hb

theorem succeeds_mapError {ε' : Type} {post : α → Prop} {p : Fallible σ ε α} (hp : p.Succeeds post) (f : ε → ε') :
    (p.mapError f).Succeeds post := by
  refine returns_bind hp fun r hr => ?_
  cases r with
  | ok a => exact fun b hb => by cases hb; exact hr a rfl
  | error e => exact fun b hb => nomatch hb

theorem succeeds_trivial (p : Fallible σ ε α) : p.Succeeds fun _ => True :=
  (returns_trivial p).mono fun _ _ _ _ => trivial

/-! ## What a process cannot see -/

/-- no change and no condition of the process depends on whether the state has been changed by `f` -/
def Blind (f : σ → σ) : Proc σ α → Prop
  | done _ => True
  | act update next => (∀ s, update (f s) = f (update s) ∧ next (f s) = next s) ∧ ∀ s, Blind f (next s)
  | pause _ ready next => (∀ s, ready (f s) = ready s) ∧ ∀ b, Blind f (next b)

theorem blind_bind {f : σ → σ} {p : Proc σ α} {g : α → Proc σ β} (hp : p.Blind f) (hg : ∀ a, (g a).Blind f) :
    (p.bind g).Blind f := by
  induction p with
  | done a => exact hg a
  | act update next ih =>
    refine ⟨fun s => ⟨(hp.1 s).1, ?_⟩, fun s => ih s (hp.2 s)⟩
    exact congrArg (·.bind g) (hp.1 s).2
  | pause ticks ready next ih => exact ⟨hp.1, fun b => ih b (hp.2 b)⟩

theorem blind_get_bind {f : σ → σ} {g : σ → Proc σ α} (hf : ∀ s, g (f s) = g s) (hg : ∀ s, (g s).Blind f) :
    (Proc.get.bind g).Blind f :=
  ⟨fun s => ⟨rfl, hf s⟩, hg⟩

theorem blind_update {f u : σ → σ} (hu : ∀ s, u (f s) = f (u s)) : (update u).Blind f :=
  ⟨fun s => ⟨hu s, rfl⟩, fun _ => trivial⟩

theorem blind_sleep (f : σ → σ) (ticks : Nat) : (sleep ticks : Proc σ Unit).Blind f :=
  ⟨fun _ => rfl, fun _ => trivial⟩

theorem blind_sleepIfAny (f : σ → σ) (ticks : Nat) : (sleepIfAny ticks : Proc σ Unit).Blind f := by
  unfold sleepIfAny
  split
  · trivial
  · exact blind_sleep f ticks

theorem blind_onPart {f : τ → τ} {part : Part τ σ} (hget : ∀ t, part.get (f t) = part.get t)
    (hset : ∀ c t, part.set c (f t) = f (part.set c t)) (p : Proc σ α) : (p.onPart part).Blind f := by
  induction p with
  | done a => trivial
  | act update next ih =>
    refine ⟨fun t => ⟨?_, ?_⟩, fun t => ih (part.get t)⟩
    · simp only [hget, hset]
    · simp only [hget]
  | pause ticks ready next ih => exact ⟨fun t => by simp only [hget], fun b => ih b⟩

/-! ## Waiting -/

/-- the process waits for no condition, only for some time -/
def Timed : Proc σ α → Prop
  | done _ => True
  | act _ next => ∀ s, Timed (next s)
  | pause ticks _ next => ticks ≠ none ∧ ∀ b, Timed (next b)

theorem timed_bind {p : Proc σ α} {f : α → Proc σ β} (hp : p.Timed) (hf : ∀ a, (f a).Timed) : (p.bind f).Timed := by
  induction p with
  | done a => exact hf a
  | act update next ih => exact fun s => ih s (hp s)
  | pause ticks ready next ih => exact ⟨hp.1, fun b => ih b (hp.2 b)⟩

theorem timed_andThen {p : Fallible σ ε α} {f : α → Fallible σ ε β} (hp : p.Timed) (hf : ∀ a, (f a).Timed) :
    (p.andThen f).Timed := by
  refine timed_bind hp fun r => ?_
  cases r with
  | ok a => exact hf a
  | error e => trivial

theorem timed_sleep (ticks : Nat) : (sleep ticks : Proc σ Unit).Timed := ⟨by simp, fun _ => trivial⟩

theorem timed_sleepIfAny (ticks : Nat) : (sleepIfAny ticks : Proc σ Unit).Timed := by
  unfold sleepIfAny
  split
  · trivial
  · exact timed_sleep ticks

/-! ## At once -/

/-- the process is one change of the state, or none -/
inductive Instant : Proc σ Unit → (σ → σ) → Prop
  | none : Instant (.done ()) id
  | change (u : σ → σ) : Instant (.update u) u

namespace Instant

variable {p : Proc σ Unit} {u : σ → σ}

theorem keeps {I : σ → Prop} (h : p.Instant u) (hu : ∀ s, I s → I (u s)) : p.Keeps I := by
  cases h with
  | none => trivial
  | change u => exact keeps_update hu

theorem timed (h : p.Instant u) : p.Timed := by
  cases h with
  | none => trivial
  | change u => exact fun _ => trivial

theorem blind {f : σ → σ} (h : p.Instant u) (hu : ∀ s, u (f s) = f (u s)) : p.Blind f := by
  cases h with
  | none => trivial
  | change u => exact blind_update hu

end Instant

end CalBench.Proc
