/-
Processes from condition to condition, and processes that take turns.

`Meets` puts a condition before a process that `Obeys` and one after it, which is what longer processes are taken apart
with. A process that consists of others, one after another, may be bound in each of them by something else: `InTurn`
says what changes each of them makes, and that between them there are none but idle ones.

Results:
- `meets_bind`, `meets_andThen`, `meets_get_bind`, `meets_guarded`: the parts of a process;
- `Meets.onPart`: a process on a part of the state;
- `RetryPolicy.tryFrom_meets`: a read that is tried again;
- `inTurn_quietly`, `inTurn_part`: how a process of several parts goes on.
-/
import CalBench.Proofs.Process.Obeys
import CalBench.Run.Retry

namespace CalBench.Proc

variable {σ τ α β ε ι : Type} {theirs mine : σ → σ → Prop}

/-! ## From condition to condition -/

/-- from every state that meets a condition the process obeys, and what it ends with meets another -/
def Meets (theirs mine : σ → σ → Prop) (P : σ → Prop) (p : Proc σ α) (Q : α → σ → Prop) : Prop :=
  ∀ s, P s → p.Obeys theirs mine (fun t a => Q a t) s

section Rules

variable {P : σ → Prop} {Q : α → σ → Prop}

theorem meets_done {a : α} (h : ∀ s, P s → Q a s) : Meets theirs mine P (.done a) Q := h

theorem Meets.mono {P' : σ → Prop} {Q' : α → σ → Prop} {p : Proc σ α} (h : Meets theirs mine P p Q)
    (hP : ∀ s, P' s → P s) (hQ : ∀ a s, Q a s → Q' a s) : Meets theirs mine P' p Q' :=
  fun s hs => (h s (hP s hs)).imp fun t a => hQ a t

theorem meets_bind {R : β → σ → Prop} {p : Proc σ β} {f : β → Proc σ α} (hp : Meets theirs mine P p R)
    (hf : ∀ b, Meets theirs mine (R b) (f b) Q) : Meets theirs mine P (p.bind f) Q :=
  fun s hs => obeys_bind ((hp s hs).imp fun t b hb => hf b t hb)

theorem meets_andThen {R : Except ε β → σ → Prop} {Q : Except ε α → σ → Prop} {p : Fallible σ ε β}
    {f : β → Fallible σ ε α} (hp : Meets theirs mine P p R) (hf : ∀ b, Meets theirs mine (R (.ok b)) (f b) Q)
    (he : ∀ e s, R (.error e) s → Q (.error e) s) : Meets theirs mine P (p.andThen f) Q := by
  refine meets_bind hp fun r => ?_
  cases r with
  | ok b => exact hf b
  | error e => exact meets_done (he e)

/-- a condition that both processes keep -/
theorem Meets.andThen {p : Fallible σ ε β} {f : β → Fallible σ ε α} (hp : Meets theirs mine P p fun _ => P)
    (hf : ∀ b, Meets theirs mine P (f b) fun _ => P) : Meets theirs mine P (p.andThen f) fun _ => P :=
  meets_andThen hp hf fun _ _ h => h

theorem Meets.mapError {ε' : Type} {p : Fallible σ ε α} (hp : Meets theirs mine P p fun _ => P) (f : ε → ε') :
    Meets theirs mine P (p.mapError f) fun _ => P := by
  refine meets_bind hp fun r => ?_
  cases r with
  | ok a => exact meets_done fun _ h => h
  | error e => exact meets_done fun _ h => h

/-- what an error in other words comes from -/
theorem meets_mapError {ε' : Type} {R : Except ε α → σ → Prop} {p : Fallible σ ε α} (hp : Meets theirs mine P p R)
    (f : ε → ε') : Meets theirs mine P (p.mapError f) fun r s => ∃ q, R q s ∧ r = q.mapError f := by
  refine meets_bind hp fun q => ?_
  cases q with
  | ok a => exact meets_done fun s hs => ⟨_, hs, rfl⟩
  | error e => exact meets_done fun s hs => ⟨_, hs, rfl⟩

theorem meets_get_bind {f : σ → Proc σ α} (hm : ∀ s, mine s s)
    (hf : ∀ s, P s → Meets theirs mine (fun t => t = s) (f s) Q) : Meets theirs mine P (Proc.get.bind f) Q :=
  fun s hs => obeys_get_bind (hm s) (hf s hs s rfl)

theorem meets_update {u : σ → σ} {Q : Unit → σ → Prop} (hm : ∀ s, P s → mine s (u s)) (h : ∀ s, P s → Q () (u s)) :
    Meets theirs mine P (update u) Q := fun s hs => ⟨hm s hs, h s hs⟩

theorem meets_step {f : σ → σ × α} (hm : ∀ s, P s → mine s (f s).1) (h : ∀ s, P s → Q (f s).2 (f s).1) :
    Meets theirs mine P (Proc.step f) Q := fun s hs => ⟨hm s hs, h s hs⟩

theorem meets_sleep (hP : ∀ x y, theirs x y → P x → P y) (ticks : Nat) :
    Meets theirs mine P (sleep ticks) fun _ => P := fun _ hs _ _ ht _ => hP _ _ ht hs

theorem meets_sleepIfAny (hP : ∀ x y, theirs x y → P x → P y) (ticks : Nat) :
    Meets theirs mine P (sleepIfAny ticks) fun _ => P := by
  unfold sleepIfAny
  split
  · exact meets_done fun _ h => h
  · exact meets_sleep hP ticks

theorem meets_guarded {I : σ → Prop} (hm : ∀ s, mine s s) (ht : ∀ x y, theirs x y → I x → I y)
    (hmI : ∀ x y, mine x y → I x → I y) {p instead : Proc σ α} (hp : Meets theirs mine I p Q)
    (hi : Meets theirs mine I instead Q) (stop : σ → Bool) : Meets theirs mine I (guarded stop p instead) Q :=
  fun s hs => obeys_guarded hm ht hmI hi stop hs (hp s hs)

end Rules

/-- a process on a part of the state -/
theorem Meets.onPart {part : Part τ σ} {theirs' mine' : τ → τ → Prop} {P : σ → Prop} {Q : α → σ → Prop} {p : Proc σ α}
    (h : Meets theirs mine P p Q) (hget : ∀ c t, part.get (part.set c t) = c)
    (ht : ∀ x y, theirs' x y → theirs (part.get x) (part.get y))
    (hm : ∀ x c, mine (part.get x) c → mine' x (part.set c x)) :
    Meets theirs' mine' (fun t => P (part.get t)) (p.onPart part) fun a t => Q a (part.get t) :=
  fun t hs => (h (part.get t) hs).onPart hget ht hm fun _ _ hq => hq

/-! ## In turn -/

/-- the process makes changes of a kind only, up to its end or to where it goes on as described -/
inductive Until (theirs idle : σ → σ → Prop) (goesOn : Proc σ α → σ → Prop) : Proc σ α → σ → Prop
  | goesOn {p : Proc σ α} {s : σ} (h : goesOn p s) : Until theirs idle goesOn p s
  | done (a : α) (s : σ) : Until theirs idle goesOn (.done a) s
  | act {update : σ → σ} {next : σ → Proc σ α} {s : σ} (hi : idle s (update s))
      (h : Until theirs idle goesOn (next s) (update s)) : Until theirs idle goesOn (.act update next) s
  | pause {ticks : Option Nat} {ready : σ → Bool} {next : Bool → Proc σ α} {s : σ}
      (h : ∀ t b, theirs s t → Resumes ticks ready t b → Until theirs idle goesOn (next b) t) :
      Until theirs idle goesOn (.pause ticks ready next) s

/-- the process consists of parts, one after another, in each of which it makes changes of the kind that goes with the
part; between the parts and after them it makes none but idle ones; it may end after any part -/
def InTurn (theirs idle : σ → σ → Prop) (part : ι → Proc σ β) (mine : ι → σ → σ → Prop) :
    List ι → Proc σ α → σ → Prop
  | [] => Until theirs idle fun _ _ => False
  | i :: rest => Until theirs idle fun p s => ∃ f : β → Proc σ α, p = (part i).bind f ∧
      (part i).Obeys theirs (mine i) (fun t b => InTurn theirs idle part mine rest (f b) t) s

section Turns

variable {idle : σ → σ → Prop} {part : ι → Proc σ β} {kind : ι → σ → σ → Prop} {l : List ι} {s : σ}

theorem until_bind {goesOn : Proc σ β → σ → Prop} {p : Proc σ α} {f : α → Proc σ β}
    (h : p.Obeys theirs idle (fun t a => Until theirs idle goesOn (f a) t) s) :
    Until theirs idle goesOn (p.bind f) s := by
  induction p generalizing s with
  | done a => exact h
  | act update next ih => exact .act h.1 (ih s h.2)
  | pause ticks ready next ih => exact .pause fun t b ht hr => ih b (h t b ht hr)

theorem inTurn_done (a : α) : InTurn theirs idle part kind l (.done a) s := by
  cases l with
  | nil => exact .done a s
  | cons i rest => exact .done a s

/-- idle changes come between the parts -/
theorem inTurn_quietly {γ : Type} {p : Proc σ γ} {f : γ → Proc σ α}
    (h : p.Obeys theirs idle (fun t a => InTurn theirs idle part kind l (f a) t) s) :
    InTurn theirs idle part kind l (p.bind f) s := by
  cases l with
  | nil => exact until_bind h
  | cons i rest => exact until_bind h

theorem inTurn_get_bind {f : σ → Proc σ α} (hi : idle s s) (h : InTurn theirs idle part kind l (f s) s) :
    InTurn theirs idle part kind l (Proc.get.bind f) s := by
  have hget : (Proc.get : Proc σ σ).Obeys theirs idle (fun t a => InTurn theirs idle part kind l (f a) t) s := ⟨hi, h⟩
  exact inTurn_quietly hget

/-- idle changes may be all that is left -/
theorem inTurn_idly {post : σ → α → Prop} {p : Proc σ α} (h : p.Obeys theirs idle post s) :
    InTurn theirs idle part kind l p s := by
  rw [← bind_done p]
  exact inTurn_quietly (h.imp fun _ a _ => inTurn_done a)

/-- **A part, and after it the others** -/
theorem inTurn_part {i : ι} {f : β → Proc σ α}
    (h : (part i).Obeys theirs (kind i) (fun t b => InTurn theirs idle part kind l (f b) t) s) :
    InTurn theirs idle part kind (i :: l) ((part i).bind f) s :=
  .goesOn ⟨f, rfl, h⟩

end Turns

end CalBench.Proc

/-! ## Retried reads -/

namespace CalBench

open Proc

theorem RetryPolicy.tryFrom_meets {σ α : Type} {theirs mine : σ → σ → Prop} {I : σ → Prop}
    (ht : ∀ x y, theirs x y → I x → I y) (backoff : Duration) {read : Fallible σ LinkError α}
    (hread : Meets theirs mine I read fun _ => I) (left made : Nat) :
    Meets theirs mine I (tryFrom backoff read left made) fun _ => I := by
  induction left generalizing made with
  | zero =>
    unfold tryFrom
    refine meets_bind hread fun r => ?_
    cases r with
    | ok a => exact meets_done fun _ h => h
    | error e =>
      dsimp only
      split <;> exact meets_done fun _ h => h
  | succ left ih =>
    unfold tryFrom
    refine meets_bind hread fun r => ?_
    cases r with
    | ok a => exact meets_done fun _ h => h
    | error e =>
      dsimp only
      split
      · exact meets_bind (meets_sleep ht _) fun _ => ih (made + 1)
      · exact meets_done fun _ h => h

end CalBench
