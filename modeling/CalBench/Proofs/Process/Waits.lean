/-
Where a process waits.

`Waits` says at which pause, and in which state, a process may come to wait, while others change the state at its
earlier pauses. With it one can talk about what is left of a process: it is a `Yields` that stops half way.
- `waits_bind`: a wait of a sequence of two processes is one of the first, with the second to follow, or of the second;
- `Waits.of_onPart`, `Waits.of_within`: the waits of a process on a part of the state, or with a private state;
- `Waits.of_guarded`: at each wait of a process with a stop condition, what follows looks at the condition first;
- `Obeys.of_waits`: what is left of a process obeys what the whole process does.
-/
import CalBench.Proofs.Process.Obeys

namespace CalBench.Proc

variable {σ τ ρ α β ε : Type}

/-- the process comes to wait in a state, while `others` may happen at every pause before -/
inductive Waits (others : σ → σ → Prop) : Proc σ α → σ → Waiting σ α → σ → Prop
  | here (w : Waiting σ α) (s : σ) : Waits others w.proc s w s
  | act {update : σ → σ} {next : σ → Proc σ α} {s t : σ} {w : Waiting σ α} (h : Waits others (next s) (update s) w t) :
    Waits others (.act update next) s w t
  | later {ticks : Option Nat} {ready : σ → Bool} {next : Bool → Proc σ α} {s s' t : σ} {b : Bool} {w : Waiting σ α}
    (ho : others s s') (hr : Resumes ticks ready s' b) (h : Waits others (next b) s' w t) :
    Waits others (.pause ticks ready next) s w t

namespace Waiting

def bind (w : Waiting σ α) (f : α → Proc σ β) : Waiting σ β := ⟨w.ticks, w.ready, fun b => (w.next b).bind f⟩

def onPart (part : Part τ σ) (w : Waiting σ α) : Waiting τ α :=
  ⟨w.ticks, fun t => w.ready (part.get t), fun b => (w.next b).onPart part⟩

def within (w : Waiting (σ × ρ) α) (r : ρ) : Waiting σ (α × ρ) :=
  ⟨w.ticks, fun s => w.ready (s, r), fun b => (w.next b).within r⟩

end Waiting

variable {others : σ → σ → Prop}

theorem Waits.mono {others' : σ → σ → Prop} {p : Proc σ α} {s t : σ} {w : Waiting σ α} (h : p.Waits others s w t)
    (ho : ∀ x y, others x y → others' x y) : p.Waits others' s w t := by
  induction h with
  | here w s => exact .here w s
  | act _ ih => exact .act ih
  | later hs hr _ ih => exact .later (ho _ _ hs) hr ih

theorem not_waits_done {a : α} {s t : σ} {w : Waiting σ α} : ¬ (done a : Proc σ α).Waits others s w t := by
  generalize hp : (done a : Proc σ α) = p
  intro h
  cases h with
  | here => cases hp
  | act => cases hp
  | later => cases hp

theorem waits_act_iff {u : σ → σ} {next : σ → Proc σ α} {s t : σ} {w : Waiting σ α} :
    (Proc.act u next).Waits others s w t ↔ (next s).Waits others (u s) w t := by
  constructor
  · generalize hp : Proc.act u next = p
    intro h
    cases h with
    | here => cases hp
    | act h => cases hp; exact h
    | later => cases hp
  · exact .act

theorem waits_get_bind_iff {f : σ → Proc σ α} {s t : σ} {w : Waiting σ α} :
    (Proc.get.bind f).Waits others s w t ↔ (f s).Waits others s w t := waits_act_iff

theorem waits_update_bind_iff {u : σ → σ} {f : Unit → Proc σ α} {s t : σ} {w : Waiting σ α} :
    ((update u).bind f).Waits others s w t ↔ (f ()).Waits others (u s) w t := waits_act_iff

theorem Instant.waits_bind_iff {p : Proc σ Unit} {u : σ → σ} (h : p.Instant u) {f : Unit → Proc σ α} {s t : σ}
    {w : Waiting σ α} : (p.bind f).Waits others s w t ↔ (f ()).Waits others (u s) w t := by
  cases h with
  | none => rfl
  | change u => exact waits_act_iff

theorem waits_pause {ticks : Option Nat} {ready : σ → Bool} {next : Bool → Proc σ α} {s t : σ} {w : Waiting σ α}
    (h : (pause ticks ready next).Waits others s w t) :
    w = ⟨ticks, ready, next⟩ ∧ t = s ∨
      ∃ s' b, others s s' ∧ Resumes ticks ready s' b ∧ (next b).Waits others s' w t := by
  generalize hp : pause ticks ready next = p at h
  cases h with
  | here w s =>
    cases hp
    exact .inl ⟨rfl, rfl⟩
  | act => cases hp
  | later ho hr h =>
    cases hp
    exact .inr ⟨_, _, ho, hr, h⟩

/-- a process that gives way waits there, or in what follows -/
theorem waits_giveWay_bind {f : Unit → Proc σ α} {s t : σ} {w : Waiting σ α}
    (h : (giveWay.bind f).Waits others s w t) :
    w = ⟨none, fun _ => true, fun _ => f ()⟩ ∨ ∃ u, (f ()).Waits others u w t := by
  rcases waits_pause h with ⟨rfl, -⟩ | ⟨u, b, -, -, h⟩
  · exact .inl rfl
  · exact .inr ⟨u, h⟩

/-- a process yields what one of its continuations yields -/
theorem Yields.later {s s' t : σ} {b : Bool} {ticks : Option Nat} {ready : σ → Bool} {next : Bool → Proc σ α} {a : α}
    (ho : others s s') (hr : Resumes ticks ready s' b) (h : (next b).Yields others s' t a) :
    (pause ticks ready next).Yields others s t a := by
  cases b with
  | true => exact .woken ho hr h
  | false =>
    cases ticks with
    | none => exact absurd rfl hr
    | some n => exact .elapsed ho h

theorem waits_bind {p : Proc σ α} {f : α → Proc σ β} {s t : σ} {w : Waiting σ β} (h : (p.bind f).Waits others s w t) :
    (∃ v, p.Waits others s v t ∧ w = v.bind f) ∨ ∃ m a, p.Yields others s m a ∧ (f a).Waits others m w t := by
  induction p generalizing s with
  | done a => exact .inr ⟨s, a, .done a s, h⟩
  | act u next ih =>
    rcases ih s (waits_act_iff.1 h) with ⟨v, hv, rfl⟩ | ⟨m, a, hp, hf⟩
    · exact .inl ⟨v, .act hv, rfl⟩
    · exact .inr ⟨m, a, .act hp, hf⟩
  | pause ticks ready next ih =>
    rcases waits_pause h with ⟨rfl, rfl⟩ | ⟨s', b, ho, hr, h⟩
    · exact .inl ⟨⟨ticks, ready, next⟩, .here ⟨ticks, ready, next⟩ t, rfl⟩
    · rcases ih b h with ⟨v, hv, rfl⟩ | ⟨m, a, hp, hf⟩
      · exact .inl ⟨v, .later ho hr hv, rfl⟩
      · exact .inr ⟨m, a, hp.later ho hr, hf⟩

/-- nobody else changes the private state of a process -/
def Beside (others : σ → σ → Prop) (x y : σ × ρ) : Prop := others x.1 y.1 ∧ y.2 = x.2

/-- a wait of the first process is a wait of the two -/
theorem Waits.bind {p : Proc σ α} {s t : σ} {v : Waiting σ α} (h : p.Waits others s v t) (f : α → Proc σ β) :
    (p.bind f).Waits others s (v.bind f) t := by
  induction h with
  | here w s => exact .here (w.bind f) s
  | act _ ih => exact .act ih
  | later ho hr _ ih => exact .later ho hr ih

/-- a process waits with a private state as it does when that is part of the state -/
theorem Waits.within {p : Proc (σ × ρ) α} {x y : σ × ρ} {v : Waiting (σ × ρ) α} (h : p.Waits (Beside others) x v y) :
    (p.within x.2).Waits others x.1 (v.within y.2) y.1 := by
  induction h with
  | here w x => exact .here (w.within x.2) x.1
  | act _ ih => exact .act ih
  | @later ticks ready next x x' y b w ho hr _ ih =>
    obtain ⟨ho, hx⟩ := ho
    rw [hx] at ih
    refine .later ho ?_ ih
    rw [resumes_comp, ← hx]
    exact hr

/-- what a guarded process goes on with after a pause -/
def afterPause (stop : σ → Bool) (instead next : Proc σ α) : Proc σ α :=
  act id fun s => if stop s then instead else guarded stop next instead

/-- at each of its waits a guarded process goes on when the stop condition holds, and looks at the condition first,
unless it is doing the other thing already -/
theorem Waits.of_guarded {stop : σ → Bool} {p instead : Proc σ α} {s t : σ} {w : Waiting σ α}
    (h : (guarded stop p instead).Waits others s w t) :
    (∃ next : Bool → Proc σ α, (∀ x, stop x = true → w.ready x = true) ∧
      ∀ b, w.next b = afterPause stop instead (next b)) ∨ ∃ m, instead.Waits others m w t := by
  induction p generalizing s with
  | done a => exact absurd h not_waits_done
  | act u next ih => exact ih s (waits_act_iff.1 h)
  | pause ticks ready next ih =>
    rcases waits_pause h with ⟨rfl, rfl⟩ | ⟨s', b, ho, hr, h⟩
    · exact .inl ⟨next, fun x hx => by simp [hx], fun b => rfl⟩
    · have h := waits_act_iff.1 h
      dsimp only [id] at h
      by_cases hs : stop s'
      · rw [if_pos hs] at h
        exact .inr ⟨s', h⟩
      · rw [if_neg hs] at h
        exact ih b h

/-! ## What is left -/

section Left

variable {mine : σ → σ → Prop} {post : σ → α → Prop} {p : Proc σ α} {s t : σ} {w : Waiting σ α}

/-- **What is left of a process obeys what the process does** -/
theorem Obeys.of_waits (h : p.Obeys others mine post s) (hw : p.Waits others s w t) :
    w.proc.Obeys others mine post t := by
  induction hw with
  | here => exact h
  | act _ ih => exact ih h.2
  | later ho hr _ ih => exact ih (h _ _ ho hr)

/-- what the changes of both sides keep holds where the process waits -/
theorem Obeys.keeps_to_wait {I : σ → Prop} (h : p.Obeys others mine post s) (hw : p.Waits others s w t)
    (ht : ∀ x y, others x y → I x → I y) (hm : ∀ x y, mine x y → I x → I y) (hs : I s) : I t := by
  induction hw with
  | here => exact hs
  | act _ ih => exact ih h.2 (hm _ _ h.1 hs)
  | later ho hr _ ih => exact ih (h _ _ ho hr) (ht _ _ ho hs)

end Left

end CalBench.Proc
