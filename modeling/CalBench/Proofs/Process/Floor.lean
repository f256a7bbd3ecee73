/-
Processes that overlap, in any order.

A `Floor` is a state with the processes that wait on it and the results of those that have ended. It is a `Schedule`
without a clock: who goes on next, and when, is left open. `Step` says what may happen:
- a process that may be started runs up to its first wait or its end;
- a process that waits goes on, when its condition holds or, if there is a limit, because its time is up;
- the state changes otherwise, as `aside` allows.

A fixed order of calls, each of which ends before the next begins, is one of these runs.

- `Orderly`: every process that waits makes changes of a kind only, and has a result of a kind;
- `Orderly.enter`, `Orderly.resume`: it stays that way, and the floor changes no more than that.
-/
import CalBench.Proofs.Process.Obeys

namespace CalBench

open Proc

/-- processes that share a state, and the results of those that have ended, oldest first -/
structure Floor (σ α : Type) where
  state : σ
  waiting : List (Waiting σ α) := []
  ended : List α := []

namespace Floor

variable {σ α : Type}

/-- Sees a process through to its next wait or its end. -/
def enter (f : Floor σ α) (p : Proc σ α) : Floor σ α :=
  match p.advance f.state with
  | (s, .ended a) => { f with state := s, ended := f.ended ++ [a] }
  | (s, .waits w) => { f with state := s, waiting := f.waiting ++ [w] }

def without (f : Floor σ α) (place : Nat) : Floor σ α := { f with waiting := f.waiting.eraseIdx place }

/-- what may happen next, when some processes may be started and some changes come from elsewhere -/
inductive Step (may : Proc σ α → Prop) (aside : σ → σ → Prop) (f : Floor σ α) : Floor σ α → Prop
  | start (p : Proc σ α) (h : may p) : Step may aside f (f.enter p)
  | resume (place : Nat) (w : Waiting σ α) (b : Bool) (hw : f.waiting[place]? = some w)
    (hr : Resumes w.ticks w.ready f.state b) : Step may aside f ((f.without place).enter (w.next b))
  | aside (s : σ) (h : aside f.state s) : Step may aside f { f with state := s }

/-- what may come of an empty floor -/
def Reached (may : Proc σ α → Prop) (aside : σ → σ → Prop) (s : σ) (f : Floor σ α) : Prop :=
  Relation.ReflTransGen (Step may aside) { state := s } f

/-! ## What the processes on a floor may do -/

/-- whatever the others do, the process makes changes of a kind and has a result of a kind -/
def Allowed (mine : σ → σ → Prop) (post : α → Prop) (p : Proc σ α) : Prop :=
  ∀ s, p.Obeys Anything mine (fun _ a => post a) s

/-- whoever waits may do no more than is allowed -/
def Orderly (mine : σ → σ → Prop) (post : α → Prop) (f : Floor σ α) : Prop :=
  ∀ w ∈ f.waiting, Allowed mine post w.proc

variable {mine aside : σ → σ → Prop} {post : α → Prop} {may : Proc σ α → Prop} {f : Floor σ α}

/-- what a step of the floor leaves: the state has changed in some ways, results of a kind have come in, and whoever
waits is still within bounds -/
structure Yielded (mine : σ → σ → Prop) (post : α → Prop) (f g : Floor σ α) : Prop where
  changes : Relation.ReflTransGen mine f.state g.state
  results : ∃ l, g.ended = f.ended ++ l ∧ ∀ a ∈ l, post a
  orderly : g.Orderly mine post

theorem Orderly.enter (hf : f.Orderly mine post) {p : Proc σ α}
    (hp : p.Obeys Anything mine (fun _ a => post a) f.state) : Yielded mine post f (f.enter p) := by
  obtain ⟨hchange, hend⟩ := hp.advance fun _ => trivial
  unfold Floor.enter
  revert hchange hend
  rcases p.advance f.state with ⟨s, a | w⟩ <;> intro hchange hend
  · exact ⟨hchange, ⟨[a], rfl, fun b hb => List.mem_singleton.1 hb ▸ hend⟩, hf⟩
  · refine ⟨hchange, ⟨[], (List.append_nil _).symm, fun b hb => nomatch hb⟩, fun v hv => ?_⟩
    rcases List.mem_append.1 hv with hv | hv
    · exact hf v hv
    · -- a wait does not depend on the state in which it began
      cases List.mem_singleton.1 hv
      exact fun _ t b ht hb => hend t b ht hb

/-- a process that goes on is still bound by what is allowed -/
theorem Orderly.resume (hf : f.Orderly mine post) {place : Nat} {w : Waiting σ α} {b : Bool}
    (hw : f.waiting[place]? = some w) (hr : Resumes w.ticks w.ready f.state b) :
    Yielded mine post f ((f.without place).enter (w.next b)) := by
  have hrest : (f.without place).Orderly mine post := fun v hv => hf v (List.mem_of_mem_eraseIdx hv)
  have h := hrest.enter (hf w (List.mem_of_getElem? hw) f.state f.state b trivial hr)
  exact ⟨h.changes, h.results, h.orderly⟩

end Floor

end CalBench
