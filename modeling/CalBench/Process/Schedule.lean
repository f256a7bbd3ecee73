/-
Several processes at once.

A `Schedule` is a clock, a shared state and the processes that have not ended. One process runs at a
time, until it has to wait; then the first process in the list that can go on does so. When none can,
the clock moves to the next instant at which one's time is over. `run` carries this on until a goal is
reached or nothing more can happen by a horizon. The order is fixed, so a run has one outcome.

A run comes to an end because every move puts a process in place of one that contains it: `Shrinks`
is well-founded on lists of processes.
-/
import CalBench.Process.Basic

namespace CalBench

namespace Proc

variable {σ α : Type}

/-! ## Every chain of continuations is finite -/

/-- one process is a continuation of another -/
inductive Follows : Proc σ α → Proc σ α → Prop
  | act (update : σ → σ) (next : σ → Proc σ α) (s : σ) : Follows (next s) (act update next)
  | pause (ticks : Option Nat) (ready : σ → Bool) (next : Bool → Proc σ α) (b : Bool) :
    Follows (next b) (pause ticks ready next)
  | trans {p q r : Proc σ α} : Follows p q → Follows q r → Follows p r

theorem acc_of_follows {p q : Proc σ α} (h : Follows q p) :
    Acc Follows p → Acc (Follows (σ := σ) (α := α)) q := fun hp => hp.inv h

theorem acc_follows (p : Proc σ α) : Acc Follows p := by
  suffices h : ∀ p : Proc σ α, ∀ q, Follows q p → Acc Follows q from ⟨p, h p⟩
  intro p
  induction p with
  | done a =>
    intro q hq
    generalize hr : (done a : Proc σ α) = r at hq
    induction hq with
    | act | pause => cases hr
    | trans _ _ ih1 ih2 => exact acc_of_follows (by assumption) (ih2 hr)
  | act update next ih =>
    intro q hq
    generalize hr : (act update next : Proc σ α) = r at hq
    induction hq with
    | act u n s => cases hr; exact ⟨_, ih s⟩
    | pause => cases hr
    | trans h1 _ _ ih2 => exact acc_of_follows h1 (ih2 hr)
  | pause ticks ready next ih =>
    intro q hq
    generalize hr : (pause ticks ready next : Proc σ α) = r at hq
    induction hq with
    | act => cases hr
    | pause t rd n b => cases hr; exact ⟨_, ih b⟩
    | trans h1 _ _ ih2 => exact acc_of_follows h1 (ih2 hr)

/-- a list of processes with one of them ended, or replaced by a continuation -/
inductive Shrinks : List (Proc σ α) → List (Proc σ α) → Prop
  | drop (p : Proc σ α) (l : List (Proc σ α)) : Shrinks l (p :: l)
  | follow {p q : Proc σ α} (l : List (Proc σ α)) : Follows q p → Shrinks (q :: l) (p :: l)
  | cons (p : Proc σ α) {l l' : List (Proc σ α)} : Shrinks l' l → Shrinks (p :: l') (p :: l)

theorem acc_shrinks (l : List (Proc σ α)) : Acc Shrinks l := by
  induction l with
  | nil => exact ⟨_, fun _ h => nomatch h⟩
  | cons p l ihl =>
    have hp := acc_follows p
    induction hp generalizing l with
    | intro p _ ihp =>
      induction ihl with
      | intro l hl ihl' =>
        refine ⟨_, fun l' h => ?_⟩
        cases h with
        | drop => exact ⟨_, hl⟩
        | follow _ hq => exact ihp _ hq _ ⟨_, hl⟩
        | cons _ h => exact ihl' _ h

instance : WellFoundedRelation (List (Proc σ α)) := ⟨Shrinks, ⟨acc_shrinks⟩⟩

/-! ## Up to the next wait -/

/-- a process that waits -/
structure Waiting (σ α : Type) where
  ticks : Option Nat
  ready : σ → Bool
  next : Bool → Proc σ α

/-- what a process has come to -/
inductive Halt (σ α : Type)
  | ended (a : α)
  | waits (w : Waiting σ α)

/-- the process that is still to be run -/
def Waiting.proc (w : Waiting σ α) : Proc σ α := .pause w.ticks w.ready w.next

/-- runs a process until it ends or has to wait -/
def advance : Proc σ α → σ → σ × Halt σ α
  | done a, s => (s, .ended a)
  | act update next, s => (next s).advance (update s)
  | pause ticks ready next, s =>
    if ready s then (next true).advance s
    else if ticks = some 0 then (next false).advance s
    else (s, .waits ⟨ticks, ready, next⟩)

theorem advance_waits {p : Proc σ α} {s s' : σ} {w : Waiting σ α} (h : p.advance s = (s', .waits w)) :
    p = w.proc ∨ Follows w.proc p := by
  induction p generalizing s with
  | done a => simp [advance] at h
  | act update next ih =>
    right
    rcases ih s h with h' | h'
    · exact h' ▸ .act update next s
    · exact .trans h' (.act update next s)
  | pause ticks ready next ih =>
    rw [advance] at h
    split at h
    · right
      rcases ih true h with h' | h'
      · exact h' ▸ .pause ticks ready next true
      · exact .trans h' (.pause ticks ready next true)
    · split at h
      · right
        rcases ih false h with h' | h'
        · exact h' ▸ .pause ticks ready next false
        · exact .trans h' (.pause ticks ready next false)
      · left
        cases h
        rfl

end Proc

/-- a process that waits, and since when -/
structure Task (σ α : Type) where
  id : Nat
  since : Nat
  waiting : Proc.Waiting σ α

/-- when the time of a task is over, if it has a limit -/
def Task.due {σ α : Type} (t : Task σ α) : Option Nat := t.waiting.ticks.map (t.since + ·)

/-- processes that share a state and a clock -/
structure Schedule (σ α : Type) where
  now : Nat := 0
  state : σ
  tasks : List (Task σ α) := []
  /-- results of the processes that have ended, with their ids -/
  ended : List (Nat × α) := []
  fresh : Nat := 0

namespace Schedule

variable {σ α : Type}

def result? (c : Schedule σ α) (id : Nat) : Option α :=
  (c.ended.find? fun e => e.1 == id).map Prod.snd

/-- Sees a process through to its next wait or its end. -/
def enter (c : Schedule σ α) (id : Nat) (p : Proc σ α) : Schedule σ α :=
  match p.advance c.state with
  | (s, .ended a) => { c with state := s, ended := c.ended ++ [(id, a)] }
  | (s, .waits w) => { c with state := s, tasks := c.tasks ++ [⟨id, c.now, w⟩] }

def spawn (c : Schedule σ α) (p : Proc σ α) : Schedule σ α × Nat :=
  ({ c with fresh := c.fresh + 1 }.enter c.fresh p, c.fresh)

/-- Drops a process that has not ended. -/
def drop (c : Schedule σ α) (id : Nat) : Schedule σ α :=
  { c with tasks := c.tasks.filter fun t => t.id != id }

/-- a task that can go on: when, whether its condition holds, and its place -/
structure Move where
  time : Nat
  woken : Bool
  place : Nat

/-- what a task at a place can do -/
def moveOf (c : Schedule σ α) (place : Nat) (t : Task σ α) : Option Move :=
  if t.waiting.ready c.state then some ⟨c.now, true, place⟩
  else t.due.map fun d => ⟨max c.now d, false, place⟩

/-- the earlier of two moves, the first of two at the same time -/
def earlier (a b : Option Move) : Option Move :=
  match a, b with
  | some a, some b => if b.time < a.time then some b else some a
  | some a, none => some a
  | none, b => b

/-- the next move among tasks from a place on -/
def nextFrom (c : Schedule σ α) : Nat → List (Task σ α) → Option Move
  | _, [] => none
  | place, t :: rest => earlier (c.moveOf place t) (c.nextFrom (place + 1) rest)

/-- the next move, if there is one by the horizon -/
def next? (c : Schedule σ α) (horizon : Option Nat) : Option Move :=
  (c.nextFrom 0 c.tasks).filter fun m => horizon.all fun h => m.time ≤ h

/-- Carries out a move: the task goes on until it ends or has to wait again. -/
def move (c : Schedule σ α) (m : Move) (t : Task σ α) : Schedule σ α :=
  match (t.waiting.next m.woken).advance c.state with
  | (s, .ended a) =>
    { c with now := m.time, state := s, tasks := c.tasks.eraseIdx m.place, ended := c.ended ++ [(t.id, a)] }
  | (s, .waits w) =>
    { c with now := m.time, state := s, tasks := c.tasks.set m.place ⟨t.id, m.time, w⟩ }

/-- the processes that are still to be run -/
def rest (c : Schedule σ α) : List (Proc σ α) := c.tasks.map fun t => t.waiting.proc

theorem shrinks_eraseIdx {β : Type} (f : β → Proc σ α) {l : List β} {i : Nat} (h : i < l.length) :
    Proc.Shrinks ((l.eraseIdx i).map f) (l.map f) := by
  induction l generalizing i with
  | nil => simp at h
  | cons p l ih =>
    cases i with
    | zero => exact .drop (f p) (l.map f)
    | succ i => exact .cons (f p) (ih (by simpa using h))

theorem shrinks_set {l : List (Proc σ α)} {i : Nat} {p q : Proc σ α} (h : l[i]? = some p)
    (hq : Proc.Follows q p) : Proc.Shrinks (l.set i q) l := by
  induction l generalizing i with
  | nil => simp at h
  | cons r l ih =>
    cases i with
    | zero =>
      simp at h
      subst h
      exact .follow l hq
    | succ i => exact .cons r (ih (by simpa using h))

theorem rest_move (c : Schedule σ α) (m : Move) (t : Task σ α) (h : c.tasks[m.place]? = some t) :
    Proc.Shrinks (c.move m t).rest c.rest := by
  have hlt : m.place < c.tasks.length := (List.getElem?_eq_some_iff.1 h).1
  have hf : Proc.Follows (t.waiting.next m.woken) t.waiting.proc := .pause _ _ _ _
  unfold move
  split
  · simp only [rest]
    exact shrinks_eraseIdx _ hlt
  · rename_i s w hw
    simp only [rest]
    rw [List.map_set]
    refine shrinks_set (p := t.waiting.proc) (by simp [h]) ?_
    rcases Proc.advance_waits hw with h' | h'
    · exact h' ▸ hf
    · exact .trans h' hf

/-- Runs until the goal is reached or nothing more can happen by the horizon. -/
def run (goal : Schedule σ α → Bool) (horizon : Option Nat) (c : Schedule σ α) : Schedule σ α :=
  if goal c then c
  else match c.next? horizon with
    | none => c
    | some m =>
      match h : c.tasks[m.place]? with
      | none => c
      | some t =>
        have := rest_move c m t h
        run goal horizon (c.move m t)
termination_by c.rest

/-- Runs what can run without time passing. -/
def settle (c : Schedule σ α) : Schedule σ α := c.run (fun _ => false) (some c.now)

/-- Lets some milliseconds pass. -/
def elapse (c : Schedule σ α) (ticks : Nat) : Schedule σ α :=
  { c.run (fun _ => false) (some (c.now + ticks)) with now := c.now + ticks }

def runUntil (c : Schedule σ α) (id : Nat) : Schedule σ α := c.run (fun c => (c.result? id).isSome) none

end Schedule

/-! ## Time limits -/

/-- Runs a process for at most so many milliseconds. If it has not ended by then it gives up at its next
pause, does something else instead and has no result. -/
def Proc.limited {σ α : Type} (ticks : Nat) (p : Proc σ α) (instead : Proc σ Unit) (s : σ) :
    Schedule (σ × Bool) (Option α) :=
  let part : Proc.Part (σ × Bool) σ := ⟨Prod.fst, fun s t => (s, t.2)⟩
  let body := (p.onPart part).bind fun a => .done (some a)
  let giveUp := (instead.onPart part).bind fun _ => .done none
  let timer := (Proc.sleep ticks).bind fun _ => (Proc.update fun t => (t.1, true)).bind fun _ => .done none
  let start : Schedule (σ × Bool) (Option α) := { state := (s, false) }
  let (c, id) := start.spawn (body.guarded Prod.snd giveUp)
  (c.spawn timer).1.runUntil id

end CalBench
