/-
Processes over shared state.

A `Proc σ α` is a computation that changes a state `σ`, may have to wait, and ends with an `α`. It is
a finite tree: `act` changes the state and goes on with what it saw before the change, `pause` lets
other processes run until a condition on the state holds or a number of milliseconds have gone by.
Between two pauses nothing else happens, so a process is its own critical section.

- `alone` runs a process with nobody else around, and says how long it took.
- `guarded` ends a process at the pause in which a stop condition comes true.
- `within` gives a process a private state of its own; `onPart` lets it work on a part of the state.
-/

namespace CalBench

/-- a computation on a shared state that may wait -/
inductive Proc (σ α : Type) where
  | done (a : α)
  /-- changes the state; what follows depends on the state before the change -/
  | act (update : σ → σ) (next : σ → Proc σ α)
  /-- Waits until the condition holds or the time is over, if there is a limit. What follows is told
  whether the condition held. -/
  | pause (ticks : Option Nat) (ready : σ → Bool) (next : Bool → Proc σ α)

namespace Proc

variable {σ τ ρ α β ε : Type}

/-- one process after the other -/
def bind : Proc σ α → (α → Proc σ β) → Proc σ β
  | done a, f => f a
  | act update next, f => act update fun s => (next s).bind f
  | pause ticks ready next, f => pause ticks ready fun b => (next b).bind f

instance : Monad (Proc σ) where
  pure := done
  bind := bind

@[simp] theorem pure_eq (a : α) : (pure a : Proc σ α) = done a := rfl

@[simp] theorem bind_eq (p : Proc σ α) (f : α → Proc σ β) : p >>= f = p.bind f := rfl

theorem bind_done (p : Proc σ α) : p.bind done = p := by
  induction p with
  | done a => rfl
  | act update next ih => simp [bind, ih]
  | pause ticks ready next ih => simp [bind, ih]

theorem bind_assoc {γ : Type} (p : Proc σ α) (f : α → Proc σ β) (g : β → Proc σ γ) :
    (p.bind f).bind g = p.bind fun a => (f a).bind g := by
  induction p with
  | done a => rfl
  | act update next ih => simp [bind, ih]
  | pause ticks ready next ih => simp [bind, ih]

def get : Proc σ σ := act id done

def update (f : σ → σ) : Proc σ Unit := act f fun _ => done ()

/-- Changes the state and takes a result from it. -/
def step (f : σ → σ × α) : Proc σ α := act (fun s => (f s).1) fun s => done (f s).2

def sleep (ticks : Nat) : Proc σ Unit := pause (some ticks) (fun _ => false) fun _ => done ()

def sleepIfAny (ticks : Nat) : Proc σ Unit := if ticks = 0 then done () else sleep ticks

def await (ready : σ → Bool) : Proc σ Unit := pause none ready fun _ => done ()

/-- Goes on at any time; others may do something before. -/
def giveWay : Proc σ Unit := await fun _ => true

/-! ## On its own -/

/-- how a process on its own ends -/
inductive Ending (σ α : Type)
  | finished (s : σ) (elapsed : Nat) (a : α)
  /-- never: it waits for a condition that nobody brings about -/
  | stuck (s : σ) (elapsed : Nat)

namespace Ending

/-- the same ending some milliseconds later -/
def after (ticks : Nat) : Ending σ α → Ending σ α
  | finished s elapsed a => finished s (ticks + elapsed) a
  | stuck s elapsed => stuck s (ticks + elapsed)

def state : Ending σ α → σ
  | finished s _ _ => s
  | stuck s _ => s

/-- the milliseconds until the end -/
def elapsed : Ending σ α → Nat
  | finished _ e _ => e
  | stuck _ e => e

def result? : Ending σ α → Option α
  | finished _ _ a => some a
  | stuck _ _ => none

end Ending

/-- runs a process with nobody else around -/
def alone : Proc σ α → σ → Ending σ α
  | done a, s => .finished s 0 a
  | act update next, s => (next s).alone (update s)
  | pause ticks ready next, s =>
    if ready s then (next true).alone s
    else match ticks with
      | some t => ((next false).alone s).after t
      | none => .stuck s 0

/-! ## With others -/

/-- Ends a process at the first pause in which the stop condition holds, and does something else
instead. -/
def guarded (stop : σ → Bool) (p instead : Proc σ α) : Proc σ α :=
  match p with
  | done a => done a
  | act update next => act update fun s => guarded stop (next s) instead
  | pause ticks ready next =>
    pause ticks (fun s => stop s || ready s) fun b =>
      act id fun s => if stop s then instead else guarded stop (next b) instead

/-- Runs a process with a private state, and gives that back at the end. -/
def within : Proc (σ × ρ) α → ρ → Proc σ (α × ρ)
  | done a, r => done (a, r)
  | act update next, r =>
    act (fun s => (update (s, r)).1) fun s => (next (s, r)).within (update (s, r)).2
  | pause ticks ready next, r => pause ticks (fun s => ready (s, r)) fun b => (next b).within r

/-- how a part is seen in the whole, and put back into it -/
structure Part (τ σ : Type) where
  get : τ → σ
  set : σ → τ → τ

/-- Runs a process on a part of the state. -/
def onPart (part : Part τ σ) : Proc σ α → Proc τ α
  | done a => done a
  | act update next =>
    act (fun t => part.set (update (part.get t)) t) fun t => (next (part.get t)).onPart part
  | pause ticks ready next => pause ticks (fun t => ready (part.get t)) fun b => (next b).onPart part

/-! ## Processes that can fail -/

/-- a process that ends with a result or an error -/
abbrev Fallible (σ ε α : Type) := Proc σ (Except ε α)

/-- Goes on with the result, or ends with the error. -/
def andThen (p : Fallible σ ε α) (f : α → Fallible σ ε β) : Fallible σ ε β :=
  p.bind fun
    | .ok a => f a
    | .error e => done (.error e)

/-- Puts an error into other words. -/
def mapError {ε' : Type} (f : ε → ε') (p : Fallible σ ε α) : Fallible σ ε' α :=
  p.bind fun
    | .ok a => done (.ok a)
    | .error e => done (.error (f e))

end Proc

end CalBench
