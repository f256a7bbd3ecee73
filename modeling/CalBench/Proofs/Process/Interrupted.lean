/-
Processes that something interrupts.

`interrupted` runs a process beside a timer that changes the state once. Of the two the process goes first when both can
go on at one instant, so a timer of `n` milliseconds stands for any moment after what the process does `n` milliseconds
after its start and before what it does next.

Up to that moment nothing is different from a process on its own. `stage` is what such a process has come to by then: it
has ended, or it waits.

- `stage_spec`: from there a process on its own goes on to the ending that it has;
- `interrupted_ended`: if it has ended, its result is what comes of the interruption too;
- `interrupted_waiting`: if it waits, the change is made, and it goes on from there if that ends its wait.
-/
import CalBench.Proofs.Process.Waits

namespace CalBench

namespace Proc

variable {σ α β : Type}

/-! ## Stages of a process on its own -/

inductive Stage (σ α : Type)
  | ended (s : σ) (time : Nat) (a : α)
  | waits (s : σ) (since : Nat) (w : Waiting σ α)

def Stage.state : Stage σ α → σ
  | .ended s _ _ => s
  | .waits s _ _ => s

/-- what a process that begins at some time has come to by another -/
def stage (limit : Nat) : Proc σ α → (now : Nat) → σ → Stage σ α
  | done a, now, s => .ended s now a
  | act update next, now, s => (next s).stage limit now (update s)
  | pause ticks ready next, now, s =>
    if ready s then (next true).stage limit now s
    else match ticks with
      | none => .waits s now ⟨none, ready, next⟩
      | some n =>
        if now + n ≤ limit then (next false).stage limit (now + n) s else .waits s now ⟨some n, ready, next⟩

/-- what is true of the stage that a process has reached: it is on its way to the ending that it has, and waits for
nothing that has happened by then -/
def Stage.Reached (limit : Nat) (p : Proc σ α) (now : Nat) (s : σ) : Stage σ α → Prop
  | .ended t time a => time ≤ limit ∧ ∃ n, time = now + n ∧ p.alone s = .finished t n a
  | .waits t since w => p.Waits Eq s w t ∧ w.ready t = false ∧ (∀ n, w.ticks = some n → limit < since + n) ∧
      since ≤ limit ∧ ∃ n, since = now + n ∧ p.alone s = (w.proc.alone t).after n

theorem Stage.Reached.act {limit now : Nat} {update : σ → σ} {next : σ → Proc σ α} {s : σ} {x : Stage σ α}
    (h : x.Reached limit (next s) now (update s)) : x.Reached limit (.act update next) now s := by
  cases x with
  | ended t time a => exact h
  | waits t since w =>
    obtain ⟨hw, hrest⟩ := h
    exact ⟨.act hw, hrest⟩

/-- the wait is over at once, or when its time is up -/
theorem Stage.Reached.later {limit now m : Nat} {ticks : Option Nat} {ready : σ → Bool} {next : Bool → Proc σ α}
    {b : Bool} {s : σ} {x : Stage σ α} (hr : Resumes ticks ready s b)
    (halone : (pause ticks ready next).alone s = ((next b).alone s).after m)
    (h : x.Reached limit (next b) (now + m) s) : x.Reached limit (pause ticks ready next) now s := by
  cases x with
  | ended t time a =>
    obtain ⟨hlimit, n, htime, hend⟩ := h
    refine ⟨hlimit, m + n, by omega, ?_⟩
    rw [halone, hend]
    rfl
  | waits t since w =>
    obtain ⟨hw, hready, hdue, hlimit, n, hsince, hend⟩ := h
    refine ⟨.later rfl hr hw, hready, hdue, hlimit, m + n, by omega, ?_⟩
    rw [halone, hend, Ending.after_after]

theorem stage_spec (limit : Nat) (p : Proc σ α) {now : Nat} (hnow : now ≤ limit) (s : σ) :
    (p.stage limit now s).Reached limit p now s := by
  induction p generalizing now s with
  | done a => exact ⟨hnow, 0, rfl, rfl⟩
  | act update next ih => exact (ih s hnow (update s)).act
  | pause ticks ready next ih =>
    unfold stage
    by_cases hr : ready s
    · rw [if_pos hr]
      refine Stage.Reached.later (b := true) (m := 0) hr ?_ (ih true hnow s)
      simp [alone, hr]
    · rw [if_neg hr]
      have hready : ready s = false := Bool.eq_false_iff.2 hr
      cases ticks with
      | none =>
        refine ⟨.here ⟨none, ready, next⟩ s, hready, fun k hk => ?_, hnow, 0, rfl, (Ending.after_zero _).symm⟩
        cases hk
      | some n =>
        dsimp only
        by_cases hn : now + n ≤ limit
        · rw [if_pos hn]
          refine Stage.Reached.later (b := false) (Option.some_ne_none n) ?_ (ih false hn s)
          simp [alone, hready]
        · rw [if_neg hn]
          refine ⟨.here ⟨some n, ready, next⟩ s, hready, fun k hk => ?_, hnow, 0, rfl, (Ending.after_zero _).symm⟩
          cases hk
          omega

/-- a process that still waits at a time does not end before it is past -/
theorem Stage.Reached.late {limit now since n : Nat} {p : Proc σ α} {s t u : σ} {w : Waiting σ α} {a : α}
    (h : (Stage.waits t since w).Reached limit p now s) (hend : p.alone s = .finished u n a) : limit < now + n := by
  obtain ⟨-, hunready, hdue, -, m, hsince, halone⟩ := h
  rw [halone] at hend
  obtain ⟨k, hk, rfl⟩ := Ending.after_eq_finished hend
  rw [Waiting.proc] at hk
  simp only [alone, hunready] at hk
  cases hticks : w.ticks with
  | none =>
    rw [hticks] at hk
    cases hk
  | some ticks =>
    rw [hticks] at hk
    obtain ⟨j, -, rfl⟩ := Ending.after_eq_finished hk
    have hlate := hdue ticks hticks
    omega

/-! ## One process after another, up to the next wait -/

theorem advance_bind_of_ended {p : Proc σ α} {s t : σ} {a : α} (h : p.advance s = (t, .ended a)) (f : α → Proc σ β) :
    (p.bind f).advance s = (f a).advance t := by
  induction p generalizing s with
  | done b =>
    cases h
    rfl
  | act update next ih => exact ih s h
  | pause ticks ready next ih =>
    simp only [Proc.advance, bind] at h ⊢
    split at h
    · rename_i hr
      simp only [hr, if_true]
      exact ih true h
    · rename_i hr
      split at h
      · rename_i ht
        simp only [hr, ht, if_true]
        exact ih false h
      · cases h

theorem advance_bind_of_waits {p : Proc σ α} {s t : σ} {w : Waiting σ α} (h : p.advance s = (t, .waits w))
    (f : α → Proc σ β) : (p.bind f).advance s = (t, .waits (w.bind f)) := by
  induction p generalizing s with
  | done b => cases h
  | act update next ih => exact ih s h
  | pause ticks ready next ih =>
    simp only [Proc.advance, bind] at h ⊢
    split at h
    · rename_i hr
      simp only [hr, if_true]
      exact ih true h
    · rename_i hr
      split at h
      · rename_i ht
        simp only [hr, ht, if_true]
        exact ih false h
      · rename_i ht
        simp only [hr, ht, if_false]
        cases h
        rfl

end Proc

/-! ## Moves of a schedule -/

namespace Schedule

variable {σ α : Type} {goal : Schedule σ α → Bool} {horizon : Option Nat} {c : Schedule σ α}

theorem next?_none (c : Schedule σ α) : c.next? none = c.nextFrom 0 c.tasks := by
  unfold next?
  cases c.nextFrom 0 c.tasks <;> rfl

theorem run_of_goal (h : goal c = true) : c.run goal horizon = c := by
  rw [run, if_pos h]

theorem run_of_move {m : Move} {t : Task σ α} (hgoal : goal c = false) (hmove : c.next? horizon = some m)
    (htask : c.tasks[m.place]? = some t) : c.run goal horizon = (c.move m t).run goal horizon := by
  rw [run, if_neg (by simp [hgoal])]
  split
  · rename_i hnone
    rw [hmove] at hnone
    cases hnone
  · rename_i m' hm
    rw [hmove] at hm
    cases hm
    split
    · rename_i hnone
      rw [htask] at hnone
      cases hnone
    · rename_i t' ht
      rw [htask] at ht
      cases ht
      rfl

end Schedule

/-! ## Interruption -/

namespace Proc

/-- Runs a process beside a timer that changes the state once, after some milliseconds. -/
def interrupted (ticks : Nat) (change : σ → σ) (p : Proc σ α) (s : σ) : Schedule σ (Option α) :=
  let timer := (sleep ticks).bind fun _ => (update change).bind fun _ => done none
  let start : Schedule σ (Option α) := { state := s }
  let (c, id) := start.spawn (p.bind fun a => done (some a))
  (c.spawn timer).1.runUntil id

def timer (ticks : Nat) (change : σ → σ) : Task σ (Option α) :=
  ⟨1, 0, some ticks, fun _ => false, fun _ => (update change).bind fun _ => done none⟩

def body (since : Nat) (w : Waiting σ α) : Task σ (Option α) := ⟨0, since, w.bind fun a => done (some a)⟩

def beside (ticks : Nat) (change : σ → σ) (now : Nat) : σ × Halt σ α → Schedule σ (Option α)
  | (s, .ended a) => { now, state := s, tasks := [timer ticks change], ended := [(0, some a)], fresh := 2 }
  | (s, .waits w) => { now, state := s, tasks := [body now w, timer ticks change], fresh := 2 }

/-- the timer has made its change while the process waits -/
def struck (ticks : Nat) (change : σ → σ) (s : σ) (since : Nat) (w : Waiting σ α) : Schedule σ (Option α) :=
  { now := ticks, state := change s, tasks := [body since w], ended := [(1, none)], fresh := 2 }

variable {ticks now since : Nat} {change : σ → σ} {p : Proc σ α} {s t : σ} {a : α} {w : Waiting σ α}

/-- the process goes on when its time is up -/
theorem move_body {ready : σ → Bool} {next : Bool → Proc σ α} {n : Nat} :
    (beside ticks change now (s, .waits ⟨some n, ready, next⟩)).move ⟨now + n, false, 0⟩
      (body now ⟨some n, ready, next⟩) = beside ticks change (now + n) ((next false).advance s) := by
  rcases hadv : (next false).advance s with ⟨t, a | v⟩
  · have hbind := advance_bind_of_ended hadv fun a => done (some a)
    simp only [Schedule.move, beside, body, Waiting.bind, hbind, Proc.advance]
    rfl
  · have hbind := advance_bind_of_waits hadv fun a => done (some a)
    simp only [Schedule.move, beside, body, Waiting.bind, hbind]
    rfl

/-- whose time is up first goes on, the process if it is both -/
theorem next?_beside (hready : w.ready s = false) (hnow : now ≤ ticks) :
    (beside ticks change now (s, .waits w)).next? none = some (match w.ticks with
      | none => ⟨ticks, false, 1⟩
      | some n => if now + n ≤ ticks then ⟨now + n, false, 0⟩ else ⟨ticks, false, 1⟩) := by
  have hbody : (beside ticks change now (s, .waits w)).moveOf 0 (body now w) =
      w.ticks.map fun n => ⟨now + n, false, 0⟩ := by
    unfold Schedule.moveOf
    rw [if_neg (by simpa [body, Waiting.bind, beside] using hready)]
    cases hticks : w.ticks <;> simp [Task.due, body, Waiting.bind, beside, hticks]
  have htimer : (beside ticks change now (s, .waits w)).moveOf 1 (timer ticks change) = some ⟨ticks, false, 1⟩ := by
    simp [Schedule.moveOf, Task.due, timer, beside, hnow]
  have hboth : (beside ticks change now (s, .waits w)).next? none =
      Schedule.earlier (w.ticks.map fun n => ⟨now + n, false, 0⟩) (some ⟨ticks, false, 1⟩) := by
    rw [Schedule.next?_none]
    change Schedule.earlier _ (Schedule.earlier _ none) = _
    rw [hbody, htimer]
    rfl
  rw [hboth]
  cases w.ticks with
  | none => rfl
  | some n =>
    by_cases hn : now + n ≤ ticks
    · simp [Schedule.earlier, hn, Nat.not_lt.2 hn]
    · simp [Schedule.earlier, hn, Nat.lt_of_not_le hn]

/-- until its time is up nothing comes of the timer -/
theorem beside_runUntil (p : Proc σ α) (hnow : now ≤ ticks) (s : σ) :
    (beside ticks change now (p.advance s)).runUntil 0 =
      match p.stage ticks now s with
      | .ended t time a => beside ticks change time (t, .ended a)
      | .waits t since w => (struck ticks change t since w).runUntil 0 := by
  induction p generalizing now s with
  | done a => exact Schedule.run_of_goal rfl
  | act update next ih => exact ih s hnow (update s)
  | pause limit ready next ih =>
    unfold stage
    rw [advance]
    by_cases hr : ready s
    · rw [if_pos hr, if_pos hr]
      exact ih true hnow s
    · rw [if_neg hr, if_neg hr]
      have hready : ready s = false := Bool.eq_false_iff.2 hr
      have hnext : (beside ticks change now (s, .waits ⟨limit, ready, next⟩)).next? none = _ :=
        next?_beside hready hnow
      cases limit with
      | none => exact Schedule.run_of_move rfl hnext rfl
      | some n =>
        dsimp only at hnext ⊢
        by_cases hzero : n = 0
        · subst hzero
          rw [if_pos rfl, if_pos (show now + 0 ≤ ticks from hnow)]
          exact ih false hnow s
        · rw [if_neg (by simpa using hzero)]
          by_cases hn : now + n ≤ ticks
          · rw [if_pos hn] at hnext ⊢
            rw [← ih false hn s, ← move_body]
            exact Schedule.run_of_move rfl hnext rfl
          · rw [if_neg hn] at hnext ⊢
            exact Schedule.run_of_move rfl hnext rfl

/-- what a process comes to without time passing is what it advances to -/
theorem stage_zero (p : Proc σ α) (s : σ) :
    p.stage 0 0 s = match p.advance s with
      | (t, .ended a) => .ended t 0 a
      | (t, .waits w) => .waits t 0 w := by
  induction p generalizing s with
  | done a => rfl
  | act update next ih => exact ih s (update s)
  | pause limit ready next ih =>
    unfold stage
    rw [advance]
    by_cases hr : ready s
    · rw [if_pos hr, if_pos hr]
      exact ih true s
    · rw [if_neg hr, if_neg hr]
      rcases limit with _ | _ | n
      · rfl
      · exact ih false s
      · rfl

/-- what an interruption begins with: the process has advanced, and the timer has been set -/
theorem interrupted_of_pos (h : ticks ≠ 0) :
    p.interrupted ticks change s = (beside ticks change 0 (p.advance s)).runUntil 0 := by
  have htimer (t : σ) : ((sleep ticks).bind fun _ => (update change).bind fun _ => done (none : Option α)).advance t =
      (t, .waits (timer ticks change).waiting) := by
    simp [sleep, bind, advance, timer, h]
  rcases hadv : p.advance s with ⟨t, a | w⟩
  · simp [interrupted, Schedule.spawn, Schedule.enter, advance_bind_of_ended hadv, advance, htimer, beside, timer]
  · simp [interrupted, Schedule.spawn, Schedule.enter, advance_bind_of_waits hadv, htimer, beside, timer, body]

/-- without any time the change is made as soon as the process has advanced -/
theorem interrupted_zero :
    p.interrupted 0 change s = match p.advance s with
      | (t, .ended a) => { state := change t, ended := [(0, some a), (1, none)], fresh := 2 }
      | (t, .waits w) => (struck 0 change t 0 w).runUntil 0 := by
  have htimer (t : σ) : ((sleep 0).bind fun _ => (update change).bind fun _ => done (none : Option α)).advance t =
      (change t, .ended none) := rfl
  rcases hadv : p.advance s with ⟨t, a | w⟩
  · simp only [interrupted, Schedule.spawn, Schedule.enter, advance_bind_of_ended hadv, advance, htimer]
    exact Schedule.run_of_goal rfl
  · simp only [interrupted, Schedule.spawn, Schedule.enter, advance_bind_of_waits hadv, htimer]
    rfl

/-- **If the process has ended by then**, the interruption comes too late for it -/
theorem interrupted_ended {time : Nat} (h : p.stage ticks 0 s = .ended t time a) :
    (p.interrupted ticks change s).result? 0 = some (some a) ∧
      ((p.interrupted ticks change s).state = t ∨ (p.interrupted ticks change s).state = change t) := by
  by_cases hzero : ticks = 0
  · subst hzero
    rw [stage_zero] at h
    rw [interrupted_zero]
    revert h
    rcases p.advance s with ⟨t', b | w⟩ <;> intro h
    · cases h
      exact ⟨rfl, .inr rfl⟩
    · cases h
  · rw [interrupted_of_pos hzero, beside_runUntil p (Nat.zero_le ticks) s, h]
    exact ⟨rfl, .inl rfl⟩

/-- **If the process waits then**, and the change ends its wait, it goes on from the changed state; here to its end -/
theorem interrupted_waiting {u : σ} (h : p.stage ticks 0 s = .waits t since w) (hready : w.ready (change t) = true)
    (hend : (w.next true).advance (change t) = (u, .ended a)) :
    (p.interrupted ticks change s).result? 0 = some (some a) ∧ (p.interrupted ticks change s).state = u ∧
      (p.interrupted ticks change s).now = ticks := by
  have hstruck : p.interrupted ticks change s = (struck ticks change t since w).runUntil 0 := by
    by_cases hzero : ticks = 0
    · subst hzero
      rw [stage_zero] at h
      rw [interrupted_zero]
      revert h
      rcases p.advance s with ⟨t', b | w'⟩ <;> intro h
      · cases h
      · cases h
        rfl
    · rw [interrupted_of_pos hzero, beside_runUntil p (Nat.zero_le ticks) s, h]
  have hmove : (struck ticks change t since w).move ⟨ticks, true, 0⟩ (body since w) =
      { now := ticks, state := u, ended := [(1, none), (0, some a)], fresh := 2 } := by
    simp [Schedule.move, struck, body, Waiting.bind, advance_bind_of_ended hend, advance]
  have hnext : (struck ticks change t since w).next? none = some ⟨ticks, true, 0⟩ := by
    simp [Schedule.next?, Schedule.nextFrom, Schedule.moveOf, Schedule.earlier, struck, body, Waiting.bind, hready]
  have hrun : (struck ticks change t since w).runUntil 0 =
      { now := ticks, state := u, ended := [(1, none), (0, some a)], fresh := 2 } := by
    rw [Schedule.runUntil, Schedule.run_of_move rfl hnext rfl, hmove]
    exact Schedule.run_of_goal rfl
  rw [hstruck, hrun]
  exact ⟨rfl, rfl, rfl⟩

end Proc

end CalBench
