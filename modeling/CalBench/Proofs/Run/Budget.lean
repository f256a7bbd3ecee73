/-
A retried read spends its budget.

The budget of a read is the number of attempts of its instruction, or that of the policy, and at least one. `Calls` says
that a read is called so often, one pause between two calls and no other, and what came of each call. `Settled` says
what such outcomes make of the whole: the first one that is not tried again decides, and if the budget is spent before,
the last cause is kept with the size of the budget. Both are about any process that is tried and any outcomes. Reads
of an emulated link are a case of it: its outcomes are as many time-outs as it has been told to have, then the reply,
which may be any reading if readings are drawn.

- `yields_tryFrom_iff`: what the loop does among others, from any attempt on;
- `tryFrom_alone`: and alone, when the outcomes are known;
- `Settled.of_failing`: what failures before a success make of a budget;
- `collect_alone`, `collect_yields`: a read of an emulated link, alone and among others that leave the link alone.

Results:
- `reads_spend_their_budget`: all of this for every policy and every number of attempts of an instruction.
Witness:
- `two_failures_within_three_attempts`: a link that times out twice, with three attempts and with two.
-/
import CalBench.Link.Interface
import CalBench.Proofs.Link.Heard
import CalBench.Proofs.Pool.Lease
import CalBench.Proofs.Process.Among
import CalBench.Run.Executor
import Mathlib.Algebra.GroupWithZero.Nat
import Mathlib.Logic.Function.Iterate
import Mathlib.Logic.Unique

namespace CalBench

variable {σ α : Type}

/-- during a pause others do what they do once -/
theorem Proc.others_of_sleep {others : σ → σ → Prop} {ticks : Nat} {s t : σ} {u : Unit}
    (h : (Proc.sleep ticks).Yields others s t u) : others s t := by
  cases h with
  | woken _ hr _ => cases hr
  | elapsed ho h =>
    obtain ⟨rfl, -⟩ := Proc.yields_done_iff.1 h
    exact ho

/-! ## Calls and their outcomes -/

/-- the outcome is an error that is tried again -/
def Retried (o : Except LinkError α) : Prop := ∃ e, o = .error e ∧ e.retryable = true

namespace RetryPolicy

/-- the attempts for a read: those of its instruction, or those of the policy, and at least one -/
def budget (p : RetryPolicy) (attempts : Option Nat) : Nat := max (attempts.getD p.attempts) 1

/-- a process is called, with exactly one pause between two calls and none at the end; the outcomes of the calls, in
order -/
inductive Calls (others : σ → σ → Prop) (ticks : Nat) (read : Proc.Fallible σ LinkError α) :
    σ → List (Except LinkError α) → σ → Prop
  | last {s t : σ} {o : Except LinkError α} (h : read.Yields others s t o) : Calls others ticks read s [o] t
  | again {s t u v : σ} {o : Except LinkError α} {os : List (Except LinkError α)} (h : read.Yields others s t o)
    (hpause : (Proc.sleep ticks).Yields others t u ()) (hrest : Calls others ticks read u os v) :
    Calls others ticks read s (o :: os) v

theorem Calls.ne_nil {others : σ → σ → Prop} {ticks : Nat} {read : Proc.Fallible σ LinkError α} {s t : σ}
    {os : List (Except LinkError α)} (h : Calls others ticks read s os t) : os ≠ [] := by
  cases h <;> exact List.cons_ne_nil _ _

/-- what the outcomes of all calls make of a read with a budget, when `made` attempts have been made before: the first
outcome that is not tried again is the result, with the number of attempts; if there is none within the budget, the last
cause is kept -/
inductive Settled (made budget : Nat) : List (Except LinkError α) → Except LinkError (α × Nat) → Prop
  | decided {before : List (Except LinkError α)} {o : Except LinkError α} (hbefore : ∀ q ∈ before, Retried q)
    (ho : ¬ Retried o) (hbudget : made + before.length < budget) :
    Settled made budget (before ++ [o]) (o.map fun a => (a, made + before.length + 1))
  | exhausted {before : List (Except LinkError α)} {e : LinkError} (hbefore : ∀ q ∈ before, Retried q)
    (he : e.retryable = true) (hbudget : made + before.length + 1 = budget) :
    Settled made budget (before ++ [.error e]) (.error (.readFailure budget e))

variable {made budget : Nat} {o : Except LinkError α} {os : List (Except LinkError α)}
  {r : Except LinkError (α × Nat)}

/-- the first outcome decides, or is the last cause, or is tried again -/
theorem settled_cons_iff : Settled made budget (o :: os) r ↔
    (¬ Retried o ∧ made < budget ∧ os = [] ∧ r = o.map fun a => (a, made + 1)) ∨
    (∃ e, o = .error e ∧ e.retryable = true ∧ made + 1 = budget ∧ os = [] ∧ r = .error (.readFailure budget e)) ∨
    (Retried o ∧ Settled (made + 1) budget os r) := by
  constructor
  · intro h
    generalize hos : o :: os = all at h
    cases h with
    | @decided before last hbefore hlast hbudget =>
      cases before with
      | nil =>
        obtain ⟨rfl, rfl⟩ := List.cons.inj hos
        exact .inl ⟨hlast, hbudget, rfl, rfl⟩
      | cons first before =>
        obtain ⟨rfl, rfl⟩ := List.cons.inj hos
        obtain ⟨ho, hbefore⟩ := List.forall_mem_cons.1 hbefore
        rw [List.length_cons, show made + (before.length + 1) = made + 1 + before.length by omega] at hbudget ⊢
        exact .inr (.inr ⟨ho, .decided hbefore hlast hbudget⟩)
    | @exhausted before e hbefore he hbudget =>
      cases before with
      | nil =>
        obtain ⟨rfl, rfl⟩ := List.cons.inj hos
        exact .inr (.inl ⟨e, rfl, he, hbudget, rfl, rfl⟩)
      | cons first before =>
        obtain ⟨rfl, rfl⟩ := List.cons.inj hos
        obtain ⟨ho, hbefore⟩ := List.forall_mem_cons.1 hbefore
        rw [List.length_cons, show made + (before.length + 1) = made + 1 + before.length by omega] at hbudget
        exact .inr (.inr ⟨ho, .exhausted hbefore he hbudget⟩)
  · have hfirst : ∀ q ∈ ([] : List (Except LinkError α)), Retried q := fun q hq => absurd hq List.not_mem_nil
    rintro (⟨ho, hbudget, rfl, rfl⟩ | ⟨e, rfl, he, hbudget, rfl, rfl⟩ | ⟨ho, h⟩)
    · exact .decided hfirst ho hbudget
    · exact .exhausted hfirst he hbudget
    · cases h with
      | @decided before last hbefore hlast hbudget =>
        rw [show made + 1 + before.length = made + (o :: before).length by rw [List.length_cons]; omega] at hbudget ⊢
        exact .decided (List.forall_mem_cons.2 ⟨ho, hbefore⟩) hlast hbudget
      | @exhausted before e hbefore he hbudget =>
        rw [show made + 1 + before.length = made + (o :: before).length by rw [List.length_cons]; omega] at hbudget
        exact .exhausted (List.forall_mem_cons.2 ⟨ho, hbefore⟩) he hbudget

/-- at least one attempt is made -/
theorem Settled.lt (h : Settled made budget os r) : made < budget := by
  cases h <;> omega

/-- all outcomes but the last one are tried again -/
theorem Settled.retried (h : Settled made budget os r) : ∀ q ∈ os.dropLast, Retried q := by
  cases h with
  | decided hbefore _ _ => rwa [List.dropLast_concat]
  | exhausted hbefore _ _ => rwa [List.dropLast_concat]

theorem not_settled_nil : ¬ Settled made budget [] r := by
  generalize hos : ([] : List (Except LinkError α)) = os
  intro h
  cases h <;> exact absurd hos.symm (List.append_ne_nil_of_right_ne_nil _ (List.cons_ne_nil _ []))

/-! ## The loop -/

variable {read : Proc.Fallible σ LinkError α} {others : σ → σ → Prop}

/-- one turn of the loop -/
theorem yields_tryFrom_turn (backoff : Duration) (left made : Nat) {s t : σ} :
    (tryFrom backoff read left made).Yields others s t r ↔ ∃ u o, read.Yields others s u o ∧
      ((¬ Retried o ∧ t = u ∧ r = o.map fun a => (a, made + 1)) ∨
        (∃ e, o = .error e ∧ e.retryable = true ∧ left = 0 ∧ t = u ∧ r = .error (.readFailure (made + 1) e)) ∨
        (Retried o ∧ ∃ fewer v, left = fewer + 1 ∧ (Proc.sleep backoff.ticks).Yields others u v () ∧
          (tryFrom backoff read fewer (made + 1)).Yields others v t r)) := by
  rw [tryFrom.eq_def, Proc.yields_bind_iff]
  refine exists_congr fun u => exists_congr fun o => and_congr_right fun _ => ?_
  rcases o with e | a
  · cases he : e.retryable with
    | false =>
      have ho : ¬ Retried (.error e : Except LinkError α) := by
        rintro ⟨_, ⟨⟩, hretry⟩
        cases he.symm.trans hretry
      simp [Proc.yields_done_iff, ho, he, Except.map]
    | true =>
      have ho : Retried (.error e : Except LinkError α) := ⟨e, rfl, he⟩
      cases left with
      | zero => simp [Proc.yields_done_iff, ho, he]
      | succ left => simp [Proc.yields_bind_iff, Unique.exists_iff, ho, he]
  · have ho : ¬ Retried (.ok a : Except LinkError α) := fun ⟨_, h, _⟩ => nomatch h
    simp [Proc.yields_done_iff, ho, Except.map]

/-- **Among others, the loop makes exactly the calls that settle it**, from any attempt on -/
theorem yields_tryFrom_iff (backoff : Duration) (left made : Nat) {s t : σ} :
    (tryFrom backoff read left made).Yields others s t r ↔
      ∃ os, Calls others backoff.ticks read s os t ∧ Settled made (made + left + 1) os r := by
  induction left using Nat.strongRecOn generalizing made s with
  | ind left ih =>
    rw [yields_tryFrom_turn]
    constructor
    · rintro ⟨u, o, hread, ⟨ho, rfl, rfl⟩ | ⟨e, rfl, he, rfl, rfl, rfl⟩ | ⟨ho, fewer, v, rfl, hpause, hrest⟩⟩
      · exact ⟨[o], .last hread, settled_cons_iff.2 (.inl ⟨ho, by omega, rfl, rfl⟩)⟩
      · exact ⟨[.error e], .last hread, settled_cons_iff.2 (.inr (.inl ⟨e, rfl, he, rfl, rfl, rfl⟩))⟩
      · obtain ⟨os, hcalls, hsettled⟩ := (ih fewer (Nat.lt_succ_self fewer) (made + 1)).1 hrest
        rw [Nat.add_right_comm made] at hsettled
        exact ⟨o :: os, .again hread hpause hcalls, settled_cons_iff.2 (.inr (.inr ⟨ho, hsettled⟩))⟩
    · rintro ⟨os, hcalls, hsettled⟩
      cases hcalls with
      | @last _ _ o hread =>
        rcases settled_cons_iff.1 hsettled with ⟨ho, -, -, rfl⟩ | ⟨e, rfl, he, hleft, -, rfl⟩ | ⟨-, h⟩
        · exact ⟨t, o, hread, .inl ⟨ho, rfl, rfl⟩⟩
        · obtain rfl : left = 0 := by omega
          exact ⟨t, .error e, hread, .inr (.inl ⟨e, rfl, he, rfl, rfl, rfl⟩)⟩
        · exact absurd h not_settled_nil
      | @again _ u v _ o os hread hpause hrest =>
        rcases settled_cons_iff.1 hsettled with ⟨-, -, rfl, -⟩ | ⟨e, -, -, -, rfl, -⟩ | ⟨ho, h⟩
        · cases hrest
        · cases hrest
        · obtain ⟨fewer, rfl⟩ : ∃ fewer, left = fewer + 1 := ⟨left - 1, by have := h.lt; omega⟩
          rw [← Nat.add_assoc, Nat.add_right_comm made] at h
          have hrest := (ih fewer (Nat.lt_succ_self fewer) (made + 1)).2 ⟨os, hrest, h⟩
          exact ⟨u, o, hread, .inr (.inr ⟨ho, fewer, v, rfl, hpause, hrest⟩)⟩

section Alone

variable {backoff : Duration} {left : Nat} {s t : σ} {n : Nat}

theorem alone_tryFrom_decided (h : read.alone s = .finished t n o) (ho : ¬ Retried o) :
    (tryFrom backoff read left made).alone s = .finished t n (o.map fun a => (a, made + 1)) := by
  rw [tryFrom.eq_def, Proc.alone_bind_of_finished h]
  rcases o with e | a
  · have he : ¬ e.retryable = true := fun he => ho ⟨e, rfl, he⟩
    simp only [if_neg he]
    rfl
  · rfl

theorem alone_tryFrom_exhausted {e : LinkError} (h : read.alone s = .finished t n (.error e))
    (he : e.retryable = true) :
    (tryFrom backoff read 0 made).alone s = .finished t n (.error (.readFailure (made + 1) e)) := by
  rw [tryFrom.eq_def, Proc.alone_bind_of_finished h]
  simp only [if_pos he]
  rfl

theorem alone_tryFrom_again (h : read.alone s = .finished t n o) (ho : Retried o) :
    (tryFrom backoff read (left + 1) made).alone s =
      ((tryFrom backoff read left (made + 1)).alone t).after (n + backoff.ticks) := by
  obtain ⟨e, rfl, he⟩ := ho
  rw [tryFrom.eq_def, Proc.alone_bind_of_finished h]
  simp only [if_pos he]
  exact Proc.Ending.after_after n backoff.ticks _

/-- **Alone, the loop ends with what the outcomes of the calls make of its budget**, and it takes the time of the calls
and of the pauses between them; what a call would do after one that is not tried again does not matter -/
theorem tryFrom_alone (backoff : Duration) (left made : Nat) {s : Nat → σ} {d : Nat → Nat}
    {o : Nat → Except LinkError α}
    (h : ∀ k, (∀ j < k, Retried (o j)) → read.alone (s k) = .finished (s (k + 1)) (d k) (o k)) :
    ∃ k r, Settled made (made + left + 1) ((List.range (k + 1)).map o) r ∧
      (tryFrom backoff read left made).alone (s 0) =
        .finished (s (k + 1)) (((List.range (k + 1)).map d).sum + k * backoff.ticks) r := by
  induction left using Nat.strongRecOn generalizing made s d o with
  | ind left ih =>
    have hfirst : read.alone (s 0) = .finished (s 1) (d 0) (o 0) := h 0 fun _ hj => absurd hj (Nat.not_lt_zero _)
    by_cases ho : Retried (o 0)
    · cases left with
      | zero =>
        obtain ⟨e, he, hretry⟩ := ho
        refine ⟨0, .error (.readFailure (made + 1) e), ?_, ?_⟩
        · exact settled_cons_iff.2 (.inr (.inl ⟨e, he, hretry, rfl, rfl, rfl⟩))
        · rw [alone_tryFrom_exhausted (he ▸ hfirst) hretry]
          simp
      | succ left =>
        have hshift : ∀ k, (∀ j < k, Retried (o (j + 1))) →
            read.alone (s (k + 1)) = .finished (s (k + 1 + 1)) (d (k + 1)) (o (k + 1)) := by
          intro k hk
          refine h (k + 1) fun j hj => ?_
          cases j with
          | zero => exact ho
          | succ j => exact hk j (Nat.lt_of_succ_lt_succ hj)
        obtain ⟨k, r, hsettled, hrest⟩ := ih left (Nat.lt_succ_self left) (made + 1) hshift
        rw [Nat.add_right_comm made] at hsettled
        refine ⟨k + 1, r, ?_, ?_⟩
        · rw [List.range_succ_eq_map, List.map_cons, List.map_map]
          exact settled_cons_iff.2 (.inr (.inr ⟨ho, hsettled⟩))
        · rw [alone_tryFrom_again hfirst ho, hrest, List.range_succ_eq_map (n := k + 1), List.map_cons, List.map_map,
            List.sum_cons, Proc.Ending.after, Nat.succ_mul]
          congr 1
          simp only [Function.comp_def, Nat.succ_eq_add_one]
          omega
    · refine ⟨0, _, settled_cons_iff.2 (.inl ⟨ho, by omega, rfl, rfl⟩), ?_⟩
      rw [alone_tryFrom_decided hfirst ho]
      simp

end Alone

theorem budget_eq (p : RetryPolicy) (attempts : Option Nat) :
    0 + (p.budget attempts - 1) + 1 = p.budget attempts := by
  unfold budget
  omega

/-- an instruction reads with its budget and the pauses of the policy -/
theorem run_withAttempts (p : RetryPolicy) (attempts : Option Nat) :
    (p.withAttempts attempts).run read = tryFrom p.backoff read (p.budget attempts - 1) 0 := by
  simp only [run, withAttempts, ofAttempts, budget, Nat.max_assoc, Nat.max_self]

end RetryPolicy

/-! ## Reads of an emulated link -/

/-- the outcome of a call that will fail so often before it succeeds -/
def failing (e : LinkError) (a : α) (failures : Nat) : Except LinkError α := if failures = 0 then .ok a else .error e

theorem retried_failing_iff {e : LinkError} (he : e.retryable = true) {a : α} {failures : Nat} :
    Retried (failing e a failures) ↔ failures ≠ 0 := by
  unfold failing
  split
  · exact iff_of_false (fun ⟨_, h, _⟩ => nomatch h) (not_not_intro ‹_›)
  · exact iff_of_true ⟨e, rfl, he⟩ ‹_›

/-- a table of a function that ends in some value -/
theorem eq_of_map_range_eq {f : Nat → α} {n : Nat} {before : List α} {last : α}
    (h : (List.range n).map f = before ++ [last]) :
    n = before.length + 1 ∧ before = (List.range before.length).map f ∧ last = f before.length := by
  have hlength := congrArg List.length h
  simp only [List.length_map, List.length_range, List.length_append, List.length_singleton] at hlength
  subst hlength
  rw [List.range_succ, List.map_append, List.map_singleton] at h
  obtain ⟨hbefore, hlast⟩ := List.append_inj' h rfl
  exact ⟨rfl, hbefore.symm, (List.singleton_inj.1 hlast).symm⟩

/-- what failures make of a budget: there is a result if there are fewer of them -/
theorem RetryPolicy.Settled.of_failing {budget failures n : Nat} {e : LinkError} (he : e.retryable = true) {a : α}
    {r : Except LinkError (α × Nat)}
    (h : Settled 0 budget ((List.range n).map fun j => failing e a (failures - j)) r) :
    n = min (failures + 1) budget ∧
      r = if failures < budget then .ok (a, failures + 1) else .error (.readFailure budget e) := by
  generalize hos : (List.range n).map (fun j => failing e a (failures - j)) = os at h
  cases h with
  | @decided before last hbefore hlast hbudget =>
    obtain ⟨rfl, hall, rfl⟩ := eq_of_map_range_eq hos
    have hdone : failures - before.length = 0 := by
      simpa only [retried_failing_iff he, ne_eq, not_not] using hlast
    have hlong : before.length ≤ failures := by
      by_contra hshort
      -- the call before would have been the last
      have hmem : failing e a (failures - failures) ∈ before := by
        rw [hall]
        exact List.mem_map.2 ⟨failures, List.mem_range.2 (by omega), rfl⟩
      exact (retried_failing_iff he).1 (hbefore _ hmem) (Nat.sub_self failures)
    obtain rfl : before.length = failures := by omega
    rw [Nat.zero_add] at hbudget ⊢
    refine ⟨by omega, ?_⟩
    rw [if_pos hbudget, Nat.sub_self]
    rfl
  | @exhausted before last hbefore hlast hbudget =>
    obtain ⟨rfl, hall, heq⟩ := eq_of_map_range_eq hos
    have hleft : failures - before.length ≠ 0 := (retried_failing_iff he (a := a)).1 ⟨last, heq.symm, hlast⟩
    rw [failing, if_neg hleft] at heq
    cases heq
    refine ⟨by omega, ?_⟩
    rw [if_neg (by omega)]

variable {ω : Type}

def emulatedAt (key : String) (p : Pool (Interface ω)) : Option Emulated :=
  (p.entries.get? key).bind fun e => match e.link.device with
    | .emulated d => some d
    | _ => none

theorem emulatedAt_eq_some_iff {key : String} {p : Pool (Interface ω)} {d : Emulated} :
    emulatedAt key p = some d ↔ ∃ e, p.entries.get? key = some e ∧ e.link.device = .emulated d := by
  unfold emulatedAt
  rw [Option.bind_eq_some_iff]
  refine exists_congr fun e => and_congr_right fun _ => ?_
  cases e.link.device <;> simp

def ReadSpec.mode (spec : ReadSpec) : ReadMode :=
  match spec.length with
  | some n => .length n
  | none => .terminated

def ReadMode.cut (mode : ReadMode) (reply : String) : Bytes :=
  match mode with
  | .length n => (Text.utf8 reply).take n
  | .terminated => Text.utf8 reply

namespace Emulated

/-- the link is open, will time out so often, and then has a reply -/
structure Primed (reply : String) (limit : Duration) (failures : Nat) (d : Emulated) : Prop where
  connected : d.connected = true
  failures : d.failingReads = failures
  answers : d.answer? = some reply
  limit : d.timeouts.read = limit

/-- **A read uses up one of the failures, or gives the reply**; after a failure the reply is the same -/
theorem Primed.read {reply : String} {limit : Duration} {failures : Nat} {d : Emulated}
    (h : d.Primed reply limit failures) (mode : ReadMode) : ∃ d', d'.failingReads = failures - 1 ∧
      (failures ≠ 0 → d'.Primed reply limit (failures - 1)) ∧
      Emulated.read mode d = ⟨d', 0, failing (.timeout .read limit) (mode.cut reply) failures⟩ := by
  obtain ⟨hconnected, rfl, hanswers, rfl⟩ := h
  by_cases hf : d.failingReads = 0
  · refine ⟨{ d with replies := d.replies + 1, log := d.log ++ ["read: " ++ reply] }, by simp [hf], absurd hf, ?_⟩
    cases mode <;>
      simp [Emulated.read, Emulated.reply, ensureConnected, note, Attempt.bind_apply, hconnected, hf, hanswers, failing,
        ReadMode.cut]
  · refine ⟨{ d with failingReads := d.failingReads - 1, log := d.log ++ ["read: timeout"] }, rfl,
      fun _ => ⟨hconnected, rfl, hanswers, rfl⟩, ?_⟩
    simp [Emulated.read, ensureConnected, note, Attempt.bind_apply, hconnected, hf, failing]

end Emulated

namespace Executor

variable {key : String} {spec : ReadSpec} {reply : String} {value : Reading} {limit : Duration} {failures : Nat}
  {x : Client (Interface ω)} {p : RetryPolicy} {attempts : Option Nat} {d : Emulated}

/-- the interface is an open emulated link that will time out so often, and then has a reply -/
def Primed (key reply : String) (limit : Duration) (failures : Nat) (x : Client (Interface ω)) : Prop :=
  ∃ d, emulatedAt key x.pool = some d ∧ d.Primed reply limit failures

def Left (key : String) (failures : Nat) (x : Client (Interface ω)) : Prop :=
  ∃ d, emulatedAt key x.pool = some d ∧ d.failingReads = failures

/-- what reading an interface once comes to, when it will time out so often -/
def readOutcome (spec : ReadSpec) (reply : String) (value : Reading) (limit : Duration) :
    Nat → Except LinkError (Bytes × Reading) :=
  failing (.timeout .read limit) (spec.mode.cut reply, value)

/-- what a read with a budget comes to on an emulated link: there is a result if the link has fewer failures left, and
it has as many fewer left afterwards -/
structure Spent (key : String) (spec : ReadSpec) (budget : Nat) (d : Emulated) (reply : String) (value : Reading)
    (y : Client (Interface ω)) (r : Except LinkError Received) : Prop where
  result : r = if d.failingReads < budget then
      .ok ⟨spec.tag, responseText spec.type (spec.mode.cut reply), value, d.failingReads + 1⟩
    else .error (.readFailure budget (.timeout .read d.timeouts.read))
  failures : ∃ d', emulatedAt key y.pool = some d' ∧ d'.failingReads = d.failingReads - budget

/-- the end of all calls on an emulated link -/
theorem spent_of_settled {n : Nat} {y : Client (Interface ω)} {r : Except LinkError ((Bytes × Reading) × Nat)}
    (hsettled : RetryPolicy.Settled 0 (p.budget attempts)
      ((List.range n).map fun j => readOutcome spec reply value d.timeouts.read (d.failingReads - j)) r)
    (hy : Left key (d.failingReads - n) y) :
    n = min (d.failingReads + 1) (p.budget attempts) ∧
      Spent key spec (p.budget attempts) d reply value y (r.map fun ((raw, value), attempts) =>
        ⟨spec.tag, responseText spec.type raw, value, attempts⟩) := by
  obtain ⟨hn, rfl⟩ := hsettled.of_failing rfl
  obtain ⟨d', hd', hleft⟩ := hy
  refine ⟨hn, ?_, d', hd', ?_⟩
  · split <;> rfl
  · rw [hleft]
    omega

variable [Wire ω]

def afterRead (key : String) (spec : ReadSpec) (x : Client (Interface ω)) : Client (Interface ω) :=
  { x with pool := (Pool.callLink key (.read spec.mode) x.pool).1 }

theorem callLink_primed (mode : ReadMode) (hx : Primed key reply limit failures x) :
    ∃ d, emulatedAt key (Pool.callLink key (.read mode) x.pool).1 = some d ∧ d.failingReads = failures - 1 ∧
      (failures ≠ 0 → d.Primed reply limit (failures - 1)) ∧
      (Pool.callLink key (.read mode) x.pool).2 =
        (0, failing (.timeout .read limit) (mode.cut reply) failures) := by
  obtain ⟨d, hd, hprimed⟩ := hx
  obtain ⟨e, he, hdevice⟩ := emulatedAt_eq_some_iff.1 hd
  obtain ⟨d', hleft, hagain, hread⟩ := hprimed.read mode
  have hcall : Link.call (.read mode) e.link = e.link.rewrap Device.emulated (Emulated.read mode d) := by
    show Interface.call (.read mode) e.link = _
    simp only [Interface.call, hdevice]
    rfl
  simp only [Pool.callLink, he, hcall, hread]
  refine ⟨d', emulatedAt_eq_some_iff.2 ⟨{ e with link := { e.link with device := .emulated d' } }, ?_, rfl⟩, hleft,
    hagain, rfl⟩
  simp only [Pool.get?_modify, he, if_true, Option.map_some]
  rfl

/-- a call that takes no time does not wait -/
theorem perform_prompt {Λ : Type} [Link Λ] {c : Call} {x : Client Λ} {r : Except LinkError c.Answer}
    (h : (Pool.callLink key c x.pool).2 = (0, r)) :
    (Pool.perform key c).alone x = .finished { x with pool := (Pool.callLink key c x.pool).1 } 0 r ∧
      ∀ others y o, (Pool.perform key c).Yields others x y o →
        y = { x with pool := (Pool.callLink key c x.pool).1 } ∧ o = r := by
  unfold Pool.perform
  constructor
  · simp only [Proc.alone, h]
    rfl
  · intro others y o hy
    rw [Proc.yields_act_iff] at hy
    simp only [h] at hy
    exact Proc.yields_done_iff.1 hy

/-- **A read of a primed interface uses up one of its failures, or gives the reply**, at once -/
theorem readOnce_primed (hvalue : spec.type.convert (spec.mode.cut reply) = .ok value)
    (hx : Primed key reply limit failures x) :
    Left key (failures - 1) (afterRead key spec x) ∧
      (failures ≠ 0 → Primed key reply limit (failures - 1) (afterRead key spec x)) ∧
      (readOnce key spec).alone x = .finished (afterRead key spec x) 0 (readOutcome spec reply value limit failures) ∧
      ∀ others y r, (readOnce key spec).Yields others x y r →
        y = afterRead key spec x ∧ r = readOutcome spec reply value limit failures := by
  obtain ⟨d', hd', hleft, hagain, hcall⟩ := callLink_primed spec.mode hx
  obtain ⟨halone, hyields⟩ := perform_prompt hcall
  obtain ⟨convert, hread, hconvert⟩ : ∃ convert,
      readOnce key spec = (Pool.perform (Λ := Interface ω) key (.read spec.mode)).bind convert ∧
        convert (failing (.timeout .read limit) (spec.mode.cut reply) failures) =
          .done (readOutcome spec reply value limit failures) := by
    refine ⟨_, rfl, ?_⟩
    by_cases hf : failures = 0
    · simp only [failing, readOutcome, if_pos hf, hvalue]
      rfl
    · simp only [failing, readOutcome, if_neg hf]
  refine ⟨⟨d', hd', hleft⟩, fun hf => ⟨d', hd', hagain hf⟩, ?_, fun others y r hy => ?_⟩
  · rw [hread, Proc.alone_bind_of_finished halone, hconvert]
    rfl
  · rw [hread] at hy
    obtain ⟨m, o, hperform, hrest⟩ := Proc.yields_bind_iff.1 hy
    obtain ⟨rfl, rfl⟩ := hyields others m o hperform
    rw [hconvert] at hrest
    exact Proc.yields_done_iff.1 hrest

/-- the calls of a read, as long as the others leave the link alone -/
theorem calls_primed (hvalue : spec.type.convert (spec.mode.cut reply) = .ok value)
    {others : Client (Interface ω) → Client (Interface ω) → Prop}
    (hothers : ∀ x y, others x y → emulatedAt key y.pool = emulatedAt key x.pool) {ticks : Nat}
    {y : Client (Interface ω)} {os : List (Except LinkError (Bytes × Reading))}
    (h : RetryPolicy.Calls others ticks (readOnce key spec) x os y) (hretried : ∀ q ∈ os.dropLast, Retried q)
    (hx : Primed key reply limit failures x) :
    Left key (failures - os.length) y ∧
      os = (List.range os.length).map fun j => readOutcome spec reply value limit (failures - j) := by
  induction h generalizing failures with
  | last h =>
    obtain ⟨hleft, -, -, hyields⟩ := readOnce_primed hvalue hx
    obtain ⟨rfl, rfl⟩ := hyields _ _ _ h
    exact ⟨hleft, rfl⟩
  | again h hpause hrest ih =>
    obtain ⟨-, hagain, -, hyields⟩ := readOnce_primed hvalue hx
    obtain ⟨rfl, rfl⟩ := hyields _ _ _ h
    rw [List.dropLast_cons_of_ne_nil hrest.ne_nil, List.forall_mem_cons] at hretried
    -- the read that is tried again was a failure
    obtain ⟨d, hd, hprimed⟩ := hagain ((retried_failing_iff rfl).1 hretried.1)
    have hd := (hothers _ _ (Proc.others_of_sleep hpause)).trans hd
    obtain ⟨hend, hall⟩ := ih hretried.2 ⟨d, hd, hprimed⟩
    rw [List.length_cons, Nat.add_comm, ← Nat.sub_sub]
    refine ⟨hend, ?_⟩
    rw [Nat.add_comm, List.range_succ_eq_map, List.map_cons, List.map_map]
    refine congrArg _ (hall.trans (List.map_congr_left fun j _ => ?_))
    rw [Nat.sub_sub, Nat.add_comm 1 j]
    rfl

/-- what is made of the outcome of all attempts -/
theorem collect_eq (key : String) (policy : RetryPolicy) (spec : ReadSpec) : ∃ store,
    collect (Λ := Interface ω) key policy spec = (policy.run (readOnce key spec)).bind store ∧
      ∀ r, store r = .done (r.map fun ((raw, value), attempts) =>
        ⟨spec.tag, responseText spec.type raw, value, attempts⟩) := by
  refine ⟨_, rfl, fun r => ?_⟩
  cases r <;> rfl

/-- the time of calls that take none is that of the pauses between them -/
theorem done_after_pauses (s : σ) (a : α) (k ticks : Nat) :
    ((Proc.done a).alone s).after (((List.range (k + 1)).map fun _ => 0).sum + k * ticks) =
      .finished s ((k + 1 - 1) * ticks) a := by
  simp [Proc.Ending.after, List.map_const']

/-- **Alone, a read of an emulated link ends with its budget spent**, after the pauses between the calls -/
theorem collect_alone (hd : emulatedAt key x.pool = some d) (hconnected : d.connected = true)
    (hanswers : d.answer? = some reply)
    (hvalue : spec.type.convert (spec.mode.cut reply) = .ok value) :
    ∃ y r, (collect key (p.withAttempts attempts) spec).alone x =
        .finished y ((min (d.failingReads + 1) (p.budget attempts) - 1) * p.backoff.ticks) r ∧
      Spent key spec (p.budget attempts) d reply value y r := by
  have hprimed : ∀ k ≤ d.failingReads,
      Primed key reply d.timeouts.read (d.failingReads - k) ((afterRead key spec)^[k] x) := by
    intro k hk
    induction k with
    | zero => exact ⟨d, hd, hconnected, rfl, hanswers, rfl⟩
    | succ k ih =>
      rw [Function.iterate_succ_apply']
      exact (readOnce_primed hvalue (ih (by omega))).2.1 (by omega)
  -- only failures are tried again
  have hfew : ∀ k, (∀ j < k, Retried (readOutcome spec reply value d.timeouts.read (d.failingReads - j))) →
      k ≤ d.failingReads := by
    intro k hk
    by_contra hlong
    exact (retried_failing_iff rfl).1 (hk d.failingReads (by omega)) (Nat.sub_self _)
  have hcalls : ∀ k, (∀ j < k, Retried (readOutcome spec reply value d.timeouts.read (d.failingReads - j))) →
      (readOnce key spec).alone ((afterRead key spec)^[k] x) = .finished ((afterRead key spec)^[k + 1] x)
        0 (readOutcome spec reply value d.timeouts.read (d.failingReads - k)) := by
    intro k hk
    rw [Function.iterate_succ_apply']
    exact (readOnce_primed hvalue (hprimed k (hfew k hk))).2.2.1
  obtain ⟨k, r, hsettled, halone⟩ := RetryPolicy.tryFrom_alone p.backoff (p.budget attempts - 1) 0
    (s := fun k => (afterRead key spec)^[k] x) hcalls
  rw [p.budget_eq attempts] at hsettled
  have hlast := hfew k fun j hj => hsettled.retried _ (by
    rw [List.range_succ, List.map_append, List.map_singleton, List.dropLast_concat]
    exact List.mem_map_of_mem (List.mem_range.2 hj))
  have hleft : Left key (d.failingReads - (k + 1)) ((afterRead key spec)^[k + 1] x) := by
    rw [Function.iterate_succ_apply']
    exact (readOnce_primed hvalue (hprimed k hlast)).1
  obtain ⟨hk, hspent⟩ := spent_of_settled hsettled hleft
  obtain ⟨store, hcollect, hstore⟩ := collect_eq (ω := ω) key (p.withAttempts attempts) spec
  refine ⟨_, _, ?_, hspent⟩
  rw [hcollect, RetryPolicy.run_withAttempts]
  refine (Proc.alone_bind_of_finished halone store).trans ?_
  rw [hstore, ← hk]
  exact done_after_pauses _ _ k _

/-- **Among others that leave the link alone, it ends with nothing else** -/
theorem collect_yields (hd : emulatedAt key x.pool = some d) (hconnected : d.connected = true)
    (hanswers : d.answer? = some reply)
    (hvalue : spec.type.convert (spec.mode.cut reply) = .ok value)
    {others : Client (Interface ω) → Client (Interface ω) → Prop}
    (hothers : ∀ x y, others x y → emulatedAt key y.pool = emulatedAt key x.pool) {y : Client (Interface ω)}
    {r : Except LinkError Received} (h : (collect key (p.withAttempts attempts) spec).Yields others x y r) :
    Spent key spec (p.budget attempts) d reply value y r := by
  obtain ⟨store, hcollect, hstore⟩ := collect_eq (ω := ω) key (p.withAttempts attempts) spec
  rw [hcollect, RetryPolicy.run_withAttempts, Proc.yields_bind_iff] at h
  obtain ⟨m, outcome, hrun, hrest⟩ := h
  rw [hstore] at hrest
  obtain ⟨rfl, rfl⟩ := Proc.yields_done_iff.1 hrest
  obtain ⟨os, hcalls, hsettled⟩ := (RetryPolicy.yields_tryFrom_iff _ _ _).1 hrun
  rw [p.budget_eq attempts] at hsettled
  obtain ⟨hleft, hos⟩ := calls_primed hvalue hothers hcalls hsettled.retried ⟨d, hd, hconnected, rfl, hanswers, rfl⟩
  rw [hos] at hsettled
  exact (spent_of_settled hsettled hleft).2

end Executor

/-! ## Retried reads -/

namespace RetryPolicy

/-- **A retried read spends exactly its budget, for every policy and every number of attempts of an instruction.**
Among others it makes exactly the calls whose outcomes settle it, with one pause between two of them. Alone, and with
the outcomes of its calls known, it ends with what they make of the budget. On an open emulated link that has a reply
it is one attempt more than there are failures left, if the budget is larger than these, and uses the budget up
otherwise -/
theorem reads_spend_their_budget (p : RetryPolicy) (attempts : Option Nat) :
    1 ≤ p.budget attempts ∧
    (∀ (σ α : Type) (read : Proc.Fallible σ LinkError α) (others : σ → σ → Prop) (s t : σ)
      (r : Except LinkError (α × Nat)), ((p.withAttempts attempts).run read).Yields others s t r ↔
        ∃ os, Calls others p.backoff.ticks read s os t ∧ Settled 0 (p.budget attempts) os r) ∧
    (∀ (σ α : Type) (read : Proc.Fallible σ LinkError α) (s : Nat → σ) (d : Nat → Nat)
      (o : Nat → Except LinkError α), (∀ k, read.alone (s k) = .finished (s (k + 1)) (d k) (o k)) →
        ∃ k r, Settled 0 (p.budget attempts) ((List.range (k + 1)).map o) r ∧
          ((p.withAttempts attempts).run read).alone (s 0) =
            .finished (s (k + 1)) (((List.range (k + 1)).map d).sum + k * p.backoff.ticks) r) ∧
    ∀ (ω : Type) [Wire ω] (key : String) (spec : ReadSpec) (x : Client (Interface ω)) (d : Emulated) (reply : String)
      (value : Reading), emulatedAt key x.pool = some d → d.connected = true →
      d.answer? = some reply → spec.type.convert (spec.mode.cut reply) = .ok value →
        (∃ y r, (Executor.collect key (p.withAttempts attempts) spec).alone x =
            .finished y ((min (d.failingReads + 1) (p.budget attempts) - 1) * p.backoff.ticks) r ∧
          Executor.Spent key spec (p.budget attempts) d reply value y r) ∧
        ∀ others : Client (Interface ω) → Client (Interface ω) → Prop,
          (∀ x y, others x y → emulatedAt key y.pool = emulatedAt key x.pool) →
          ∀ y r, (Executor.collect key (p.withAttempts attempts) spec).Yields others x y r →
            Executor.Spent key spec (p.budget attempts) d reply value y r := by
  refine ⟨Nat.le_max_right _ _, ?_, ?_, ?_⟩
  · intro σ α read others s t r
    rw [run_withAttempts, yields_tryFrom_iff, budget_eq]
  · intro σ α read s d o h
    rw [run_withAttempts]
    have hend := tryFrom_alone p.backoff (p.budget attempts - 1) 0 fun k _ => h k
    rwa [budget_eq] at hend
  · intro ω _ key spec x d reply value hd hconnected hanswers hvalue
    exact ⟨Executor.collect_alone hd hconnected hanswers hvalue,
      fun others hothers y r h => Executor.collect_yields hd hconnected hanswers hvalue hothers h⟩

/-- a meter that times out twice before it replies -/
def tiredMeter : Emulated := { name := "bench", responder := .fixed "50", connected := true, failingReads := 2 }

def tiredEntry : Entry (Interface ScriptedPeer) :=
  { name := "bench", kind := .emulated, resource := "emulated:bench", enabled := true,
    link := { device := .emulated tiredMeter } }

def tiredBench : Client (Interface ScriptedPeer) := { pool := { entries := ⟨[("BENCH", tiredEntry)]⟩ } }

def volts : ReadSpec := ⟨.string, none, "volts"⟩

/-- **With three attempts the third one has the reply, and with two there is none**, nor with no attempts at all, which
are one -/
theorem two_failures_within_three_attempts :
    (∃ y, (Executor.collect "BENCH" (withAttempts {} (some 3)) volts).alone tiredBench =
      .finished y 200 (.ok ⟨"volts", "50", .text "50", 3⟩)) ∧
    (∃ y, (Executor.collect "BENCH" (withAttempts {} (some 2)) volts).alone tiredBench =
      .finished y 100 (.error (.readFailure 2 (.timeout .read (.ofSecs 2))))) ∧
    ∃ y, (Executor.collect "BENCH" (withAttempts {} (some 0)) volts).alone tiredBench =
      .finished y 0 (.error (.readFailure 1 (.timeout .read (.ofSecs 2)))) := by
  have htext : Executor.responseText volts.type (volts.mode.cut "50") = "50" := by decide +kernel
  have hvalue : volts.type.convert (volts.mode.cut "50") = .ok (.text "50") :=
    congrArg (fun s => Except.ok (Reading.text s)) htext
  refine ⟨?_, ?_, ?_⟩
  · obtain ⟨-, -, -, hemulated⟩ := reads_spend_their_budget {} (some 3)
    obtain ⟨⟨y, r, halone, hspent⟩, -⟩ :=
      hemulated ScriptedPeer "BENCH" volts tiredBench tiredMeter "50" (.text "50") rfl rfl rfl hvalue
    rw [hspent.result, htext] at halone
    exact ⟨y, halone⟩
  · obtain ⟨-, -, -, hemulated⟩ := reads_spend_their_budget {} (some 2)
    obtain ⟨⟨y, r, halone, hspent⟩, -⟩ :=
      hemulated ScriptedPeer "BENCH" volts tiredBench tiredMeter "50" (.text "50") rfl rfl rfl hvalue
    rw [hspent.result] at halone
    exact ⟨y, halone⟩
  · obtain ⟨-, -, -, hemulated⟩ := reads_spend_their_budget {} (some 0)
    obtain ⟨⟨y, r, halone, hspent⟩, -⟩ :=
      hemulated ScriptedPeer "BENCH" volts tiredBench tiredMeter "50" (.text "50") rfl rfl rfl hvalue
    rw [hspent.result] at halone
    exact ⟨y, halone⟩

end RetryPolicy

end CalBench
