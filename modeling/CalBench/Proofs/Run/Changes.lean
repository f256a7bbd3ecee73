/-
What a run may change.

Whatever a plan says, a run only does three things to the bench and to itself: it uses the pool, it puts down responses
and variables, and it sends results. A relation between the states before and after that allows for these (`Run.Allows`)
says something of every change that a run makes.

Results:
- `steps_changes`: the steps of a plan only make changes that are allowed, and send nothing if results go together;
- `execute_changes`: so does the execution of the plan.
-/
import CalBench.Proofs.Pool.Deeds
import CalBench.Proofs.Run.Course

namespace CalBench

open Proc

variable {Λ : Type} [Link Λ]

namespace Run

structure Allows (mine : Bench Λ × Run → Bench Λ × Run → Prop) : Prop where
  refl : ∀ s, mine s s
  uses : ∀ s c, (client.get s).Uses c → mine s (client.set c s)
  binds : ∀ s (b : Bindings), mine s (s.1, { s.2 with bindings := b })

def AllowsSending (mine : Bench Λ × Run → Bench Λ × Run → Prop) : Prop := ∀ s o, mine s (s.1.send o, s.2)

variable {mine : Bench Λ × Run → Bench Λ × Run → Prop}

theorem Allows.client {α : Type} (h : Allows mine) {p : Proc (Client Λ) α} (hp : p.Makes Client.Uses) :
    (p.onPart client).Makes mine := hp.onPart (fun _ _ => rfl) h.uses

end Run

namespace Executor

open Client

variable {mine : Bench Λ × Run → Bench Λ × Run → Prop}

/-! ## Calls -/

theorem tryFrom_uses {α : Type} {read : Fallible (Client Λ) LinkError α} (hread : read.Makes Uses)
    (backoff : Duration) (left made : Nat) : (RetryPolicy.tryFrom backoff read left made).Makes Uses := by
  intro x
  exact RetryPolicy.tryFrom_meets (I := fun _ => True) (fun _ _ _ _ => trivial) backoff (fun y _ => hread y) left made
    x trivial

theorem call_uses (key : String) (c : Call) : (Pool.perform (Λ := Λ) key c).Makes Uses :=
  Pool.perform_deeds trivial key

theorem use_uses {α : Type} (name : String) {use : String → Fallible (Client Λ) LinkError α}
    (huse : ∀ key, (use key).Makes Uses) : (Pool.withLease name use).Makes Uses :=
  Pool.withLease_deeds trivial name huse

theorem ifOnBus_uses {α : Type} {yes no : Fallible (Client Λ) LinkError α} (hyes : yes.Makes Uses)
    (hno : no.Makes Uses) (key : String) : (ifOnBus key yes no).Makes Uses := by
  refine makes_get_bind (fun _ => .none rfl) fun x => ?_
  split
  · exact hyes
  · exact hno

theorem select_uses (key : String) (address : Option UInt8) : (select (Λ := Λ) key address).Makes Uses := by
  unfold select
  split
  · exact makes_done _
  · exact ifOnBus_uses (call_uses key _) (makes_done _) key

theorem exchange_uses (e : Executor) (c : Command) (d : DeviceBinding) (text : Option String) (key : String) :
    (e.exchange (Λ := Λ) c d text key).Makes Uses := by
  have hread (spec : ReadSpec) : (readOnce (Λ := Λ) key spec).Makes Uses :=
    makes_andThen (call_uses key _) fun _ => makes_done _
  refine makes_andThen (select_uses key d.address) fun _ => makes_andThen ?_ fun _ => ?_
  · split
    · exact call_uses key _
    · exact makes_done _
  · split
    · exact makes_done _
    · exact makes_andThen (makes_andThen (tryFrom_uses (hread _) _ _ _) fun _ => makes_done _) fun _ => makes_done _

theorem clearDevice_uses (e : Executor) (unit : String) : (e.clearDevice (Λ := Λ) unit).Makes Uses := by
  unfold clearDevice
  split
  · exact makes_done _
  · exact use_uses _ fun key => ifOnBus_uses (call_uses key _) (makes_done _) key

theorem resetInterface_uses (name : String) : (resetInterface (Λ := Λ) name).Makes Uses :=
  use_uses name fun key =>
    ifOnBus_uses (call_uses key .reset)
      (makes_andThen (call_uses key .disconnect) fun _ => call_uses key .connect) key

theorem triggerDevice_uses (e : Executor) (unit : String) : (e.triggerDevice (Λ := Λ) unit).Makes Uses := by
  unfold triggerDevice
  split
  · exact makes_done _
  · refine use_uses _ fun key => ifOnBus_uses ?_ (makes_done _) key
    split
    · exact call_uses key _
    · exact makes_done _

/-! ## Steps -/

theorem linkStep_changes (h : Run.Allows mine) {p : Fallible (Client Λ) LinkError Unit} (hp : p.Makes Uses)
    (r : StepResult) : (linkStep p r).Makes mine := by
  refine makes_bind (h.client hp) fun x => ?_
  cases x with
  | ok => exact makes_done _
  | error err => exact makes_done _

theorem letGo_changes (h : Run.Allows mine) : (Run.letGo (Λ := Λ)).Makes mine := h.client Pool.giveBack_deeds

theorem command_changes (h : Run.Allows mine) (e : Executor) (c : Command) (r : StepResult) :
    (e.command (Λ := Λ) c r).Makes mine := by
  refine makes_bind (makes_sleepIfAny _) fun _ => makes_get_bind h.refl fun s => ?_
  split
  · exact makes_done _
  · rename_i d text _
    have hlease : (Pool.withLease (Λ := Λ) d.interface (e.exchange c d text)).Makes Uses :=
      use_uses d.interface (e.exchange_uses c d text)
    refine makes_bind (h.client hlease) fun x => ?_
    cases x with
    | error err => exact makes_done _
    | ok received =>
      refine makes_bind ((store_instant received).makes fun _ => h.binds _ _) fun _ => ?_
      exact makes_bind (makes_sleepIfAny _) fun _ => makes_done _

theorem carryOut_changes (h : Run.Allows mine) (e : Executor) (step : Step) (r : StepResult) :
    (e.carryOut (Λ := Λ) step r).Makes mine := by
  cases step with
  | command c => exact command_changes h e c r
  | setVariable name source =>
    refine makes_get_bind h.refl fun s => ?_
    split
    · exact makes_done _
    · exact makes_bind (makes_update fun _ => h.binds _ _) fun _ => makes_done _
  | delay d => exact makes_bind (makes_sleep _) fun _ => makes_done _
  | resetDevice unit => exact linkStep_changes h (e.clearDevice_uses unit) r
  | resetInterface name => exact linkStep_changes h (resetInterface_uses name) r
  | trigger unit => exact linkStep_changes h (e.triggerDevice_uses unit) r

theorem carryOutUnlessStopped_changes (h : Run.Allows mine) (e : Executor) (index : Nat) (step : Step) :
    (e.carryOutUnlessStopped (Λ := Λ) index step).Makes mine := by
  refine makes_get_bind h.refl fun s => ?_
  split
  · exact makes_done _
  · exact makes_guarded h.refl (makes_bind (carryOut_changes h e step _) fun _ => makes_done _)
      (makes_bind (letGo_changes h) fun _ => makes_done _) _

/-- **The steps of a plan only make changes that are allowed**, and send nothing if results are sent together -/
theorem steps_changes (h : Run.Allows mine) {inBulk : Bool} (hsends : inBulk = false → Run.AllowsSending mine)
    (e : Executor) (index : Nat) (l : List Step) (results : List StepResult) :
    (e.steps (Λ := Λ) inBulk index l results).Makes mine := by
  have hannounce (o : StepOutcome) :
      (if inBulk then .done () else Run.send (Λ := Λ) (.step (.step o.result))).Makes mine := by
    cases inBulk with
    | true => exact makes_done _
    | false => exact makes_update fun s => hsends rfl s _
  induction l generalizing index results with
  | nil => exact makes_done _
  | cons step rest ih =>
    refine makes_bind (carryOutUnlessStopped_changes h e index step) fun o => ?_
    cases o with
    | none => exact makes_done _
    | some o =>
      refine makes_bind (hannounce o) fun _ => ?_
      split
      · split
        · exact makes_done _
        · exact ih _ _
      · exact ih _ _

/-- **The execution of a plan only makes changes that are allowed** -/
theorem execute_changes (h : Run.Allows mine) (hsends : Run.AllowsSending mine) (e : Executor) (p : Plan) :
    (e.execute (Λ := Λ) p).Makes mine := by
  have hbatch (progress : Progress) : (sendBatch (Λ := Λ) progress).Makes mine := by
    unfold sendBatch
    split
    · exact makes_done _
    · exact makes_update fun s => hsends s _
  refine makes_get_bind h.refl fun s => ?_
  split
  · exact makes_done _
  · refine makes_bind (steps_changes h (fun _ => hsends) e _ _ _) fun progress => makes_bind ?_ fun _ => ?_
    · split
      · exact hbatch progress
      · exact makes_done _
    · split <;> exact makes_done _

end Executor

end CalBench
