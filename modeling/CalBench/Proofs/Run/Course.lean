/-
The course of a run.

`Course` relates the state before some steps to the state after them, by way of the results that the steps leave: each
step is carried out where the one before it left off, and none of them is a command or an assignment that failed. How
the steps of a plan end is one of three things (`StepsEnd`): they took their course, one of them failed and ended the
run after a course of its own, or the run was stopped.

Results:
- `steps_end`: every execution of the steps of a plan ends in one of these ways;
- `Course.reports`, `Course.succeeded`, `Course.outputs`: what the results of a course are, and what was sent;
- `steps_finish`, `execute_ends`: in an idle pool a run that is not stopped does end, and the pool is idle again.
-/
import CalBench.Link.Rehearsal
import CalBench.Proofs.Run.Step

namespace CalBench

variable {Λ : Type} {others : Bench Λ → Bench Λ → Prop}

/-! ## Runs that are not stopped -/

namespace Run

def Unsignalled (signal : Nat) (s : Bench Λ × Run) : Prop := s.2.signal = signal ∧ s.1.isRaised signal = false

theorem stable_unsignalled (signal : Nat) : Stable (Unsignalled (Λ := Λ) signal) := ⟨fun _ _ h => h, fun _ _ h => h⟩

theorem stable_id (id : String) : Stable fun s : Bench Λ × Run => s.2.id = id := ⟨fun _ _ h => h, fun _ _ h => h⟩

theorem stable_outputs (outputs : List RunOutput) : Stable fun s : Bench Λ × Run => s.1.outputs = outputs :=
  ⟨fun _ _ h => h, fun _ _ h => h⟩

theorem Unstopped.amid {s : Bench Λ × Run} (h : Unstopped others s) (x y : Bench Λ × Run) (ho : Amid others x y)
    (hx : Unsignalled s.2.signal x) : Unsignalled s.2.signal y :=
  ⟨(congrArg Run.signal ho.2).trans hx.1, (h.later _ _ ho.1).trans hx.2⟩

theorem Unstopped.of_unsignalled {s t : Bench Λ × Run} (h : Unstopped others s) (ht : Unsignalled s.2.signal t) :
    Unstopped others t := by
  refine ⟨?_, fun b b' ho => ?_⟩
  · rw [isStopped, ht.1]
    exact ht.2
  · rw [ht.1]
    exact h.later b b' ho

end Run

namespace Executor

def announce (inBulk : Bool) (o : StepOutcome) (s : Bench Λ × Run) : Bench Λ × Run :=
  if inBulk then s else (s.1.send (.step (.step o.result)), s.2)

theorem announce_run (inBulk : Bool) (o : StepOutcome) (s : Bench Λ × Run) : (announce inBulk o s).2 = s.2 := by
  unfold announce
  split <;> rfl

theorem announce_pool (inBulk : Bool) (o : StepOutcome) (s : Bench Λ × Run) :
    (announce inBulk o s).1.pool = s.1.pool := by
  unfold announce
  split <;> rfl

theorem announce_unsignalled (inBulk : Bool) (o : StepOutcome) {signal : Nat} {s : Bench Λ × Run}
    (h : Run.Unsignalled signal s) : Run.Unsignalled signal (announce inBulk o s) := by
  unfold announce
  split <;> exact h

/-- the outputs that announce results one by one, none if they are sent together -/
def announcements (inBulk : Bool) (results : List StepResult) : List RunOutput :=
  if inBulk then [] else results.map fun r => .step (.step r)

theorem announcements_append (inBulk : Bool) (rs rs' : List StepResult) :
    announcements inBulk (rs ++ rs') = announcements inBulk rs ++ announcements inBulk rs' := by
  cases inBulk <;> simp [announcements]

theorem announce_outputs (inBulk : Bool) (o : StepOutcome) (s : Bench Λ × Run) :
    (announce inBulk o s).1.outputs = s.1.outputs ++ announcements inBulk [o.result] := by
  cases inBulk <;> simp [announce, announcements, Bench.send]

theorem announce_instant (inBulk : Bool) (o : StepOutcome) :
    (if inBulk then .done () else Run.send (Λ := Λ) (.step (.step o.result))).Instant (announce inBulk o) := by
  cases inBulk with
  | true => exact .none
  | false => exact .change _

variable [Link Λ] {e : Executor} {inBulk : Bool}

/-- **A step of a run that is not stopped is carried out**; of any other run it may be given up -/
theorem carryOutUnlessStopped_yields {index : Nat} {step : Step} {s t : Bench Λ × Run} {r : Option StepOutcome}
    (h : (e.carryOutUnlessStopped index step).Yields (Run.Amid others) s t r) :
    (∃ o, r = some o ∧ (e.carryOut step (blank index s.2.id step)).Yields (Run.Amid others) s t o) ∨
      r = none ∧ ¬ Run.Unstopped others s := by
  rw [carryOutUnlessStopped, Proc.yields_get_bind_iff] at h
  split at h
  · rename_i hstop
    obtain ⟨-, rfl⟩ := Proc.yields_done_iff.1 h
    exact .inr ⟨rfl, fun hu => by simp [hu.now] at hstop⟩
  · have hcarry : ∀ {r}, ((e.carryOut step (blank index s.2.id step)).bind fun o => .done (some o)).Yields
        (Run.Amid others) s t r →
        ∃ o, r = some o ∧ (e.carryOut step (blank index s.2.id step)).Yields (Run.Amid others) s t o := by
      intro r h
      obtain ⟨m, o, hm, hd⟩ := Proc.yields_bind_iff.1 h
      obtain ⟨rfl, rfl⟩ := Proc.yields_done_iff.1 hd
      exact ⟨o, rfl, hm⟩
    have hkeeps : ∀ {I}, Run.Stable I →
        ((e.carryOut (Λ := Λ) step (blank index s.2.id step)).bind fun o => .done (some o)).Keeps I :=
      fun hI => Proc.keeps_bind (e.carryOut_keeps hI step _) fun _ => trivial
    by_cases hu : Run.Unstopped others s
    · -- the signal is never raised, so the stop condition never holds
      rcases h.of_guarded (hkeeps (Run.stable_unsignalled s.2.signal)) hu.amid ⟨rfl, hu.now⟩ with h | ⟨m, hm, hs, -⟩
      · exact .inl (hcarry h)
      · rw [Run.isStopped, hm.1, hm.2] at hs
        cases hs
    · rcases h.of_guarded (hkeeps (I := fun _ => True) ⟨fun _ _ _ => trivial, fun _ _ _ => trivial⟩)
          (fun _ _ _ _ => trivial) trivial with h | ⟨m, -, -, h⟩
      · exact .inl (hcarry h)
      · obtain ⟨m', ⟨⟩, -, hd⟩ := Proc.yields_bind_iff.1 h
        obtain ⟨-, rfl⟩ := Proc.yields_done_iff.1 hd
        exact .inr ⟨rfl, hu⟩

/-- carrying out a step leaves a run as unstopped as it was -/
theorem unstopped_of_carryOut {step : Step} {r : StepResult} {s t : Bench Λ × Run} {o : StepOutcome}
    (h : (e.carryOut step r).Yields (Run.Amid others) s t o) (hs : Run.Unstopped others s) :
    Run.Unstopped others (announce inBulk o t) :=
  hs.of_unsignalled (announce_unsignalled _ _
    (h.keeps (e.carryOut_keeps (Run.stable_unsignalled s.2.signal) step r) hs.amid ⟨rfl, hs.now⟩))

/-! ## Courses -/

variable (others e inBulk)

/-- steps from a position on have been carried out, none of them a command or an assignment that failed, and have left
these results -/
inductive Course : Nat → List Step → Bench Λ × Run → List StepResult → Bench Λ × Run → Prop
  | nil (index : Nat) (s : Bench Λ × Run) : Course index [] s [] s
  | cons {index : Nat} {step : Step} {rest : List Step} {s m t : Bench Λ × Run} {o : StepOutcome}
      {results : List StepResult} (h : (e.carryOut step (blank index s.2.id step)).Yields (Run.Amid others) s m o)
      (hok : step.isFatal = true → o.2 = none) (hr : Course (index + 1) rest (announce inBulk o m) results t) :
      Course index (step :: rest) s (o.result :: results) t

/-- how the steps of a plan end: with which results, and why -/
inductive StepsEnd (index : Nat) (steps : List Step) (s t : Bench Λ × Run) : List StepResult → Option Failure → Prop
  | completed (results : List StepResult) (h : Course others e inBulk index steps s results t) :
      StepsEnd index steps s t results none
  | failed (k : Nat) (step : Step) (results : List StepResult) (m m' : Bench Λ × Run) (o : StepOutcome)
      (cause : StepFailure) (hk : steps[k]? = some step) (hf : step.isFatal = true)
      (hc : Course others e inBulk index (steps.take k) s results m)
      (h : (e.carryOut step (blank (index + k) m.2.id step)).Yields (Run.Amid others) m m' o) (ho : o.2 = some cause)
      (ht : t = announce inBulk o m') :
      StepsEnd index steps s t (results ++ [o.result]) (some (.step (index + k) cause))
  | cancelled (results : List StepResult) (h : ¬ Run.Unstopped others s) :
      StepsEnd index steps s t results (some .cancelled)

variable {others e inBulk}

/-- one more step before the others -/
theorem StepsEnd.cons {index : Nat} {step : Step} {rest : List Step} {s m t : Bench Λ × Run} {o : StepOutcome}
    {results : List StepResult} {f : Option Failure}
    (h : (e.carryOut step (blank index s.2.id step)).Yields (Run.Amid others) s m o)
    (hok : step.isFatal = true → o.2 = none)
    (hr : StepsEnd others e inBulk (index + 1) rest (announce inBulk o m) t results f) :
    StepsEnd others e inBulk index (step :: rest) s t (o.result :: results) f := by
  cases hr with
  | completed _ hc => exact .completed _ (.cons h hok hc)
  | failed k step' results' m₁ m₂ o' cause hk hf hc h' ho ht =>
    have hi : index + 1 + k = index + (k + 1) := by omega
    rw [hi] at h' ⊢
    exact .failed (k + 1) step' (o.result :: results') m₁ m₂ o' cause hk hf (.cons h hok hc) h' ho ht
  | cancelled _ hu => exact .cancelled _ fun hs => hu (unstopped_of_carryOut h hs)

/-- **Every execution of steps ends in one of the three ways.** -/
theorem steps_end {index : Nat} {steps : List Step} {results : List StepResult} {s t : Bench Λ × Run} {p : Progress}
    (h : (e.steps inBulk index steps results).Yields (Run.Amid others) s t p) :
    ∃ more, p.results = results ++ more ∧ StepsEnd others e inBulk index steps s t more p.failure := by
  induction steps generalizing index results s with
  | nil =>
    obtain ⟨rfl, rfl⟩ := Proc.yields_done_iff.1 h
    exact ⟨[], (List.append_nil results).symm, .completed [] (.nil index t)⟩
  | cons step rest ih =>
    obtain ⟨m, r, hcarry, h⟩ := Proc.yields_bind_iff.1 h
    rcases carryOutUnlessStopped_yields hcarry with ⟨o, rfl, hstep⟩ | ⟨rfl, hu⟩
    · -- the steps after it go on from where it left off
      have hrest : (step.isFatal = true → o.2 = none) →
          (e.steps inBulk (index + 1) rest (results ++ [o.result])).Yields (Run.Amid others) (announce inBulk o m) t
            p →
          ∃ more, p.results = results ++ more ∧
            StepsEnd others e inBulk index (step :: rest) s t more p.failure := by
        intro hok h
        obtain ⟨more, hp, hend⟩ := ih h
        exact ⟨o.result :: more, by simp [hp], .cons hstep hok hend⟩
      rw [(announce_instant inBulk o).yields_bind_iff] at h
      split at h
      · rename_i cause ho
        split at h
        · rename_i hf
          obtain ⟨rfl, rfl⟩ := Proc.yields_done_iff.1 h
          exact ⟨[o.result], rfl, .failed 0 step [] s m o cause rfl hf (.nil index s) hstep ho rfl⟩
        · rename_i hf
          exact hrest (fun hf' => absurd hf' hf) h
      · rename_i ho
        exact hrest (fun _ => ho) h
    · obtain ⟨rfl, rfl⟩ := Proc.yields_done_iff.1 h
      exact ⟨[], (List.append_nil results).symm, .cancelled [] hu⟩

/-! ## What a course leaves -/

/-- one result for every step, with its position, its run, its kind and its unit -/
def Reports (runId : String) (index : Nat) (steps : List Step) (results : List StepResult) : Prop :=
  results.length = steps.length ∧ ∀ k step r, steps[k]? = some step → results[k]? = some r →
    r.index = index + k ∧ r.runId = runId ∧ r.kind = step.kindName ∧ r.unitId = step.unit?

theorem Reports.cons {runId : String} {index : Nat} {step : Step} {steps : List Step} {r : StepResult}
    {results : List StepResult}
    (hr : r.index = index ∧ r.runId = runId ∧ r.kind = step.kindName ∧ r.unitId = step.unit?)
    (h : Reports runId (index + 1) steps results) : Reports runId index (step :: steps) (r :: results) := by
  refine ⟨congrArg (· + 1) h.1, fun k step' r' hs hr' => ?_⟩
  cases k with
  | zero => cases hs; cases hr'; exact hr
  | succ k =>
    have hi : index + 1 + k = index + (k + 1) := by omega
    exact hi ▸ h.2 k step' r' hs hr'

theorem Reports.snoc {runId : String} {index : Nat} {step : Step} {steps : List Step} {r : StepResult}
    {results : List StepResult} (h : Reports runId index steps results)
    (hr : r.index = index + steps.length ∧ r.runId = runId ∧ r.kind = step.kindName ∧ r.unitId = step.unit?) :
    Reports runId index (steps ++ [step]) (results ++ [r]) := by
  refine ⟨by simp [h.1], fun k step' r' hs hr' => ?_⟩
  rcases Nat.lt_or_ge k steps.length with hk | hk
  · rw [List.getElem?_append_left hk] at hs
    rw [List.getElem?_append_left (h.1 ▸ hk)] at hr'
    exact h.2 k step' r' hs hr'
  · rw [List.getElem?_append_right hk, List.getElem?_singleton] at hs
    rw [List.getElem?_append_right (h.1 ▸ hk), h.1, List.getElem?_singleton] at hr'
    split at hs
    · rename_i h0
      rw [if_pos h0] at hr'
      cases hs; cases hr'
      have hk' : k = steps.length := by omega
      exact hk' ▸ hr
    · cases hs

/-- the result of a step is labelled with the position it was carried out at, the run, the kind and the unit -/
theorem result_labels {index : Nat} {id : String} {step : Step} {s t : Bench Λ × Run} {o : StepOutcome}
    (h : (e.carryOut step (blank index id step)).Yields (Run.Amid others) s t o) :
    o.result.index = index ∧ o.result.runId = id ∧ o.result.kind = step.kindName ∧ o.result.unitId = step.unit? :=
  (carryOut_comesTo h).labels

/-- others leave the id of a run alone -/
theorem id_of_carryOut {step : Step} {r : StepResult} {s t : Bench Λ × Run} {o : StepOutcome}
    (h : (e.carryOut step r).Yields (Run.Amid others) s t o) : t.2.id = s.2.id :=
  h.keeps (e.carryOut_keeps (Run.stable_id s.2.id) step r) (fun _ _ ho hx => (congrArg Run.id ho.2).trans hx) rfl

namespace Course

variable {index : Nat} {steps : List Step} {s t : Bench Λ × Run} {results : List StepResult}

theorem id_eq (h : Course others e inBulk index steps s results t) : t.2.id = s.2.id := by
  induction h with
  | nil => rfl
  | cons h _ _ ih => rw [ih, announce_run, id_of_carryOut h]

/-- **One result for every step, in order** -/
theorem reports (h : Course others e inBulk index steps s results t) : Reports s.2.id index steps results := by
  induction h with
  | nil => exact ⟨rfl, fun k step r hs => by simp at hs⟩
  | cons h _ _ ih =>
    rw [announce_run, id_of_carryOut h] at ih
    exact ih.cons (result_labels h)

/-- **No command and no assignment of a course failed** -/
theorem succeeded (h : Course others e inBulk index steps s results t) (k : Nat) (step : Step) (r : StepResult)
    (hs : steps[k]? = some step) (hr : results[k]? = some r) (hf : step.isFatal = true) : r.error = none := by
  induction h generalizing k with
  | nil => simp at hs
  | cons h hok _ ih =>
    cases k with
    | zero =>
      cases hs; cases hr
      rw [StepOutcome.result, hok hf, Option.map_none]
    | succ k => exact ih k hs hr

/-- what one step sends: nothing, up to its announcement -/
theorem outputs_of_carryOut {step : Step} {r : StepResult} {o : StepOutcome}
    (ho : ∀ b b', others b b' → b'.outputs = b.outputs) (h : (e.carryOut step r).Yields (Run.Amid others) s t o) :
    (announce inBulk o t).1.outputs = s.1.outputs ++ announcements inBulk [o.result] := by
  have hkeeps := h.keeps (e.carryOut_keeps (Run.stable_outputs s.1.outputs) step r)
    (fun _ _ ha hx => (ho _ _ ha.1).trans hx) rfl
  rw [announce_outputs, hkeeps]

/-- **A course announces its results in order**, and sends nothing else -/
theorem outputs (ho : ∀ b b', others b b' → b'.outputs = b.outputs)
    (h : Course others e inBulk index steps s results t) :
    t.1.outputs = s.1.outputs ++ announcements inBulk results := by
  induction h with
  | nil => cases inBulk <;> simp [announcements]
  | cons h _ _ ih =>
    rw [ih, outputs_of_carryOut ho h, List.append_assoc, ← announcements_append]
    rfl

end Course

/-! ## In an idle pool -/

/-- of a run that is not stopped, a step is simply carried out -/
theorem alone_carryOutUnlessStopped (e : Executor) (index : Nat) (step : Step) {s : Bench Λ × Run}
    (hs : Run.isStopped s = false) : (e.carryOutUnlessStopped index step).alone s =
      ((e.carryOut step (blank index s.2.id step)).bind fun o => .done (some o)).alone s := by
  rw [carryOutUnlessStopped, Proc.alone_get_bind, hs]
  have hkeeps : ((e.carryOut (Λ := Λ) step (blank index s.2.id step)).bind fun o => .done (some o)).Keeps
      (Run.Unsignalled s.2.signal) :=
    Proc.keeps_bind (e.carryOut_keeps (Run.stable_unsignalled _) step _) fun _ => trivial
  exact Proc.alone_guarded (fun x hx => by rw [Run.isStopped, hx.1, hx.2]) hkeeps _ ⟨rfl, hs⟩

/-- carrying out a step does not stop a run -/
theorem isStopped_of_carryOut {step : Step} {r : StepResult} {s m : Bench Λ × Run} {n : Nat} {o : StepOutcome}
    (hs : Run.isStopped s = false) (h : (e.carryOut step r).alone s = .finished m n o) :
    Run.isStopped (announce inBulk o m) = false := by
  have hsignal := (e.carryOut_keeps (Run.stable_unsignalled s.2.signal) step r).of_finished ⟨rfl, hs⟩ h
  have hu := announce_unsignalled inBulk o hsignal
  rw [Run.isStopped, hu.1, hu.2]

/-- what is left to do after a step with an outcome: nothing if a command or an assignment failed -/
def goOn (e : Executor) (inBulk : Bool) (index : Nat) (step : Step) (rest : List Step) (results : List StepResult)
    (o : StepOutcome) : Proc (Bench Λ × Run) Progress :=
  match o.2 with
  | some cause =>
    if step.isFatal then .done { results := results ++ [o.result], failure := some (.step index cause) }
    else e.steps inBulk (index + 1) rest (results ++ [o.result])
  | none => e.steps inBulk (index + 1) rest (results ++ [o.result])

theorem alone_steps_cons (e : Executor) (inBulk : Bool) (index : Nat) (step : Step) (rest : List Step)
    (results : List StepResult) {s : Bench Λ × Run} (hs : Run.isStopped s = false) :
    (e.steps inBulk index (step :: rest) results).alone s =
      ((e.carryOut step (blank index s.2.id step)).alone s).andThen fun m o =>
        (e.goOn inBulk index step rest results o).alone (announce inBulk o m) := by
  rw [steps, Proc.alone_bind, alone_carryOutUnlessStopped e index step hs, Proc.alone_bind]
  cases (e.carryOut step (blank index s.2.id step)).alone s with
  | stuck m n => rfl
  | finished m n o =>
    simp only [Proc.Ending.andThen, Proc.alone_done, Proc.Ending.after, Nat.add_zero]
    rw [(announce_instant inBulk o).alone_bind]
    rfl

/-- **In an idle pool the steps of a run that is not stopped end**, and the pool is idle again -/
theorem steps_finish (e : Executor) (inBulk : Bool) (index : Nat) (steps : List Step) (results : List StepResult)
    {s : Bench Λ × Run} (hidle : Run.PoolIdle s) (hs : Run.isStopped s = false) :
    (e.steps inBulk index steps results).Ends s fun t _ => Run.PoolIdle t := by
  induction steps generalizing index results s with
  | nil => exact Proc.ends_done hidle
  | cons step rest ih =>
    obtain ⟨m, n, o, hcarry, hm⟩ := carryOut_ends hidle e step (blank index s.2.id step)
    have hstop : Run.isStopped (announce inBulk o m) = false :=
      isStopped_of_carryOut hs hcarry
    have hidle' : Run.PoolIdle (announce inBulk o m) := by
      rw [Run.PoolIdle, announce_pool]
      exact hm
    have hnext : ∀ results, (e.steps inBulk (index + 1) rest results).Ends (announce inBulk o m)
        fun t _ => Run.PoolIdle t := fun results => ih (index + 1) results hidle' hstop
    have hgo : (e.goOn inBulk index step rest results o).Ends (announce inBulk o m) fun t _ => Run.PoolIdle t := by
      unfold goOn
      split
      · split
        · exact Proc.ends_done hidle'
        · exact hnext _
      · exact hnext _
    obtain ⟨t, k, p, hp, ht⟩ := hgo
    refine ⟨t, n + k, p, ?_, ht⟩
    rw [alone_steps_cons e inBulk index step rest results hs, hcarry, Proc.Ending.andThen, hp]
    rfl

/-! ## Whole runs -/

omit [Link Λ] in
theorem bindUnits_error {registered : String → Bool} {units : List String} {f : Failure}
    (h : e.bindUnits registered units = .error f) : (∃ u, f = .unknownUnit u) ∨ ∃ n, f = .unknownInterface n := by
  induction units with
  | nil => cases h
  | cons u rest ih =>
    unfold bindUnits interfaceOf at h
    split at h
    · cases h; exact .inl ⟨u, rfl⟩
    · split at h
      · exact ih h
      · cases h; exact .inr ⟨_, rfl⟩

omit [Link Λ] in
theorem bindResets_error {registered : String → Bool} {steps : List Step} {f : Failure}
    (h : bindResets registered steps = .error f) : ∃ n, f = .unknownInterface n := by
  fun_induction bindResets registered steps with
  | case1 => cases h
  | case2 name rest _ ih => exact ih h
  | case3 name => cases h; exact ⟨name, rfl⟩
  | case4 step rest _ ih => exact ih h

/-- **A plan that cannot be bound names a unit or an interface that is not there** -/
theorem bind_error {registered : String → Bool} {p : Plan} {f : Failure} (h : e.bind registered p = .error f) :
    (∃ u, f = .unknownUnit u) ∨ ∃ n, f = .unknownInterface n := by
  unfold bind at h
  cases hu : e.bindUnits registered p.units with
  | error f' => rw [hu] at h; cases h; exact bindUnits_error hu
  | ok u => rw [hu] at h; exact .inr (bindResets_error h)

/-- sends all results together, if they are, unless the run was stopped -/
def conclude (inBulk : Bool) (p : Progress) (s : Bench Λ × Run) : Bench Λ × Run :=
  if inBulk then
    match p.failure with
    | some .cancelled => s
    | _ => (s.1.send (.step (.batch p.results)), s.2)
  else s

/-- the result of a run whose steps came so far -/
def Progress.result (p : Progress) : Except Failure (List StepResult) :=
  match p.failure with
  | some f => .error f
  | none => .ok p.results

omit [Link Λ] in
theorem conclude_instant (inBulk : Bool) (p : Progress) :
    (if inBulk then sendBatch (Λ := Λ) p else .done ()).Instant (conclude inBulk p) := by
  cases inBulk with
  | false => exact .none
  | true =>
    obtain ⟨results, failure⟩ := p
    rcases failure with _ | f
    · exact .change _
    · cases f with
      | cancelled => exact .none
      | _ => exact .change _

omit [Link Λ] in
/-- sending the results changes nothing but the outputs -/
theorem conclude_frame (inBulk : Bool) (p : Progress) (s : Bench Λ × Run) :
    ∃ out, conclude inBulk p s = ({ s.1 with outputs := out }, s.2) := by
  unfold conclude
  split
  · split
    · exact ⟨s.1.outputs, rfl⟩
    · exact ⟨_, rfl⟩
  · exact ⟨s.1.outputs, rfl⟩

theorem Progress.eq_of_result {p : Progress} {rs : List StepResult} (h : p.result = .ok rs) : rs = p.results := by
  unfold Progress.result at h
  split at h
  · cases h
  · cases h; rfl

/-- what is sent for the results of a run: each on its own, or all together -/
def packaged (inBulk : Bool) (results : List StepResult) : List RunOutput :=
  if inBulk then [.step (.batch results)] else results.map fun r => .step (.step r)

omit [Link Λ] in
theorem conclude_outputs (inBulk : Bool) {p : Progress} (hp : p.failure ≠ some .cancelled) {outputs : List RunOutput}
    {s : Bench Λ × Run} (hs : s.1.outputs = outputs ++ announcements inBulk p.results) :
    (conclude inBulk p s).1.outputs = outputs ++ packaged inBulk p.results := by
  cases inBulk with
  | false => exact hs
  | true =>
    have hsend : conclude true p s = (s.1.send (.step (.batch p.results)), s.2) := by
      obtain ⟨results, failure⟩ := p
      rcases failure with _ | f
      · rfl
      · cases f <;> first | rfl | exact absurd rfl hp
    rw [hsend, Bench.send, hs]
    simp [announcements, packaged]

/-- **A run is refused before anything is done, or its steps end.** -/
theorem execute_end {p : Plan} {s t : Bench Λ × Run} {r : Except Failure (List StepResult)}
    (h : (e.execute p).Yields (Run.Amid others) s t r) :
    (∃ f, e.bind s.1.pool.contains p = .error f ∧ r = .error f ∧ t = s) ∨
      e.bind s.1.pool.contains p = .ok () ∧ ∃ m progress,
        StepsEnd others e p.respondInBulk 0 p.steps s m progress.results progress.failure ∧
        t = conclude p.respondInBulk progress m ∧ r = progress.result := by
  rw [execute, Proc.yields_get_bind_iff] at h
  split at h
  · rename_i f hb
    obtain ⟨rfl, rfl⟩ := Proc.yields_done_iff.1 h
    exact .inl ⟨f, hb, rfl, rfl⟩
  · rename_i hb
    obtain ⟨m, progress, hsteps, h⟩ := Proc.yields_bind_iff.1 h
    obtain ⟨more, hmore, hend⟩ := steps_end hsteps
    rw [List.nil_append] at hmore
    rw [(conclude_instant p.respondInBulk progress).yields_bind_iff] at h
    refine .inr ⟨hb, m, progress, hmore ▸ hend, ?_⟩
    obtain ⟨rs, failure⟩ := progress
    cases failure with
    | some f =>
      obtain ⟨rfl, rfl⟩ := Proc.yields_done_iff.1 h
      exact ⟨rfl, rfl⟩
    | none =>
      obtain ⟨rfl, rfl⟩ := Proc.yields_done_iff.1 h
      exact ⟨rfl, rfl⟩

/-- a run that is not refused carries out its steps and sends what is left to send -/
theorem alone_execute {e : Executor} {p : Plan} {s : Bench Λ × Run} (hb : e.bind s.1.pool.contains p = .ok ()) :
    (e.execute p).alone s = ((e.steps p.respondInBulk 0 p.steps []).alone s).andThen fun m progress =>
      .finished (conclude p.respondInBulk progress m) 0 progress.result := by
  rw [execute, Proc.alone_get_bind, hb]
  dsimp only
  rw [Proc.alone_bind]
  congr 1
  funext m progress
  rw [(conclude_instant p.respondInBulk progress).alone_bind]
  obtain ⟨results, failure⟩ := progress
  cases failure <;> rfl

theorem alone_execute_refused {e : Executor} {p : Plan} {s : Bench Λ × Run} {f : Failure}
    (hb : e.bind s.1.pool.contains p = .error f) : (e.execute p).alone s = .finished s 0 (.error f) := by
  rw [execute, Proc.alone_get_bind, hb]
  rfl

/-- **In an idle pool a run that is not stopped ends**, and the pool is idle again -/
theorem execute_ends (e : Executor) (p : Plan) {s : Bench Λ × Run} (hidle : Run.PoolIdle s)
    (hs : Run.isStopped s = false) : (e.execute p).Ends s fun t _ => Run.PoolIdle t := by
  cases hb : e.bind s.1.pool.contains p with
  | error f => exact ⟨s, 0, .error f, alone_execute_refused hb, hidle⟩
  | ok u =>
    obtain ⟨m, n, progress, hsteps, hm⟩ := steps_finish e p.respondInBulk 0 p.steps [] hidle hs
    obtain ⟨out, hframe⟩ := conclude_frame p.respondInBulk progress m
    refine ⟨conclude p.respondInBulk progress m, n, progress.result, ?_, ?_⟩
    · rw [alone_execute hb, hsteps]
      rfl
    · rw [hframe]
      exact hm

theorem execute_finish (e : Executor) (p : Plan) {s : Bench Λ × Run} (hidle : Run.PoolIdle s)
    (hs : Run.isStopped s = false) : ∃ t n r, (e.execute p).alone s = .finished t n r := by
  obtain ⟨t, n, r, h, -⟩ := e.execute_ends p hidle hs
  exact ⟨t, n, r, h⟩

/-! ## A bench with one meter -/

def meter : Rehearsal :=
  { name := "bench", resource := "bus", connected := true, replies := [{ reply := .ok [52, 46, 50] }] }

def meterEntry : Entry Rehearsal :=
  { name := "bench", kind := .emulated, resource := "bus", enabled := true, link := meter }

/-- a bench with the meter, and a run on it that has not begun -/
def meterBench : Bench Rehearsal × Run :=
  ({ pool := { entries := ⟨[("BENCH", meterEntry)]⟩ }, signals := [false] }, { id := "run-1", signal := 0 })

def meterExecutor : Executor := .ofBindings [⟨"DMM1", "bench", some 22⟩] {}

def readMeter : Command := Operation.assemble none "DMM1" .read (some ⟨.string, none, "volts"⟩) none

end Executor

end CalBench
