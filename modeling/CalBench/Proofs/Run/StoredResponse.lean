/-
References to responses are found.

The compiler lets an instruction refer to a response by tag only if an earlier read or query produces the tag. Here
this is shown to be enough when the plan is executed, whatever the links do and whatever others do to the bench: the
tags produced so far are kept as an invariant of the bindings (`Knows`), from step to step along the course of a run.

Results:
- `Course.knows`: after a course, the tags of its steps have responses;
- `stored_responses_found`: a plan that was compiled never fails for a response that is referred to by tag.
Witness:
- `untagged_reference_fails`: a response parameter without a tag does fail.
-/
import CalBench.Proofs.Run.Course

namespace CalBench

variable {Λ : Type}

def Bindings.Knows (known : String → Prop) (b : Bindings) : Prop :=
  ∀ tag, known tag → ∃ text, b.references.response tag = some text

namespace Executor

variable [Link Λ] {others : Bench Λ → Bench Λ → Prop} {e : Executor} {inBulk : Bool}

/-- a step that succeeds, or that stores nothing, adds its tag to those that are known -/
theorem ComesTo.knows {r : StepResult} {b b' : Bindings} {step : Step} {o : StepOutcome} {known : String → Prop}
    (h : e.ComesTo r b step o b') (hok : step.isFatal = true → o.2 = none) (hb : b.Knows known) :
    b'.Knows fun tag => step.tag? = some tag ∨ known tag := by
  rintro tag (ht | ht)
  · have hf : step.isFatal = true := by
      cases step with
      | command => rfl
      | _ => cases ht
    exact h.stored (hok hf) ht
  · obtain ⟨text, htext⟩ := hb tag ht
    exact h.grows htext

/-- **After a course of ordered steps everything that the next step refers to is known** -/
theorem Course.knows {index k : Nat} {steps : List Step} {step : Step} {s t : Bench Λ × Run}
    {results : List StepResult} {known : String → Prop} (hk : steps[k]? = some step)
    (h : Course others e inBulk index (steps.take k) s results t) (ho : Step.TagsOrdered known steps)
    (hs : s.2.bindings.Knows known) : t.2.bindings.Knows (· ∈ step.referencedTags) := by
  induction steps generalizing index k s results known with
  | nil => cases hk
  | cons first rest ih =>
    cases k with
    | zero =>
      cases hk
      cases h
      exact fun tag ht => hs tag (ho.1 tag ht)
    | succ k =>
      rw [List.take_succ_cons] at h
      obtain _ | ⟨hstep, hok, hr⟩ := h
      refine ih hk hr ho.2 ?_
      rw [announce_run]
      exact (carryOut_comesTo hstep).knows hok hs

/-- **References to responses are found.** Let a plan be compiled, from whatever operations, catalog and context, and
executed from whatever state, with whatever links, while others do whatever they like to the bench. If it fails at a
step for a response that is not there, an instruction parameter of that step names no tag. And whenever the steps
before some step have been carried out, there is a response under every tag that the step refers to. -/
theorem stored_responses_found {catalog : Catalog} {ctx : Context} {d : SequenceDocument} {plan : Plan}
    (hc : d.compile catalog ctx = .ok plan) (e : Executor) (others : Bench Λ → Bench Λ → Prop) (s t : Bench Λ × Run) :
    (∀ i name, (e.execute plan).Yields (Run.Amid others) s t
        (.error (.step i (.render (.unresolved .storedResponse name)))) →
      ∃ step source, plan.steps[i]? = some step ∧ step.source? = some source ∧
        ∃ p ∈ source.instruction.parameters, p.kind = .storedResponse ∧ p.responseTag = none) ∧
    ∀ i step progress, plan.steps[i]? = some step →
      (e.steps plan.respondInBulk 0 (plan.steps.take i) []).Yields (Run.Amid others) s t progress →
      progress.failure = none → ∀ tag ∈ step.referencedTags,
      ∃ text, t.2.bindings.references.response tag = some text := by
  have hordered := tagsOrdered_of_compile hc
  have hnone : s.2.bindings.Knows fun _ => False := fun _ h => h.elim
  constructor
  · intro i name h
    rcases execute_end h with ⟨f, hb, hf, -⟩ | ⟨-, m, ⟨results, failure⟩, hend, -, hresult⟩
    · -- a plan that is refused does not fail at a step
      cases hf
      rcases bind_error hb with ⟨u, hu⟩ | ⟨n, hn⟩
      · cases hu
      · cases hn
    · dsimp only [Progress.result] at hend hresult
      cases hend with
      | completed => cases hresult
      | cancelled => cases hresult
      | failed k step results' m₁ m₂ o cause hk hf hcourse hstep ho =>
        cases hresult
        rw [Nat.zero_add]
        obtain ⟨source, hsource, hrender⟩ := (carryOut_comesTo hstep).unrendered ho
        obtain ⟨p, hp, hlacks⟩ := source.instruction.render_unresolved hrender
        refine ⟨step, source, hk, hsource, p, hp, ?_⟩
        cases hlacks with
        | response hkind hmissing =>
          refine ⟨hkind, ?_⟩
          cases htag : p.responseTag with
          | none => rfl
          | some tag =>
            -- a parameter with a tag has its response
            have hmem : tag ∈ step.referencedTags := by
              simp only [Step.referencedTags, hsource, Option.map_some, Option.getD_some, Instruction.referencedTags,
                List.mem_filterMap, List.mem_filter]
              exact ⟨p, ⟨hp, by simp [hkind]⟩, htag⟩
            obtain ⟨text, htext⟩ := hcourse.knows hk hordered hnone tag hmem
            rw [htag, Option.getD_some, htext] at hmissing
            cases hmissing
  · intro i step progress hk h hok tag ht
    obtain ⟨results, -, hend⟩ := steps_end h
    rw [hok] at hend
    obtain ⟨_, hcourse⟩ | _ | _ := hend
    exact hcourse.knows hk hordered hnone tag ht

/-- an instruction that refers to a response by tag, and then to one without a tag -/
def noteInstruction : Instruction :=
  { id := "i-note", name := "Note", kind := .setVariable, variableName := some "note"
    preParameters := some [{ id := "p1", kind := .storedResponse, responseTag := some "volts" },
      { id := "p2", kind := .storedResponse }] }

/-- a read of the meter and an assignment of what was read -/
def noteDocument : SequenceDocument :=
  { operations := [
      { kind := some "command", unitId := ⟨some (.str "DMM1"), .literal⟩, commandType := some "read"
        readDataType := some "string", responseTag := ⟨some (.str "volts"), .literal⟩ },
      { kind := some "command", instruction := some ⟨"i-note", []⟩ }] }

def notePlan : Plan :=
  { steps := [.command readMeter, .setVariable "note" ⟨noteInstruction, []⟩] }

theorem noteDocument_compiles :
    noteDocument.compile (.ofLibrary { instructions := [noteInstruction] }) {} = .ok notePlan := by
  have hi : (Catalog.ofLibrary { instructions := [noteInstruction] }).instruction? "i-note" =
      some noteInstruction := by decide +kernel
  have hunit : Operation.StandsFor {} ⟨some (.str "DMM1"), .literal⟩ "DMM1" :=
    ⟨Context.textOf_literal {} (by decide +kernel), by decide +kernel⟩
  have htag : Operation.StandsFor {} ⟨some (.str "volts"), .literal⟩ "volts" :=
    ⟨Context.textOf_literal {} (by decide +kernel), by decide +kernel⟩
  refine (compile_eq_ok_iff _ _).2 ⟨rfl, .cons ?_ (.cons ?_ (.nil _))⟩
  · refine .plain _ rfl rfl (Operation.commands_iff.2 ⟨_, _, _, _, rfl, hunit, .named rfl, ?_, rfl⟩)
    exact ⟨_, rfl, .named "string" rfl (by decide) (by decide +kernel), .terminated (by decide), htag⟩
  · refine .assignment ⟨"i-note", []⟩ noteInstruction "note" rfl rfl hi ?_ rfl rfl (by decide +kernel)
    intro tag ht
    left
    have hvolts : tag = "volts" := by
      simpa [Instruction.referencedTags, Instruction.parameters, noteInstruction] using ht
    subst hvolts
    exact ⟨rfl, ⟨none, .read, .plain rfl, .named rfl, rfl⟩, htag⟩

/-- **A reference without a tag fails**, after one with a tag was found: the meter is read, and its response is there
when the assignment is rendered -/
theorem untagged_reference_fails :
    (∃ t, (meterExecutor.execute notePlan).Yields (Run.Amid Eq) meterBench t
      (.error (.step 1 (.render (.unresolved .storedResponse "")))) ∧
      ∃ step source, notePlan.steps[1]? = some step ∧ step.source? = some source ∧
        ∃ p ∈ source.instruction.parameters, p.kind = .storedResponse ∧ p.responseTag = none) ∧
    ∃ t progress, (meterExecutor.steps false 0 (notePlan.steps.take 1) []).Yields (Run.Amid Eq) meterBench t progress ∧
      progress.failure = none ∧ ∃ text, t.2.bindings.references.response "volts" = some text := by
  have hrefl : ∀ s : Bench Rehearsal × Run, Run.Amid Eq s s := fun s => ⟨rfl, rfl⟩
  constructor
  · have hresult : ((meterExecutor.execute notePlan).alone meterBench).result? =
        some (.error (.step 1 (.render (.unresolved .storedResponse "")))) := by decide +kernel
    obtain ⟨t, n, h⟩ := Proc.Ending.finished_of_result hresult
    have hyields := Proc.yields_of_alone hrefl h
    exact ⟨t, hyields, (stored_responses_found noteDocument_compiles meterExecutor Eq meterBench t).1 1 "" hyields⟩
  · have hresult : (((meterExecutor.steps false 0 (notePlan.steps.take 1) []).alone meterBench).result?.map
        Progress.failure) = some none := by decide +kernel
    obtain ⟨progress, hprogress, hok⟩ := Option.map_eq_some_iff.1 hresult
    obtain ⟨t, n, h⟩ := Proc.Ending.finished_of_result hprogress
    have hyields := Proc.yields_of_alone hrefl h
    refine ⟨t, progress, hyields, hok, ?_⟩
    exact (stored_responses_found noteDocument_compiles meterExecutor Eq meterBench t).2 1 _ progress rfl hyields hok
      "volts" (by decide)

end Executor

end CalBench
