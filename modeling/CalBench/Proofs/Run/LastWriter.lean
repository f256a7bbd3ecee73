/-
Bindings and results say the same.

The bindings of a run, from which later commands are rendered, and its results, from which measurements are made, are
kept apart. They agree nevertheless: what a table holds under a key is what the last successful result wrote there, or
what it held before the run (`LastWritten`). One step writes one key at most, and only if it succeeds; what several
steps have written is found by looking at the later ones first.

Results:
- `ComesTo.reflects`: what one step does to the bindings can be read off its result;
- `Reflects.append`, `Course.reflects`: so can what the steps of a course do, by induction over the course;
- `bindings_reflect_results`: after a run that was not stopped by anyone the bindings are those of the results that it
  has sent, whether it came to its end or a step ended it; and every measurement that is made from the results of a run
  that succeeded has the text that is bound under its tag.
Witness `reused_tag_holds_last_reading`.
-/
import CalBench.Proofs.Run.FailurePolicy

namespace CalBench

/-! ## Results that were sent -/

def RunOutput.results : RunOutput → List StepResult
  | .step (.step r) => [r]
  | .step (.batch rs) => rs
  | .result _ | .errorCheck _ => []

def emitted (outputs : List RunOutput) : List StepResult := outputs.flatMap RunOutput.results

theorem emitted_packaged (inBulk : Bool) (results : List StepResult) :
    emitted (Executor.packaged inBulk results) = results := by
  cases inBulk with
  | true => exact List.append_nil results
  | false =>
    simp only [emitted, Executor.packaged, Bool.false_eq_true, if_false, List.flatMap_map, RunOutput.results]
    exact List.flatMap_singleton' results

/-! ## What was written last -/

/-- the variable that a step assigns -/
def Step.assigned? : Step → Option String
  | .setVariable name _ => some name
  | _ => none

/-- the result of the last assignment of a variable that succeeded -/
def assignmentOf? (name : String) (steps : List Step) (results : List StepResult) : Option StepResult :=
  ((steps.zip results).reverse.find? fun x => x.2.isOk && x.1.assigned? == some name).map Prod.snd

/-- a table holds under every key the text that was written last there, and what it held before where nothing was -/
structure LastWritten (written : String → Option (Option String)) (before after : Table String) : Prop where
  holds : ∀ key value, written key = some value → ∃ text, value = some text ∧ after.get? key = some text
  kept : ∀ key, written key = none → after.get? key = before.get? key

namespace LastWritten

variable {w w' : String → Option (Option String)} {before middle after : Table String}

theorem refl {w : String → Option (Option String)} (h : ∀ key, w key = none) (table : Table String) :
    LastWritten w table table :=
  ⟨fun key _ hw => (nomatch (h key).symm.trans hw), fun _ _ => rfl⟩

/-- a single text that was written -/
theorem insert {w : String → Option (Option String)} {key text : String} (table : Table String)
    (h : ∀ k, w k = if k = key then some (some text) else none) :
    LastWritten w table (table.insert key text) := by
  constructor
  · intro k value hw
    rw [h k] at hw
    split_ifs at hw with hk
    cases hw
    exact ⟨text, rfl, by rw [hk, Table.get?_insert_self]⟩
  · intro k hw
    rw [h k] at hw
    split_ifs at hw with hk
    rw [Table.get?_insert, if_neg hk]

/-- what was written later counts -/
theorem append (h : LastWritten w before middle) (h' : LastWritten w' middle after) :
    LastWritten (fun key => (w' key).or (w key)) before after := by
  constructor
  · intro key value hw
    rcases Option.or_eq_some_iff.1 hw with hlater | ⟨hlater, hearlier⟩
    · exact h'.holds key value hlater
    · obtain ⟨text, hvalue, hmiddle⟩ := h.holds key value hearlier
      exact ⟨text, hvalue, (h'.kept key hlater).trans hmiddle⟩
  · intro key hw
    obtain ⟨hlater, hearlier⟩ := Option.or_eq_none_iff.1 hw
    exact (h'.kept key hlater).trans (h.kept key hearlier)

end LastWritten

theorem stepFor?_append (tag : String) (results results' : List StepResult) :
    stepFor? tag (results ++ results') = (stepFor? tag results').or (stepFor? tag results) := by
  rw [stepFor?, List.reverse_append, List.find?_append]
  rfl

theorem assignmentOf?_append (name : String) {steps : List Step} {results : List StepResult}
    (h : steps.length = results.length) (steps' : List Step) (results' : List StepResult) :
    assignmentOf? name (steps ++ steps') (results ++ results') =
      (assignmentOf? name steps' results').or (assignmentOf? name steps results) := by
  rw [assignmentOf?, List.zip_append h, List.reverse_append, List.find?_append, Option.map_or]
  rfl

/-- the bindings after some steps are what their results say, on top of the bindings before -/
structure Reflects (steps : List Step) (results : List StepResult) (b b' : Bindings) : Prop where
  responses : LastWritten (fun tag => (stepFor? tag results).map StepResult.rawValue) b.responses b'.responses
  assignments : LastWritten (fun name => (assignmentOf? name steps results).map StepResult.command) b.assigned
    b'.assigned

theorem Reflects.append {steps steps' : List Step} {results results' : List StepResult} {b m b' : Bindings}
    (hlength : steps.length = results.length) (h : Reflects steps results b m)
    (h' : Reflects steps' results' m b') : Reflects (steps ++ steps') (results ++ results') b b' := by
  constructor
  · simpa only [stepFor?_append, Option.map_or] using h.responses.append h'.responses
  · simpa only [assignmentOf?_append _ hlength, Option.map_or] using h.assignments.append h'.assignments

theorem assignmentOf?_nil (name : String) (steps : List Step) : assignmentOf? name steps [] = none := by
  rw [assignmentOf?, List.zip_nil_right]
  rfl

/-- without results nothing was written -/
theorem Reflects.nil (steps : List Step) (b : Bindings) : Reflects steps [] b b :=
  ⟨.refl (fun _ => rfl) _, .refl (fun name => by rw [assignmentOf?_nil, Option.map_none]) _⟩

/-! ## One step -/

theorem stepFor?_singleton (tag : String) (r : StepResult) :
    stepFor? tag [r] = if r.isOk = true ∧ r.responseTag = some tag then some r else none := by
  simp only [stepFor?, List.reverse_singleton, List.find?_singleton, Bool.and_eq_true, beq_iff_eq]

theorem assignmentOf?_singleton (name : String) (step : Step) (r : StepResult) :
    assignmentOf? name [step] [r] = if r.isOk = true ∧ step.assigned? = some name then some r else none := by
  simp only [assignmentOf?, List.zip_cons_cons, List.zip_nil_right, List.reverse_singleton, List.find?_singleton,
    Bool.and_eq_true, beq_iff_eq]
  split_ifs <;> rfl

/-- a step that neither read nor assigned anything -/
theorem reflects_of_silent {step : Step} {r : StepResult} (b : Bindings)
    (h : r.isOk = true → r.responseTag = none ∧ step.assigned? = none) : Reflects [step] [r] b b := by
  constructor
  · refine .refl (fun tag => ?_) _
    rw [stepFor?_singleton, if_neg, Option.map_none]
    rintro ⟨hok, htag⟩
    rw [(h hok).1] at htag
    cases htag
  · refine .refl (fun name => ?_) _
    rw [assignmentOf?_singleton, if_neg, Option.map_none]
    rintro ⟨hok, hname⟩
    rw [(h hok).2] at hname
    cases hname

/-- a step that stored a response -/
theorem reflects_of_response {step : Step} {r : StepResult} {tag text : String} (b : Bindings) (hok : r.isOk = true)
    (htag : r.responseTag = some tag) (hraw : r.rawValue = some text) (hstep : step.assigned? = none) :
    Reflects [step] [r] b (b.setResponse tag text) := by
  constructor
  · refine .insert _ fun key => ?_
    rw [stepFor?_singleton, hok, htag]
    by_cases hkey : key = tag
    · simp [hkey, hraw]
    · simp [hkey, Ne.symm hkey]
  · refine .refl (fun name => ?_) _
    rw [assignmentOf?_singleton, hstep]
    simp

/-- a step that assigned a variable -/
theorem reflects_of_assignment {name text : String} {source : BoundInstruction} {r : StepResult} (b : Bindings)
    (hok : r.isOk = true) (htag : r.responseTag = none) (hcommand : r.command = some text) :
    Reflects [.setVariable name source] [r] b (b.setVariable name text) := by
  constructor
  · refine .refl (fun tag => ?_) _
    rw [stepFor?_singleton, htag]
    simp
  · refine .insert _ fun key => ?_
    rw [assignmentOf?_singleton, hok, Step.assigned?]
    by_cases hkey : key = name
    · simp [hkey, hcommand]
    · simp [hkey, Ne.symm hkey]

namespace Executor

theorem isOk_result (o : StepOutcome) : o.result.isOk = true ↔ o.2 = none := by
  rw [StepResult.isOk, StepOutcome.result, Option.isNone_iff_eq_none, Option.map_eq_none_iff]

/-- **What a step does to the bindings can be read off its result.** -/
theorem ComesTo.reflects {e : Executor} {r : StepResult} {b b' : Bindings} {step : Step} {o : StepOutcome}
    (h : e.ComesTo r b step o b') (hr : r.responseTag = none) : Reflects [step] [o.result] b b' := by
  cases h with
  | unprepared c f _ => exact reflects_of_silent b fun hok => nomatch (isOk_result _).1 hok
  | unanswered c d text err _ => exact reflects_of_silent b fun hok => nomatch (isOk_result _).1 hok
  | unassigned name source err _ => exact reflects_of_silent b fun hok => nomatch (isOk_result _).1 hok
  | missed s err _ => exact reflects_of_silent b fun hok => nomatch (isOk_result _).1 hok
  | passed s hs =>
    refine reflects_of_silent b fun _ => ⟨hr, ?_⟩
    cases step with
    | setVariable => cases hs
    | _ => rfl
  | answered c d text received _ _ =>
    cases received with
    | none => exact reflects_of_silent b fun _ => ⟨hr, rfl⟩
    | some x => exact reflects_of_response b rfl rfl rfl rfl
  | assigned name source text _ => exact reflects_of_assignment b rfl hr rfl

/-! ## Runs -/

variable {Λ : Type} [Link Λ] {others : Bench Λ → Bench Λ → Prop} {e : Executor} {p : Plan} {s t : Bench Λ × Run}

/-- the first step of some steps, carried out -/
theorem reflects_of_carryOut {index : Nat} {id : String} {step : Step} {o : StepOutcome}
    (h : (e.carryOut step (blank index id step)).Yields (Run.Amid others) s t o) :
    Reflects [step] [o.result] s.2.bindings t.2.bindings :=
  (carryOut_comesTo h).reflects rfl

/-- **What a course does to the bindings can be read off its results.** -/
theorem Course.reflects {inBulk : Bool} {index : Nat} {steps : List Step} {results : List StepResult}
    (h : Course others e inBulk index steps s results t) : Reflects steps results s.2.bindings t.2.bindings := by
  induction h with
  | nil => exact .nil _ _
  | cons h _ _ ih =>
    rw [announce_run] at ih
    exact (reflects_of_carryOut h).append rfl ih

/-- so can what the steps of a run do that one of them ended -/
theorem Stopped.reflects {i : Nat} {cause : StepFailure} {step : Step} {results : List StepResult} {o : StepOutcome}
    {m m' : Bench Λ × Run} (h : Stopped others e p s t i cause step results o m m') :
    Reflects p.steps (results ++ [o.result]) s.2.bindings t.2.bindings := by
  have hbefore := h.before.reflects
  have hlength : (p.steps.take i).length = results.length := h.before.reports.1.symm
  have hlast : Reflects [step] [o.result] m.2.bindings t.2.bindings := by
    rw [h.run]
    exact reflects_of_carryOut h.last
  have htaken : (p.steps.take (i + 1)).length = (results ++ [o.result]).length := h.reports.1.symm
  have hboth := hbefore.append hlength hlast
  have hsteps : p.steps.take i ++ [step] = p.steps.take (i + 1) := by
    rw [List.take_add_one, h.place, Option.toList_some]
  rw [hsteps] at hboth
  -- the steps that were not carried out have no results
  have hall := hboth.append htaken (.nil (p.steps.drop (i + 1)) t.2.bindings)
  rwa [List.take_append_drop, List.append_nil] at hall

/-- **The bindings are those of the results that were sent.** -/
theorem Outcome.reflects {r : Except Failure (List StepResult)} (h : Outcome others e p s t r) :
    ∃ sent, t.1.outputs = s.1.outputs ++ sent ∧ Reflects p.steps (emitted sent) s.2.bindings t.2.bindings ∧
      ∀ results, r = .ok results → emitted sent = results := by
  cases h with
  | refused f _ _ ht =>
    subst ht
    exact ⟨[], (List.append_nil _).symm, .nil _ _, fun _ h => nomatch h⟩
  | stopped i cause h =>
    obtain ⟨step, results, o, m, m', h⟩ := h
    refine ⟨_, h.sent, ?_, fun _ h => nomatch h⟩
    rw [emitted_packaged]
    exact h.reflects
  | completed results h =>
    obtain ⟨m, hcourse, -, hrun⟩ := h.course
    refine ⟨_, h.sent, ?_, fun results' h => ?_⟩
    · rw [emitted_packaged, hrun]
      exact hcourse.reflects
    · cases h
      exact emitted_packaged _ _

/-- a measurement has the text that is bound under the tag of its spec -/
theorem measurements_reflect {steps : List Step} {results : List StepResult} {b b' : Bindings}
    (h : Reflects steps results b b') {specs : List ResultSpec} {ticket : RunTicket} {m : Measurement}
    (hm : m ∈ measurements specs ticket results) :
    ∃ spec ∈ specs, measurements [spec] ticket results = [m] ∧
      b'.references.response spec.responseTag = some m.rawValue := by
  obtain ⟨spec, hspec, hmade⟩ := List.mem_filterMap.1 hm
  obtain ⟨r, hr, rfl⟩ := Option.map_eq_some_iff.1 hmade
  refine ⟨spec, hspec, ?_, ?_⟩
  · simp only [measurements, List.filterMap_cons, hmade, List.filterMap_nil]
  · have hwritten : (stepFor? spec.responseTag results).map StepResult.rawValue = some r.rawValue := by
      rw [hr, Option.map_some]
    obtain ⟨text, hraw, hbound⟩ := h.responses.holds _ _ hwritten
    have htext : (spec.evaluate ticket r).rawValue = text := by
      rw [ResultSpec.evaluate, hraw, Option.getD_some]
    rw [htext]
    exact hbound

/-- **The bindings are the image of the results, the last writer first.** For every plan, every executor, all bindings
before the run and every behaviour of the links, let a run end that nobody stops, at the end of its plan or at a step
that failed, and let `sent` be what it has sent. Under each tag there is the raw value of the last successful result
with this tag, and each variable holds the text of its last successful assignment; where there is none, they hold what
they held before. If the run has succeeded, these results are its results, and any measurement that is made from them
has the text that is bound under the tag of its spec. -/
theorem bindings_reflect_results (e : Executor) (p : Plan) (others : Bench Λ → Bench Λ → Prop) (s t : Bench Λ × Run)
    (r : Except Failure (List StepResult)) (hs : Run.Undisturbed others s)
    (h : (e.execute p).Yields (Run.Amid others) s t r) :
    ∃ sent, t.1.outputs = s.1.outputs ++ sent ∧ Reflects p.steps (emitted sent) s.2.bindings t.2.bindings ∧
      ∀ results, r = .ok results → emitted sent = results ∧
        ∀ (specs : List ResultSpec) (ticket : RunTicket), ∀ m ∈ measurements specs ticket results,
          ∃ spec ∈ specs, measurements [spec] ticket results = [m] ∧
            t.2.bindings.references.response spec.responseTag = some m.rawValue := by
  obtain ⟨sent, hsent, hreflects, hresults⟩ := (execute_outcome hs h).reflects
  refine ⟨sent, hsent, hreflects, fun results hr => ⟨hresults results hr, fun specs ticket m hm => ?_⟩⟩
  rw [hresults results hr] at hreflects
  exact measurements_reflect hreflects hm

def copyInstruction : Instruction :=
  { id := "i-copy", name := "Copy", kind := .setVariable, variableName := some "copy"
    preParameters := some [{ id := "p1", kind := .storedResponse, responseTag := some "volts" }] }

/-- two reads under one tag, with an assignment and a reset that fails between them -/
def rereadPlan : Plan where
  steps := [
    .command readMeter, .setVariable "copy" ⟨copyInstruction, []⟩, .resetInterface "bench", .command readMeter]

/-- a bench with a meter that has two replies, and a run on it that begins with some bindings -/
def rereadBench : Bench Rehearsal × Run :=
  let twice : Rehearsal := { meter with replies := [{ reply := .ok [52, 46, 50] }, { reply := .ok [53] }] }
  ({ pool := { entries := ⟨[("BENCH", { meterEntry with link := twice })]⟩ }, signals := [false] },
    { id := "run-1", signal := 0, bindings := ⟨⟨[("amps", "1"), ("volts", "0")]⟩, ⟨[("copy", "9"), ("range", "x")]⟩⟩ })

def rereadResults : List StepResult := [
  { index := 0, runId := "run-1", kind := "command", unitId := some "DMM1", responseTag := some "volts"
    rawValue := some "4.2", value := some (.text "4.2"), attempts := 1 },
  { index := 1, runId := "run-1", kind := "command", command := some "4.2" },
  { index := 2, runId := "run-1", kind := "reset"
    error := some "Operation 'reset' is not supported by this interface" },
  { index := 3, runId := "run-1", kind := "command", unitId := some "DMM1", responseTag := some "volts"
    rawValue := some "5", value := some (.text "5"), attempts := 1 }]

/-- **A tag that is used twice holds the last reading**, which is also the one that is measured; the variable keeps the
first one, and what no step has written is as it was -/
theorem reused_tag_holds_last_reading :
    Run.Undisturbed Eq rereadBench ∧
    ∃ t, (meterExecutor.execute rereadPlan).Yields (Run.Amid Eq) rereadBench t (.ok rereadResults) ∧
      t.2.bindings.references.response "volts" = some "5" ∧ t.2.bindings.references.response "amps" = some "1" ∧
      t.2.bindings.references.variableValue "copy" = some "4.2" ∧
      t.2.bindings.references.variableValue "range" = some "x" ∧
      ∀ ticket, ∀ m ∈ measurements [{ responseTag := "volts" }] ticket rereadResults, m.rawValue = "5" := by
  have hs : Run.isStopped rereadBench = false := rfl
  have hu : Run.Undisturbed Eq rereadBench := ⟨⟨hs, fun b b' hb => by rw [hb]⟩, fun b b' hb => by rw [hb]⟩
  have hresult : ((meterExecutor.execute rereadPlan).alone rereadBench).result? = some (.ok rereadResults) := by
    decide +kernel
  obtain ⟨t, n, h⟩ := Proc.Ending.finished_of_result hresult
  have hrefl : ∀ s : Bench Rehearsal × Run, Run.Amid Eq s s := fun s => ⟨rfl, rfl⟩
  have hyields := Proc.yields_of_alone hrefl h
  obtain ⟨sent, -, hreflects, hok⟩ :=
    bindings_reflect_results meterExecutor rereadPlan Eq rereadBench t _ hu hyields
  obtain ⟨hemitted, hmeasured⟩ := hok rereadResults rfl
  rw [hemitted] at hreflects
  obtain ⟨volts, hvolts, hbound⟩ := hreflects.responses.holds "volts" (some "5") (by decide +kernel)
  obtain ⟨copy, hcopy, hassigned⟩ := hreflects.assignments.holds "copy" (some "4.2") (by decide +kernel)
  cases hvolts
  cases hcopy
  have hamps := hreflects.responses.kept "amps" (by decide +kernel)
  have hrange := hreflects.assignments.kept "range" (by decide +kernel)
  refine ⟨hu, t, hyields, hbound, hamps, hassigned, hrange, fun ticket m hm => ?_⟩
  obtain ⟨spec, hspec, -, htext⟩ := hmeasured _ ticket m hm
  rw [List.mem_singleton.1 hspec] at htext
  exact Option.some.inj (htext.symm.trans hbound)

end Executor

end CalBench
