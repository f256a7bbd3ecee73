/-
Which measurements pass.

A measurement is made from one step: the last one that succeeded with the tag of its spec (`Answers`, `Latest`). Neither
a step that failed nor an earlier reading under the same tag has any part in it. What the step has read is a number in
one of three ways (`StepResult.Numeric`): it is a typed number, it is a text that can be read as one, or nothing typed
was recorded and the raw text can be read as one. `Judges` says what the measurement is then: its value is that number,
if it is finite, and it passes if it has a value within the limits.

- `stepFor?_eq_some_iff`: the step that is looked up is the last answer;
- `measured?_eq_some_iff`, `judges_evaluate`: what is read from it and how it is judged.

Results:
- `measurements_are_exact`: the specs with an answer get one measurement each, in their order, the others get none, and
  a measurement that passes has the number in its limits to show for it;
- `measurements_of_successes`: steps that failed can be left out.
Witness `last_reading_passes`.
-/
import CalBench.Measurement
import CalBench.Proofs.Latest

namespace CalBench

/-! ## The step that counts -/

/-- a step succeeded and its response was stored under a tag -/
def Answers (tag : String) (r : StepResult) : Prop := r.error = none ∧ r.responseTag = some tag

instance (tag : String) : DecidablePred (Answers tag) := fun r =>
  inferInstanceAs (Decidable (r.error = none ∧ r.responseTag = some tag))

variable {tag : String} {steps : List StepResult} {s : ResultSpec} {ticket : RunTicket} {r : StepResult} {x : Float}

theorem stepFor?_eq_some_iff : stepFor? tag steps = some r ↔ Latest (Answers tag) steps r := by
  simp only [stepFor?, find?_reverse_eq_some_iff, StepResult.isOk, Bool.and_eq_true, Option.isNone_iff_eq_none,
    beq_iff_eq]
  rfl

theorem stepFor?_isSome_iff : (stepFor? tag steps).isSome = true ↔ ∃ r ∈ steps, Answers tag r := by
  simp only [Option.isSome_iff_exists, stepFor?_eq_some_iff, exists_latest_iff]

/-! ## The number that it read -/

inductive StepResult.Numeric (r : StepResult) : Float → Prop
  | number {x : Float} (h : r.value = some (.number x)) : Numeric r x
  | text {s : String} {x : Float} (h : r.value = some (.text s)) (hx : Number.float? (Text.trim s) = some x) :
    Numeric r x
  | raw {x : Float} (h : r.value = none) (hx : Number.float? (Text.trim (r.rawValue.getD "")) = some x) : Numeric r x

namespace StepResult

theorem number?_eq_some_iff : r.number? = some x ↔ r.Numeric x := by
  unfold number?
  constructor
  · intro h
    split at h
    · rename_i hvalue
      cases h
      exact .number hvalue
    · rename_i hvalue
      exact .text hvalue h
    · cases h
    · rename_i hvalue
      exact .raw hvalue h
  · intro h
    cases h with
    | number h => rw [h]
    | text h hx => rw [h]; exact hx
    | raw h hx => rw [h]; exact hx

theorem measured?_eq_some_iff : r.measured? = some x ↔ r.Numeric x ∧ x.isFinite = true := by
  rw [measured?, Option.filter_eq_some_iff, number?_eq_some_iff]

end StepResult

/-! ## How it is judged -/

/-- a number keeps the limits of a spec, as far as it has any -/
def ResultSpec.Within (s : ResultSpec) (x : Float) : Prop := (∀ min ∈ s.minimum, min ≤ x) ∧ ∀ max ∈ s.maximum, x ≤ max

theorem ResultSpec.admits_iff : s.admits x = true ↔ s.Within x := by
  simp only [admits, Bool.and_eq_true, Option.all_eq_true, decide_eq_true_eq]
  rfl

/-- a measurement says of a step what its spec asks for -/
structure Judges (s : ResultSpec) (ticket : RunTicket) (r : StepResult) (m : Measurement) : Prop where
  labelled : m = { m with
    ticket, description := s.description, baseQuantity := s.baseQuantity, derived := s.derived?
    minimum := s.minimum, maximum := s.maximum, inputLevel := s.inputLevel }
  raw : m.rawValue = r.rawValue.getD ""
  measured : ∀ x, m.measuredValue = some x ↔ r.Numeric x ∧ x.isFinite = true
  passed : m.passed = true ↔ ∃ x, r.Numeric x ∧ x.isFinite = true ∧ s.Within x

theorem judges_evaluate (s : ResultSpec) (ticket : RunTicket) (r : StepResult) :
    Judges s ticket r (s.evaluate ticket r) where
  labelled := rfl
  raw := rfl
  measured x := StepResult.measured?_eq_some_iff
  passed := by
    rw [ResultSpec.evaluate, Option.any_eq_true]
    simp only [StepResult.measured?_eq_some_iff, ResultSpec.admits_iff, and_assoc]

/-! ## Results -/

/-- **Steps that failed have no part in the measurements** -/
theorem measurements_of_successes (specs : List ResultSpec) (ticket : RunTicket) (steps : List StepResult) :
    measurements specs ticket (steps.filter fun r => r.isOk) = measurements specs ticket steps := by
  have hfor : ∀ tag, stepFor? tag (steps.filter fun r => r.isOk) = stepFor? tag steps := by
    intro tag
    rw [stepFor?, ← List.filter_reverse, List.find?_filter, stepFor?]
    refine congrArg (List.find? · steps.reverse) (funext fun r => ?_)
    simp only [Bool.decide_and, Bool.decide_eq_true]
    cases r.isOk <;> rfl
  simp only [measurements, hfor]

/-- each spec with an answer has its measurement in its place -/
theorem measurements_forall₂ (specs : List ResultSpec) (ticket : RunTicket) (steps : List StepResult) :
    List.Forall₂ (fun s m => ∃ r, Latest (Answers s.responseTag) steps r ∧ Judges s ticket r m)
      (specs.filter fun s => ∃ r ∈ steps, Answers s.responseTag r) (measurements specs ticket steps) := by
  induction specs with
  | nil => exact .nil
  | cons s rest ih =>
    rw [measurements, List.filterMap_cons, List.filter_cons]
    cases h : stepFor? s.responseTag steps with
    | none =>
      have hnone : ¬ ∃ r ∈ steps, Answers s.responseTag r := by
        rw [← stepFor?_isSome_iff, h]
        exact Bool.false_ne_true
      rw [if_neg (by rwa [decide_eq_true_eq])]
      exact ih
    | some r =>
      have hsome : ∃ r ∈ steps, Answers s.responseTag r := by rw [← stepFor?_isSome_iff, h, Option.isSome_some]
      rw [if_pos (decide_eq_true hsome)]
      exact .cons ⟨r, stepFor?_eq_some_iff.1 h, judges_evaluate s ticket r⟩ ih

/-- a measurement was made from the last answer to one of the specs -/
theorem judges_of_mem {specs : List ResultSpec} {m : Measurement} (hm : m ∈ measurements specs ticket steps) :
    ∃ s ∈ specs, ∃ r, Latest (Answers s.responseTag) steps r ∧ Judges s ticket r m := by
  obtain ⟨s, hs, hmade⟩ := List.mem_filterMap.1 hm
  obtain ⟨r, hr, rfl⟩ := Option.map_eq_some_iff.1 hmade
  exact ⟨s, hs, r, stepFor?_eq_some_iff.1 hr, judges_evaluate s ticket r⟩

/-- **The measurements of a run are exact**: one for each spec under whose tag some step succeeded, in the order of the
specs, made from the last of these steps; and what passes is a finite number that this step has read, within the limits
of the spec. -/
theorem measurements_are_exact (specs : List ResultSpec) (ticket : RunTicket) (steps : List StepResult) :
    List.Forall₂ (fun s m => ∃ r, Latest (Answers s.responseTag) steps r ∧ Judges s ticket r m)
      (specs.filter fun s => ∃ r ∈ steps, Answers s.responseTag r) (measurements specs ticket steps) ∧
    ∀ m ∈ measurements specs ticket steps, m.passed = true →
      ∃ s ∈ specs, ∃ r x, Latest (Answers s.responseTag) steps r ∧ r.Numeric x ∧ m.measuredValue = some x ∧
        x.isFinite = true ∧ s.Within x := by
  refine ⟨measurements_forall₂ specs ticket steps, fun m hm hpassed => ?_⟩
  obtain ⟨s, hs, r, hlatest, h⟩ := judges_of_mem hm
  obtain ⟨x, hx, hfinite, hwithin⟩ := h.passed.1 hpassed
  exact ⟨s, hs, r, x, hlatest, hx, (h.measured x).2 ⟨hx, hfinite⟩, hfinite, hwithin⟩

def reading (tag text : String) (error : Option String) : StepResult :=
  { index := 0, runId := "run-1", kind := "command", responseTag := some tag, rawValue := some text
    value := some (.text text), error }

/-- **The last reading that succeeded counts**, neither the one before it nor the one that failed after it; what is not
finite does not pass without limits either -/
theorem last_reading_passes :
    let volts : ResultSpec := { responseTag := "volts", minimum := some 4, maximum := some 5 }
    let specs := [volts, { responseTag := "ohms" }, { responseTag := "amps" }]
    let steps := [reading "volts" "9" none, reading "volts" " 4.2" none, reading "volts" "4.5" (some "timeout"),
      reading "amps" "inf" none]
    let made := measurements specs ⟨"session-1", "run-1", "DC", "Check"⟩ steps
    made.map (fun m => (m.rawValue, m.passed)) = [(" 4.2", true), ("inf", false)] ∧
      ∃ m ∈ made, ∃ s ∈ specs, ∃ r x, Latest (Answers s.responseTag) steps r ∧ r.Numeric x ∧
        m.measuredValue = some x ∧ x.isFinite = true ∧ s.Within x := by
  intro volts specs steps made
  have hmade : made.map (fun m => (m.rawValue, m.passed)) = [(" 4.2", true), ("inf", false)] := by decide +kernel
  have hfirst : (" 4.2", true) ∈ made.map fun m => (m.rawValue, m.passed) := hmade ▸ List.mem_cons_self
  obtain ⟨m, hm, hpair⟩ := List.mem_map.1 hfirst
  obtain ⟨-, hpasses⟩ := measurements_are_exact specs ⟨"session-1", "run-1", "DC", "Check"⟩ steps
  exact ⟨hmade, m, hm, hpasses m hm (congrArg Prod.snd hpair)⟩

end CalBench
