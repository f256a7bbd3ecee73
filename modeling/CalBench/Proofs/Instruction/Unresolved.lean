/-
Unresolved references.

A response or variable parameter takes its text from the responses and variables of the run. `Lacks` says that it finds
none there. No other failure of rendering speaks of a reference.

Results:
- `valueText_unresolved_iff`: a parameter fails with an unresolved reference exactly when it lacks one;
- `render_unresolved`: an instruction that does so has a parameter that lacks a reference.
-/
import CalBench.Instruction.Render

namespace CalBench

/-- a result that is changed only if it is there keeps its error -/
theorem Except.error_of_map {ε α β : Type} {f : α → β} {x : Except ε α} {err : ε} (h : x.map f = .error err) :
    x = .error err := by
  cases x with
  | ok a => cases h
  | error err' => cases h; rfl

namespace Parameter

/-- the parameter refers to a response or a variable that is not there -/
inductive Lacks (refs : References) (p : Parameter) : ParameterKind → String → Prop
  | response (hk : p.kind = .storedResponse) (h : refs.response (p.responseTag.getD "") = none) :
      Lacks refs p .storedResponse (p.responseTag.getD "")
  | variable (hk : p.kind = .driverVariable) (h : refs.variableValue (p.variableName.getD "") = none) :
      Lacks refs p .driverVariable (p.variableName.getD "")

section Inversions

variable {refs : References} {p : Parameter} {kind : ParameterKind} {name : String}

theorem lacks_response_iff (hk : p.kind = .storedResponse) : p.Lacks refs kind name ↔
    kind = .storedResponse ∧ name = p.responseTag.getD "" ∧ refs.response (p.responseTag.getD "") = none := by
  constructor
  · rintro (⟨-, h⟩ | ⟨hk', -⟩)
    · exact ⟨rfl, rfl, h⟩
    · cases hk.symm.trans hk'
  · rintro ⟨rfl, rfl, h⟩
    exact .response hk h

theorem lacks_variable_iff (hk : p.kind = .driverVariable) : p.Lacks refs kind name ↔
    kind = .driverVariable ∧ name = p.variableName.getD "" ∧ refs.variableValue (p.variableName.getD "") = none := by
  constructor
  · rintro (⟨hk', -⟩ | ⟨-, h⟩)
    · cases hk.symm.trans hk'
    · exact ⟨rfl, rfl, h⟩
  · rintro ⟨rfl, rfl, h⟩
    exact .variable hk h

/-- any other parameter refers to nothing -/
theorem not_lacks (hresponse : p.kind ≠ .storedResponse) (hvariable : p.kind ≠ .driverVariable) :
    ¬ p.Lacks refs kind name := by
  rintro (⟨hk, -⟩ | ⟨hk, -⟩)
  · exact hresponse hk
  · exact hvariable hk

end Inversions

theorem checkRange_ne_unresolved (p : Parameter) (x : Float) (kind : ParameterKind) (name : String) :
    p.checkRange x ≠ .error (.unresolved kind name) := by
  unfold checkRange
  intro h
  split at h
  · cases h
  · split at h
    · cases h
    · split at h <;> cases h

theorem writeValue_ne_unresolved (p : Parameter) (a : Argument) (kind : ParameterKind) (name : String) :
    p.writeValue a ≠ .error (.unresolved kind name) := by
  unfold writeValue
  intro h
  split at h
  · split at h
    · cases h
    · split at h <;> cases h
  · split at h
    · cases h
    · exact p.checkRange_ne_unresolved _ kind name (Except.error_of_map h)
  · split at h <;> cases h
  all_goals cases h

variable {refs : References} {args : List ParameterArgument} {kind : ParameterKind} {name : String}

theorem valueText_unresolved_iff {p : Parameter} :
    p.valueText args refs = .error (.unresolved kind name) ↔ p.Lacks refs kind name := by
  unfold valueText
  split
  · rename_i hk
    rw [lacks_response_iff hk]
    split
    · rename_i s hs
      simp [hs]
    · rename_i hs
      simp [hs, eq_comm]
  · rename_i hk
    rw [lacks_variable_iff hk]
    split
    · rename_i s hs
      simp [hs]
    · rename_i hs
      simp [hs, eq_comm]
  · rename_i hr hv
    refine ⟨fun h => ?_, fun h => absurd h (not_lacks hr hv)⟩
    split at h
    · exact absurd (Except.error_of_map h) (p.writeValue_ne_unresolved _ kind name)
    · split at h <;> cases h

theorem renderAll_unresolved {ps : List Parameter} (h : renderAll args refs ps = .error (.unresolved kind name)) :
    ∃ p ∈ ps, p.Lacks refs kind name := by
  induction ps with
  | nil => cases h
  | cons p rest ih =>
    unfold renderAll at h
    split at h
    · rename_i err hp
      cases h
      exact ⟨p, List.mem_cons_self, valueText_unresolved_iff.1 (Except.error_of_map hp)⟩
    · obtain ⟨q, hq, hl⟩ := ih (Except.error_of_map h)
      exact ⟨q, List.mem_cons_of_mem p hq, hl⟩

end Parameter

/-- **An instruction that fails with an unresolved reference has a parameter that lacks it.** -/
theorem Instruction.render_unresolved {i : Instruction} {args : List ParameterArgument} {refs : References}
    {kind : ParameterKind} {name : String} (h : i.render args refs = .error (.unresolved kind name)) :
    ∃ p ∈ i.parameters, p.Lacks refs kind name := by
  unfold Instruction.render at h
  split at h
  · rename_i err hp
    cases h
    obtain ⟨p, hmem, hl⟩ := Parameter.renderAll_unresolved hp
    exact ⟨p, List.mem_append_left _ hmem, hl⟩
  · obtain ⟨p, hmem, hl⟩ := Parameter.renderAll_unresolved (Except.error_of_map h)
    exact ⟨p, List.mem_append_right _ hmem, hl⟩

end CalBench
