/-
Instruction templates that their documents give back.

Only numbers can be lost: the bounds, the step and the default of a parameter are floats, which documents hold as far as
they are finite. Everything else is kept whatever it is. `Writable` says this of each record in terms of its own parts.

- `writable_of_read`, for each record: what was read can be written;
- `kept_argument_iff`, `kept_parameter_iff`, `kept_instruction_iff`: what is kept is what can be written;
- the instances of `Stable`, which follow from these.
-/
import CalBench.Instruction.Document
import CalBench.Proofs.Json.RoundTrip

namespace CalBench

open Json Codec Json.Members

/-! ## Kinds -/

instance : Lossless InstructionKind where
  kept k := by cases k <;> rfl
  solid _ := Json.noConfusion

instance : Lossless ParameterKind where
  kept k := by cases k <;> rfl
  solid _ := Json.noConfusion

instance : Lossless ResponseType where
  kept t := by cases t <;> rfl
  solid _ := Json.noConfusion

/-! ## Arguments -/

/-- if it is a number, documents can hold it -/
def Argument.Writable (a : Argument) : Prop := ∀ x, a = .number x → x.isFinite = true

theorem Argument.writable_of_read {j : Json} {a : Argument} (h : Codec.decode j = some a) : a.Writable := by
  rintro x rfl
  cases j with
  | bool b => cases h
  | str s => cases h
  | _ =>
    obtain ⟨y, hy, hx⟩ := Option.map_eq_some_iff.1 h
    cases hx
    exact isFinite_of_float? hy

theorem kept_argument_iff {a : Argument} : Kept a ↔ a.Writable := by
  refine ⟨fun h => Argument.writable_of_read h, fun h => ?_⟩
  cases a with
  | boolean b => rfl
  | text s => rfl
  | number x =>
    show Codec.decode (ofFloat x) = some (Argument.number x)
    rw [ofFloat, dif_pos (h x rfl)]
    rfl

theorem Argument.Writable.encode_ne_null {a : Argument} (h : a.Writable) : Codec.encode a ≠ .null := by
  cases a with
  | boolean b => exact Json.noConfusion
  | text s => exact Json.noConfusion
  | number x => exact encode_float_ne_null (h x rfl)

theorem keptIfSome_argument_iff {o : Option Argument} : KeptIfSome o ↔ ∀ a ∈ o, a.Writable := by
  constructor
  · exact fun h a ha => kept_argument_iff.1 (h a ha).1
  · exact fun h a ha => ⟨kept_argument_iff.2 (h a ha), (h a ha).encode_ne_null⟩

instance : Stable Argument where
  kept h := kept_argument_iff.2 (Argument.writable_of_read h)
  solid h _ := (Argument.writable_of_read h).encode_ne_null

def ParameterArgument.Writable (a : ParameterArgument) : Prop := a.value.Writable

theorem ParameterArgument.writable_of_read {j : Json} {a : ParameterArgument} (h : Codec.decode j = some a) :
    a.Writable := by
  unfold instCodecParameterArgument at h
  simp only [↓andThen_eq_some_iff] at h
  obtain ⟨m, -, parameterId, -, value, hvalue, ha⟩ := h
  cases ha
  exact kept_argument_iff.1 (kept_of_required hvalue)

theorem kept_parameterArgument_iff {a : ParameterArgument} : Kept a ↔ a.Writable := by
  refine ⟨fun h => ParameterArgument.writable_of_read h, fun h => ?_⟩
  have hvalue : Kept a.value := kept_argument_iff.2 h
  unfold Kept instCodecParameterArgument
  simp only [↓andThen_eq_some_iff]
  simp [hvalue]

instance : Stable ParameterArgument where
  kept h := kept_parameterArgument_iff.2 (ParameterArgument.writable_of_read h)
  solid _ _ := Json.noConfusion

/-! ## Parameters -/

instance : Lossless ListItem where
  kept i := by
    unfold Kept instCodecListItem
    simp only [↓andThen_eq_some_iff]
    simp
  solid _ := Json.noConfusion

/-- the bounds, the step and the default can be written -/
structure Parameter.Writable (p : Parameter) : Prop where
  min : ∀ x ∈ p.min, x.isFinite = true
  max : ∀ x ∈ p.max, x.isFinite = true
  step : ∀ x ∈ p.step, x.isFinite = true
  default : ∀ a ∈ p.default, a.Writable

theorem Parameter.writable_of_read {j : Json} {p : Parameter} (h : Codec.decode j = some p) : p.Writable := by
  unfold instCodecParameter at h
  simp only [↓andThen_eq_some_iff] at h
  obtain ⟨m, -, id, -, kind, -, prompt, -, beforeText, -, afterText, -, required, -, listItems, -, trueValue, -,
    falseValue, -, useMin, -, useMax, -, min, hmin, max, hmax, useStep, -, step, hstep, default, hdefault,
    responseTag, -, variableName, -, hp⟩ := h
  cases hp
  exact {
    min := keptIfSome_float_iff.1 (keptIfSome_of_optional hmin)
    max := keptIfSome_float_iff.1 (keptIfSome_of_optional hmax)
    step := keptIfSome_float_iff.1 (keptIfSome_of_optional hstep)
    default := keptIfSome_argument_iff.1 (keptIfSome_of_optional hdefault) }

/-- **Of a parameter only numbers can be lost** -/
theorem kept_parameter_iff {p : Parameter} : Kept p ↔ p.Writable := by
  refine ⟨fun h => Parameter.writable_of_read h, fun h => ?_⟩
  have hmin : KeptIfSome p.min := keptIfSome_float_iff.2 h.min
  have hmax : KeptIfSome p.max := keptIfSome_float_iff.2 h.max
  have hstep : KeptIfSome p.step := keptIfSome_float_iff.2 h.step
  have hdefault : KeptIfSome p.default := keptIfSome_argument_iff.2 h.default
  unfold Kept instCodecParameter
  simp only [↓andThen_eq_some_iff]
  -- all other fields are of types that keep whatever they hold
  simp [hmin, hmax, hstep, hdefault]

instance : Stable Parameter where
  kept h := kept_parameter_iff.2 (Parameter.writable_of_read h)
  solid _ _ := Json.noConfusion

/-! ## Instructions -/

def Instruction.Writable (i : Instruction) : Prop := ∀ p ∈ i.parameters, p.Writable

theorem Instruction.writable_iff {i : Instruction} :
    i.Writable ↔ KeptIfSome i.preParameters ∧ KeptIfSome i.postParameters := by
  have hlist : ∀ o : Option (List Parameter), KeptIfSome o ↔ ∀ p ∈ o.getD [], p.Writable := fun o => by
    rw [keptIfSome_list_iff]
    cases o <;> simp [kept_parameter_iff]
  rw [hlist, hlist, ← List.forall_mem_append]
  rfl

theorem Instruction.writable_of_read {j : Json} {i : Instruction} (h : Codec.decode j = some i) : i.Writable := by
  unfold instCodecInstruction at h
  simp only [↓andThen_eq_some_iff] at h
  obtain ⟨m, -, id, -, order, -, name, -, description, -, kind, -, responseType, -, readAttempts, -,
    responseName, -, delayBefore, -, delayAfter, -, helpUri, -, variableName, -, command, -, preParameters, hpre,
    postParameters, hpost, hi⟩ := h
  cases hi
  exact Instruction.writable_iff.2 ⟨keptIfSome_of_optional hpre, keptIfSome_of_optional hpost⟩

theorem kept_instruction_iff {i : Instruction} : Kept i ↔ i.Writable := by
  refine ⟨fun h => Instruction.writable_of_read h, fun h => ?_⟩
  obtain ⟨hpre, hpost⟩ := Instruction.writable_iff.1 h
  unfold Kept instCodecInstruction
  simp only [↓andThen_eq_some_iff]
  simp [hpre, hpost]

instance : Stable Instruction where
  kept h := kept_instruction_iff.2 (Instruction.writable_of_read h)
  solid _ _ := Json.noConfusion

end CalBench
