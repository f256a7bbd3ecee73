/-
Sequences that their documents give back.

A document may know the kind of a bindable field under two names, and may spell the kind in ways that are never written:
the types of literals all mean `literal`, and a kind that nobody knows means `unsupported`. What is written is one
spelling for each kind under one name, which is read as that kind. The raw value of a bindable field is a document of
any shape; it is kept if it was read once.

- `ofName_name`: the written spelling of a kind is read as that kind;
- `writable_of_read`, for each record: what was read can be written;
- `kept_operation_iff`, `kept_sequence_iff`: what is kept is what can be written;
- the instances of `Stable`, which follow from these.
-/
import CalBench.Proofs.Instruction.RoundTrip
import CalBench.Sequence.Operation

namespace CalBench

open Json Codec Json.Members

/-! ## Bindable fields -/

theorem BindingKind.ofName_name (k : BindingKind) : ofName k.name = k := by
  cases k <;> decide

instance : Lossless BindingKind where
  kept k := congrArg some k.ofName_name
  solid _ := Json.noConfusion

/-- the raw value, if there is one, is not null and has no two members of one name in an object -/
def Bindable.Writable (b : Bindable) : Prop := ∀ j ∈ b.raw, canonical j = j ∧ j ≠ .null

theorem Bindable.writable_iff {b : Bindable} : b.Writable ↔ KeptIfSome b.raw := by
  unfold Bindable.Writable KeptIfSome
  simp only [kept_json_iff]
  rfl

/-- a raw value that was read is as it is read from its own document -/
theorem Bindable.writable_of_read {m : Members} {name : String} {b : Bindable} (h : ofMembers m name = some b) :
    b.Writable := by
  unfold ofMembers at h
  simp only [↓andThen_eq_some_iff] at h
  obtain ⟨raw, hraw, kind, -, hb⟩ := h
  cases hb
  exact Bindable.writable_iff.2 (keptIfSome_of_optional hraw)

/-! ## Operations -/

/-- all arguments can be written -/
def InstructionReference.Writable (r : InstructionReference) : Prop := ∀ a ∈ r.arguments, a.Writable

theorem InstructionReference.writable_iff {r : InstructionReference} : r.Writable ↔ Kept r.arguments := by
  simp only [kept_list_iff, kept_parameterArgument_iff, InstructionReference.Writable]

theorem InstructionReference.writable_of_read {j : Json} {r : InstructionReference} (h : Codec.decode j = some r) :
    r.Writable := by
  unfold instCodecInstructionReference at h
  simp only [↓andThen_eq_some_iff] at h
  obtain ⟨m, -, instructionId, -, arguments, harguments, hr⟩ := h
  cases hr
  exact InstructionReference.writable_iff.2 (kept_of_defaulted harguments rfl)

theorem kept_instructionReference_iff {r : InstructionReference} : Kept r ↔ r.Writable := by
  refine ⟨fun h => InstructionReference.writable_of_read h, fun h => ?_⟩
  have harguments := InstructionReference.writable_iff.1 h
  unfold Kept instCodecInstructionReference
  simp only [↓andThen_eq_some_iff]
  simp [harguments]

instance : Stable InstructionReference where
  kept h := kept_instructionReference_iff.2 (InstructionReference.writable_of_read h)
  solid _ _ := Json.noConfusion

/-- the raw values and the arguments can be written -/
structure Operation.Writable (o : Operation) : Prop where
  unitId : o.unitId.Writable
  writeData : o.writeData.Writable
  responseTag : o.responseTag.Writable
  delay : o.delay.Writable
  interfaceId : o.interfaceId.Writable
  instruction : ∀ r ∈ o.instruction, r.Writable

theorem Operation.writable_of_read {j : Json} {o : Operation} (h : Codec.decode j = some o) : o.Writable := by
  unfold instCodecOperation at h
  simp only [↓andThen_eq_some_iff] at h
  obtain ⟨m, -, kind, -, unitId, hunit, commandType, -, writeData, hwrite, readDataType, -, useReadLength, -,
    readLength, -, responseTag, htag, delay, hdelay, resetType, -, interfaceId, hinterface, instruction, hinstruction,
    ho⟩ := h
  cases ho
  exact {
    unitId := Bindable.writable_of_read hunit
    writeData := Bindable.writable_of_read hwrite
    responseTag := Bindable.writable_of_read htag
    delay := Bindable.writable_of_read hdelay
    interfaceId := Bindable.writable_of_read hinterface
    instruction := fun r hr => kept_instructionReference_iff.1 (keptIfSome_of_optional hinstruction r hr).1 }

/-- **Of an operation only raw values and numbers can be lost**; the kinds of its fields are kept -/
theorem kept_operation_iff {o : Operation} : Kept o ↔ o.Writable := by
  refine ⟨fun h => Operation.writable_of_read h, fun h => ?_⟩
  have hunit := Bindable.writable_iff.1 h.unitId
  have hwrite := Bindable.writable_iff.1 h.writeData
  have htag := Bindable.writable_iff.1 h.responseTag
  have hdelay := Bindable.writable_iff.1 h.delay
  have hinterface := Bindable.writable_iff.1 h.interfaceId
  have hinstruction : KeptIfSome o.instruction := fun r hr =>
    ⟨kept_instructionReference_iff.2 (h.instruction r hr), Json.noConfusion⟩
  unfold Kept instCodecOperation
  simp only [↓andThen_eq_some_iff]
  simp [Bindable.ofMembers, Bindable.kindNames, hunit, hwrite, htag, hdelay, hinterface, hinstruction]

instance : Stable Operation where
  kept h := kept_operation_iff.2 (Operation.writable_of_read h)
  solid _ _ := Json.noConfusion

/-! ## Sequences -/

/-- all operations can be written -/
def SequenceDocument.Writable (d : SequenceDocument) : Prop := ∀ o ∈ d.operations, o.Writable

theorem SequenceDocument.writable_iff {d : SequenceDocument} : d.Writable ↔ Kept d.operations := by
  simp only [kept_list_iff, kept_operation_iff, SequenceDocument.Writable]

theorem SequenceDocument.writable_of_read {j : Json} {d : SequenceDocument} (h : Codec.decode j = some d) :
    d.Writable := by
  unfold instCodecSequenceDocument at h
  simp only [↓andThen_eq_some_iff] at h
  obtain ⟨m, -, respondInBulk, -, operations, hoperations, hd⟩ := h
  cases hd
  exact SequenceDocument.writable_iff.2 (kept_of_defaulted hoperations rfl)

theorem kept_sequence_iff {d : SequenceDocument} : Kept d ↔ d.Writable := by
  refine ⟨fun h => SequenceDocument.writable_of_read h, fun h => ?_⟩
  have hoperations := SequenceDocument.writable_iff.1 h
  unfold Kept instCodecSequenceDocument
  simp only [↓andThen_eq_some_iff]
  simp [hoperations, -Bool.exists_bool]

instance : Stable SequenceDocument where
  kept h := kept_sequence_iff.2 (SequenceDocument.writable_of_read h)
  solid _ _ := Json.noConfusion

end CalBench
