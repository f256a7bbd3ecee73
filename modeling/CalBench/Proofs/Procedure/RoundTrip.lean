/-
Sequences and procedures that are written again.

The document of a node holds operations, measurements and plain fields, and a procedure is a list of nodes. A document
may leave fields out, name limits and kinds in more than one way and spell kinds that mean nothing; it is written again
in one way only. What it means does not change by that: it compiles as it did, and its wires lead where they did.

- `writable_of_read`, for each record: what was read can be written;
- `kept_resultSpec_iff`, `kept_node_iff`, `kept_procedure_iff`: what is kept is what can be written;
- the instances of `Stable`, which follow from these.

Results:
- `rewritten_documents_mean_the_same`: operations, sequences, nodes and procedures that were read are read from their
  documents as they were; a sequence compiles to the same plan or errors, and a procedure is traversed in the same way;
  any other sequence or procedure is read back if and only if its numbers and raw values can be written.
Witness `builder_document_means_the_same`.
-/
import CalBench.Procedure.Graph
import CalBench.Proofs.Sequence.RoundTrip
import CalBench.Sequence.Compile

namespace CalBench

open Json Codec Json.Members

/-! ## Nodes -/

instance : Lossless ErrorCheckKind where
  kept k := by cases k <;> rfl
  solid _ := Json.noConfusion

/-- the limits and the level can be written -/
structure ResultSpec.Writable (s : ResultSpec) : Prop where
  minimum : ∀ x ∈ s.minimum, x.isFinite = true
  maximum : ∀ x ∈ s.maximum, x.isFinite = true
  inputLevel : s.inputLevel.isFinite = true

theorem ResultSpec.writable_of_read {j : Json} {s : ResultSpec} (h : Codec.decode j = some s) : s.Writable := by
  unfold instCodecResultSpec at h
  simp only [↓andThen_eq_some_iff] at h
  obtain ⟨m, -, responseTag, -, description, -, baseQuantity, -, derivedQuantity, -, derivedQuantityPrefix, -,
    minimum, hminimum, maximum, hmaximum, inputLevel, hlevel, hs⟩ := h
  have hzero : Kept (0.0 : Float) := kept_float_iff.2 (by decide +kernel)
  cases hs
  exact {
    minimum := keptIfSome_float_iff.1 (keptIfSome_of_optional hminimum)
    maximum := keptIfSome_float_iff.1 (keptIfSome_of_optional hmaximum)
    inputLevel := kept_float_iff.1 (kept_of_defaulted hlevel hzero) }

theorem kept_resultSpec_iff {s : ResultSpec} : Kept s ↔ s.Writable := by
  refine ⟨fun h => ResultSpec.writable_of_read h, fun h => ?_⟩
  have hminimum : KeptIfSome s.minimum := keptIfSome_float_iff.2 h.minimum
  have hmaximum : KeptIfSome s.maximum := keptIfSome_float_iff.2 h.maximum
  have hlevel : Kept s.inputLevel := kept_float_iff.2 h.inputLevel
  unfold Kept instCodecResultSpec
  simp only [↓andThen_eq_some_iff]
  simp [hminimum, hmaximum, hlevel]

instance : Stable ResultSpec where
  kept h := kept_resultSpec_iff.2 (ResultSpec.writable_of_read h)
  solid _ _ := Json.noConfusion

/-- the operations and the measurements can be written -/
structure Node.Writable (n : Node) : Prop where
  operations : ∀ os ∈ n.operations, ∀ o ∈ os, o.Writable
  results : ∀ rs ∈ n.results, ∀ r ∈ rs, r.Writable

theorem Node.writable_iff {n : Node} : n.Writable ↔ KeptIfSome n.operations ∧ KeptIfSome n.results := by
  simp only [keptIfSome_list_iff, kept_operation_iff, kept_resultSpec_iff]
  exact ⟨fun h => ⟨h.operations, h.results⟩, fun h => ⟨h.1, h.2⟩⟩

theorem Node.writable_of_read {j : Json} {n : Node} (h : Codec.decode j = some n) : n.Writable := by
  unfold instCodecNode at h
  simp only [↓andThen_eq_some_iff] at h
  obtain ⟨m, -, id, -, type, -, name, -, wires, -, shortName, -, sectionId, -, operations, hoperations,
    respondInBulk, -, results, hresults, unitId, -, checkKind, -, hn⟩ := h
  cases hn
  exact Node.writable_iff.2 ⟨keptIfSome_of_optional hoperations, keptIfSome_of_optional hresults⟩

theorem kept_node_iff {n : Node} : Kept n ↔ n.Writable := by
  refine ⟨fun h => Node.writable_of_read h, fun h => ?_⟩
  obtain ⟨hoperations, hresults⟩ := Node.writable_iff.1 h
  unfold Kept instCodecNode
  simp only [↓andThen_eq_some_iff]
  simp [hoperations, hresults]

instance : Stable Node where
  kept h := kept_node_iff.2 (Node.writable_of_read h)
  solid _ _ := Json.noConfusion

/-! ## Procedures -/

def Procedure.Writable (p : Procedure) : Prop := ∀ n ∈ p.nodes, n.Writable

/-- a procedure is written as the list of its nodes -/
theorem kept_procedure_iff {p : Procedure} : Kept p ↔ p.Writable := by
  have hnodes : Kept p ↔ Kept p.nodes := by
    constructor
    · intro h
      obtain ⟨nodes, hread, hp⟩ := Option.map_eq_some_iff.1 h
      cases hp
      exact hread
    · intro h
      unfold Kept instCodecProcedure
      simp [h]
  simp only [hnodes, kept_list_iff, kept_node_iff, Procedure.Writable]

instance : Stable Procedure where
  kept {j p} h := by
    obtain ⟨nodes, hnodes, rfl⟩ := Option.map_eq_some_iff.1 h
    have hkept : Kept nodes := Stable.kept hnodes
    exact kept_procedure_iff.2 fun n hn => kept_node_iff.1 (kept_list_iff.1 hkept n hn)
  solid _ _ := Json.noConfusion

/-- **A document that is written again means the same.** Whatever document an operation, a sequence, a node or a
procedure was read from, with other names of fields, unknown kinds, nulls or any raw values: it is read back from its
own document as it was. So the document that was written compiles to the same plan or the same errors as the original,
against every catalog and in every context, and the traversal from every node, with any nodes visited, is the same. And
sequences and procedures that were made in any other way are read back just as well, if and only if their numbers are
finite and their raw values are such as documents give. -/
theorem rewritten_documents_mean_the_same :
    (∀ (j : Json) (o : Operation), Codec.decode j = some o → Codec.decode (Codec.encode o) = some o) ∧
    (∀ (j : Json) (d : SequenceDocument), Codec.decode j = some d →
      Codec.decode (Codec.encode d) = some d ∧
      ∀ catalog ctx, (Codec.decode (Codec.encode d) : Option SequenceDocument).map (·.compile catalog ctx) =
        (Codec.decode j : Option SequenceDocument).map (·.compile catalog ctx)) ∧
    (∀ (j : Json) (n : Node), Codec.decode j = some n → Codec.decode (Codec.encode n) = some n) ∧
    (∀ (j : Json) (p : Procedure), Codec.decode j = some p →
      Codec.decode (Codec.encode p) = some p ∧
      ∀ start visited, (Codec.decode (Codec.encode p) : Option Procedure).map (·.connected start visited) =
        (Codec.decode j : Option Procedure).map (·.connected start visited)) ∧
    (∀ d : SequenceDocument, Codec.decode (Codec.encode d) = some d ↔ d.Writable) ∧
    ∀ p : Procedure, Codec.decode (Codec.encode p) = some p ↔ p.Writable := by
  refine ⟨fun j o ho => Stable.kept ho, fun j d hd => ?sequence, fun j n hn => Stable.kept hn,
    fun j p hp => ?procedure, fun d => kept_sequence_iff, fun p => kept_procedure_iff⟩
  case sequence =>
    have hkept : Codec.decode (Codec.encode d) = some d := Stable.kept hd
    refine ⟨hkept, fun catalog ctx => ?_⟩
    rw [hkept, hd]
  case procedure =>
    have hkept : Codec.decode (Codec.encode p) = some p := Stable.kept hp
    refine ⟨hkept, fun start visited => ?_⟩
    rw [hkept, hp]

/-- an operation as a builder leaves it: the kinds of fields under their other names, one of them a type of literals and
one that nobody knows, a null, a raw value that has one name twice, and a reference given as a list -/
def builderOperation : Json := .obj [
  ("type", .str "command"), ("unitId", .str "DMM1"), ("unitIdPropertyType", .str "str"),
  ("writeData", .obj [("a", .int 1), ("a", .int 2)]), ("writeDataPropertyType", .str "jsonata"), ("delay", .null),
  ("instruction", .arr [.str "i1"])]

def builderStep : Operation where
  kind := some "command"
  unitId := ⟨some (.str "DMM1"), .literal⟩
  writeData := ⟨some (.obj [("a", .int 2)]), .unsupported⟩
  instruction := some ⟨"i1", []⟩

/-- a node of that operation: a member that means nothing, a wire to the node itself in capitals, and limits under their
other names -/
def builderNode : Json := .obj [
  ("id", .str "q1"), ("type", .str NodeType.commandSequence.name), ("x", .int 40), ("wires", .arr [.arr [.str "Q1"]]),
  ("operations", .arr [builderOperation]),
  ("results", .arr [.obj [("responseTag", .str "v"), ("min", .int 1), ("max", .float 2.5 (by decide +kernel))]])]

def builderRead : Node where
  id := "q1"
  type := NodeType.commandSequence.name
  wires := [["Q1"]]
  operations := some [builderStep]
  results := some [{ responseTag := "v", minimum := some 1.0, maximum := some 2.5 }]

/-- **What a builder leaves is kept**: the operation, a sequence of it, its node and a procedure of that node -/
theorem builder_document_means_the_same :
    Codec.decode builderOperation = some builderStep ∧ Codec.decode (Codec.encode builderStep) = some builderStep ∧
    (∀ catalog ctx,
      (Codec.decode (Codec.encode (⟨false, [builderStep]⟩ : SequenceDocument)) : Option SequenceDocument).map
        (·.compile catalog ctx) = some (SequenceDocument.compile ⟨false, [builderStep]⟩ catalog ctx)) ∧
    Codec.decode builderNode = some builderRead ∧ Codec.decode (Codec.encode builderRead) = some builderRead ∧
    ∀ start visited, (Codec.decode (Codec.encode (⟨[builderRead]⟩ : Procedure)) : Option Procedure).map
      (·.connected start visited) = some (Procedure.connected ⟨[builderRead]⟩ start visited) := by
  obtain ⟨hoperation, hsequence, hnode, hprocedure, -⟩ := rewritten_documents_mean_the_same
  have hstep : Codec.decode builderOperation = some builderStep := rfl
  have hread : Codec.decode builderNode = some builderRead := rfl
  obtain ⟨-, hplan⟩ := hsequence (.obj [("operations", .arr [builderOperation])]) ⟨false, [builderStep]⟩ rfl
  obtain ⟨-, hpath⟩ := hprocedure (.arr [builderNode]) ⟨[builderRead]⟩ rfl
  exact ⟨hstep, hoperation _ _ hstep, hplan, hread, hnode _ _ hread, hpath⟩

end CalBench
