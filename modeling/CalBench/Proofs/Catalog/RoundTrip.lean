/-
Libraries that are saved and loaded.

A library is written as one document, record within record, and read back the same way. For each record that holds
instructions it is said which of its values can be written; the others keep whatever they hold.

Results:
- `library_survives_saving`: a library that was read is read from its document as it was, every text that holds the
  document is loaded as that library, and writing it again gives the same document; any other library is read back from
  its document if and only if the numbers in it are finite.
Witness `shelf_survives`.
-/
import CalBench.Catalog.Basic
import CalBench.Json.Reader
import CalBench.Json.Writer
import CalBench.Proofs.Instruction.RoundTrip

namespace CalBench

open Json Codec Json.Members

/-! ## Parts of a library -/

instance : Lossless Terminator where
  kept t := by cases t <;> rfl
  solid _ := Json.noConfusion

instance : Lossless Category where
  kept c := by
    unfold Kept instCodecCategory
    simp only [↓andThen_eq_some_iff]
    simp
  solid _ := Json.noConfusion

instance : Lossless DriverVariable where
  kept v := by
    unfold Kept instCodecDriverVariable
    simp only [↓andThen_eq_some_iff]
    simp
  solid _ := Json.noConfusion

def InstructionSet.Writable (s : InstructionSet) : Prop := ∀ i ∈ s.instructions, i.Writable

theorem InstructionSet.writable_iff {s : InstructionSet} : s.Writable ↔ Kept s.instructions := by
  simp only [kept_list_iff, kept_instruction_iff, InstructionSet.Writable]

theorem InstructionSet.writable_of_read {j : Json} {s : InstructionSet} (h : Codec.decode j = some s) :
    s.Writable := by
  unfold instCodecInstructionSet at h
  simp only [↓andThen_eq_some_iff] at h
  obtain ⟨m, -, id, -, name, -, instructions, hinstructions, hs⟩ := h
  cases hs
  exact InstructionSet.writable_iff.2 (kept_of_defaulted hinstructions rfl)

theorem kept_instructionSet_iff {s : InstructionSet} : Kept s ↔ s.Writable := by
  refine ⟨fun h => InstructionSet.writable_of_read h, fun h => ?_⟩
  have hinstructions := InstructionSet.writable_iff.1 h
  unfold Kept instCodecInstructionSet
  simp only [↓andThen_eq_some_iff]
  simp [hinstructions]

instance : Stable InstructionSet where
  kept h := kept_instructionSet_iff.2 (InstructionSet.writable_of_read h)
  solid _ _ := Json.noConfusion

def Driver.Writable (d : Driver) : Prop := ∀ s ∈ d.instructionSets, s.Writable

theorem Driver.writable_iff {d : Driver} : d.Writable ↔ Kept d.instructionSets := by
  simp only [kept_list_iff, kept_instructionSet_iff, Driver.Writable]

theorem Driver.writable_of_read {j : Json} {d : Driver} (h : Codec.decode j = some d) : d.Writable := by
  unfold instCodecDriver at h
  simp only [↓andThen_eq_some_iff] at h
  obtain ⟨m, -, manufacturer, -, model, -, nomenclature, -, identityQuery, -, terminator, -, isGpib, -, isIeee4882, -,
    isScpi, -, instructionSets, hsets, categories, -, driverVariables, -, hd⟩ := h
  cases hd
  exact Driver.writable_iff.2 (kept_of_defaulted hsets rfl)

theorem kept_driver_iff {d : Driver} : Kept d ↔ d.Writable := by
  refine ⟨fun h => Driver.writable_of_read h, fun h => ?_⟩
  have hsets := Driver.writable_iff.1 h
  unfold Kept instCodecDriver
  simp only [↓andThen_eq_some_iff]
  simp [hsets]

instance : Stable Driver where
  kept h := kept_driver_iff.2 (Driver.writable_of_read h)
  solid _ _ := Json.noConfusion

/-! ## Libraries -/

/-- everything that holds instructions can be written, that is, the numbers of all parameters are finite -/
structure Library.Writable (l : Library) : Prop where
  drivers : ∀ d ∈ l.drivers, d.Writable
  instructionSets : ∀ s ∈ l.instructionSets, s.Writable
  instructions : ∀ i ∈ l.instructions, i.Writable

theorem Library.writable_iff {l : Library} :
    l.Writable ↔ Kept l.drivers ∧ Kept l.instructionSets ∧ Kept l.instructions := by
  simp only [kept_list_iff, kept_driver_iff, kept_instructionSet_iff, kept_instruction_iff]
  exact ⟨fun h => ⟨h.drivers, h.instructionSets, h.instructions⟩, fun h => ⟨h.1, h.2.1, h.2.2⟩⟩

theorem Library.writable_of_read {j : Json} {l : Library} (h : Codec.decode j = some l) : l.Writable := by
  unfold instCodecLibrary at h
  simp only [↓andThen_eq_some_iff] at h
  obtain ⟨m, -, drivers, hdrivers, instructionSets, hsets, instructions, hinstructions, categories, -, hl⟩ := h
  cases hl
  exact Library.writable_iff.2
    ⟨kept_of_defaulted hdrivers rfl, kept_of_defaulted hsets rfl, kept_of_defaulted hinstructions rfl⟩

theorem kept_library_iff {l : Library} : Kept l ↔ l.Writable := by
  refine ⟨fun h => Library.writable_of_read h, fun h => ?_⟩
  obtain ⟨hdrivers, hsets, hinstructions⟩ := Library.writable_iff.1 h
  unfold Kept instCodecLibrary
  simp only [↓andThen_eq_some_iff]
  simp [hdrivers, hsets, hinstructions]

instance : Stable Library where
  kept h := kept_library_iff.2 (Library.writable_of_read h)
  solid _ _ := Json.noConfusion

/-- **A library survives being saved.** Whatever document a library was read from, with unknown members, missing fields
or records given as lists: it is read back from its own document as it was, so is every text that holds this document,
and writing it again gives the same document. And libraries that were made in any other way survive just as well, if and
only if the numbers of their parameters are finite. -/
theorem library_survives_saving :
    (∀ (j : Json) (l : Library), Codec.decode j = some l →
      Codec.decode (Codec.encode l) = some l ∧
      (∀ text, parseAs? (shape Library) text = some (Codec.encode l) → read? Library text = some l) ∧
      (Codec.decode (Codec.encode l) : Option Library).map Codec.encode = some (Codec.encode l)) ∧
    ∀ l : Library, Codec.decode (Codec.encode l) = some l ↔ l.Writable := by
  refine ⟨fun j l h => ?_, fun l => kept_library_iff⟩
  obtain ⟨hkept, hagain⟩ := Stable.rereads h
  refine ⟨hkept, fun text htext => ?_, hagain⟩
  rw [read?, htext, Option.bind_some, hkept]

/-- a library as it may come: members that mean nothing, a null, empty lists, a driver without a terminator, an
instruction set given as a list and an integer for a float -/
def shelf : Json := .obj [
  ("comment", .str "spare"),
  ("drivers", .arr [.obj [
    ("driverManufacturer", .str "Fluke"), ("driverModel", .str "8846A"), ("isGPIB", .null), ("isSCPI", .bool true),
    ("categories", .arr []), ("rack", .int 3)]]),
  ("instructionSets", .arr [.arr [.str "s1", .str "Output", .arr [.obj [
    ("_id", .str "i1"), ("order", .int 2), ("name", .str "Level"), ("type", .str "Write"), ("command", .str "VOLT"),
    ("postParameters", .arr [.obj [
      ("_id", .str "p1"), ("type", .str "number"), ("min", .int (-1)), ("default", .float 0.5 (by decide +kernel)),
      ("listItems", .arr [])]])]]]])]

def shelfLibrary : Library where
  drivers := [{ manufacturer := "Fluke", model := "8846A", isScpi := some true, categories := some [] }]
  instructionSets := [{
    id := "s1", name := "Output"
    instructions := [{
      id := "i1", order := some 2, name := "Level", kind := .write, command := "VOLT"
      postParameters := some [{
        id := "p1", kind := .number, listItems := some [], min := some (-1.0), default := some (.number 0.5) }] }] }]

theorem decode_shelf : Codec.decode shelf = some shelfLibrary := by decide +kernel

/-- the text of an empty library holds its document -/
theorem parse_empty : parseAs? (shape Library) (pretty (Codec.encode ({} : Library))) =
    some (Codec.encode ({} : Library)) := by with_unfolding_all rfl

/-- **The shelf is kept**, and written again it is as it was written once; an empty library is loaded from its text -/
theorem shelf_survives :
    Codec.decode shelf = some shelfLibrary ∧ Codec.decode (Codec.encode shelfLibrary) = some shelfLibrary ∧
    (Codec.decode (Codec.encode shelfLibrary) : Option Library).map Codec.encode = some (Codec.encode shelfLibrary) ∧
    read? Library (pretty (Codec.encode ({} : Library))) = some {} := by
  obtain ⟨hkept, -, hagain⟩ := library_survives_saving.1 shelf shelfLibrary decode_shelf
  obtain ⟨-, htext, -⟩ := library_survives_saving.1 (.obj []) {} (by decide +kernel)
  exact ⟨decode_shelf, hkept, hagain, htext _ parse_empty⟩

end CalBench
