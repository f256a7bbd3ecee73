/-
Which instruction an id stands for.

Sequences refer to instructions by their ids alone, and nothing keeps two instructions from having the same id. A
catalog does not search for an instruction. It fills an index with all of them, one place after another, and an id that
is taken stays with the instruction that took it.

`Library.ranked` is the list of what there is to be found, in order of precedence, and `FirstNamed` says that an
instruction is the first one in a list with an id. Neither mentions an index.

- `get?_addFirst`: what one more instruction does to the index;
- `get?_foldl_addFirst`: what a list of instructions does to it;
- `FirstNamed.of_append`: an id that the front of a list knows stands for an instruction of the front.

Results:
- `ids_stand_for_first_instructions`: the catalog finds the first instruction with the id, so each is found unless one
  before it has its id, nothing built in replaces what is in the library, and a sequence sends the first instruction
  with the id that it refers to.
Witness `own_reset_is_sent`: a library whose own instruction, one of its sets and one of its drivers have the id of the
standard reset.
-/
import CalBench.Proofs.Sequence.TagOrder

namespace CalBench

/-! ## What there is to be found -/

/-- what the author of a library lists outside drivers: its instructions and those of its sets -/
def Library.shelved (l : Library) : List Instruction :=
  l.instructions ++ l.instructionSets.flatMap fun s => s.instructions

/-- all that an id may stand for, in order of precedence: what the library lists, what its drivers list, and the
standard sets -/
def Library.ranked (l : Library) : List Instruction :=
  l.shelved ++ (l.drivers.flatMap fun d => d.instructionSets.flatMap fun s => s.instructions) ++
    Standard.ieee4882.instructions ++ Standard.scpi.instructions

theorem Library.instructions_prefix (l : Library) : l.instructions <+: l.shelved := List.prefix_append _ _

theorem Library.shelved_prefix (l : Library) : l.shelved <+: l.ranked := by
  rw [ranked, List.append_assoc, List.append_assoc]
  exact List.prefix_append _ _

theorem Library.allInstructions_eq (l : Library) : l.allInstructions = l.ranked := by
  simp [allInstructions, ranked, shelved, List.flatMap_assoc]

def FirstNamed (id : String) (instructions : List Instruction) (i : Instruction) : Prop :=
  ∃ before after, instructions = before ++ i :: after ∧ i.id = id ∧ ∀ j ∈ before, j.id ≠ id

theorem firstNamed_iff {id : String} {instructions : List Instruction} {i : Instruction} :
    FirstNamed id instructions i ↔ instructions.find? (fun j => j.id == id) = some i := by
  rw [List.find?_eq_some_iff_append]
  constructor
  · rintro ⟨before, after, hall, hid, hbefore⟩
    exact ⟨by simpa using hid, before, after, hall, by simpa using hbefore⟩
  · rintro ⟨hid, before, after, hall, hbefore⟩
    exact ⟨before, after, hall, by simpa using hid, by simpa using hbefore⟩

/-- An id that the front of a list knows stands for an instruction of the front. -/
theorem FirstNamed.of_append {front : List Instruction} {i : Instruction} (hi : i ∈ front) (back : List Instruction) :
    ∃ j ∈ front, j.id = i.id ∧ FirstNamed i.id (front ++ back) j := by
  have hfound : (front.find? fun j => j.id == i.id).isSome = true := List.find?_isSome.2 ⟨i, hi, by simp⟩
  obtain ⟨j, hj⟩ := Option.isSome_iff_exists.1 hfound
  refine ⟨j, List.mem_of_find?_eq_some hj, by simpa using List.find?_some hj, ?_⟩
  rw [firstNamed_iff, List.find?_append, hj, Option.some_or]

/-! ## The index -/

namespace Catalog

/-- one more instruction is found under its id unless the id is taken, and changes nothing else -/
theorem get?_addFirst (index : Table Instruction) (i : Instruction) (id : String) :
    (addFirst index i).get? id = (index.get? id).or (if i.id = id then some i else none) := by
  unfold addFirst
  rw [Table.contains_eq_isSome]
  by_cases hid : i.id = id
  · subst hid
    cases htaken : index.get? i.id with
    | none => simp
    | some taken => simp [htaken]
  · rw [if_neg hid, Option.or_none]
    split
    · rfl
    · rw [Table.get?_insert, if_neg (Ne.symm hid)]

/-- a list of instructions adds the first of each id that is not taken -/
theorem get?_foldl_addFirst (instructions : List Instruction) (index : Table Instruction) (id : String) :
    (instructions.foldl addFirst index).get? id =
      (index.get? id).or (instructions.find? fun i => i.id == id) := by
  induction instructions generalizing index with
  | nil => simp
  | cons i rest ih =>
    rw [List.foldl_cons, ih, get?_addFirst, Option.or_assoc]
    by_cases hid : i.id = id <;> simp [hid]

/-- **The catalog of a library finds the first instruction with an id** -/
theorem instruction?_eq_some_iff {l : Library} {id : String} {i : Instruction} :
    (ofLibrary l).instruction? id = some i ↔ FirstNamed id l.ranked i := by
  rw [firstNamed_iff, instruction?, ofLibrary, get?_foldl_addFirst, Table.get?_empty, Option.none_or,
    Library.allInstructions_eq]

theorem instruction?_eq_none_iff {l : Library} {id : String} :
    (ofLibrary l).instruction? id = none ↔ ∀ i ∈ l.ranked, i.id ≠ id := by
  rw [instruction?, ofLibrary, get?_foldl_addFirst, Table.get?_empty, Option.none_or, Library.allInstructions_eq,
    List.find?_eq_none]
  simp

/-- what stands in front of something else is not replaced by it -/
theorem instruction?_of_front {l : Library} {front back : List Instruction} (hall : l.ranked = front ++ back)
    {i : Instruction} (hi : i ∈ front) :
    ∃ j ∈ front, j.id = i.id ∧ (ofLibrary l).instruction? i.id = some j := by
  obtain ⟨j, hj, hid, hfirst⟩ := FirstNamed.of_append hi back
  exact ⟨j, hj, hid, instruction?_eq_some_iff.2 (hall ▸ hfirst)⟩

end Catalog

/-! ## References -/

/-- the step that a command with a reference becomes renders the instruction that the catalog finds -/
theorem Operation.Becomes.source_eq {catalog : Catalog} {ctx : Context} {produced : String → Prop} {o : Operation}
    {s : Step} (h : Becomes catalog ctx produced o s) (hk : o.kind = some "command") {r : InstructionReference}
    (hr : o.instruction = some r) :
    ∃ i, catalog.instruction? r.instructionId = some i ∧ s.source? = some ⟨i, r.arguments⟩ := by
  cases h with
  | plain c _ hnone => simp [hnone] at hr
  | instructed r' i c _ hr' hi _ _ hc =>
    obtain rfl : r' = r := Option.some.inj (hr'.symm.trans hr)
    exact ⟨i, hi, hc.instruction⟩
  | assignment r' i name _ hr' hi =>
    obtain rfl : r' = r := Option.some.inj (hr'.symm.trans hr)
    exact ⟨i, hi, rfl⟩
  | delay _ hk' | resetDevice _ hk' | resetInterface _ hk' | trigger _ hk' => simp [hk] at hk'

/-- **An id stands for the first instruction that has it.**

In the list of the library's own instructions, those of its sets, those of its drivers' sets and the standard ones, in
this order, the catalog finds the first instruction with the id, and none exactly if there is none. So every instruction
is found under its id, or one that stands before it is. What the library lists outside its drivers is never replaced by
anything else, and its own instructions not even by its sets. And a command that refers to an instruction becomes a step
that renders the first one with that id. -/
theorem ids_stand_for_first_instructions (l : Library) :
    (∀ id i, (Catalog.ofLibrary l).instruction? id = some i ↔ FirstNamed id l.ranked i) ∧
    (∀ id, (Catalog.ofLibrary l).instruction? id = none ↔ ∀ i ∈ l.ranked, i.id ≠ id) ∧
    (∀ before i after, l.ranked = before ++ i :: after →
      ∃ j ∈ before ++ [i], j.id = i.id ∧ (Catalog.ofLibrary l).instruction? i.id = some j) ∧
    (∀ i ∈ l.instructions,
      ∃ j ∈ l.instructions, j.id = i.id ∧ (Catalog.ofLibrary l).instruction? i.id = some j) ∧
    (∀ i ∈ l.shelved, ∃ j ∈ l.shelved, j.id = i.id ∧ (Catalog.ofLibrary l).instruction? i.id = some j) ∧
    ∀ (ctx : Context) (d : SequenceDocument) (plan : Plan), d.compile (.ofLibrary l) ctx = .ok plan →
      ∀ (k : Nat) (o : Operation) (r : InstructionReference), d.operations[k]? = some o →
        o.kind = some "command" → o.instruction = some r →
        ∃ s i, plan.steps[k]? = some s ∧ s.source? = some ⟨i, r.arguments⟩ ∧
          FirstNamed r.instructionId l.ranked i := by
  refine ⟨fun id i => Catalog.instruction?_eq_some_iff, fun id => Catalog.instruction?_eq_none_iff, ?_, ?_, ?_, ?_⟩
  · intro before i after hall
    have hall : l.ranked = (before ++ [i]) ++ after := by simpa using hall
    exact Catalog.instruction?_of_front hall (by simp)
  · intro i hi
    obtain ⟨back, hback⟩ : l.instructions <+: l.ranked := l.instructions_prefix.trans l.shelved_prefix
    exact Catalog.instruction?_of_front hback.symm hi
  · intro i hi
    obtain ⟨back, hback⟩ : l.shelved <+: l.ranked := l.shelved_prefix
    exact Catalog.instruction?_of_front hback.symm hi
  · intro ctx d plan hplan k o r ho hk hr
    obtain ⟨-, hsteps⟩ := (compile_eq_ok_iff d plan).1 hplan
    obtain ⟨hlength, hall⟩ := (becomeAll_iff _ _ _).1 hsteps
    have hlt : k < plan.steps.length := hlength ▸ (List.getElem?_eq_some_iff.1 ho).1
    obtain ⟨i, hi, hsource⟩ := (hall k o _ ho (List.getElem?_eq_getElem hlt)).source_eq hk hr
    exact ⟨_, i, List.getElem?_eq_getElem hlt, hsource, Catalog.instruction?_eq_some_iff.1 hi⟩

def resetId : String := "232934f6-5832-4f9b-99bd-93c316bd7ca6"

/-- a reset with a text of its own, under the id of the standard one -/
def ownReset : Instruction := { id := resetId, name := "Own Reset", kind := .write, command := "SYST:PRES" }

/-- a set whose instructions have the id of the standard reset, and another id -/
def resetSet (command : String) : InstructionSet :=
  { id := "set", name := "Resets"
    instructions := [
      { id := resetId, name := "Reset", kind := .write, command },
      { id := "i-zero", name := "Zero", kind := .write, command }] }

/-- a library that lists the ids in several places -/
def resetLibrary : Library :=
  { instructions := [ownReset], instructionSets := [resetSet "*RST 1"]
    drivers := [{ manufacturer := "Fluke", model := "8846A", instructionSets := [resetSet "*RST 2"] }] }

def resetOperation : Operation :=
  { kind := some "command", unitId := ⟨some (.str "DMM1"), .literal⟩, commandType := some "write"
    instruction := some ⟨resetId, []⟩ }

/-- **A library's own reset is sent in place of the standard one**, and of those of its sets and drivers; an instruction
of a set is found in place of a driver's -/
theorem own_reset_is_sent :
    (Catalog.ofLibrary resetLibrary).instruction? resetId = some ownReset ∧
      (∃ j ∈ resetLibrary.shelved, j.id = "i-zero" ∧
        (Catalog.ofLibrary resetLibrary).instruction? "i-zero" = some j) ∧
      ∃ plan, SequenceDocument.compile { operations := [resetOperation] } (.ofLibrary resetLibrary) {} = .ok plan ∧
        ∃ s, plan.steps[0]? = some s ∧ s.source? = some ⟨ownReset, []⟩ := by
  obtain ⟨hfound, -, -, -, hshelved, hcompiled⟩ := ids_stand_for_first_instructions resetLibrary
  have hreset : (Catalog.ofLibrary resetLibrary).instruction? resetId = some ownReset :=
    (hfound resetId ownReset).2 ⟨[], _, rfl, rfl, by simp⟩
  refine ⟨hreset, hshelved (resetSet "*RST 1").instructions[1] (by decide), ?_⟩
  have hunit : Operation.StandsFor {} resetOperation.unitId "DMM1" :=
    ⟨Context.textOf_literal {} (by decide +kernel), by decide +kernel⟩
  have hcommand : Operation.Commands {} resetOperation (some ⟨ownReset, []⟩)
      (Operation.assemble _ "DMM1" .write none none) :=
    Operation.commands_iff.2 ⟨_, _, _, _, rfl, hunit, .named rfl, rfl, rfl, .inr (by simp)⟩
  have hstep : Operation.Becomes (.ofLibrary resetLibrary) {} (fun _ => False) resetOperation _ :=
    .instructed _ _ _ rfl rfl hreset (by decide) (by decide) hcommand
  have hplan := (compile_eq_ok_iff { operations := [resetOperation] } ⟨_, false⟩).2 ⟨rfl, .cons hstep (.nil _)⟩
  obtain ⟨s, i, hs, hsource, hfirst⟩ := hcompiled _ _ _ hplan 0 resetOperation _ rfl rfl rfl
  obtain rfl : ownReset = i := Option.some.inj (hreset.symm.trans ((hfound _ _).2 hfirst))
  exact ⟨_, hplan, s, hs, hsource⟩

end CalBench
