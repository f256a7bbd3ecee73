/-
Which sequences compile, and into what.

The compiler visits optional fields along many paths, some of which end early. Here the rules of the language are
written down on their own: `Becomes` has one rule for every kind of operation, with all the operation needs as premises
and the step it becomes as conclusion. What an operation needs depends on earlier operations through the response tags
alone (`ProducedBefore`).

Results:
- `compile_meets`: one operation has no problem exactly when a rule applies to it, and then its step is the rule's;
- `compileFrom_eq_iff`: a list has no errors exactly when the rules apply to its operations, one after the other;
- `accepts_exactly_valid`: a sequence compiles exactly when every operation is valid given the tags produced before it,
  and the plan has one step for every operation, in order, the one its rule says.
Witness:
- `instruction_needs_no_text`: a write with nothing to write compiles if it refers to an instruction.
-/
import Mathlib.Tactic.SplitIfs
import CalBench.Sequence.Compile
import CalBench.Proofs.Sequence.Field

namespace CalBench

/-! ## The rules -/

/-- the kind of instruction from which a command without a kind of its own takes it -/
def CommandKind.ofInstruction : CommandKind → InstructionKind
  | .read => .read
  | .write => .write
  | .query => .query

namespace Operation

/-- the field is absent or empty -/
def Omitted (s : Option String) : Prop := s = none ∨ s = some ""

/-- the field stands for a text, which is not blank -/
def StandsFor (ctx : Context) (b : Bindable) (s : String) : Prop :=
  ctx.textOf b = some s ∧ Text.isBlankText s = false

/-- the kind of a command: the one it names, failing that its instruction's -/
inductive HasKind (o : Operation) (bound : Option BoundInstruction) (k : CommandKind) : Prop
  | named (h : o.commandType = some k.name)
  | inherited (b : BoundInstruction) (h : Omitted o.commandType) (hb : bound = some b)
      (hk : b.instruction.kind = k.ofInstruction)

inductive HasResponseType (o : Operation) (bound : Option BoundInstruction) (t : ResponseType) : Prop
  | named (name : String) (h : o.readDataType = some name) (hne : name ≠ "")
      (ht : ResponseType.ofAuthorName? name = some t)
  | inherited (b : BoundInstruction) (h : Omitted o.readDataType) (hb : bound = some b)
      (ht : b.instruction.responseType = some t)

/-- the length of a response: a positive one if the command is to use it, else none -/
inductive HasLength (o : Operation) : Option Nat → Prop
  | fixed (n : Int64) (hu : o.useReadLength = some true) (h : o.readLength = some n) (hn : 0 < n) :
      HasLength o (some n.toInt.toNat)
  | terminated (hu : o.useReadLength ≠ some true) : HasLength o none

/-- what a command that reads needs -/
structure Reads (ctx : Context) (o : Operation) (bound : Option BoundInstruction) (r : ReadSpec) : Prop where
  type : HasResponseType o bound r.type
  length : HasLength o r.length
  tag : StandsFor ctx o.responseTag r.tag

/-- what a command that writes needs: a text, or an instruction that has its own -/
def Writes (ctx : Context) (o : Operation) (bound : Option BoundInstruction) (data : Option String) : Prop :=
  data = ctx.textOf o.writeData ∧ ((∃ s, StandsFor ctx o.writeData s) ∨ bound ≠ none)

/-- what a command needs that is no assignment; the timing is its instruction's -/
structure Commands (ctx : Context) (o : Operation) (bound : Option BoundInstruction) (c : Command) : Prop where
  unit : StandsFor ctx o.unitId c.unit
  kind : HasKind o bound c.kind
  read : if c.kind.reads then ∃ r, c.read = some r ∧ Reads ctx o bound r else c.read = none
  write : if c.kind.writes then Writes ctx o bound c.writeData else c.writeData = none
  instruction : c.instruction = bound
  attempts : c.readAttempts = (bound.bind fun b => b.instruction.readAttempts).map UInt32.toNat
  before : c.delayBefore = instructionDelay (bound.bind fun b => b.instruction.delayBefore)
  after : c.delayAfter = instructionDelay (bound.bind fun b => b.instruction.delayAfter)

variable (catalog : Catalog) (ctx : Context)

/-- an operation and the step it becomes, given the tags produced before it -/
inductive Becomes (produced : String → Prop) (o : Operation) : Step → Prop
  | plain (c : Command) (hk : o.kind = some "command") (hi : o.instruction = none) (hc : Commands ctx o none c) :
      Becomes produced o (.command c)
  /-- a command with an instruction of the catalog, all of whose tags are produced before -/
  | instructed (r : InstructionReference) (i : Instruction) (c : Command) (hk : o.kind = some "command")
      (hr : o.instruction = some r) (hi : catalog.instruction? r.instructionId = some i)
      (ht : ∀ tag ∈ i.referencedTags, produced tag) (hv : i.kind ≠ .setVariable)
      (hc : Commands ctx o (some ⟨i, r.arguments⟩) c) : Becomes produced o (.command c)
  | assignment (r : InstructionReference) (i : Instruction) (name : String) (hk : o.kind = some "command")
      (hr : o.instruction = some r) (hi : catalog.instruction? r.instructionId = some i)
      (ht : ∀ tag ∈ i.referencedTags, produced tag) (hv : i.kind = .setVariable)
      (hn : i.variableName = some name) (hb : Text.isBlankText name = false) :
      Becomes produced o (.setVariable name ⟨i, r.arguments⟩)
  | delay (ms : Float) (hk : o.kind = some "delay") (hd : ctx.numberOf o.delay = some ms) (hpos : ms > 0.0)
      (hfin : ms.isFinite = true) : Becomes produced o (.delay ⟨(ms * 1e6).round.toUInt64.toNat⟩)
  | resetDevice (unit : String) (hk : o.kind = some "reset") (ht : o.resetType = some "device")
      (hu : StandsFor ctx o.unitId unit) : Becomes produced o (.resetDevice unit)
  | resetInterface (name : String) (hk : o.kind = some "reset") (ht : o.resetType = some "interface")
      (hn : StandsFor ctx o.interfaceId name) : Becomes produced o (.resetInterface name)
  | trigger (unit : String) (hk : o.kind = some "trigger") (hu : StandsFor ctx o.unitId unit) :
      Becomes produced o (.trigger unit)

def Valid (produced : String → Prop) (o : Operation) : Prop := ∃ s, Becomes catalog ctx produced o s

/-- a command is bound to its instruction, which the catalog knows and which is no assignment -/
inductive BoundTo (o : Operation) : Option BoundInstruction → Prop
  | plain (hi : o.instruction = none) : BoundTo o none
  | instructed (r : InstructionReference) (i : Instruction) (hr : o.instruction = some r)
      (hi : catalog.instruction? r.instructionId = some i) (hv : i.kind ≠ .setVariable) :
      BoundTo o (some ⟨i, r.arguments⟩)

/-- the operation is a read or a query whose response is stored under the tag -/
def Produces (o : Operation) (tag : String) : Prop :=
  o.kind = some "command" ∧ (∃ bound k, BoundTo catalog o bound ∧ HasKind o bound k ∧ k.reads = true) ∧
    StandsFor ctx o.responseTag tag

/-- a tag is produced by one of the operations before a position -/
def ProducedBefore (operations : List Operation) (i : Nat) (tag : String) : Prop :=
  ∃ o ∈ operations.take i, Produces catalog ctx o tag

end Operation

/-! ## Checks meet their rules -/

/-- the check has a value exactly by its rule, and a problem exactly when it has no value -/
structure Checked.Meets {α : Type} (c : Checked α) (rule : α → Prop) : Prop where
  value : ∀ a, c.value = some a ↔ rule a
  clean : c.problems = [] ↔ ∃ a, c.value = some a

structure Compiled.Meets (c : Compiled) (rule : Step → Prop) : Prop where
  step : ∀ s, c.step = some s ↔ rule s
  clean : c.problems = [] ↔ ∃ s, c.step = some s

theorem Compiled.Meets.congr {c : Compiled} {rule rule' : Step → Prop} (h : c.Meets rule)
    (hr : ∀ s, rule s ↔ rule' s) : c.Meets rule' :=
  ⟨fun s => (h.step s).trans (hr s), h.clean⟩

/-- a check has one value at most -/
theorem Checked.Meets.unique {α : Type} {c : Checked α} {rule : α → Prop} (h : c.Meets rule) {a b : α} (ha : rule a)
    (hb : rule b) : a = b :=
  Option.some.inj (((h.value a).2 ha).symm.trans ((h.value b).2 hb))

theorem Checked.meets_need {α : Type} (value : Option α) (problem : Problem) :
    (Checked.need value problem).Meets (value = some ·) := by
  cases value <;> constructor <;> simp [Checked.need]

/-- **No step is lost without a problem, and none is kept with one**, when further problems come before those of a
check -/
theorem Compiled.Meets.guarded {c : Compiled} {rule : Step → Prop} (h : c.Meets rule) (before : List Problem) :
    (let d := { c with problems := before ++ c.problems }
      if d.problems.isEmpty then d else { d with step := none }).Meets fun s => before = [] ∧ rule s := by
  have hc := h.clean
  by_cases hb : before = []
  · subst hb
    by_cases hp : c.problems = []
    · simp only [List.nil_append, hp, List.isEmpty_nil, if_true, true_and]
      exact ⟨h.step, by simpa [hp] using hc⟩
    · have hn : ∀ s, ¬ rule s := fun s hs => hp (hc.2 ⟨s, (h.step s).2 hs⟩)
      constructor <;> simp [hp, hn]
  · constructor <;> simp [hb]

namespace Operation

theorem nonempty?_eq_some_iff {s : Option String} {t : String} :
    nonempty? s = some t ↔ s = some t ∧ t ≠ "" := by
  simp [nonempty?, Option.filter_eq_some_iff]

theorem nonempty?_eq_none_iff {s : Option String} : nonempty? s = none ↔ Omitted s := by
  cases s with
  | none => simp [nonempty?, Omitted]
  | some t => simp [nonempty?, Omitted, Option.filter_some]

theorem standsFor_iff {ctx : Context} {b : Bindable} {s : String} : StandsFor ctx b s ↔ ctx.textOf b = some s :=
  ⟨fun h => h.1, fun h => ⟨h, Context.textOf_not_blank h⟩⟩

theorem ofName?_eq_some_iff {name : String} {k : CommandKind} : CommandKind.ofName? name = some k ↔ name = k.name := by
  constructor
  · intro h
    have hk := List.find?_some h
    simpa using (eq_of_beq hk).symm
  · rintro rfl
    cases k <;> rfl

theorem not_omitted {s : String} (h : s ≠ "") : ¬ Omitted (some s) := by
  simp [Omitted, h]

theorem commandKind_meets (o : Operation) (bound : Option BoundInstruction) :
    (o.commandKind bound).Meets (HasKind o bound) := by
  unfold commandKind
  split
  · rename_i name hn
    obtain ⟨hs, hne⟩ := nonempty?_eq_some_iff.1 hn
    have h := Checked.meets_need (CommandKind.ofName? name) .invalidCommandType
    refine ⟨fun k => ?_, h.clean⟩
    rw [h.value, ofName?_eq_some_iff]
    constructor
    · rintro rfl; exact .named hs
    · rintro (hk | ⟨b, ho, -, -⟩)
      · exact Option.some.inj (hs.symm.trans hk)
      · exact absurd (hs ▸ ho) (not_omitted hne)
  · rename_i hn
    have ho := nonempty?_eq_none_iff.1 hn
    have hno : ∀ k : CommandKind, o.commandType ≠ some k.name := by
      intro k hk
      exact not_omitted (by cases k <;> decide) (hk ▸ ho)
    -- without a name, only an instruction that is no assignment gives a kind
    have hk : ∀ k, HasKind o bound k ↔ ∃ b, bound = some b ∧ b.instruction.kind = k.ofInstruction := by
      intro k
      constructor
      · rintro (hk | ⟨b, -, hb, hk⟩)
        · exact absurd hk (hno k)
        · exact ⟨b, hb, hk⟩
      · rintro ⟨b, hb, hk⟩; exact .inherited b ho hb hk
    cases bound with
    | none => constructor <;> simp [hk]
    | some b =>
      cases hi : b.instruction.kind <;> constructor <;> simp only [Option.map_some, hi, hk, Option.some.injEq,
        exists_eq_left'] <;> first | (intro k; cases k <;> simp [CommandKind.ofInstruction]) | simp

theorem responseType_meets (o : Operation) (bound : Option BoundInstruction) :
    (o.responseType bound).Meets (HasResponseType o bound) := by
  unfold responseType
  split
  · rename_i name hn
    obtain ⟨hs, hne⟩ := nonempty?_eq_some_iff.1 hn
    have h := Checked.meets_need (ResponseType.ofAuthorName? name) (.unknownResponseType name)
    refine ⟨fun t => ?_, h.clean⟩
    rw [h.value]
    constructor
    · intro ht; exact .named name hs hne ht
    · rintro (⟨name', hs', -, ht⟩ | ⟨b, ho, -, -⟩)
      · cases hs.symm.trans hs'; exact ht
      · exact absurd (hs ▸ ho) (not_omitted hne)
  · rename_i hn
    have ho := nonempty?_eq_none_iff.1 hn
    have h := Checked.meets_need (bound.bind fun b => b.instruction.responseType) .missingResponseType
    refine ⟨fun t => ?_, h.clean⟩
    rw [h.value, Option.bind_eq_some_iff]
    constructor
    · rintro ⟨b, hb, ht⟩; exact .inherited b ho hb ht
    · rintro (⟨name, hs, hne, -⟩ | ⟨b, -, hb, ht⟩)
      · exact absurd (hs ▸ ho) (not_omitted hne)
      · exact ⟨b, hb, ht⟩

theorem lengthToRead_meets (o : Operation) : o.lengthToRead.Meets (HasLength o) := by
  unfold lengthToRead
  split
  · rename_i hu
    have hu' : o.useReadLength = some true := by
      cases hx : o.useReadLength with
      | none => simp [hx] at hu
      | some b => simpa [hx] using hu
    split
    · rename_i n hn
      obtain ⟨hl, hpos⟩ := Option.filter_eq_some_iff.1 hn
      refine ⟨fun l => ?_, by simp⟩
      constructor
      · intro h; cases h; exact .fixed n hu' hl (by simpa using hpos)
      · rintro (⟨m, -, hm, -⟩ | hne)
        · cases hl.symm.trans hm; rfl
        · exact absurd hu' hne
    · rename_i hn
      refine ⟨fun l => ?_, by simp⟩
      simp only [reduceCtorEq, false_iff]
      rintro (⟨m, -, hm, hpos⟩ | hne)
      · simp [hm, Option.filter_some, hpos] at hn
      · exact absurd hu' hne
  · rename_i hu
    have hu' : o.useReadLength ≠ some true := fun h => hu (by simp [h])
    refine ⟨fun l => ?_, by simp⟩
    constructor
    · intro h; cases h; exact .terminated hu'
    · rintro (⟨m, h, -, -⟩ | -)
      · exact absurd h hu'
      · rfl

theorem readSpec_meets (ctx : Context) (o : Operation) (bound : Option BoundInstruction) :
    (o.readSpec ctx bound).Meets (Reads ctx o bound) := by
  have ht := responseType_meets o bound
  have hl := lengthToRead_meets o
  have hr := Checked.meets_need (ctx.textOf o.responseTag) .missingResponseTag
  constructor
  · intro r
    have hv : (o.readSpec ctx bound).value = some r ↔
        (o.responseType bound).value = some r.type ∧ o.lengthToRead.value = some r.length ∧
          (Checked.need (ctx.textOf o.responseTag) .missingResponseTag).value = some r.tag := by
      simp only [readSpec]
      split
      · rename_i t l g h1 h2 h3
        simp only [h1, h2, h3, Option.some.injEq]
        constructor
        · rintro rfl; exact ⟨rfl, rfl, rfl⟩
        · rintro ⟨rfl, rfl, rfl⟩; rfl
      · rename_i hno
        simp only [reduceCtorEq, false_iff]
        rintro ⟨h1, h2, h3⟩
        exact hno _ _ _ h1 h2 h3
    rw [hv, ht.value, hl.value, hr.value, ← standsFor_iff]
    exact ⟨fun ⟨h1, h2, h3⟩ => ⟨h1, h2, h3⟩, fun ⟨h1, h2, h3⟩ => ⟨h1, h2, h3⟩⟩
  · simp only [readSpec, List.append_eq_nil_iff, ht.clean, hl.clean, hr.clean]
    constructor
    · rintro ⟨⟨⟨t, h1⟩, ⟨l, h2⟩⟩, ⟨g, h3⟩⟩
      exact ⟨⟨t, l, g⟩, by simp [h1, h2, h3]⟩
    · rintro ⟨r, h⟩
      split at h
      · rename_i t l g h1 h2 h3
        exact ⟨⟨⟨t, h1⟩, ⟨l, h2⟩⟩, ⟨g, h3⟩⟩
      · cases h

theorem textToWrite_meets (ctx : Context) (o : Operation) (bound : Option BoundInstruction) :
    (o.textToWrite ctx bound).Meets (Writes ctx o bound) := by
  have hs : (∃ s, StandsFor ctx o.writeData s) ↔ ctx.textOf o.writeData ≠ none := by
    simp only [standsFor_iff, Option.ne_none_iff_exists']
  constructor
  · intro data
    cases hd : ctx.textOf o.writeData <;> cases bound <;> simp [textToWrite, Writes, hd, hs, eq_comm]
  · cases hd : ctx.textOf o.writeData <;> cases bound <;> simp [textToWrite, hd]

/-! ## Commands -/

def readOfKind (ctx : Context) (o : Operation) (bound : Option BoundInstruction) (k : CommandKind) :
    Checked (Option ReadSpec) :=
  if k.reads then
    let r := o.readSpec ctx bound
    ⟨r.problems, r.value.map some⟩
  else ⟨[], some none⟩

def writeOfKind (ctx : Context) (o : Operation) (bound : Option BoundInstruction) (k : CommandKind) :
    Checked (Option String) :=
  if k.writes then o.textToWrite ctx bound else ⟨[], some none⟩

theorem readOfKind_meets (ctx : Context) (o : Operation) (bound : Option BoundInstruction) (k : CommandKind) :
    (o.readOfKind ctx bound k).Meets fun v =>
      if k.reads then ∃ r, v = some r ∧ Reads ctx o bound r else v = none := by
  have h := readSpec_meets ctx o bound
  by_cases hk : k.reads
  · simp only [readOfKind, hk, if_true]
    constructor
    · intro v
      simp only [Option.map_eq_some_iff]
      constructor
      · rintro ⟨r, hr, rfl⟩; exact ⟨r, rfl, (h.value r).1 hr⟩
      · rintro ⟨r, rfl, hr⟩; exact ⟨r, (h.value r).2 hr, rfl⟩
    · rw [h.clean]
      simp only [Option.map_eq_some_iff]
      exact ⟨fun ⟨r, hr⟩ => ⟨some r, r, hr, rfl⟩, fun ⟨_, r, hr, _⟩ => ⟨r, hr⟩⟩
  · simp only [readOfKind, hk]
    exact ⟨fun v => by simp [eq_comm], by simp⟩

theorem writeOfKind_meets (ctx : Context) (o : Operation) (bound : Option BoundInstruction) (k : CommandKind) :
    (o.writeOfKind ctx bound k).Meets fun data => if k.writes then Writes ctx o bound data else data = none := by
  by_cases hk : k.writes
  · simpa only [writeOfKind, hk, if_true] using textToWrite_meets ctx o bound
  · simp only [writeOfKind, hk]
    exact ⟨fun v => by simp [eq_comm], by simp⟩

def assemble (bound : Option BoundInstruction) (unit : String) (k : CommandKind) (read : Option ReadSpec)
    (writeData : Option String) : Command :=
  { unit, kind := k, writeData, read
    instruction := bound
    readAttempts := (bound.bind fun b => b.instruction.readAttempts).map UInt32.toNat
    delayBefore := instructionDelay (bound.bind fun b => b.instruction.delayBefore)
    delayAfter := instructionDelay (bound.bind fun b => b.instruction.delayAfter) }

/-- a command is assembled from parts that each meet their rule -/
theorem commands_iff {ctx : Context} {o : Operation} {bound : Option BoundInstruction} {c : Command} :
    Commands ctx o bound c ↔ ∃ unit k read data, c = assemble bound unit k read data ∧ StandsFor ctx o.unitId unit ∧
      HasKind o bound k ∧ (if k.reads then ∃ r, read = some r ∧ Reads ctx o bound r else read = none) ∧
      (if k.writes then Writes ctx o bound data else data = none) := by
  constructor
  · rintro ⟨hu, hk, hr, hw, hi, ha, hb, hf⟩
    refine ⟨c.unit, c.kind, c.read, c.writeData, ?_, hu, hk, hr, hw⟩
    cases c
    simp_all [assemble]
  · rintro ⟨unit, k, read, data, rfl, hu, hk, hr, hw⟩
    exact ⟨hu, hk, hr, hw, rfl, rfl, rfl, rfl⟩

theorem compileBound_of_none (ctx : Context) {o : Operation} {bound : Option BoundInstruction}
    (h : (o.commandKind bound).value = none) :
    o.compileBound ctx bound = { problems :=
      (Checked.need (ctx.textOf o.unitId) .commandMissingUnit).problems ++ (o.commandKind bound).problems } := by
  simp only [compileBound, h]

theorem compileBound_of_some (ctx : Context) {o : Operation} {bound : Option BoundInstruction} {k : CommandKind}
    (h : (o.commandKind bound).value = some k) :
    o.compileBound ctx bound =
      let unit := Checked.need (ctx.textOf o.unitId) .commandMissingUnit
      { problems := unit.problems ++ (o.commandKind bound).problems ++ (o.readOfKind ctx bound k).problems ++
          (o.writeOfKind ctx bound k).problems
        tag := if k.reads then ctx.textOf o.responseTag else none
        step := match unit.value, (o.readOfKind ctx bound k).value, (o.writeOfKind ctx bound k).value with
          | some unit, some read, some data => some (.command (assemble bound unit k read data))
          | _, _, _ => none } := by
  simp only [compileBound, h]
  rfl

theorem compileBound_meets (ctx : Context) (o : Operation) (bound : Option BoundInstruction) :
    (o.compileBound ctx bound).Meets fun s => ∃ c, s = .command c ∧ Commands ctx o bound c := by
  have hu := Checked.meets_need (ctx.textOf o.unitId) .commandMissingUnit
  have hk := commandKind_meets o bound
  cases hkv : (o.commandKind bound).value with
  | none =>
    rw [compileBound_of_none ctx hkv]
    have hno : ∀ k, ¬ HasKind o bound k := fun k h => by simpa [hkv] using (hk.value k).2 h
    have hp : (o.commandKind bound).problems ≠ [] := fun h => by simpa [hkv] using hk.clean.1 h
    constructor
    · intro s
      simp only [reduceCtorEq, false_iff]
      rintro ⟨c, -, hc⟩
      exact hno _ hc.kind
    · simp [hp]
  | some k =>
    rw [compileBound_of_some ctx hkv]
    have hp : (o.commandKind bound).problems = [] := hk.clean.2 ⟨k, hkv⟩
    have hr := readOfKind_meets ctx o bound k
    have hw := writeOfKind_meets ctx o bound k
    constructor
    · intro s
      constructor
      · intro h
        simp only at h
        split at h
        · rename_i unit read data h1 h2 h3
          cases h
          exact ⟨_, rfl, commands_iff.2 ⟨unit, k, read, data, rfl, standsFor_iff.2 ((hu.value _).1 h1),
            (hk.value k).1 hkv, (hr.value _).1 h2, (hw.value _).1 h3⟩⟩
        · cases h
      · rintro ⟨c, rfl, hc⟩
        obtain ⟨unit, k', read, data, rfl, h1, h2, h3, h4⟩ := commands_iff.1 hc
        have hkk : k' = k := hk.unique h2 ((hk.value k).1 hkv)
        subst hkk
        simp only [(hu.value unit).2 (standsFor_iff.1 h1), (hr.value read).2 h3, (hw.value data).2 h4]
    · simp only [hp, List.append_nil, List.append_eq_nil_iff, hu.clean, hr.clean, hw.clean]
      constructor
      · rintro ⟨⟨⟨u, h1⟩, ⟨r, h2⟩⟩, ⟨w, h3⟩⟩
        exact ⟨_, by rw [h1, h2, h3]⟩
      · rintro ⟨s, h⟩
        split at h
        · rename_i u r w h1 h2 h3
          exact ⟨⟨⟨u, h1⟩, ⟨r, h2⟩⟩, ⟨w, h3⟩⟩
        · cases h

theorem compileBound_tag (ctx : Context) (o : Operation) (bound : Option BoundInstruction) (tag : String) :
    (o.compileBound ctx bound).tag = some tag ↔
      (∃ k, HasKind o bound k ∧ k.reads = true) ∧ StandsFor ctx o.responseTag tag := by
  have hk := commandKind_meets o bound
  rw [standsFor_iff]
  cases hkv : (o.commandKind bound).value with
  | none =>
    rw [compileBound_of_none ctx hkv]
    simp only [reduceCtorEq, false_iff]
    rintro ⟨⟨k, h, -⟩, -⟩
    simpa [hkv] using (hk.value k).2 h
  | some k =>
    rw [compileBound_of_some ctx hkv]
    simp only [Option.ite_none_right_eq_some]
    constructor
    · rintro ⟨hr, ht⟩; exact ⟨⟨k, (hk.value k).1 hkv, hr⟩, ht⟩
    · rintro ⟨⟨k', h, hr⟩, ht⟩
      have hkk : k' = k := hk.unique h ((hk.value k).1 hkv)
      exact ⟨hkk ▸ hr, ht⟩

/-! ## Parts of an operation -/

theorem tagOrderProblems_eq_nil_iff {produced : List String} {b : BoundInstruction} :
    tagOrderProblems produced b = [] ↔ ∀ tag ∈ b.instruction.referencedTags, tag ∈ produced := by
  simp [tagOrderProblems, List.filter_eq_nil_iff]

theorem compileAssignment_meets (b : BoundInstruction) :
    (compileAssignment b).Meets fun s =>
      ∃ name, b.instruction.variableName = some name ∧ Text.isBlankText name = false ∧ s = .setVariable name b := by
  unfold compileAssignment
  split
  · rename_i name hn
    obtain ⟨hv, hb⟩ := Option.filter_eq_some_iff.1 hn
    refine ⟨fun s => ?_, by simp⟩
    constructor
    · intro h; cases h; exact ⟨name, hv, by simpa using hb, rfl⟩
    · rintro ⟨name', hv', -, rfl⟩; rw [hv] at hv'; cases hv'; rfl
  · rename_i hn
    refine ⟨fun s => ?_, by simp⟩
    simp only [reduceCtorEq, false_iff]
    rintro ⟨name, hv, hb, -⟩
    simp [hv, Option.filter_some, hb] at hn

theorem compileNeeding_meets {α : Type} (value : Option α) (problem : Problem) (step : α → Step) :
    (compileNeeding value problem step).Meets fun s => ∃ a, value = some a ∧ s = step a := by
  cases value with
  | none => constructor <;> simp [compileNeeding]
  | some a => constructor <;> simp [compileNeeding, eq_comm]

theorem delayOf_eq_some_iff {ms : Float} {d : Duration} :
    delayOf ms = some d ↔ ms > 0.0 ∧ ms.isFinite = true ∧ d = ⟨(ms * 1e6).round.toUInt64.toNat⟩ := by
  simp only [delayOf, Option.ite_none_right_eq_some, Bool.and_eq_true, decide_eq_true_eq, Option.some.injEq, and_assoc,
    @eq_comm _ d]

theorem compileReset_meets (ctx : Context) (o : Operation) :
    (o.compileReset ctx).Meets fun s =>
      (∃ unit, o.resetType = some "device" ∧ ctx.textOf o.unitId = some unit ∧ s = .resetDevice unit) ∨
      (∃ name, o.resetType = some "interface" ∧ ctx.textOf o.interfaceId = some name ∧ s = .resetInterface name) := by
  unfold compileReset
  split
  · rename_i hn
    have ho := nonempty?_eq_none_iff.1 hn
    have hd : o.resetType ≠ some "device" := fun h => not_omitted (by decide) (h ▸ ho)
    have hi : o.resetType ≠ some "interface" := fun h => not_omitted (by decide) (h ▸ ho)
    constructor <;> simp [hd, hi]
  · rename_i type hn
    obtain ⟨ht, -⟩ := nonempty?_eq_some_iff.1 hn
    split_ifs with h1 h2
    · rw [beq_iff_eq] at h1
      subst h1
      refine (compileNeeding_meets _ _ _).congr fun s => ?_
      simp [ht]
    · rw [beq_iff_eq] at h2
      subst h2
      refine (compileNeeding_meets _ _ _).congr fun s => ?_
      simp [ht]
    · rw [beq_iff_eq] at h1 h2
      constructor <;> simp [ht, h1, h2]

variable {catalog : Catalog} {ctx : Context}

/-! ## Which rules can apply -/

section Inversions

variable {produced : String → Prop} {o : Operation} {s : Step}

/-- a command without an instruction -/
theorem becomes_plain_iff (hk : o.kind = some "command") (hi : o.instruction = none) :
    Becomes catalog ctx produced o s ↔ ∃ c, s = .command c ∧ Commands ctx o none c := by
  constructor
  · intro h
    cases h with
    | plain c _ _ hc => exact ⟨c, rfl, hc⟩
    | instructed _ _ _ _ hr => cases hi.symm.trans hr
    | assignment _ _ _ _ hr => cases hi.symm.trans hr
    | delay _ hk' | resetDevice _ hk' | resetInterface _ hk' | trigger _ hk' =>
      exact absurd (hk.symm.trans hk') (by decide)
  · rintro ⟨c, rfl, hc⟩
    exact .plain c hk hi hc

/-- a command with an instruction: the catalog knows it, and it is sent or assigns a variable -/
theorem becomes_referring_iff (hk : o.kind = some "command") {r : InstructionReference} (hr : o.instruction = some r) :
    Becomes catalog ctx produced o s ↔ ∃ i, catalog.instruction? r.instructionId = some i ∧
      (∀ tag ∈ i.referencedTags, produced tag) ∧
      (i.kind ≠ .setVariable ∧ (∃ c, s = .command c ∧ Commands ctx o (some ⟨i, r.arguments⟩) c) ∨
        i.kind = .setVariable ∧ ∃ name, i.variableName = some name ∧ Text.isBlankText name = false ∧
          s = .setVariable name ⟨i, r.arguments⟩) := by
  constructor
  · intro h
    cases h with
    | plain _ _ hi => cases hi.symm.trans hr
    | instructed r' i c _ hr' hi ht hv hc =>
      cases hr.symm.trans hr'
      exact ⟨i, hi, ht, .inl ⟨hv, c, rfl, hc⟩⟩
    | assignment r' i name _ hr' hi ht hv hn hb =>
      cases hr.symm.trans hr'
      exact ⟨i, hi, ht, .inr ⟨hv, name, hn, hb, rfl⟩⟩
    | delay _ hk' | resetDevice _ hk' | resetInterface _ hk' | trigger _ hk' =>
      exact absurd (hk.symm.trans hk') (by decide)
  · rintro ⟨i, hi, ht, ⟨hv, c, rfl, hc⟩ | ⟨hv, name, hn, hb, rfl⟩⟩
    · exact .instructed r i c hk hr hi ht hv hc
    · exact .assignment r i name hk hr hi ht hv hn hb

theorem becomes_delay_iff (hk : o.kind = some "delay") :
    Becomes catalog ctx produced o s ↔ ∃ ms, ctx.numberOf o.delay = some ms ∧ ms > 0.0 ∧ ms.isFinite = true ∧
      s = .delay ⟨(ms * 1e6).round.toUInt64.toNat⟩ := by
  constructor
  · intro h
    cases h with
    | delay ms _ hd hpos hfin => exact ⟨ms, hd, hpos, hfin, rfl⟩
    | plain _ hk' | instructed _ _ _ hk' | assignment _ _ _ hk' | resetDevice _ hk' | resetInterface _ hk'
    | trigger _ hk' => exact absurd (hk.symm.trans hk') (by decide)
  · rintro ⟨ms, hd, hpos, hfin, rfl⟩
    exact .delay ms hk hd hpos hfin

theorem becomes_reset_iff (hk : o.kind = some "reset") :
    Becomes catalog ctx produced o s ↔
      (∃ unit, o.resetType = some "device" ∧ StandsFor ctx o.unitId unit ∧ s = .resetDevice unit) ∨
        ∃ name, o.resetType = some "interface" ∧ StandsFor ctx o.interfaceId name ∧ s = .resetInterface name := by
  constructor
  · intro h
    cases h with
    | resetDevice unit _ ht hu => exact .inl ⟨unit, ht, hu, rfl⟩
    | resetInterface name _ ht hn => exact .inr ⟨name, ht, hn, rfl⟩
    | plain _ hk' | instructed _ _ _ hk' | assignment _ _ _ hk' | delay _ hk' | trigger _ hk' =>
      exact absurd (hk.symm.trans hk') (by decide)
  · rintro (⟨unit, ht, hu, rfl⟩ | ⟨name, ht, hn, rfl⟩)
    · exact .resetDevice unit hk ht hu
    · exact .resetInterface name hk ht hn

theorem becomes_trigger_iff (hk : o.kind = some "trigger") :
    Becomes catalog ctx produced o s ↔ ∃ unit, StandsFor ctx o.unitId unit ∧ s = .trigger unit := by
  constructor
  · intro h
    cases h with
    | trigger unit _ hu => exact ⟨unit, hu, rfl⟩
    | plain _ hk' | instructed _ _ _ hk' | assignment _ _ _ hk' | delay _ hk' | resetDevice _ hk'
    | resetInterface _ hk' => exact absurd (hk.symm.trans hk') (by decide)
  · rintro ⟨unit, hu, rfl⟩
    exact .trigger unit hk hu

/-- an operation of any other type is not valid -/
theorem not_becomes (hcommand : o.kind ≠ some "command") (hdelay : o.kind ≠ some "delay")
    (hreset : o.kind ≠ some "reset") (htrigger : o.kind ≠ some "trigger") : ¬ Becomes catalog ctx produced o s := by
  intro h
  cases h with
  | plain _ hk => exact hcommand hk
  | instructed _ _ _ hk => exact hcommand hk
  | assignment _ _ _ hk => exact hcommand hk
  | delay _ hk => exact hdelay hk
  | resetDevice _ hk => exact hreset hk
  | resetInterface _ hk => exact hreset hk
  | trigger _ hk => exact htrigger hk

theorem boundTo_plain_iff (hi : o.instruction = none) {b : Option BoundInstruction} :
    BoundTo catalog o b ↔ b = none := by
  constructor
  · intro h
    cases h with
    | plain _ => rfl
    | instructed r i hr => cases hi.symm.trans hr
  · rintro rfl
    exact .plain hi

theorem boundTo_referring_iff {r : InstructionReference} (hr : o.instruction = some r) {b : Option BoundInstruction} :
    BoundTo catalog o b ↔ ∃ i, catalog.instruction? r.instructionId = some i ∧ i.kind ≠ .setVariable ∧
      b = some ⟨i, r.arguments⟩ := by
  constructor
  · intro h
    cases h with
    | plain hi => cases hi.symm.trans hr
    | instructed r' i hr' hi hv =>
      cases hr.symm.trans hr'
      exact ⟨i, hi, hv, rfl⟩
  · rintro ⟨i, hi, hv, rfl⟩
    exact .instructed r i hr hi hv

end Inversions

/-! ## One operation -/

theorem compileCommand_meets (produced : List String) (o : Operation) (hk : o.kind = some "command") :
    ∃ (before : List Problem) (c : Compiled),
      o.compileCommand catalog ctx produced = { c with problems := before ++ c.problems } ∧
      ∃ rule : Step → Prop, c.Meets rule ∧
        ∀ s, (before = [] ∧ rule s) ↔ Becomes catalog ctx (· ∈ produced) o s := by
  unfold compileCommand
  split
  · rename_i hi
    refine ⟨[], o.compileBound ctx none, rfl, _, compileBound_meets ctx o none, fun s => ?_⟩
    rw [becomes_plain_iff hk hi]
    exact and_iff_right rfl
  · rename_i r hr
    split
    · rename_i hi
      refine ⟨[], { problems := [.unknownInstruction r.instructionId] }, rfl, fun _ => False, by constructor <;> simp,
        fun s => ?_⟩
      rw [becomes_referring_iff hk hr]
      simp [hi]
    · rename_i i hi
      by_cases hv : i.kind = .setVariable
      · refine ⟨tagOrderProblems produced ⟨i, r.arguments⟩, compileAssignment ⟨i, r.arguments⟩, by simp [hv], _,
          compileAssignment_meets _, fun s => ?_⟩
        rw [becomes_referring_iff hk hr, tagOrderProblems_eq_nil_iff]
        simp [hi, hv]
      · refine ⟨tagOrderProblems produced ⟨i, r.arguments⟩, o.compileBound ctx (some ⟨i, r.arguments⟩), by simp [hv],
          _, compileBound_meets ctx o _, fun s => ?_⟩
        rw [becomes_referring_iff hk hr, tagOrderProblems_eq_nil_iff]
        simp [hi, hv]

/-- **One operation.** Its check has no problem exactly when a rule applies, and then its step is that of the rule. -/
theorem compile_meets (produced : List String) (o : Operation) :
    (o.compile catalog ctx produced).Meets (Becomes catalog ctx (· ∈ produced) o) := by
  unfold compile compileByType
  split
  · rename_i hk
    obtain ⟨before, c, hc, rule, hm, hr⟩ := compileCommand_meets produced o hk
    rw [hc]
    exact (hm.guarded before).congr hr
  · rename_i hk
    refine ((compileNeeding_meets _ _ _).guarded []).congr fun s => ?_
    simp only [true_and, Option.bind_eq_some_iff, delayOf_eq_some_iff]
    rw [becomes_delay_iff hk]
    constructor
    · rintro ⟨d, ⟨ms, hn, hpos, hfin, rfl⟩, rfl⟩
      exact ⟨ms, hn, hpos, hfin, rfl⟩
    · rintro ⟨ms, hn, hpos, hfin, rfl⟩
      exact ⟨_, ⟨ms, hn, hpos, hfin, rfl⟩, rfl⟩
  · rename_i hk
    refine ((compileReset_meets ctx o).guarded []).congr fun s => ?_
    simp only [true_and, ← standsFor_iff]
    rw [becomes_reset_iff hk]
  · rename_i hk
    refine ((compileNeeding_meets _ _ _).guarded []).congr fun s => ?_
    simp only [true_and, ← standsFor_iff]
    rw [becomes_trigger_iff hk]
  · rename_i hcommand hdelay hreset htrigger
    have hno := fun s => @not_becomes catalog ctx (· ∈ produced) o s hcommand hdelay hreset htrigger
    constructor <;> simp [hno]

theorem compileCommand_tag (produced : List String) (o : Operation) (tag : String) :
    (o.compileCommand catalog ctx produced).tag = some tag ↔
      (∃ bound k, BoundTo catalog o bound ∧ HasKind o bound k ∧ k.reads = true) ∧ StandsFor ctx o.responseTag tag := by
  -- once it is clear what the command is bound to, its parts decide
  have hbound : ∀ bound, (∀ b, BoundTo catalog o b ↔ b = bound) →
      ((o.compileBound ctx bound).tag = some tag ↔
        (∃ b k, BoundTo catalog o b ∧ HasKind o b k ∧ k.reads = true) ∧ StandsFor ctx o.responseTag tag) := by
    intro bound hb
    rw [compileBound_tag]
    simp only [hb, exists_and_left, exists_eq_left]
  have hnone : (∀ b, ¬ BoundTo catalog o b) → ((none : Option String) = some tag ↔
      (∃ b k, BoundTo catalog o b ∧ HasKind o b k ∧ k.reads = true) ∧ StandsFor ctx o.responseTag tag) := by
    intro hb
    simp [hb]
  unfold compileCommand
  split
  · rename_i hi
    exact hbound none fun b => boundTo_plain_iff hi
  · rename_i r hr
    split
    · rename_i hi
      refine hnone fun b => ?_
      simp [boundTo_referring_iff hr, hi]
    · rename_i i hi
      by_cases hv : i.kind = .setVariable
      · have ht : (compileAssignment ⟨i, r.arguments⟩).tag = none := by
          unfold compileAssignment
          split <;> rfl
        simp only [hv, if_true, ht]
        refine hnone fun b => ?_
        simp [boundTo_referring_iff hr, hi, hv]
      · simp only [hv, if_false]
        refine hbound _ fun b => ?_
        simp [boundTo_referring_iff hr, hi, hv]

/-- the tag of an operation is the one it produces, whether or not it has other problems -/
theorem compile_tag (produced : List String) (o : Operation) (tag : String) :
    (o.compile catalog ctx produced).tag = some tag ↔ Produces catalog ctx o tag := by
  have hf : (o.compile catalog ctx produced).tag = (o.compileByType catalog ctx produced).tag := by
    simp only [compile]
    split_ifs <;> rfl
  have hneed : ∀ {α : Type} (value : Option α) (problem : Problem) (step : α → Step),
      (compileNeeding value problem step).tag = none := by
    intro α value problem step
    cases value <;> rfl
  rw [hf]
  unfold compileByType Produces
  split
  · rename_i hk
    rw [compileCommand_tag]
    simp [hk]
  · rename_i hk
    simp [hk, hneed]
  · rename_i hk
    have hreset : (o.compileReset ctx).tag = none := by
      unfold compileReset
      split
      · rfl
      · split_ifs <;> first | exact hneed _ _ _ | rfl
    simp [hk, hreset]
  · rename_i hk
    simp [hk, hneed]
  · rename_i hno _ _ _
    simp only [reduceCtorEq, false_iff]
    rintro ⟨hk, -⟩
    exact hno hk

end Operation

/-! ## Lists of operations -/

open Operation

variable (catalog : Catalog) (ctx : Context)

/-- a rule applies to each operation of a list, given the tags produced before the list -/
inductive BecomeAll : (String → Prop) → List Operation → List Step → Prop
  | nil (produced : String → Prop) : BecomeAll produced [] []
  | cons {produced : String → Prop} {o : Operation} {s : Step} {rest : List Operation} {steps : List Step}
      (h : Becomes catalog ctx produced o s)
      (hr : BecomeAll (fun tag => Produces catalog ctx o tag ∨ produced tag) rest steps) :
      BecomeAll produced (o :: rest) (s :: steps)

variable {catalog ctx}

theorem mem_tagsAfter (produced : List String) (o : Operation) :
    (fun tag => tag ∈ (o.compile catalog ctx produced).tagsAfter produced) =
      fun tag => Produces catalog ctx o tag ∨ tag ∈ produced := by
  funext tag
  rw [← compile_tag produced o tag, Compiled.tagsAfter]
  split
  · rename_i t ht
    simp [ht, eq_comm]
  · rename_i ht
    simp [ht]

theorem compileFrom_eq_iff (index : Nat) (produced : List String) (operations : List Operation) (steps : List Step) :
    compileFrom catalog ctx index produced operations = ([], steps) ↔
      BecomeAll catalog ctx (· ∈ produced) operations steps := by
  induction operations generalizing index produced steps with
  | nil =>
    simp only [compileFrom, Prod.mk.injEq, true_and]
    constructor
    · rintro rfl; exact .nil _
    · intro h; cases h; rfl
  | cons o rest ih =>
    have hm := @compile_meets catalog ctx produced o
    simp only [compileFrom, Prod.mk.injEq, List.append_eq_nil_iff, List.map_eq_nil_iff]
    constructor
    · rintro ⟨⟨hc, he⟩, hs⟩
      obtain ⟨s, hstep⟩ := hm.clean.1 hc
      rw [hstep, Option.toList_some, List.singleton_append] at hs
      subst hs
      refine .cons ((hm.step s).1 hstep) ?_
      rw [← mem_tagsAfter]
      exact (ih _ _ _).1 (Prod.ext he rfl)
    · intro h
      obtain _ | ⟨hb, hr⟩ := h
      rw [← mem_tagsAfter] at hr
      have hstep := (hm.step _).2 hb
      have hrest := (ih (index + 1) _ _).2 hr
      exact ⟨⟨hm.clean.2 ⟨_, hstep⟩, by rw [hrest]⟩, by rw [hrest, hstep]; rfl⟩

theorem producedBefore_cons (o : Operation) (rest : List Operation) (i : Nat) (produced : String → Prop) :
    (fun tag => ProducedBefore catalog ctx (o :: rest) (i + 1) tag ∨ produced tag) =
      fun tag => ProducedBefore catalog ctx rest i tag ∨ Produces catalog ctx o tag ∨ produced tag := by
  funext tag
  simp only [ProducedBefore, List.take_succ_cons, List.mem_cons, exists_eq_or_imp, eq_iff_iff]
  rw [@or_comm (Produces catalog ctx o tag), or_assoc]

theorem producedBefore_zero (operations : List Operation) (produced : String → Prop) :
    (fun tag => ProducedBefore catalog ctx operations 0 tag ∨ produced tag) = produced := by
  funext tag
  simp [ProducedBefore]

/-- the rules applied one after the other, by position -/
theorem becomeAll_iff (produced : String → Prop) (operations : List Operation) (steps : List Step) :
    BecomeAll catalog ctx produced operations steps ↔ steps.length = operations.length ∧
      ∀ i o s, operations[i]? = some o → steps[i]? = some s →
        Becomes catalog ctx (fun tag => ProducedBefore catalog ctx operations i tag ∨ produced tag) o s := by
  induction operations generalizing produced steps with
  | nil =>
    constructor
    · intro h; cases h; simp
    · rintro ⟨hl, -⟩
      rw [List.length_eq_zero_iff.1 hl]
      exact .nil _
  | cons o rest ih =>
    constructor
    · intro h
      obtain _ | ⟨hb, hr⟩ := h
      obtain ⟨hl, hall⟩ := (ih _ _).1 hr
      refine ⟨by simp [hl], fun i o' s' ho hs => ?_⟩
      cases i with
      | zero =>
        cases ho; cases hs
        rw [producedBefore_zero]
        exact hb
      | succ i =>
        rw [producedBefore_cons]
        exact hall i o' s' ho hs
    · rintro ⟨hl, hall⟩
      obtain _ | ⟨s, steps⟩ := steps
      · simp at hl
      · have hb := hall 0 o s rfl rfl
        rw [producedBefore_zero] at hb
        refine .cons hb ((ih _ _).2 ⟨by simpa using hl, fun i o' s' ho hs => ?_⟩)
        rw [← producedBefore_cons]
        exact hall (i + 1) o' s' ho hs

theorem exists_becomeAll_iff (produced : String → Prop) (operations : List Operation) :
    (∃ steps, BecomeAll catalog ctx produced operations steps) ↔ ∀ i o, operations[i]? = some o →
      Valid catalog ctx (fun tag => ProducedBefore catalog ctx operations i tag ∨ produced tag) o := by
  induction operations generalizing produced with
  | nil => exact ⟨fun _ i o h => by simp at h, fun _ => ⟨[], .nil _⟩⟩
  | cons o rest ih =>
    constructor
    · rintro ⟨steps, h⟩
      obtain _ | ⟨hb, hr⟩ := h
      intro i o' ho
      cases i with
      | zero =>
        cases ho
        rw [producedBefore_zero]
        exact ⟨_, hb⟩
      | succ i =>
        rw [producedBefore_cons]
        exact (ih _).1 ⟨_, hr⟩ i o' ho
    · intro hall
      have hv := hall 0 o rfl
      rw [producedBefore_zero] at hv
      obtain ⟨s, hb⟩ := hv
      obtain ⟨steps, hr⟩ := (ih fun tag => Produces catalog ctx o tag ∨ produced tag).2 fun i o' ho => by
        rw [← producedBefore_cons]
        exact hall (i + 1) o' ho
      exact ⟨s :: steps, .cons hb hr⟩

/-! ## Sequences -/

/-- a sequence has a plan exactly when the rules apply to its operations, one after the other -/
theorem compile_eq_ok_iff (d : SequenceDocument) (plan : Plan) :
    d.compile catalog ctx = .ok plan ↔
      plan.respondInBulk = d.respondInBulk ∧ BecomeAll catalog ctx (fun _ => False) d.operations plan.steps := by
  have hf := @compileFrom_eq_iff catalog ctx 0 [] d.operations plan.steps
  simp only [List.not_mem_nil] at hf
  rw [← hf]
  simp only [SequenceDocument.compile, compileOperations]
  split
  · rename_i steps hc
    obtain ⟨planSteps, bulk⟩ := plan
    simp [hc, Except.map, and_comm, eq_comm]
  · rename_i errors steps hne hc
    simp only [Except.map, hc, Prod.mk.injEq, reduceCtorEq, false_iff]
    rintro ⟨-, rfl, -⟩
    exact hne rfl

/-- **Acceptance is exact and no operation is lost.** A sequence compiles exactly when each of its operations is valid
given the tags produced by the operations before it. Its plan keeps the bulk flag and has one step for every operation,
in order, the one that the rule for the operation says; and any such plan is its plan. -/
theorem accepts_exactly_valid (catalog : Catalog) (ctx : Context) (d : SequenceDocument) :
    ((∃ plan, d.compile catalog ctx = .ok plan) ↔ ∀ i o, d.operations[i]? = some o →
      Valid catalog ctx (ProducedBefore catalog ctx d.operations i) o) ∧
    ∀ plan : Plan, d.compile catalog ctx = .ok plan ↔
      plan.respondInBulk = d.respondInBulk ∧ plan.steps.length = d.operations.length ∧
        ∀ i o s, d.operations[i]? = some o → plan.steps[i]? = some s →
          Becomes catalog ctx (ProducedBefore catalog ctx d.operations i) o s := by
  constructor
  · have hv := @exists_becomeAll_iff catalog ctx (fun _ => False) d.operations
    simp only [or_false] at hv
    rw [← hv]
    simp only [compile_eq_ok_iff]
    constructor
    · rintro ⟨plan, -, h⟩; exact ⟨_, h⟩
    · rintro ⟨steps, h⟩; exact ⟨⟨steps, d.respondInBulk⟩, rfl, h⟩
  · intro plan
    rw [compile_eq_ok_iff, becomeAll_iff]
    simp only [or_false]

/-- an instruction that has a text of its own -/
def startInstruction : Instruction := { id := "i-start", name := "Start", kind := .write, command := "*TRG" }

def startLibrary : Library := { instructions := [startInstruction] }

def startOperation : Operation :=
  { kind := some "command", unitId := ⟨some (.str "DMM1"), .literal⟩, commandType := some "write"
    instruction := some ⟨"i-start", []⟩ }

/-- **A write needs no text of its own** if it refers to an instruction: it compiles, though its text stands for
nothing -/
theorem instruction_needs_no_text :
    (∃ plan, SequenceDocument.compile { operations := [startOperation] } (.ofLibrary startLibrary) {} = .ok plan) ∧
      startOperation.commandType = some CommandKind.write.name ∧ CommandKind.write.writes = true ∧
      ¬ ∃ s, StandsFor {} startOperation.writeData s := by
  refine ⟨?_, rfl, rfl, ?_⟩
  · have hu : StandsFor {} startOperation.unitId "DMM1" :=
      ⟨Context.textOf_literal {} (by decide +kernel), by decide +kernel⟩
    have hi : (Catalog.ofLibrary startLibrary).instruction? "i-start" = some startInstruction := by
      decide +kernel
    have hc : Commands {} startOperation (some ⟨startInstruction, []⟩) (assemble _ "DMM1" .write none none) :=
      commands_iff.2 ⟨_, _, _, _, rfl, hu, .named rfl, rfl, rfl, .inr (by simp)⟩
    exact ⟨⟨_, false⟩, (compile_eq_ok_iff _ _).2
      ⟨rfl, .cons (.instructed _ _ _ rfl rfl hi (by decide) (by decide) hc) (.nil _)⟩⟩
  · rintro ⟨s, hs, -⟩
    cases hs

end CalBench
