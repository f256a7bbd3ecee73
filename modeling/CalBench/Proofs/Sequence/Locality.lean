/-
Errors that stay with their operations.

The compiler scans a list once, with the tags produced so far in hand. Here its errors are described without the scan:
each operation is compiled alone, with nothing produced before it, and its errors are kept in the list unless an earlier
operation excuses them. Only a reference to a response can be excused, and only by an operation that produces the tag,
whether or not that operation has errors of its own.

Results:
- `compile_problems_filter`: the problems of an operation given the tags produced before are the problems it has alone,
  without those that these tags excuse;
- `compileFrom_errors`: what one scan reports, by induction over the list with the operations before it;
- `errors_are_local`: the errors of a sequence are those of its operations, in order, each list the one of the operation
  alone without what is excused; an error is hidden by nothing but an earlier tag, and a change of an operation reaches
  another one through nothing else.
Witness `faulty_operations_reported`.
-/
import CalBench.Proofs.Sequence.Acceptance

namespace CalBench

/-! ## Problems that an earlier operation excuses -/

/-- the tag of a response that is not there yet, if this is the problem -/
def Problem.tag? : Problem → Option String
  | .tagNotProduced _ tag => some tag
  | _ => none

def Problem.ExcusedBy (known : String → Prop) (p : Problem) : Prop := ∃ tag ∈ p.tag?, known tag

instance (known : String → Prop) [DecidablePred known] : DecidablePred (Problem.ExcusedBy known) :=
  fun p => inferInstanceAs (Decidable (∃ tag ∈ p.tag?, known tag))

/-- no tag can excuse one of the problems -/
def Lasting (problems : List Problem) : Prop := ∀ p ∈ problems, p.tag? = none

@[simp] theorem lasting_nil : Lasting [] := fun _ hp => nomatch hp

@[simp] theorem lasting_singleton {p : Problem} : Lasting [p] ↔ p.tag? = none := List.forall_mem_singleton

@[simp] theorem lasting_append {ps qs : List Problem} : Lasting (ps ++ qs) ↔ Lasting ps ∧ Lasting qs :=
  List.forall_mem_append

theorem Problem.not_excusedBy {known : String → Prop} {p : Problem} (h : p.tag? = none) : ¬ p.ExcusedBy known := by
  rintro ⟨tag, htag, -⟩
  rw [h] at htag
  cases htag

theorem Lasting.filter_eq {problems : List Problem} (h : Lasting problems) (known : String → Prop)
    [DecidablePred known] : (problems.filter fun p => ¬ p.ExcusedBy known) = problems :=
  List.filter_eq_self.2 fun p hp => decide_eq_true (Problem.not_excusedBy (h p hp))

/-! ## The problems of one operation -/

theorem Checked.lasting_need {α : Type} (value : Option α) {p : Problem} (h : p.tag? = none) :
    Lasting (Checked.need value p).problems := by
  cases value with
  | none => exact lasting_singleton.2 h
  | some _ => exact lasting_nil

namespace Operation

open Checked

theorem lasting_commandKind (o : Operation) (bound : Option BoundInstruction) :
    Lasting (o.commandKind bound).problems := by
  unfold commandKind
  split
  · exact lasting_need _ rfl
  · split <;> simp [Problem.tag?]

theorem lasting_responseType (o : Operation) (bound : Option BoundInstruction) :
    Lasting (o.responseType bound).problems := by
  unfold responseType
  split <;> exact lasting_need _ rfl

theorem lasting_lengthToRead (o : Operation) : Lasting o.lengthToRead.problems := by
  unfold lengthToRead
  split
  · split <;> simp [Problem.tag?]
  · exact lasting_nil

theorem lasting_readOfKind (ctx : Context) (o : Operation) (bound : Option BoundInstruction) (k : CommandKind) :
    Lasting (o.readOfKind ctx bound k).problems := by
  unfold readOfKind
  split
  · refine lasting_append.2 ⟨lasting_append.2 ⟨lasting_responseType o bound, lasting_lengthToRead o⟩, ?_⟩
    exact lasting_need _ rfl
  · exact lasting_nil

theorem lasting_textToWrite (ctx : Context) (o : Operation) (bound : Option BoundInstruction) :
    Lasting (o.textToWrite ctx bound).problems := by
  simp only [textToWrite]
  split
  · exact lasting_singleton.2 rfl
  · exact lasting_nil

theorem lasting_writeOfKind (ctx : Context) (o : Operation) (bound : Option BoundInstruction) (k : CommandKind) :
    Lasting (o.writeOfKind ctx bound k).problems := by
  unfold writeOfKind
  split
  · exact lasting_textToWrite ctx o bound
  · exact lasting_nil

theorem lasting_compileBound (ctx : Context) (o : Operation) (bound : Option BoundInstruction) :
    Lasting (o.compileBound ctx bound).problems := by
  have hunit : Lasting (Checked.need (ctx.textOf o.unitId) .commandMissingUnit).problems := lasting_need _ rfl
  have hkind := lasting_commandKind o bound
  cases hk : (o.commandKind bound).value with
  | none =>
    rw [compileBound_of_none ctx hk]
    exact lasting_append.2 ⟨hunit, hkind⟩
  | some k =>
    rw [compileBound_of_some ctx hk]
    have hread := lasting_readOfKind ctx o bound k
    have hwrite := lasting_writeOfKind ctx o bound k
    exact lasting_append.2 ⟨lasting_append.2 ⟨lasting_append.2 ⟨hunit, hkind⟩, hread⟩, hwrite⟩

theorem lasting_compileAssignment (b : BoundInstruction) : Lasting (compileAssignment b).problems := by
  unfold compileAssignment
  split <;> simp [Problem.tag?]

theorem lasting_compileNeeding {α : Type} (value : Option α) {p : Problem} (step : α → Step) (h : p.tag? = none) :
    Lasting (compileNeeding value p step).problems := by
  cases value with
  | none => exact lasting_singleton.2 h
  | some _ => exact lasting_nil

theorem lasting_compileReset (ctx : Context) (o : Operation) : Lasting (o.compileReset ctx).problems := by
  unfold compileReset
  split
  · exact lasting_singleton.2 rfl
  · split_ifs
    · exact lasting_compileNeeding _ _ rfl
    · exact lasting_compileNeeding _ _ rfl
    · exact lasting_singleton.2 rfl

/-- tags produced before excuse the references to them, and no other reference -/
theorem tagOrderProblems_filter (produced : List String) (b : BoundInstruction) :
    ((tagOrderProblems [] b).filter fun p => ¬ p.ExcusedBy (· ∈ produced)) = tagOrderProblems produced b := by
  have hexcused : ∀ tag, (Problem.tagNotProduced b.instruction.name tag).ExcusedBy (· ∈ produced) ↔ tag ∈ produced := by
    intro tag
    simp [Problem.ExcusedBy, Problem.tag?]
  simp only [tagOrderProblems, List.filter_map, List.filter_filter]
  congr 2
  funext tag
  simp [hexcused]

variable {catalog : Catalog} {ctx : Context}

theorem compileCommand_problems_filter (produced : List String) (o : Operation) :
    (o.compileCommand catalog ctx produced).problems =
      (o.compileCommand catalog ctx []).problems.filter fun p => ¬ p.ExcusedBy (· ∈ produced) := by
  unfold compileCommand
  split
  · exact ((lasting_compileBound ctx o none).filter_eq _).symm
  · split
    · exact ((lasting_singleton.2 rfl).filter_eq _).symm
    · rename_i r _ _ i _
      have hrest : Lasting (if i.kind = .setVariable then compileAssignment ⟨i, r.arguments⟩
          else o.compileBound ctx (some ⟨i, r.arguments⟩)).problems := by
        split_ifs
        · exact lasting_compileAssignment _
        · exact lasting_compileBound ctx o _
      show _ ++ _ = List.filter _ (_ ++ _)
      rw [List.filter_append, tagOrderProblems_filter, hrest.filter_eq]

/-- **What tags excuse.** The problems of an operation are those that it has alone, without the references to responses
whose tags were produced before. -/
theorem compile_problems_filter (produced : List String) (o : Operation) :
    (o.compile catalog ctx produced).problems =
      (o.compile catalog ctx []).problems.filter fun p => ¬ p.ExcusedBy (· ∈ produced) := by
  have hbyType : ∀ known, (o.compile catalog ctx known).problems = (o.compileByType catalog ctx known).problems := by
    intro known
    simp only [compile]
    split_ifs <;> rfl
  rw [hbyType, hbyType]
  unfold compileByType
  split
  · exact compileCommand_problems_filter produced o
  · exact ((lasting_compileNeeding _ _ rfl).filter_eq _).symm
  · exact ((lasting_compileReset ctx o).filter_eq _).symm
  · exact ((lasting_compileNeeding _ _ rfl).filter_eq _).symm
  · exact ((lasting_singleton.2 rfl).filter_eq _).symm

end Operation

/-! ## The errors of a list -/

open Operation

instance (catalog : Catalog) (ctx : Context) (o : Operation) : DecidablePred (Produces catalog ctx o) :=
  fun tag => decidable_of_iff _ (compile_tag [] o tag)

instance (catalog : Catalog) (ctx : Context) (operations : List Operation) (i : Nat) :
    DecidablePred (ProducedBefore catalog ctx operations i) :=
  fun tag => inferInstanceAs (Decidable (∃ o ∈ operations.take i, Produces catalog ctx o tag))

variable (catalog : Catalog) (ctx : Context)

def SequenceDocument.errors (d : SequenceDocument) : List ValidationError :=
  match d.compile catalog ctx with
  | .ok _ => []
  | .error errors => errors

/-- the errors of an operation that is alone in its sequence -/
def Operation.errors (o : Operation) : List ValidationError :=
  SequenceDocument.errors catalog ctx { operations := [o] }

/-- the errors of an operation in its place: those it has alone that no operation before it excuses -/
def errorsInPlace (operations : List Operation) (o : Operation) (i : Nat) : List ValidationError :=
  ((o.errors catalog ctx).filter fun e => ¬ e.problem.ExcusedBy (ProducedBefore catalog ctx operations i)).map
    fun e => ⟨i, e.problem⟩

/-- the errors at a position of a sequence -/
def SequenceDocument.errorsAt (d : SequenceDocument) (i : Nat) : List ValidationError :=
  (d.errors catalog ctx).filter fun e => e.index = i

variable {catalog ctx}

theorem SequenceDocument.errors_eq (d : SequenceDocument) :
    d.errors catalog ctx = (compileFrom catalog ctx 0 [] d.operations).1 := by
  unfold errors compile compileOperations
  split
  · rename_i plan hplan
    split at hplan
    · rename_i steps hsteps
      rw [hsteps]
    · cases hplan
  · rename_i errors herrors
    split at herrors
    · cases herrors
    · rename_i found steps _ hfound
      obtain rfl : found = errors := Except.error.inj herrors
      rw [hfound]

theorem SequenceDocument.errors_eq_nil_iff (d : SequenceDocument) :
    d.errors catalog ctx = [] ↔ ∃ plan, d.compile catalog ctx = .ok plan := by
  constructor
  · intro h
    rw [errors_eq] at h
    cases hfrom : compileFrom catalog ctx 0 [] d.operations with
    | mk errors steps =>
      obtain rfl : errors = [] := by simpa [hfrom] using h
      exact ⟨⟨steps, d.respondInBulk⟩, by simp [compile, compileOperations, hfrom, Except.map]⟩
  · rintro ⟨plan, hplan⟩
    rw [errors, hplan]

theorem Operation.errors_eq (o : Operation) :
    o.errors catalog ctx = (o.compile catalog ctx []).problems.map (ValidationError.mk 0) := by
  rw [errors, SequenceDocument.errors_eq, compileFrom, compileFrom]
  exact List.append_nil _

theorem errorsInPlace_eq (operations : List Operation) (o : Operation) (i : Nat) :
    errorsInPlace catalog ctx operations o i =
      ((o.compile catalog ctx []).problems.filter fun p =>
        ¬ p.ExcusedBy (ProducedBefore catalog ctx operations i)).map (ValidationError.mk i) := by
  rw [errorsInPlace, Operation.errors_eq, List.filter_map, List.map_map]
  rfl

/-- **One scan.** What the compiler reports of the rest of a list, when it knows the tags of the operations before, are
the errors of each operation in its place. -/
theorem compileFrom_errors (before rest : List Operation) (produced : List String)
    (hproduced : ∀ tag, tag ∈ produced ↔ ∃ o ∈ before, Produces catalog ctx o tag) :
    (compileFrom catalog ctx before.length produced rest).1 =
      (rest.zipIdx before.length).flatMap fun x => errorsInPlace catalog ctx (before ++ rest) x.1 x.2 := by
  induction rest generalizing before produced with
  | nil => rfl
  | cons o rest ih =>
    have hbefore : ProducedBefore catalog ctx (before ++ o :: rest) before.length = (· ∈ produced) := by
      funext tag
      rw [ProducedBefore, List.take_left' rfl]
      exact propext (hproduced tag).symm
    have hhead : ((o.compile catalog ctx produced).problems.map (ValidationError.mk before.length)) =
        errorsInPlace catalog ctx (before ++ o :: rest) o before.length := by
      rw [errorsInPlace_eq, compile_problems_filter]
      congr 2
      funext p
      simp only [hbefore]
    have hafter : ∀ tag, tag ∈ (o.compile catalog ctx produced).tagsAfter produced ↔
        ∃ o' ∈ before ++ [o], Produces catalog ctx o' tag := by
      intro tag
      have htag : (tag ∈ (o.compile catalog ctx produced).tagsAfter produced) =
          (Produces catalog ctx o tag ∨ tag ∈ produced) := congrFun (mem_tagsAfter produced o) tag
      simp only [htag, hproduced, List.mem_append, List.mem_singleton, or_and_right, exists_or, exists_eq_left]
      exact Or.comm
    have htail := ih (before ++ [o]) _ hafter
    rw [List.length_append, List.length_singleton, List.append_assoc, List.singleton_append] at htail
    rw [compileFrom, List.zipIdx_cons, List.flatMap_cons, ← hhead, ← htail]

/-- the errors of a sequence, operation by operation -/
theorem SequenceDocument.errors_eq_flatMap (d : SequenceDocument) :
    d.errors catalog ctx = d.operations.zipIdx.flatMap fun x => errorsInPlace catalog ctx d.operations x.1 x.2 := by
  rw [errors_eq]
  exact compileFrom_errors [] d.operations [] (by simp)

/-! ## Errors by position -/

theorem index_of_mem_errorsInPlace {operations : List Operation} {o : Operation} {i : Nat} {e : ValidationError}
    (h : e ∈ errorsInPlace catalog ctx operations o i) : e.index = i := by
  obtain ⟨_, -, rfl⟩ := List.mem_map.1 h
  rfl

/-- of lists of errors, each with its own position, a position selects its own -/
theorem filter_flatMap_zipIdx {α : Type} {f : α × Nat → List ValidationError} (hf : ∀ x, ∀ e ∈ f x, e.index = x.2)
    (xs : List α) (first i : Nat) :
    ((xs.zipIdx first).flatMap f).filter (fun e => e.index = first + i) =
      (xs[i]?.map fun x => f (x, first + i)).getD [] := by
  induction xs generalizing first i with
  | nil => rfl
  | cons x xs ih =>
    rw [List.zipIdx_cons, List.flatMap_cons, List.filter_append]
    cases i with
    | zero =>
      have hhead : (f (x, first)).filter (fun e => e.index = first + 0) = f (x, first) :=
        List.filter_eq_self.2 fun e he => decide_eq_true (hf _ e he)
      have hrest : ((xs.zipIdx (first + 1)).flatMap f).filter (fun e => e.index = first + 0) = [] := by
        refine List.filter_eq_nil_iff.2 fun e he => ?_
        obtain ⟨y, hy, hey⟩ := List.mem_flatMap.1 he
        have hlater := List.le_snd_of_mem_zipIdx hy
        have hindex := hf y e hey
        simp only [decide_eq_true_eq]
        omega
      rw [hhead, hrest, List.append_nil]
      rfl
    | succ i =>
      have hhead : (f (x, first)).filter (fun e => e.index = first + (i + 1)) = [] := by
        refine List.filter_eq_nil_iff.2 fun e he => ?_
        have hindex := hf _ e he
        simp only [decide_eq_true_eq]
        omega
      have hrest := ih (first + 1) i
      rw [Nat.add_right_comm, Nat.add_assoc] at hrest
      rw [hhead, List.nil_append, hrest, List.getElem?_cons_succ]

theorem SequenceDocument.errorsAt_eq (d : SequenceDocument) (i : Nat) :
    d.errorsAt catalog ctx i =
      (d.operations[i]?.map fun o => errorsInPlace catalog ctx d.operations o i).getD [] := by
  have hselect := filter_flatMap_zipIdx
    (f := fun x : Operation × Nat => errorsInPlace catalog ctx d.operations x.1 x.2)
    (fun _ _ he => index_of_mem_errorsInPlace he) d.operations 0 i
  rw [errorsAt, errors_eq_flatMap]
  simpa only [Nat.zero_add] using hselect

/-- an operation has the same errors in two sequences where the same tags are produced before it -/
theorem SequenceDocument.errorsAt_congr {d d' : SequenceDocument} {i : Nat}
    (hoperation : d.operations[i]? = d'.operations[i]?)
    (htags : ∀ tag, ProducedBefore catalog ctx d.operations i tag ↔ ProducedBefore catalog ctx d'.operations i tag) :
    d.errorsAt catalog ctx i = d'.errorsAt catalog ctx i := by
  have hbefore : ProducedBefore catalog ctx d.operations i = ProducedBefore catalog ctx d'.operations i :=
    funext fun tag => propext (htags tag)
  rw [errorsAt_eq, errorsAt_eq, hoperation]
  congr 2
  funext o
  rw [errorsInPlace_eq, errorsInPlace_eq]
  congr 2
  funext p
  simp only [hbefore]

/-- a change of one item changes what a list has of something only as far as it changes what the item has of it -/
theorem exists_mem_set_iff {α : Type} {P : α → Prop} {xs : List α} {k : Nat} {x x' : α} (hx : xs[k]? = some x)
    (h : P x ↔ P x') : (∃ y ∈ xs.set k x', P y) ↔ ∃ y ∈ xs, P y := by
  induction xs generalizing k with
  | nil => cases hx
  | cons y xs ih =>
    cases k with
    | zero =>
      obtain rfl : y = x := Option.some.inj hx
      simp only [List.set_cons_zero, List.mem_cons, exists_eq_or_imp, h]
    | succ k =>
      have hrest := ih (k := k) hx
      simp only [List.set_cons_succ, List.mem_cons, exists_eq_or_imp, hrest]

/-- what is produced before a position is the same after a change of one operation, if this comes later or keeps its
tag -/
theorem producedBefore_set {operations : List Operation} {k j : Nat} {o o' : Operation} {tag : String}
    (ho : operations[k]? = some o)
    (h : j ≤ k ∨ (Produces catalog ctx o tag ↔ Produces catalog ctx o' tag)) :
    ProducedBefore catalog ctx (operations.set k o') j tag ↔ ProducedBefore catalog ctx operations j tag := by
  unfold ProducedBefore
  rw [List.take_set]
  by_cases hjk : j ≤ k
  · have hlength : (operations.take j).length ≤ k := Nat.le_trans (List.length_take_le j operations) hjk
    rw [List.set_eq_of_length_le hlength]
  · have hk : (operations.take j)[k]? = some o := by rw [List.getElem?_take_of_lt (Nat.lt_of_not_le hjk), ho]
    exact exists_mem_set_iff hk (h.resolve_left hjk)

/-- **Errors are local and complete.** For every catalog and context:
- the errors of a sequence are the errors of its operations, in their order, where each list is that of the operation
  alone, at its position, without the references to responses whose tags an operation before produces;
- a sequence has a plan if and only if it has no errors;
- whether an operation produces a tag, and which one, depends on this operation alone, whatever was produced before and
  whatever errors it has;
- after a change of one operation another one has the same errors as before, if it comes earlier, or if the change
  keeps what the changed operation produces. -/
theorem errors_are_local (catalog : Catalog) (ctx : Context) :
    (∀ d : SequenceDocument, d.errors catalog ctx = d.operations.zipIdx.flatMap fun (o, i) =>
      ((o.errors catalog ctx).filter fun e => ¬ e.problem.ExcusedBy (ProducedBefore catalog ctx d.operations i)).map
        fun e => ⟨i, e.problem⟩) ∧
    (∀ d : SequenceDocument, d.errors catalog ctx = [] ↔ ∃ plan, d.compile catalog ctx = .ok plan) ∧
    (∀ (o : Operation) (produced : List String) (tag : String),
      (o.compile catalog ctx produced).tag = some tag ↔ Produces catalog ctx o tag) ∧
    ∀ (d : SequenceDocument) (k j : Nat) (o o' : Operation), d.operations[k]? = some o → j ≠ k →
      (j < k ∨ ∀ tag, Produces catalog ctx o tag ↔ Produces catalog ctx o' tag) →
      ({ d with operations := d.operations.set k o' } : SequenceDocument).errorsAt catalog ctx j =
        d.errorsAt catalog ctx j := by
  refine ⟨fun d => d.errors_eq_flatMap, fun d => d.errors_eq_nil_iff, fun o produced tag => compile_tag produced o tag,
    fun d k j o o' ho hjk htags => ?_⟩
  refine SequenceDocument.errorsAt_congr (List.getElem?_set_ne hjk.symm) fun tag => producedBefore_set ho ?_
  rcases htags with hlt | hsame
  · exact .inl (Nat.le_of_lt hlt)
  · exact .inr (hsame tag)

def notedInstruction : Instruction :=
  { id := "i-noted", name := "Noted", kind := .write, command := "NOTE"
    postParameters := some [{ id := "p", kind := .storedResponse, responseTag := some "volts" }] }

def notedCatalog : Catalog := .ofLibrary { instructions := [notedInstruction] }

def notedWrite (unitId : Bindable) : Operation :=
  { kind := some "command", unitId, instruction := some ⟨"i-noted", []⟩ }

/-- a read without a unit, which stores a response nevertheless, and two writes that refer to it; the second one has no
unit either -/
def faultyDocument : SequenceDocument where
  operations := [
    { kind := some "command", commandType := some "read", readDataType := some "number"
      responseTag := ⟨some (.str "volts"), .literal⟩ },
    notedWrite ⟨some (.str "DMM1"), .literal⟩,
    notedWrite {}]

/-- **Each fault is reported once**: the writes are faulty when they are alone, but not where they stand, and a change
of the first write leaves the errors of the second one as they are -/
theorem faulty_operations_reported :
    faultyDocument.errors notedCatalog {} = [⟨0, .commandMissingUnit⟩, ⟨2, .commandMissingUnit⟩] ∧
    (notedWrite {}).errors notedCatalog {} = [⟨0, .tagNotProduced "Noted" "volts"⟩, ⟨0, .commandMissingUnit⟩] ∧
    ({ operations := faultyDocument.operations.set 1 {} } : SequenceDocument).errorsAt notedCatalog {} 2 =
      [⟨2, .commandMissingUnit⟩] := by
  obtain ⟨hlocal, -, htag, hchange⟩ := errors_are_local notedCatalog {}
  have herrors : faultyDocument.errors notedCatalog {} = [⟨0, .commandMissingUnit⟩, ⟨2, .commandMissingUnit⟩] := by
    rw [hlocal]
    decide +kernel
  refine ⟨herrors, by decide +kernel, ?_⟩
  have hsilent : ∀ tag, Operation.Produces notedCatalog {} (notedWrite ⟨some (.str "DMM1"), .literal⟩) tag ↔
      Operation.Produces notedCatalog {} {} tag := by
    intro tag
    have hwrite : ((notedWrite ⟨some (.str "DMM1"), .literal⟩).compile notedCatalog {} []).tag = none := by
      decide +kernel
    have hnothing : (({} : Operation).compile notedCatalog {} []).tag = none := by decide +kernel
    rw [← htag _ [], ← htag _ [], hwrite, hnothing]
  have hkept := hchange faultyDocument 1 2 _ {} rfl (by decide) (.inr hsilent)
  have hbefore : faultyDocument.errorsAt notedCatalog {} 2 = [⟨2, .commandMissingUnit⟩] := by
    rw [SequenceDocument.errorsAt, herrors]
    rfl
  exact hkept.trans hbefore

end CalBench
