/-
Payloads that compile back.

The form in which a plan is sent downstream and the form in which a sequence is authored are two records. What the first
one writes is read by the second one as an operation that holds the same values, each of them as a literal
(`ResolvedOperation.authored`). A literal needs no context, and a command without an instruction needs no catalog.
A plan of such commands, resets and triggers is therefore the plan of its own payload, whoever compiles it.

Results:
- `decode_payload`: the document of a payload is read as the sequence of its operations as authored, if every length
  in it is one that an author can write;
- `Becomes.authored`: a step without an instruction that is no delay is what its own resolved form becomes, with any
  catalog, any context and any tags produced before;
- `payload_compiles_to_plan`: a compiled plan of such steps is the plan of its payload.
Witness `bound_payload_compiles`.
-/
import CalBench.Json.Reader
import CalBench.Proofs.Json.RoundTrip
import CalBench.Proofs.Sequence.TagOrder

namespace CalBench

open Json Codec Json.Members

/-! ## Values of one type that are read as another -/

section Retyped

variable {α β : Type} [Codec α] [Codec β]

/-- the document of a value is read as its image, which is not written as null -/
def ReadAs (f : α → β) (a : α) : Prop := decode (encode a) = some (f a) ∧ encode a ≠ .null

theorem present?_readAs {f : α → β} {o : Option α} (h : ∀ a ∈ o, ReadAs f a) :
    present? (o.map encode) = some (o.map f) := by
  cases o with
  | none => rfl
  | some a =>
    obtain ⟨hread, hnull⟩ := h a rfl
    rw [Option.map_some, present?, hread, Option.map_some, Option.map_some]
    exact hnull

/-- a list is read as the list of what its items are read as -/
theorem decode_list_eq {f : α → β} {xs : List α} (h : ∀ x ∈ xs, decode (encode x) = some (f x)) :
    decode (encode xs) = some (xs.map f) := by
  show mapM? decode (xs.map encode) = _
  induction xs with
  | nil => rfl
  | cons x xs ih =>
    have hx := h x List.mem_cons_self
    have hxs := ih fun y hy => h y (List.mem_cons_of_mem x hy)
    rw [List.map_cons, mapM?, hx, hxs, List.map_cons]

end Retyped

/-- a text is its own document -/
theorem readAs_text (s : String) : ReadAs (β := Json) encode s := ⟨rfl, Json.noConfusion⟩

/-- so is a number -/
theorem readAs_number (n : UInt64) : ReadAs (β := Json) encode n := ⟨rfl, Json.noConfusion⟩

theorem readAs_responseType (t : ResponseType) : ReadAs ResponseType.name t := ⟨rfl, Json.noConfusion⟩

/-- a length as an author writes it -/
def authoredLength (n : UInt64) : Int64 := .ofInt n.toNat

theorem readAs_length {n : UInt64} (h : n.toNat < Nat.pow 2 63) : ReadAs authoredLength n := by
  refine ⟨?_, Json.noConfusion⟩
  have hleast : -(Nat.pow 2 63 : Int) ≤ n.toNat := by omega
  have hlargest : (n.toNat : Int) ≤ (Nat.pow 2 63 : Int) - 1 := by omega
  show (intWithin? (-(Nat.pow 2 63 : Int)) ((Nat.pow 2 63 : Int) - 1) (.int n.toNat)).map Int64.ofInt = _
  simp only [intWithin?, int?, Option.filter_some, hleast, hlargest, decide_true, Bool.and_self, if_true,
    Option.map_some, authoredLength]

/-! ## Resolved operations as authored -/

def Bindable.ofValue {α : Type} [Codec α] (o : Option α) : Bindable := ⟨o.map encode, .literal⟩

def ResolvedOperation.authored (r : ResolvedOperation) : Operation where
  kind := some r.kind
  unitId := .ofValue r.unitId
  commandType := r.commandType
  writeData := .ofValue r.writeData
  readDataType := r.readDataType.map ResponseType.name
  useReadLength := r.useReadLength
  readLength := r.readLength.map authoredLength
  responseTag := .ofValue r.responseTag
  delay := .ofValue r.delay
  resetType := r.resetType
  interfaceId := .ofValue r.interfaceId

/-- the length, if there is one, is one that an author can write -/
def ResolvedOperation.Readable (r : ResolvedOperation) : Prop := ∀ n ∈ r.readLength, n.toNat < Nat.pow 2 63

/-- **A resolved operation is read as the authored one.** The two records agree on the names of all fields, and on
which of them may be left out. -/
theorem decode_resolved {r : ResolvedOperation} (h : r.Readable) : decode (encode r) = some r.authored := by
  have htext : ∀ o : Option String, present? (o.map encode) = some (o.map encode : Option Json) :=
    fun o => present?_readAs fun s _ => readAs_text s
  have hnumber : ∀ o : Option UInt64, present? (o.map encode) = some (o.map encode : Option Json) :=
    fun o => present?_readAs fun n _ => readAs_number n
  have htype := present?_readAs (o := r.readDataType) fun t _ => readAs_responseType t
  have hlength := present?_readAs (o := r.readLength) fun n hn => readAs_length (h n hn)
  have htypeName : present? (some (encode r.kind)) = some (some r.kind) := rfl
  have habsent : present? none = some (none : Option InstructionReference) := rfl
  have hliteral : (Option.elim none (some BindingKind.literal) decode) = some BindingKind.literal := rfl
  unfold instCodecOperation instCodecResolvedOperation
  simp only [↓andThen_eq_some_iff]
  simp [Bindable.ofMembers, Bindable.kindNames, ResolvedOperation.authored, Bindable.ofValue, htext, hnumber, htype,
    hlength, htypeName, habsent, hliteral]

def SequencePayload.authored (p : SequencePayload) : SequenceDocument :=
  ⟨p.respondInBulk, p.operations.map ResolvedOperation.authored⟩

theorem decode_payload {p : SequencePayload} (h : ∀ r ∈ p.operations, r.Readable) :
    decode (encode p) = some p.authored := by
  have hoperations := decode_list_eq fun r hr => decode_resolved (h r hr)
  unfold instCodecSequenceDocument instCodecSequencePayload
  simp only [↓andThen_eq_some_iff]
  simp [hoperations, SequencePayload.authored]

/-! ## Steps that their resolved forms become -/

/-- the step is bound to no instruction and is no delay -/
structure Step.Plain (s : Step) : Prop where
  unbound : s.source? = none
  undelayed : ∀ d, s ≠ .delay d

instance : (s : Step) → Decidable s.Plain
  | .command c => decidable_of_iff (c.instruction = none) ⟨fun h => ⟨h, fun _ => Step.noConfusion⟩, fun h => h.unbound⟩
  | .setVariable _ _ => isFalse fun h => nomatch h.unbound
  | .delay d => isFalse fun h => h.undelayed d rfl
  | .resetDevice _ | .resetInterface _ | .trigger _ => isTrue ⟨rfl, fun _ => Step.noConfusion⟩

namespace Operation

variable {ctx : Context} {o : Operation}

theorem standsFor_ofValue (ctx : Context) {s : String} (h : Text.isBlankText s = false) :
    StandsFor ctx (.ofValue (some s)) s :=
  ⟨Context.textOf_literal ctx h, h⟩

theorem ofAuthorName?_name (t : ResponseType) : ResponseType.ofAuthorName? t.name = some t := by
  cases t <;> decide +kernel

theorem name_ne_empty (t : ResponseType) : t.name ≠ "" := by
  cases t <;> decide

/-- the length of a response fits into the integers that an author writes it in -/
theorem HasLength.small {n : Nat} (h : HasLength o (some n)) : n < Nat.pow 2 63 := by
  cases h with
  | fixed m =>
    have hm : m.toInt < 2 ^ 63 := m.toInt_lt
    have hpow : (Nat.pow 2 63 : Int) = 2 ^ 63 := by decide
    omega

theorem HasLength.positive {n : Nat} (h : HasLength o (some n)) : 0 < n := by
  cases h with
  | fixed m _ _ hm =>
    have hpos : 0 < m.toInt := Int64.lt_iff_toInt_lt.1 hm
    omega

/-- a length is written and read back without a change -/
theorem toInt_authoredLength {n : Nat} (h : n < Nat.pow 2 63) : (authoredLength n.toUInt64).toInt = n := by
  have hpow : Nat.pow 2 63 = 2 ^ 63 := rfl
  have hn : n.toUInt64.toNat = n := by
    rw [UInt64.toNat_ofNat']
    exact Nat.mod_eq_of_lt (by omega)
  rw [authoredLength, hn]
  exact Int64.toInt_ofInt_of_le (by omega) (by omega)

/-- the response of a command is collected as before -/
theorem Reads.authored {r : ReadSpec} {c : Command} (h : Reads ctx o none r) (hr : c.read = some r) (ctx' : Context) :
    Reads ctx' (Step.command c).resolved.authored none r := by
  have htype : (Step.command c).resolved.authored.readDataType = some r.type.name := by
    simp [ResolvedOperation.authored, Step.resolved, hr]
  have htag : (Step.command c).resolved.authored.responseTag = .ofValue (some r.tag) := by
    simp [ResolvedOperation.authored, Step.resolved, hr]
  have huse : (Step.command c).resolved.authored.useReadLength = some r.length.isSome := by
    simp [ResolvedOperation.authored, Step.resolved, hr]
  have hlength : (Step.command c).resolved.authored.readLength =
      r.length.map fun n => authoredLength n.toUInt64 := by
    simp only [ResolvedOperation.authored, Step.resolved, hr, Option.bind_some, Option.map_map]
    rfl
  refine ⟨.named _ htype (name_ne_empty _) (ofAuthorName?_name _), ?_, htag ▸ standsFor_ofValue ctx' h.tag.2⟩
  cases hl : r.length with
  | none =>
    rw [hl] at huse
    exact .terminated (by simp [huse])
  | some n =>
    rw [hl] at huse hlength
    have hold : HasLength o (some n) := hl ▸ h.length
    have hback := toInt_authoredLength hold.small
    have hpos : 0 < authoredLength n.toUInt64 := by
      rw [Int64.lt_iff_toInt_lt, hback]
      exact Int.natCast_pos.2 hold.positive
    have hfixed := HasLength.fixed _ huse hlength hpos
    rwa [hback, Int.toNat_natCast] at hfixed

/-- a command without an instruction is what its own resolved form becomes -/
theorem Commands.authored {c : Command} (h : Commands ctx o none c) (ctx' : Context) :
    Commands ctx' (Step.command c).resolved.authored none c := by
  refine ⟨standsFor_ofValue ctx' h.unit.2, .named rfl, ?_, ?_, h.instruction, h.attempts, h.before, h.after⟩
  · have hread := h.read
    by_cases hk : c.kind.reads = true
    · rw [if_pos hk] at hread ⊢
      obtain ⟨r, hr, hreads⟩ := hread
      exact ⟨r, hr, hreads.authored hr ctx'⟩
    · rw [if_neg hk] at hread ⊢
      exact hread
  · have hwrite := h.write
    by_cases hk : c.kind.writes = true
    · rw [if_pos hk] at hwrite ⊢
      obtain ⟨hdata, ⟨s, hs⟩ | hbound⟩ := hwrite
      · have hwritten : c.writeData = some s := hdata.trans hs.1
        have hfield : (Step.command c).resolved.authored.writeData = .ofValue (some s) := by
          simp [ResolvedOperation.authored, Step.resolved, hwritten]
        have hstands := standsFor_ofValue ctx' hs.2
        rw [← hfield] at hstands
        exact ⟨hwritten.trans hstands.1.symm, .inl ⟨s, hstands⟩⟩
      · exact absurd rfl hbound
    · rw [if_neg hk] at hwrite ⊢
      exact hwrite

variable {catalog : Catalog} {produced : String → Prop} {s : Step}

/-- **A plain step is what its own resolved form becomes**, with any catalog, any context and any tags before -/
theorem Becomes.authored (h : Becomes catalog ctx produced o s) (hs : s.Plain) (catalog' : Catalog) (ctx' : Context)
    (produced' : String → Prop) : Becomes catalog' ctx' produced' s.resolved.authored s := by
  cases h with
  | plain c _ _ hc => exact .plain c rfl rfl (hc.authored ctx')
  | instructed r i c _ _ _ _ _ hc =>
    have hsource : c.instruction = none := hs.unbound
    rw [hc.instruction] at hsource
    cases hsource
  | assignment => cases hs.unbound
  | delay => exact absurd rfl (hs.undelayed _)
  | resetDevice unit _ _ hu => exact .resetDevice unit rfl rfl (standsFor_ofValue ctx' hu.2)
  | resetInterface name _ _ hn => exact .resetInterface name rfl rfl (standsFor_ofValue ctx' hn.2)
  | trigger unit _ hu => exact .trigger unit rfl (standsFor_ofValue ctx' hu.2)

/-- the length in the resolved form of a step is one that an author can write -/
theorem Becomes.readable (h : Becomes catalog ctx produced o s) : s.resolved.Readable := by
  -- whatever instruction a command has: its length is that of a response that its operation asks for
  have hcommand : ∀ bound c, Commands ctx o bound c → (Step.command c).resolved.Readable := by
    intro bound c hc n hn
    obtain ⟨m, hm, rfl⟩ := Option.map_eq_some_iff.1 hn
    obtain ⟨r, hr, hlength⟩ := Option.bind_eq_some_iff.1 hm
    have hread := hc.read
    split at hread
    · obtain ⟨r', hr', hreads⟩ := hread
      obtain rfl : r = r' := Option.some.inj (hr.symm.trans hr')
      have hsmall := HasLength.small (hlength ▸ hreads.length)
      exact Nat.lt_of_le_of_lt (Nat.mod_le _ _) hsmall
    · rw [hr] at hread
      cases hread
  cases h with
  | plain c _ _ hc => exact hcommand _ c hc
  | instructed r i c _ _ _ _ _ hc => exact hcommand _ c hc
  | assignment | delay | resetDevice | resetInterface | trigger => exact fun n hn => nomatch hn

end Operation

/-! ## Plans -/

section Plans

variable {catalog : Catalog} {ctx : Context} {produced : String → Prop} {operations : List Operation}
  {steps : List Step}

theorem BecomeAll.readable (h : BecomeAll catalog ctx produced operations steps) :
    ∀ s ∈ steps, s.resolved.Readable := by
  induction h with
  | nil => exact fun s hs => nomatch hs
  | cons h _ ih =>
    intro s hs
    rcases List.mem_cons.1 hs with rfl | hs
    · exact h.readable
    · exact ih s hs

/-- plain steps are what their resolved forms become, one after the other -/
theorem BecomeAll.authored (h : BecomeAll catalog ctx produced operations steps) (hplain : ∀ s ∈ steps, s.Plain)
    (catalog' : Catalog) (ctx' : Context) (produced' : String → Prop) :
    BecomeAll catalog' ctx' produced' (steps.map fun s => s.resolved.authored) steps := by
  induction h generalizing produced' with
  | nil => exact .nil _
  | cons h _ ih =>
    have hs := h.authored (hplain _ List.mem_cons_self) catalog' ctx' produced'
    exact .cons hs (ih (fun s hs => hplain s (List.mem_cons_of_mem _ hs)) _)

/-- **The payload of a plan loses nothing.** Take a compiled plan of resets, triggers and commands without an
instruction. The document of its payload is read as a sequence, from every text that holds it; and with every catalog
and every context this sequence compiles to the same plan. -/
theorem payload_compiles_to_plan {d : SequenceDocument} {plan : Plan} (h : d.compile catalog ctx = .ok plan)
    (hplain : ∀ s ∈ plan.steps, s.Plain) :
    ∃ d' : SequenceDocument, decode (encode plan.payload) = some d' ∧
      (∀ text, parseAs? (shape SequenceDocument) text = some (encode plan.payload) →
        read? SequenceDocument text = some d') ∧
      ∀ (catalog' : Catalog) (ctx' : Context), d'.compile catalog' ctx' = .ok plan := by
  obtain ⟨-, hall⟩ := (compile_eq_ok_iff d plan).1 h
  have hreadable : ∀ r ∈ plan.payload.operations, r.Readable := by
    intro r hr
    obtain ⟨s, hs, rfl⟩ := List.mem_map.1 hr
    exact hall.readable s hs
  have hdecode := decode_payload hreadable
  refine ⟨plan.payload.authored, hdecode, fun text htext => ?_, fun catalog' ctx' => ?_⟩
  · rw [read?, htext, Option.bind_some, hdecode]
  · have hback := hall.authored hplain catalog' ctx' fun _ => False
    refine (compile_eq_ok_iff _ plan).2 ⟨rfl, ?_⟩
    rw [SequencePayload.authored, Plan.payload, List.map_map]
    exact hback

/-- a query whose unit is a flow value and whose text is a number, a read of a fixed length, and two resets, one of
them of an interface that the environment names -/
def boundDocument : SequenceDocument where
  respondInBulk := true
  operations := [
    { kind := some "command", unitId := ⟨some (.str "meter"), .flow⟩, commandType := some "query"
      writeData := ⟨some (.int 7), .literal⟩, readDataType := some "Double"
      responseTag := ⟨some (.str "msg.tag"), .msg⟩ },
    { kind := some "command", unitId := ⟨some (.str "meter"), .flow⟩, commandType := some "read"
      readDataType := some "byteArray", useReadLength := some true, readLength := some 16
      responseTag := ⟨some (.str "block"), .literal⟩ },
    { kind := some "reset", unitId := ⟨some (.str "meter"), .flow⟩, resetType := some "device" },
    { kind := some "reset", interfaceId := ⟨some (.str "BUS"), .env⟩, resetType := some "interface" },
    { kind := some "trigger", unitId := ⟨some (.str "meter"), .flow⟩ }]

def boundContext : Context where
  message := .obj [("tag", .str "volts")]
  flow := .ofList [("meter", .str "DMM1")]
  env := .ofList [("BUS", "GPIB0")]

def boundPlan : Plan where
  respondInBulk := true
  steps := [
    .command (Operation.assemble none "DMM1" .query (some ⟨.number, none, "volts"⟩) (some "7")),
    .command (Operation.assemble none "DMM1" .read (some ⟨.binary, some 16, "block"⟩) none),
    .resetDevice "DMM1", .resetInterface "GPIB0", .trigger "DMM1"]

/-- **A plan of bound values compiles back** without the values that it was bound to: with an empty library and an
empty context -/
theorem bound_payload_compiles :
    boundDocument.compile (.ofLibrary {}) boundContext = .ok boundPlan ∧ (∀ s ∈ boundPlan.steps, s.Plain) ∧
    ∃ d' : SequenceDocument, decode (encode boundPlan.payload) = some d' ∧
      d'.compile (.ofLibrary {}) {} = .ok boundPlan := by
  have hsteps : compileFrom (.ofLibrary {}) boundContext 0 [] boundDocument.operations = ([], boundPlan.steps) := by
    decide +kernel
  have hcompile : boundDocument.compile (.ofLibrary {}) boundContext = .ok boundPlan := by
    rw [SequenceDocument.compile, compileOperations, hsteps]
    rfl
  have hplain : ∀ s ∈ boundPlan.steps, s.Plain := by decide
  obtain ⟨d', hdecode, -, hback⟩ := payload_compiles_to_plan hcompile hplain
  exact ⟨hcompile, hplain, d', hdecode, hback _ _⟩

end Plans

end CalBench
