/-
Values that their documents give back.

A value is `Kept` if it is read from the document that is written of it. Not every value is: a float that is not finite
is written as null, and a document with two members of one name is read as one with a single member. What matters is
that each value that was read from some document is kept (`Stable`), however that document was written. Most types keep
all of their values (`Lossless`).

A field that is absent and a field that is null are read alike. A value of an optional field must therefore not be
written as null either, and this, too, has to be known of values that were read only.

A value that is kept is a value that was read, namely from its own document. To say in other words which values of a
type are kept it is therefore enough to show that all values that are read are such, and that such values are kept.

- `kept_float_iff`, `kept_json_iff`, `kept_list_iff`: which floats, documents and lists are kept;
- `value?_field`, `value?_fieldIfSome` and their companions: what the members of a written record say about a field;
- `required_written`, `defaulted_written`, `optional_written`: what is read of it;
- `Members.kept_of_required`, `Members.kept_of_defaulted`, `Members.keptIfSome_of_optional`: what was read is kept;
- `canonical_canonical`: a document of any shape comes to rest when it is read once.
-/
import CalBench.Json.Record

namespace CalBench

open Json

variable {α : Type} [Codec α]

/-! ## Kept values -/

namespace Codec

/-- the document of a value gives the value back -/
def Kept (a : α) : Prop := decode (encode a) = some a

/-- the value of an optional field, if there is one, is kept and not written as null -/
def KeptIfSome (o : Option α) : Prop := ∀ a ∈ o, Kept a ∧ encode a ≠ .null

/-- all values are kept -/
class Lossless (α : Type) [Codec α] : Prop where
  kept : ∀ a : α, Kept a
  solid : ∀ a : α, encode a ≠ .null

/-- all values that were read are kept -/
class Stable (α : Type) [Codec α] : Prop where
  kept : ∀ {j : Json} {a : α}, decode j = some a → Kept a
  /-- only what was read from null is written as null -/
  solid : ∀ {j : Json} {a : α}, decode j = some a → j ≠ .null → encode a ≠ .null

instance [Lossless α] : Stable α where
  kept _ := Lossless.kept _
  solid _ _ := Lossless.solid _

@[simp] theorem kept_of_lossless [Lossless α] (a : α) : Kept a := Lossless.kept a

@[simp] theorem decode_encode {a : α} (ha : Kept a) : decode (encode a) = some a := ha

@[simp] theorem keptIfSome_of_lossless [Lossless α] (o : Option α) : KeptIfSome o :=
  fun a _ => ⟨Lossless.kept a, Lossless.solid a⟩

/-- **A stable type comes to rest**: what was read and is written is read as the same, and written as the same -/
theorem Stable.rereads [Stable α] {j : Json} {a : α} (h : decode j = some a) :
    decode (encode a) = some a ∧ (decode (encode a) : Option α).map encode = some (encode a) := by
  have hkept : decode (encode a) = some a := Stable.kept h
  exact ⟨hkept, by rw [hkept, Option.map_some]⟩

end Codec

open Codec

/-! ## Texts, numbers and choices -/

instance : Lossless String where
  kept _ := rfl
  solid _ := Json.noConfusion

instance : Lossless Bool where
  kept _ := rfl
  solid _ := Json.noConfusion

instance : Lossless UInt32 where
  kept n := by
    have hn : n.toNat < Nat.pow 2 32 := n.toNat_lt
    show (natBelow? (Nat.pow 2 32) (.int (Int.ofNat n.toNat))).map Nat.toUInt32 = some n
    rw [natBelow?, if_pos hn, Option.map_some]
    exact congrArg some (UInt32.ofNat_toNat)
  solid _ := Json.noConfusion

instance : Lossless UInt64 where
  kept n := by
    have hn : n.toNat < Nat.pow 2 64 := n.toNat_lt
    show (natBelow? (Nat.pow 2 64) (.int (Int.ofNat n.toNat))).map Nat.toUInt64 = some n
    rw [natBelow?, if_pos hn, Option.map_some]
    exact congrArg some (UInt64.ofNat_toNat)
  solid _ := Json.noConfusion

instance : Lossless Int64 where
  kept n := by
    have hleast : -(Nat.pow 2 63 : Int) ≤ n.toInt := n.le_toInt
    have hlargest : n.toInt ≤ (Nat.pow 2 63 : Int) - 1 := Int.le_sub_one_of_lt n.toInt_lt
    show (intWithin? (-(Nat.pow 2 63 : Int)) ((Nat.pow 2 63 : Int) - 1) (.int n.toInt)).map Int64.ofInt = some n
    simp only [intWithin?, int?, Option.filter_some, hleast, hlargest, decide_true, Bool.and_self, if_true,
      Option.map_some, Int64.ofInt_toInt]
  solid _ := Json.noConfusion

/-- a float is kept if it can be written -/
theorem kept_float_iff {x : Float} : Kept x ↔ x.isFinite = true := by
  show (ofFloat x).float? = some x ↔ _
  unfold ofFloat
  by_cases hx : x.isFinite = true
  · simp [hx, float?]
  · simp [hx, float?]

theorem encode_float_ne_null {x : Float} (hx : x.isFinite = true) : Codec.encode x ≠ .null := by
  show ofFloat x ≠ .null
  rw [ofFloat, dif_pos hx]
  exact Json.noConfusion

/-- numbers in documents are finite -/
theorem isFinite_of_float? {j : Json} {x : Float} (h : j.float? = some x) : x.isFinite = true := by
  cases j with
  | int n =>
    rw [float?] at h
    split at h
    · rename_i hn
      cases h
      exact hn
    · cases h
  | float y hy =>
    cases h
    exact hy
  | _ => cases h

instance : Stable Float where
  kept h := kept_float_iff.2 (isFinite_of_float? h)
  solid h _ := encode_float_ne_null (isFinite_of_float? h)

theorem keptIfSome_float_iff {o : Option Float} : KeptIfSome o ↔ ∀ x ∈ o, x.isFinite = true := by
  constructor
  · exact fun h x hx => kept_float_iff.1 (h x hx).1
  · exact fun h x hx => ⟨kept_float_iff.2 (h x hx), encode_float_ne_null (h x hx)⟩

/-! ## Documents of any shape -/

theorem canonicalMembers_consMember {m : String × Json} {rest : Members} (hm : canonical m.2 = m.2)
    (hrest : canonicalMembers rest = rest) : canonicalMembers (consMember m rest) = consMember m rest := by
  unfold consMember
  by_cases hlater : (rest.any fun m' => m'.1 == m.1) = true
  · rw [if_pos hlater, hrest]
  · rw [if_neg hlater, canonicalMembers, hm, hrest, consMember, if_neg hlater]

mutual

/-- **A document is read as one that is read as itself** -/
theorem canonical_canonical : ∀ j : Json, canonical (canonical j) = canonical j
  | .arr items => by rw [canonical, canonical, canonicalItems_canonicalItems items]
  | .obj members => by rw [canonical, canonical, canonicalMembers_canonicalMembers members]
  | .null => rfl
  | .bool _ => rfl
  | .int _ => rfl
  | .float _ _ => rfl
  | .str _ => rfl

theorem canonicalItems_canonicalItems : ∀ items : List Json,
    canonicalItems (canonicalItems items) = canonicalItems items
  | [] => rfl
  | j :: rest => by rw [canonicalItems, canonicalItems, canonical_canonical j, canonicalItems_canonicalItems rest]

theorem canonicalMembers_canonicalMembers : ∀ members : Members,
    canonicalMembers (canonicalMembers members) = canonicalMembers members
  | [] => rfl
  | (name, j) :: rest => by
    rw [canonicalMembers]
    exact canonicalMembers_consMember (canonical_canonical j) (canonicalMembers_canonicalMembers rest)

end

/-- a document is kept if no object in it has two members of one name -/
theorem kept_json_iff {j : Json} : Kept j ↔ canonical j = j :=
  ⟨fun h => Option.some.inj h, fun h => congrArg some h⟩

theorem canonical_ne_null {j : Json} (h : j ≠ .null) : canonical j ≠ .null := by
  cases j with
  | null => exact absurd rfl h
  | _ => rw [canonical]; exact Json.noConfusion

instance : Stable Json where
  kept {j a} h := by
    obtain rfl : j.canonical = a := Option.some.inj h
    exact congrArg some (canonical_canonical j)
  solid {j a} h hj := by
    obtain rfl : j.canonical = a := Option.some.inj h
    exact canonical_ne_null hj

/-! ## Lists -/

theorem mapM?_map_iff {β γ : Type} {f : γ → Option β} {g : β → γ} {xs : List β} :
    mapM? f (xs.map g) = some xs ↔ ∀ x ∈ xs, f (g x) = some x := by
  induction xs with
  | nil => exact ⟨fun _ x hx => absurd hx List.not_mem_nil, fun _ => rfl⟩
  | cons x xs ih =>
    rw [List.forall_mem_cons, ← ih, List.map_cons, mapM?]
    cases f (g x) with
    | none => simp
    | some b => cases mapM? f (xs.map g) <;> simp

theorem exists_of_mem_mapM? {β γ : Type} {f : γ → Option β} {cs : List γ} {xs : List β} (h : mapM? f cs = some xs) :
    ∀ x ∈ xs, ∃ c, f c = some x := by
  induction cs generalizing xs with
  | nil =>
    cases h
    exact fun x hx => absurd hx List.not_mem_nil
  | cons c cs ih =>
    rw [mapM?] at h
    split at h
    · rename_i b bs hb hbs
      cases h
      intro x hx
      rcases List.mem_cons.1 hx with rfl | hx
      · exact ⟨c, hb⟩
      · exact ih hbs x hx
    · cases h

/-- a list is kept if its items are -/
theorem kept_list_iff {xs : List α} : Kept xs ↔ ∀ x ∈ xs, Kept x := mapM?_map_iff

theorem keptIfSome_list_iff {o : Option (List α)} : KeptIfSome o ↔ ∀ xs ∈ o, ∀ x ∈ xs, Kept x := by
  constructor
  · exact fun h xs hxs => kept_list_iff.1 (h xs hxs).1
  · exact fun h xs hxs => ⟨kept_list_iff.2 (h xs hxs), Json.noConfusion⟩

/-- the items of a list that was read were read -/
theorem exists_of_mem_decode {j : Json} {xs : List α} (h : Codec.decode j = some xs) :
    ∀ x ∈ xs, ∃ item, Codec.decode item = some x := by
  obtain ⟨items, -, hitems⟩ := Option.bind_eq_some_iff.1 h
  exact exists_of_mem_mapM? hitems

instance [Lossless α] : Lossless (List α) where
  kept _ := kept_list_iff.2 fun x _ => Lossless.kept x
  solid _ := Json.noConfusion

instance [Stable α] : Stable (List α) where
  kept h := kept_list_iff.2 fun x hx => by
    obtain ⟨item, hitem⟩ := exists_of_mem_decode h x hx
    exact Stable.kept hitem
  solid _ _ := Json.noConfusion

/-! ## Records -/

/-- A reader that goes on after its first part. Records are taken apart with it from the outside in, since the readers
of all later fields stand inside that of the first one. -/
theorem andThen_eq_some_iff {β γ : Type} {x : Option β} {f : β → Option γ} {c : γ} :
    (x >>= f) = some c ↔ ∃ b, x = some b ∧ f b = some c := Option.bind_eq_some_iff

namespace Json

variable {names : List String} {name : String} {fields : List (Option (String × Json))}

def written (fields : List (Option (String × Json))) : Members := fields.filterMap id

@[simp] theorem members?_record : members? names (record fields) = some (written fields) := rfl

@[simp] theorem value?_nil : Members.value? (written []) names = some none := by
  rw [written, List.filterMap_nil, Members.value?, List.filter_nil]

theorem value?_cons_of_notMem {m : String × Json} {members : Members} (h : m.1 ∉ names) :
    Members.value? (m :: members) names = Members.value? members names := by
  have hname : names.contains m.1 = false := by simpa using h
  rw [Members.value?, Members.value?, List.filter_cons, hname]
  rfl

theorem value?_cons_of_mem {m : String × Json} {members : Members} (h : m.1 ∈ names)
    (hrest : Members.value? members names = some none) : Members.value? (m :: members) names = some (some m.2) := by
  have hname : names.contains m.1 = true := by simpa using h
  have hnone : (members.filter fun m => names.contains m.1) = [] := by
    unfold Members.value? at hrest
    split at hrest
    · assumption
    · cases hrest
    · cases hrest
  rw [Members.value?, List.filter_cons, hname, if_pos rfl, hnone]

@[simp] theorem value?_field_of_notMem {a : α} (h : name ∉ names) :
    Members.value? (written (field name a :: fields)) names = Members.value? (written fields) names :=
  value?_cons_of_notMem (m := (name, Codec.encode a)) h

@[simp] theorem value?_fieldIfSome_of_notMem {o : Option α} (h : name ∉ names) :
    Members.value? (written (fieldIfSome name o :: fields)) names = Members.value? (written fields) names := by
  cases o with
  | none => rfl
  | some a => exact value?_cons_of_notMem (m := (name, Codec.encode a)) h

@[simp] theorem value?_field {a : α} (h : name ∈ names) (hrest : Members.value? (written fields) names = some none) :
    Members.value? (written (field name a :: fields)) names = some (some (Codec.encode a)) :=
  value?_cons_of_mem (m := (name, Codec.encode a)) h hrest

@[simp] theorem value?_fieldIfSome {o : Option α} (h : name ∈ names)
    (hrest : Members.value? (written fields) names = some none) :
    Members.value? (written (fieldIfSome name o :: fields)) names = some (o.map Codec.encode) := by
  cases o with
  | none => exact hrest
  | some a => exact value?_cons_of_mem (m := (name, Codec.encode a)) h hrest

end Json

namespace Json.Members

/-! ### Fields of what was written -/

section Written

variable {names : List String} {fields : List (Option (String × Json))}

/-- the value of a field that may be absent or null -/
def present? : Option Json → Option (Option α)
  | none => some none
  | some .null => some none
  | some j => (Codec.decode j).map some

@[simp] theorem required_written :
    ((written fields).required names : Option α) = ((written fields).value? names).bind (·.bind Codec.decode) := by
  unfold required
  cases (written fields).value? names with
  | none => rfl
  | some v => cases v <;> rfl

@[simp] theorem defaulted_written {d : α} :
    (written fields).defaulted names d = ((written fields).value? names).bind (·.elim (some d) Codec.decode) := by
  unfold defaulted
  cases (written fields).value? names with
  | none => rfl
  | some v => cases v <;> rfl

@[simp] theorem optional_written :
    ((written fields).optional names : Option (Option α)) = ((written fields).value? names).bind present? := by
  unfold optional
  cases (written fields).value? names with
  | none => rfl
  | some v => cases v with
    | none => rfl
    | some j => cases j <;> rfl

@[simp] theorem present?_map_encode {o : Option α} (ho : KeptIfSome o) : present? (o.map Codec.encode) = some o := by
  cases o with
  | none => rfl
  | some a =>
    obtain ⟨hkept, hnull⟩ := ho a rfl
    rw [Option.map_some, present?, hkept, Option.map_some]
    exact hnull

end Written

/-! ### Fields of what was read -/

variable [Stable α] {m : Members} {names : List String}

theorem kept_of_required {a : α} (h : m.required names = some a) : Kept a := by
  unfold required at h
  split at h
  · exact Stable.kept h
  · cases h

theorem kept_of_defaulted {a d : α} (h : m.defaulted names d = some a) (hd : Kept d) : Kept a := by
  unfold defaulted at h
  split at h
  · cases h
    exact hd
  · exact Stable.kept h
  · cases h

theorem keptIfSome_of_optional {o : Option α} (h : m.optional names = some o) : KeptIfSome o := by
  unfold optional at h
  split at h
  · cases h
    exact fun _ ha => nomatch ha
  · cases h
    exact fun _ ha => nomatch ha
  · rename_i j hnull _
    obtain ⟨a, ha, rfl⟩ := Option.map_eq_some_iff.1 h
    rintro a' ⟨⟩
    exact ⟨Stable.kept ha, Stable.solid ha fun hj => hnull hj⟩
  · cases h

end Json.Members

end CalBench
