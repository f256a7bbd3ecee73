/-
Records and their documents.

`Codec α` writes an `α` as a document and reads it back. A record is written as an object with a
member per field; a field without a value has no member. It is read from an object, whose unknown
members are ignored, or from a list with the fields in order. A field may be known under several
names, of which an object may use one. `required`, `optional` and `defaulted` read a field that must
be there, that may be absent or null, and that has a value of its own when absent.
-/
import CalBench.Json.Shape

namespace CalBench

/-- a type with documents: how it is written and how it is read -/
class Codec (α : Type) where
  encode : α → Json
  decode : Json → Option α

namespace Json

/-- Applies a partial function to all items, or to none. -/
def mapM? {α β : Type} (f : α → Option β) : List α → Option (List β)
  | [] => some []
  | a :: rest => match f a, mapM? f rest with
    | some b, some bs => some (b :: bs)
    | _, _ => none

/-- any value is its own document, with one member per name -/
instance : Codec Json := ⟨id, fun j => some j.canonical⟩

instance : Codec String := ⟨.str, str?⟩

instance : Codec Bool := ⟨.bool, bool?⟩

instance : Codec Float := ⟨ofFloat, float?⟩

instance {α : Type} [Codec α] : Codec (List α) :=
  ⟨fun xs => .arr (xs.map Codec.encode), fun j => j.items?.bind (mapM? Codec.decode)⟩

def intWithin? (least largest : Int) (j : Json) : Option Int :=
  j.int?.filter fun n => least ≤ n && n ≤ largest

def natBelow? (bound : Nat) : Json → Option Nat
  | .int (.ofNat n) => if n < bound then some n else none
  | _ => none

instance : Codec UInt8 := ⟨fun n => .int n.toNat, fun j => (natBelow? (Nat.pow 2 8) j).map Nat.toUInt8⟩

instance : Codec UInt16 := ⟨fun n => .int n.toNat, fun j => (natBelow? (Nat.pow 2 16) j).map Nat.toUInt16⟩

instance : Codec UInt32 := ⟨fun n => .int n.toNat, fun j => (natBelow? (Nat.pow 2 32) j).map Nat.toUInt32⟩

instance : Codec UInt64 := ⟨fun n => .int n.toNat, fun j => (natBelow? (Nat.pow 2 64) j).map Nat.toUInt64⟩

instance : Codec Int64 :=
  ⟨fun n => .int n.toInt, fun j => (intWithin? (-(Nat.pow 2 63 : Int)) ((Nat.pow 2 63 : Int) - 1) j).map Int64.ofInt⟩

/-- the name of a choice: a text, or an object with that one name and null -/
def choice? : Json → Option String
  | .str s => some s
  | .obj [(s, .null)] => some s
  | _ => none

/-! ## Members of a record -/

abbrev Members := List (String × Json)

/-- a member that is always written -/
def field {α : Type} [Codec α] (name : String) (value : α) : Option (String × Json) :=
  some (name, Codec.encode value)

/-- a member that is written if there is a value -/
def fieldIfSome {α : Type} [Codec α] (name : String) (value : Option α) : Option (String × Json) :=
  value.map fun v => (name, Codec.encode v)

/-- a member that is always written, null without a value -/
def fieldOrNull {α : Type} [Codec α] (name : String) (value : Option α) : Option (String × Json) :=
  some (name, match value with | some v => Codec.encode v | none => .null)

def record (fields : List (Option (String × Json))) : Json := .obj (fields.filterMap id)

/-- The members of a record's document, given the record's field names in order. -/
def members? (names : List String) : Json → Option Members
  | .obj members => some members
  | .arr items => if items.length ≤ names.length then some (names.zip items) else none
  | _ => none

namespace Members

/-- what the members say about a field with some names: nothing, one value, or a fault -/
def value? (members : Members) (names : List String) : Option (Option Json) :=
  match members.filter fun m => names.contains m.1 with
  | [] => some none
  | [m] => some (some m.2)
  | _ => none

variable {α : Type} [Codec α]

/-- a field that must be there -/
def required (members : Members) (names : List String) : Option α :=
  match members.value? names with
  | some (some j) => Codec.decode j
  | _ => none

/-- a field that may be absent or null -/
def optional (members : Members) (names : List String) : Option (Option α) :=
  match members.value? names with
  | some none => some none
  | some (some .null) => some none
  | some (some j) => (Codec.decode j).map some
  | none => none

/-- a field that has a default -/
def defaulted (members : Members) (names : List String) (value : α) : Option α :=
  match members.value? names with
  | some none => some value
  | some (some j) => Codec.decode j
  | none => none

end Members

end Json

end CalBench
