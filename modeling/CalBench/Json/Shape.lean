/-
How much of a document is looked at.

A record takes notice of the members it knows; whatever else an object holds only has to be well formed.
The `Shape` of a type says which parts of its documents it looks at: all of it, unless the type is a
record or a list. `Shape.item` and `Shape.member` go down into a document, and `Shape.cut` drops the
items of a list that stand for no field of a record.
-/
import CalBench.Json.Basic

namespace CalBench

/-- how much of a document is looked at -/
inductive Json.Shape where
  | nothing
  | whole
  | list (item : Shape)
  /-- a record; per field, in order, its names, the one it is written under first, and so much of its value -/
  | record (fields : List (List String × Shape))

/-- a type that says how much of its documents it looks at -/
class Shaped (α : Type) where
  shape : Json.Shape

export Shaped (shape)

namespace Json

instance (priority := low) {α : Type} : Shaped α := ⟨.whole⟩

instance {α : Type} [Shaped α] : Shaped (List α) := ⟨.list (shape α)⟩

namespace Shape

/-- fields with one name each that are looked at in full -/
def wholes (names : List String) : List (List String × Shape) := names.map fun n => ([n], .whole)

/-- a record of such fields -/
def flat (names : List String) : Shape := .record (wholes names)

/-- the names a record's fields are written under -/
def names : Shape → List String
  | .record fields => fields.filterMap fun f => f.1.head?
  | _ => []

/-- how much of a list's item, given its position, is looked at -/
def item (i : Nat) : Shape → Shape
  | .nothing => .nothing
  | .whole => .whole
  | .list item => item
  | .record fields => (fields[i]?.map Prod.snd).getD .whole

/-- how much of an object's member is looked at -/
def member (name : String) : Shape → Shape
  | .nothing => .nothing
  | .record fields => ((fields.find? fun f => f.1.contains name).map Prod.snd).getD .nothing
  | _ => .whole

/-- the items of a list that stand for something -/
def keep {α : Type} (items : List α) : Shape → List α
  | .record fields => items.take fields.length
  | _ => items

mutual

/-- the value without the surplus items of lists that stand for records -/
def cut (s : Shape) : Json → Json
  | .arr items => .arr (s.keep (cutItems s 0 items))
  | .obj members => .obj (cutMembers s members)
  | .null => .null
  | .bool b => .bool b
  | .int n => .int n
  | .float x h => .float x h
  | .str t => .str t

/-- `cut` on each item, by its position -/
def cutItems (s : Shape) : Nat → List Json → List Json
  | _, [] => []
  | i, j :: rest => cut (s.item i) j :: cutItems s (i + 1) rest

/-- `cut` on each member, by its name -/
def cutMembers (s : Shape) : List (String × Json) → List (String × Json)
  | [] => []
  | (name, j) :: rest => (name, cut (s.member name) j) :: cutMembers s rest

end

end Shape

end Json

end CalBench
