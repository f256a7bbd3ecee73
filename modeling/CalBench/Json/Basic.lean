/-
Document values.

A `Json` is null, a boolean, a number, a text, a list or an object. Numbers written without fraction
and exponent are integers, all others finite floats; finiteness is part of the value, so every number
can be written. An object keeps its members in the order they were written, repeated names included.
`canonical` keeps one member per name, the last.
-/

namespace CalBench

/-- a document value -/
inductive Json where
  | null
  | bool (b : Bool)
  | int (n : Int)
  | float (x : Float) (finite : x.isFinite = true)
  | str (s : String)
  | arr (items : List Json)
  | obj (members : List (String × Json))

namespace Json

instance : Inhabited Json := ⟨.null⟩

/-- a float as a document value; NaN and the infinities have none and become null -/
def ofFloat (x : Float) : Json := if h : x.isFinite = true then .float x h else .null

def ofNat (n : Nat) : Json := .int n

/-- the numeric value, rounded to a float if it is an integer -/
def float? : Json → Option Float
  | .int n => if (Float.ofInt n).isFinite then some (Float.ofInt n) else none
  | .float x _ => some x
  | _ => none

def str? : Json → Option String
  | .str s => some s
  | _ => none

def bool? : Json → Option Bool
  | .bool b => some b
  | _ => none

def int? : Json → Option Int
  | .int n => some n
  | _ => none

def items? : Json → Option (List Json)
  | .arr items => some items
  | _ => none

/-- the value of the last member with a name -/
def member? (name : String) : Json → Option Json
  | .obj members => (members.reverse.find? fun m => m.1 == name).map Prod.snd
  | _ => none

/-- Puts a member in front unless a later one has its name. -/
def consMember (m : String × Json) (rest : List (String × Json)) : List (String × Json) :=
  if rest.any fun m' => m'.1 == m.1 then rest else m :: rest

mutual

/-- the value with one member per name in every object, the last one written -/
def canonical : Json → Json
  | .arr items => .arr (canonicalItems items)
  | .obj members => .obj (canonicalMembers members)
  | .null => .null
  | .bool b => .bool b
  | .int n => .int n
  | .float x h => .float x h
  | .str s => .str s

def canonicalItems : List Json → List Json
  | [] => []
  | j :: rest => canonical j :: canonicalItems rest

/-- `canonical` on each member, without members that a later one overrides -/
def canonicalMembers : List (String × Json) → List (String × Json)
  | [] => []
  | (name, j) :: rest => consMember (name, canonical j) (canonicalMembers rest)

end

mutual

/-- the value with something else in place of everything that is neither a list nor an object -/
def mapLeaves (f : Json → Json) : Json → Json
  | .arr items => .arr (mapItems f items)
  | .obj members => .obj (mapMembers f members)
  | .null => f .null
  | .bool b => f (.bool b)
  | .int n => f (.int n)
  | .float x h => f (.float x h)
  | .str s => f (.str s)

def mapItems (f : Json → Json) : List Json → List Json
  | [] => []
  | j :: rest => mapLeaves f j :: mapItems f rest

def mapMembers (f : Json → Json) : List (String × Json) → List (String × Json)
  | [] => []
  | (name, j) :: rest => (name, mapLeaves f j) :: mapMembers f rest

end

end Json

end CalBench
