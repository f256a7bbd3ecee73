/-
What the bindable fields of a sequence are bound to.

A `Context` holds the trigger message, the flow and global values and the environment. `resolve` gives
the value a field stands for, nothing if it cannot be reached. A message path is a list of segments
separated by dots, with or without `msg.` in front; a segment selects a member of an object by name or
an item of a list by position, and empty segments are skipped. `resolveText` and `resolveNumber` read
the value as a text that is not blank and as a number.
-/
import CalBench.Sequence.Operation
import CalBench.Table

namespace CalBench

/-- the values that bindable fields can refer to -/
structure Context where
  /-- the message that triggered the run -/
  message : Json := .null
  flow : Table Json := .empty
  global : Table Json := .empty
  env : Table String := .empty
  /-- the environment of the process, behind `env` -/
  environment : Table String := .empty
deriving Inhabited

namespace Json

/-- the part of a value that one segment selects -/
def select? (segment : String) : Json → Option Json
  | .obj members => (Json.obj members).member? segment
  | .arr items => (Number.naturalUpTo? (Nat.pow 2 64 - 1) segment).bind fun i => items[i]?
  | _ => none

/-- the part of a value that a list of segments selects -/
def descend? : List String → Json → Option Json
  | [], j => some j
  | segment :: rest, j => (j.select? segment).bind (descend? rest)

end Json

/-- the pieces of a text between dots -/
def splitDots : List Char → List (List Char)
  | [] => [[]]
  | c :: rest =>
    if c = '.' then [] :: splitDots rest
    else match splitDots rest with
      | piece :: pieces => (c :: piece) :: pieces
      | [] => [[c]]

/-- the segments of a path, without the empty ones -/
def pathSegments (path : List Char) : List String :=
  ((splitDots path).filter fun piece => !piece.isEmpty).map String.ofList

/-- a message path without `msg.` in front -/
def messagePath : List Char → List Char
  | 'm' :: 's' :: 'g' :: '.' :: rest => rest
  | path => path

namespace Context

/-- the value a raw value of some kind stands for -/
def resolve (ctx : Context) (kind : BindingKind) (raw : Option Json) : Option Json :=
  raw.bind fun raw => match kind with
    | .literal => some raw
    | .msg => raw.str?.bind fun path => ctx.message.descend? (pathSegments (messagePath path.toList))
    | .flow => raw.str?.bind ctx.flow.get?
    | .global => raw.str?.bind ctx.global.get?
    | .env => raw.str?.bind fun name => ((ctx.env.get? name).or (ctx.environment.get? name)).map .str
    | .unsupported => none

/-- the value as a text that is not blank; numbers and truth values are written out -/
def resolveText (ctx : Context) (kind : BindingKind) (raw : Option Json) : Option String :=
  (ctx.resolve kind raw).bind fun
    | .str s => if Text.isBlankText s then none else some s
    | .int n => some (Number.intText n)
    | .float x _ => some (Number.documentLayout.write x)
    | .bool b => some (boolText b)
    | _ => none

/-- the value as a number, read from a text if need be -/
def resolveNumber (ctx : Context) (kind : BindingKind) (raw : Option Json) : Option Float :=
  (ctx.resolve kind raw).bind fun
    | .str s => Number.float? (Text.trim s)
    | j => j.float?

/-- the text a field is bound to -/
def textOf (ctx : Context) (b : Bindable) : Option String := ctx.resolveText b.kind b.raw

def numberOf (ctx : Context) (b : Bindable) : Option Float := ctx.resolveNumber b.kind b.raw

end Context

end CalBench
