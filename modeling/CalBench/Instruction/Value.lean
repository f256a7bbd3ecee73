/-
The values that go into commands and come out of replies.

An `Argument` fills a parameter of an instruction; a `Reading` is a reply converted to the type its
instruction declares. `ResponseType.convert` reads a reply: surrounding white space is dropped before
a text, a number or a truth value is read, while binary replies are kept byte for byte.
-/
import CalBench.Link.Error
import CalBench.Text.Ascii
import CalBench.Text.Utf8

namespace CalBench

/-- the declared type of a reply -/
inductive ResponseType
  | boolean
  | number
  | string
  | binary
deriving DecidableEq, Repr

/-- a reply, converted -/
inductive Reading
  | boolean (b : Bool)
  | number (x : Float)
  | text (s : String)
  | binary (bytes : Bytes)
deriving DecidableEq, Repr

/-- a value for a parameter -/
inductive Argument
  | boolean (b : Bool)
  | number (x : Float)
  | text (s : String)
deriving DecidableEq, Repr

/-- the words for true and false in replies and arguments: `1`, `true`, `on` and their opposites -/
def truth? (s : String) : Option Bool :=
  let word := Text.lowerAscii s
  if word == "1" || word == "true" || word == "on" then some true
  else if word == "0" || word == "false" || word == "off" then some false
  else none

def ResponseType.convert (type : ResponseType) (raw : Bytes) : Except LinkError Reading :=
  let text := Text.trim (Text.decodeLossy raw)
  match type with
  | .binary => .ok (.binary raw)
  | .string => .ok (.text text)
  | .number => match Number.float? text with
    | some x => .ok (.number x)
    | none => .error (.malformed s!"'{text}' is not a number")
  | .boolean => match truth? text with
    | some b => .ok (.boolean b)
    | none => .error (.malformed s!"'{text}' is not a boolean")

/-- a truth value in texts -/
def boolText (b : Bool) : String := if b then "true" else "false"

namespace Reading

def toText : Reading → String
  | .boolean b => boolText b
  | .number x => Number.text x
  | .text s => s
  | .binary bytes => Text.decodeLossy bytes

def number? : Reading → Option Float
  | .boolean b => some (if b then 1.0 else 0.0)
  | .number x => some x
  | .text s => Number.float? (Text.trim s)
  | .binary _ => none

end Reading

namespace Argument

def toText : Argument → String
  | .boolean b => boolText b
  | .number x => Number.text x
  | .text s => s

/-- the argument as a truth value: a number other than zero is true -/
def truth? : Argument → Option Bool
  | .boolean b => some b
  | .number x => some (x != 0.0)
  | .text s => CalBench.truth? (Text.trim s)

def number? : Argument → Option Float
  | .boolean _ => none
  | .number x => some x
  | .text s => Number.float? (Text.trim s)

end Argument

/-! ## Documents -/

namespace ResponseType

def name : ResponseType → String
  | .boolean => "Boolean"
  | .number => "Number"
  | .string => "String"
  | .binary => "Binary"

def ofName? (s : String) : Option ResponseType :=
  [boolean, number, string, binary].find? fun t => t.name == s

instance : Codec ResponseType := ⟨fun t => .str t.name, fun j => j.choice?.bind ofName?⟩

end ResponseType

instance : Codec Reading where
  encode
    | .boolean b => .bool b
    | .number x => .ofFloat x
    | .text s => .str s
    | .binary bytes => Codec.encode bytes
  decode
    | .bool b => some (.boolean b)
    | .str s => some (.text s)
    | .arr items => (Codec.decode (.arr items)).map .binary
    | j => j.float?.map .number

instance : Codec Argument where
  encode
    | .boolean b => .bool b
    | .number x => .ofFloat x
    | .text s => .str s
  decode
    | .bool b => some (.boolean b)
    | .str s => some (.text s)
    | j => j.float?.map .number

end CalBench
