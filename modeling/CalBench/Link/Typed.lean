/-
Values written at an exact width.

Integers and floats go out with their most significant byte first, texts in one of three encodings. An
encoding that has no code for some character of a text refuses the whole text.
-/
import CalBench.Instruction.Value

namespace CalBench

inductive TextEncoding
  | utf8
  | ascii
  | latin1
deriving DecidableEq, Repr

namespace TextEncoding

def name : TextEncoding → String
  | .utf8 => "utf8"
  | .ascii => "ascii"
  | .latin1 => "latin1"

def ofName? (s : String) : Option TextEncoding := [utf8, ascii, latin1].find? fun e => e.name == s

instance : Codec TextEncoding := ⟨fun e => .str e.name, fun j => j.choice?.bind ofName?⟩

def encode (e : TextEncoding) (s : String) : Except LinkError Bytes :=
  match e with
  | .utf8 => .ok (Text.utf8 s)
  | .ascii =>
    if Text.isAscii s then .ok (Text.utf8 s)
    else .error (.encoding s!"'{s}' cannot be encoded as ASCII")
  | .latin1 =>
    if s.toList.all fun c => c.toNat < 0x100 then .ok (s.toList.map fun c => c.toNat.toUInt8)
    else .error (.encoding s!"'{s}' cannot be encoded as Latin-1")

end TextEncoding

/-- a value to be written; floats are given by their bits, which is what goes out -/
inductive TypedValue
  | i8 (n : Int8)
  | u8 (n : UInt8)
  | i16 (n : Int16)
  | u16 (n : UInt16)
  | i32 (n : Int32)
  | u32 (n : UInt32)
  | i64 (n : Int64)
  | u64 (n : UInt64)
  | f32 (bits : UInt32)
  | f64 (bits : UInt64)
  | text (s : String) (encoding : TextEncoding)
deriving DecidableEq, Repr

/-- the bytes of a number, the most significant first -/
def bigEndian : Nat → Nat → Bytes
  | 0, _ => []
  | width + 1, n => (n / Nat.pow 256 width).toUInt8 :: bigEndian width n

/-- the bytes that go out -/
def TypedValue.encode : TypedValue → Except LinkError Bytes
  | .i8 n => .ok (bigEndian 1 n.toUInt8.toNat)
  | .u8 n => .ok (bigEndian 1 n.toNat)
  | .i16 n => .ok (bigEndian 2 n.toUInt16.toNat)
  | .u16 n => .ok (bigEndian 2 n.toNat)
  | .i32 n => .ok (bigEndian 4 n.toUInt32.toNat)
  | .u32 n => .ok (bigEndian 4 n.toNat)
  | .i64 n => .ok (bigEndian 8 n.toUInt64.toNat)
  | .u64 n => .ok (bigEndian 8 n.toNat)
  | .f32 b => .ok (bigEndian 4 b.toNat)
  | .f64 b => .ok (bigEndian 8 b.toNat)
  | .text s e => e.encode s

/-- Reads a value of a type by the type's name; a text in the encoding given. -/
def TypedValue.read? (type s : String) (encoding : TextEncoding) : Option TypedValue :=
  let signed (bits : Nat) := Number.integerWithin? (-(Nat.pow 2 (bits - 1) : Int)) ((Nat.pow 2 (bits - 1) : Int) - 1) s
  let unsigned (bits : Nat) := Number.naturalUpTo? (Nat.pow 2 bits - 1) s
  match type with
  | "i8" => (signed 8).map fun n => .i8 (.ofInt n)
  | "u8" => (unsigned 8).map fun n => .u8 n.toUInt8
  | "i16" => (signed 16).map fun n => .i16 (.ofInt n)
  | "u16" => (unsigned 16).map fun n => .u16 n.toUInt16
  | "i32" => (signed 32).map fun n => .i32 (.ofInt n)
  | "u32" => (unsigned 32).map fun n => .u32 n.toUInt32
  | "i64" => (signed 64).map fun n => .i64 (.ofInt n)
  | "u64" => (unsigned 64).map fun n => .u64 n.toUInt64
  | "f32" => (Number.float32Bits? s).map .f32
  | "f64" => (Number.floatBits? s).map .f64
  | "text" => some (.text s encoding)
  | _ => none

end CalBench
