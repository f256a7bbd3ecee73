/-
Bytes and text.

`utf8` writes a text as UTF-8. `decodeLossy` reads any bytes as text: a well-formed sequence gives its
character, and every longest run of bytes that begins a sequence without completing it gives one
replacement character. So reading what `utf8` wrote gives the text back, and no byte is skipped in
silence.
-/

namespace CalBench

/-- what travels over a link -/
abbrev Bytes := List UInt8

namespace Text

/-- the UTF-8 bytes of one character -/
def utf8Char (c : Char) : Bytes :=
  let n := c.toNat
  if n < 0x80 then [n.toUInt8]
  else if n < 0x800 then [(0xC0 + n / 0x40).toUInt8, (0x80 + n % 0x40).toUInt8]
  else if n < 0x10000 then
    [(0xE0 + n / 0x1000).toUInt8, (0x80 + n / 0x40 % 0x40).toUInt8, (0x80 + n % 0x40).toUInt8]
  else
    [(0xF0 + n / 0x40000).toUInt8, (0x80 + n / 0x1000 % 0x40).toUInt8,
     (0x80 + n / 0x40 % 0x40).toUInt8, (0x80 + n % 0x40).toUInt8]

/-- the UTF-8 bytes of a text -/
def utf8 (s : String) : Bytes := s.toList.flatMap utf8Char

/-- stands for bytes that are no text -/
def replacement : Char := Char.ofNat 0xFFFD

/-- the bytes that may follow a lead byte: the range of the next byte, then how many more come -/
structure Lead where
  low : UInt8
  high : UInt8
  more : Nat
  /-- the bits the lead byte itself contributes -/
  bits : Nat

/-- what a byte that starts a sequence of two or more announces -/
def lead? (b : UInt8) : Option Lead :=
  if 0xC2 ≤ b && b ≤ 0xDF then some ⟨0x80, 0xBF, 0, b.toNat - 0xC0⟩
  else if b == 0xE0 then some ⟨0xA0, 0xBF, 1, 0⟩
  else if b == 0xED then some ⟨0x80, 0x9F, 1, 0xD⟩
  else if 0xE1 ≤ b && b ≤ 0xEF then some ⟨0x80, 0xBF, 1, b.toNat - 0xE0⟩
  else if b == 0xF0 then some ⟨0x90, 0xBF, 2, 0⟩
  else if 0xF1 ≤ b && b ≤ 0xF3 then some ⟨0x80, 0xBF, 2, b.toNat - 0xF0⟩
  else if b == 0xF4 then some ⟨0x80, 0x8F, 2, 4⟩
  else none

/-- Reads with a sequence half read. The state is the bits so far and what must come next. -/
def decodeFrom : Option (Nat × Lead) → Bytes → List Char
  | none, [] => []
  | some _, [] => [replacement]
  | none, b :: rest =>
    if b < 0x80 then Char.ofNat b.toNat :: decodeFrom none rest
    else match lead? b with
      | some l => decodeFrom (some (l.bits, l)) rest
      | none => replacement :: decodeFrom none rest
  | some (bits, l), b :: rest =>
    if l.low ≤ b && b ≤ l.high then
      let bits := bits * 0x40 + (b.toNat - 0x80)
      match l.more with
      | 0 => Char.ofNat bits :: decodeFrom none rest
      | more + 1 => decodeFrom (some (bits, ⟨0x80, 0xBF, more, 0⟩)) rest
    else if b < 0x80 then replacement :: Char.ofNat b.toNat :: decodeFrom none rest
    else match lead? b with
      | some l => replacement :: decodeFrom (some (l.bits, l)) rest
      | none => replacement :: replacement :: decodeFrom none rest

/-- bytes read as text, with a replacement character for each ill-formed run -/
def decodeLossy (bytes : Bytes) : String := String.ofList (decodeFrom none bytes)

end Text

end CalBench
