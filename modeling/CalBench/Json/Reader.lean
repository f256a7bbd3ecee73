/-
Reading documents.

The grammar is the usual one: four blank characters between tokens, no comments, no trailing commas,
no raw control characters inside texts, surrogates only in pairs, at most 127 levels of nesting.

A number without fraction and exponent that fits 64 bits, signed or unsigned, is an integer. Any other
number is read as a significand, its leading digits as far as they fit 64 bits, times one power of
ten, so that its last bit can be off; a number too large for a float is refused.

A part of the document that nobody looks at, by the `Shape` it is read with, only has to keep to the
grammar: it may nest deeper, hold larger numbers and lone surrogates, and is read as null. `parse?`
reads the whole of a text; `read?` reads a value of a type from a text.
-/
import CalBench.Json.Record
import CalBench.Number.Read

namespace CalBench.Json

/-- Drops blanks between tokens. -/
def skip : List Char → List Char
  | c :: rest => if c = ' ' || c = '\n' || c = '\t' || c = '\r' then skip rest else c :: rest
  | [] => []

def hexValue? (c : Char) : Option Nat :=
  if '0' ≤ c && c ≤ '9' then some (c.toNat - 48)
  else if 'a' ≤ c && c ≤ 'f' then some (c.toNat - 87)
  else if 'A' ≤ c && c ≤ 'F' then some (c.toNat - 55)
  else none

def hex4? (a b c d : Char) : Option Nat := do
  let a ← hexValue? a
  let b ← hexValue? b
  let c ← hexValue? c
  let d ← hexValue? d
  return ((a * 16 + b) * 16 + c) * 16 + d

/-- the character an escape letter stands for -/
def escape? : Char → Option Char
  | '"' => some '"'
  | '\\' => some '\\'
  | '/' => some '/'
  | 'b' => some (Char.ofNat 8)
  | 'f' => some (Char.ofNat 12)
  | 'n' => some '\n'
  | 'r' => some '\r'
  | 't' => some '\t'
  | _ => none

/-- The characters up to the closing quote, and what follows it. -/
def textBody : List Char → Option (List Char × List Char)
  | '"' :: rest => some ([], rest)
  | '\\' :: 'u' :: a :: b :: c :: d :: '\\' :: 'u' :: e :: f :: g :: h :: rest =>
    match hex4? a b c d with
    | none => none
    | some hi =>
      if 0xD800 ≤ hi && hi ≤ 0xDBFF then
        match hex4? e f g h with
        | none => none
        | some lo =>
          if 0xDC00 ≤ lo && lo ≤ 0xDFFF then
            (textBody rest).map fun (cs, r) =>
              (Char.ofNat (0x10000 + (hi - 0xD800) * 0x400 + (lo - 0xDC00)) :: cs, r)
          else none
      else if 0xDC00 ≤ hi && hi ≤ 0xDFFF then none
      else (textBody ('\\' :: 'u' :: e :: f :: g :: h :: rest)).map fun (cs, r) => (Char.ofNat hi :: cs, r)
  | '\\' :: 'u' :: a :: b :: c :: d :: rest =>
    match hex4? a b c d with
    | none => none
    | some n =>
      if 0xD800 ≤ n && n ≤ 0xDFFF then none
      else (textBody rest).map fun (cs, r) => (Char.ofNat n :: cs, r)
  | '\\' :: e :: rest =>
    match escape? e with
    | none => none
    | some c => (textBody rest).map fun (cs, r) => (c :: cs, r)
  | c :: rest => if c.toNat < 32 then none else (textBody rest).map fun (cs, r) => (c :: cs, r)
  | [] => none

/-- the leading digits of a number that still fit 64 bits, their count, and what follows -/
def significand : Nat → Nat → List Char → Nat × Nat × List Char
  | value, count, c :: rest =>
    match Number.digit? c with
    | some d =>
      if value * 10 + d < Nat.pow 2 64 then significand (value * 10 + d) (count + 1) rest
      else (value, count, c :: rest)
    | none => (value, count, c :: rest)
  | value, count, [] => (value, count, [])

/-- a power of ten, `n ≤ 308` -/
def powerOfTen (n : Nat) : Float := Float.ofScientific 1 false n

/-- a significand times a power of ten, refused if it exceeds the floats -/
def scale? (significand : Nat) (exp : Int) : Option Float :=
  let f := Float.ofNat significand
  if 0 ≤ exp then
    if exp ≤ 308 then
      let x := f * powerOfTen exp.toNat
      if x.isFinite then some x else none
    else if significand = 0 then some f
    else none
  else if -308 ≤ exp then some (f / powerOfTen exp.natAbs)
  else if -616 ≤ exp then some (f / powerOfTen 308 / powerOfTen (exp.natAbs - 308))
  else some 0.0

/-- a finite float as a document value, with its sign -/
def signedFloat (negative : Bool) (x : Float) : Json := ofFloat (if negative then -x else x)

/-- an exponent part, if there is one, and the number it completes -/
def exponentPart? (negative : Bool) (significand : Nat) (exp : Int) :
    List Char → Option (Json × List Char)
  | c :: rest =>
    if c = 'e' || c = 'E' then
      let (minus, rest) := Number.sign rest
      let (e, count, rest) := Number.leadingDigits 0 0 rest
      if count = 0 then none
      else (scale? significand (if minus then exp - e else exp + e)).map fun x =>
        (signedFloat negative x, rest)
    else (scale? significand exp).map fun x => (signedFloat negative x, c :: rest)
  | [] => (scale? significand exp).map fun x => (signedFloat negative x, [])

/-- a number without fraction and exponent -/
def wholeNumber (negative : Bool) (value : Nat) : Json :=
  if negative then
    if value = 0 || Nat.pow 2 63 < value then ofFloat (-Float.ofNat value) else .int (-(value : Int))
  else .int value

/-- A number after its sign: whole part, fraction, exponent. -/
def numberBody? (negative : Bool) (cs : List Char) : Option (Json × List Char) :=
  let (value, count, rest) := significand 0 0 cs
  let (_, dropped, rest') := Number.leadingDigits 0 0 rest
  if count = 0 || (cs.head? == some '0' && 1 < count + dropped) then none
  else match rest' with
    | '.' :: fraction =>
      let (value', count', rest) := significand value 0 fraction
      let (_, dropped', rest) := Number.leadingDigits 0 0 rest
      if count' + dropped' = 0 then none
      else exponentPart? negative value' ((dropped : Int) - count') rest
    | c :: _ =>
      if dropped ≠ 0 || c = 'e' || c = 'E' then exponentPart? negative value dropped rest'
      else some (wholeNumber negative value, rest')
    | [] => if dropped ≠ 0 then exponentPart? negative value dropped [] else some (wholeNumber negative value, [])

/-! ## Parts that nobody looks at -/

/-- what follows digits, at least one -/
def digitsEnd? : List Char → Option (List Char)
  | c :: rest =>
    if (Number.digit? c).isSome then some (rest.dropWhile fun c => (Number.digit? c).isSome) else none
  | [] => none

/-- what follows a fraction, if there is one -/
def fractionEnd? : List Char → Option (List Char)
  | '.' :: rest => digitsEnd? rest
  | rest => some rest

/-- what follows an exponent, if there is one -/
def exponentEnd? : List Char → Option (List Char)
  | c :: rest => if c = 'e' || c = 'E' then digitsEnd? (Number.sign rest).2 else some (c :: rest)
  | [] => some []

/-- what follows a number of any size, after its sign -/
def numberEnd? (cs : List Char) : Option (List Char) :=
  match cs with
  | '0' :: c :: rest =>
    if (Number.digit? c).isSome then none else (fractionEnd? (c :: rest)).bind exponentEnd?
  | cs => ((digitsEnd? cs).bind fractionEnd?).bind exponentEnd?

/-- what follows a text, up to its closing quote, with any four digits after a `u` -/
def textEnd? : List Char → Option (List Char)
  | '"' :: rest => some rest
  | '\\' :: 'u' :: a :: b :: c :: d :: rest => (hex4? a b c d).bind fun _ => textEnd? rest
  | '\\' :: e :: rest => (escape? e).bind fun _ => textEnd? rest
  | c :: rest => if c.toNat < 32 then none else textEnd? rest
  | [] => none

/-! ## Values -/

/-- a text after its opening quote -/
def readText? (shape : Shape) (cs : List Char) : Option (Json × List Char) :=
  match shape with
  | .nothing => (textEnd? cs).map fun r => (.null, r)
  | _ => (textBody cs).map fun (cs, r) => (.str (String.ofList cs), r)

/-- the name of a member after its opening quote -/
def readName? (shape : Shape) (cs : List Char) : Option (String × List Char) :=
  match shape with
  | .nothing => (textEnd? cs).map fun r => ("", r)
  | _ => (textBody cs).map fun (cs, r) => (String.ofList cs, r)

/-- a number after its sign -/
def readNumber? (shape : Shape) (negative : Bool) (cs : List Char) : Option (Json × List Char) :=
  match shape with
  | .nothing => (numberEnd? cs).map fun r => (.null, r)
  | _ => numberBody? negative cs

/-- the levels left inside a list or an object -/
def inner? (shape : Shape) (depth : Nat) : Option Nat :=
  match shape, depth with
  | .nothing, depth => some depth
  | _, 0 => none
  | _, depth + 1 => some depth

/-- a list or an object, which is null if nobody looks at it -/
def seen (shape : Shape) (j : Json) : Json :=
  match shape with
  | .nothing => .null
  | _ => j

mutual

/-- one value and what follows it, with fuel and a number of levels left -/
def readValue? (shape : Shape) : Nat → Nat → List Char → Option (Json × List Char)
  | 0, _, _ => none
  | fuel + 1, depth, cs =>
    match skip cs with
    | 'n' :: 'u' :: 'l' :: 'l' :: rest => some (.null, rest)
    | 't' :: 'r' :: 'u' :: 'e' :: rest => some (.bool true, rest)
    | 'f' :: 'a' :: 'l' :: 's' :: 'e' :: rest => some (.bool false, rest)
    | '"' :: rest => readText? shape rest
    | '[' :: rest => (inner? shape depth).bind fun depth => match skip rest with
      | ']' :: rest => some (seen shape (.arr []), rest)
      | rest => (readItems? shape 0 fuel depth rest).map fun (js, r) => (seen shape (.arr js), r)
    | '{' :: rest => (inner? shape depth).bind fun depth => match skip rest with
      | '}' :: rest => some (seen shape (.obj []), rest)
      | rest => (readMembers? shape fuel depth rest).map fun (ms, r) => (seen shape (.obj ms), r)
    | '-' :: rest => readNumber? shape true rest
    | rest => readNumber? shape false rest

/-- items up to the closing bracket, at least one, from a position -/
def readItems? (shape : Shape) (i : Nat) : Nat → Nat → List Char → Option (List Json × List Char)
  | 0, _, _ => none
  | fuel + 1, depth, cs =>
    match readValue? (shape.item i) fuel depth cs with
    | none => none
    | some (j, rest) => match skip rest with
      | ',' :: rest => (readItems? shape (i + 1) fuel depth rest).map fun (js, r) => (j :: js, r)
      | ']' :: rest => some ([j], rest)
      | _ => none

/-- members up to the closing brace, at least one -/
def readMembers? (shape : Shape) : Nat → Nat → List Char → Option (List (String × Json) × List Char)
  | 0, _, _ => none
  | fuel + 1, depth, cs =>
    match skip cs with
    | '"' :: rest => match readName? shape rest with
      | none => none
      | some (name, rest) => match skip rest with
        | ':' :: rest => match readValue? (shape.member name) fuel depth rest with
          | none => none
          | some (j, rest) => match skip rest with
            | ',' :: rest =>
              (readMembers? shape fuel depth rest).map fun (ms, r) => ((name, j) :: ms, r)
            | '}' :: rest => some ([(name, j)], rest)
            | _ => none
        | _ => none
    | _ => none

end

/-- the levels of nesting a document may have -/
def maxDepth : Nat := 127

/-- The document a text holds, as it was written, as far as a shape looks at it. -/
def parseAs? (shape : Shape) (s : String) : Option Json :=
  let cs := s.toList
  match readValue? shape (cs.length + 1) maxDepth cs with
  | some (j, rest) => if (skip rest).isEmpty then some j else none
  | none => none

/-- The document a text holds, as it was written. -/
def parse? : String → Option Json := parseAs? .whole

/-- the value a text is a document of -/
def read? (α : Type) [Codec α] [Shaped α] (s : String) : Option α :=
  (parseAs? (shape α) s).bind Codec.decode

end CalBench.Json
