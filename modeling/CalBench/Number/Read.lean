/-
Reading numbers from texts.

Replies, arguments and settings hold numbers in the usual decimal notation: an optional sign, digits
with at most one point among or around them, an optional exponent; or, in any letter case, `inf`,
`infinity` and `nan`. The value is the float nearest to the decimal. Integers are digits with an
optional sign and must fit their range.
-/
import CalBench.Text.Blank

namespace CalBench.Number

/-- the value of a decimal digit -/
def digit? (c : Char) : Option Nat := if '0' ≤ c && c ≤ '9' then some (c.toNat - 48) else none

/-- the leading digits of a text: their value, their count and what follows -/
def leadingDigits : Nat → Nat → List Char → Nat × Nat × List Char
  | value, count, c :: rest =>
    match digit? c with
    | some d => leadingDigits (value * 10 + d) (count + 1) rest
    | none => (value, count, c :: rest)
  | value, count, [] => (value, count, [])

/-- an optional sign; `true` for minus -/
def sign : List Char → Bool × List Char
  | '-' :: rest => (true, rest)
  | '+' :: rest => (false, rest)
  | cs => (false, cs)

def natural? (cs : List Char) : Option Nat :=
  match leadingDigits 0 0 cs with
  | (value, count, []) => if 0 < count then some value else none
  | _ => none

/-- a natural number, with an optional plus sign, up to a largest value -/
def naturalUpTo? (largest : Nat) (s : String) : Option Nat :=
  (natural? (match s.toList with | '+' :: rest => rest | cs => cs)).filter (· ≤ largest)

/-- an integer with an optional sign, between two bounds -/
def integerWithin? (least largest : Int) (s : String) : Option Int :=
  let (negative, rest) := sign s.toList
  (natural? rest).bind fun n =>
    let i : Int := if negative then -n else n
    if least ≤ i && i ≤ largest then some i else none

/-- a decimal number, `digits * 10 ^ exp`, as read -/
structure Scientific where
  negative : Bool
  digits : Nat
  exp : Int
deriving DecidableEq, Repr

/-- an exponent part, which ends the text -/
def exponent? : List Char → Option Int
  | [] => some 0
  | c :: rest =>
    if c = 'e' || c = 'E' then
      let (negative, ds) := sign rest
      (natural? ds).map fun n => if negative then -(n : Int) else n
    else none

/-- digits, a point and an exponent, with at least one digit before or after the point -/
def scientific? (s : List Char) : Option Scientific :=
  let (negative, rest) := sign s
  let (whole, wholeCount, rest) := leadingDigits 0 0 rest
  let (value, fractionCount, rest) := match rest with
    | '.' :: rest =>
      let (value, count, rest) := leadingDigits whole 0 rest
      (value, count, rest)
    | rest => (whole, 0, rest)
  if wholeCount + fractionCount = 0 then none
  else (exponent? rest).map fun e => ⟨negative, value, e - fractionCount⟩

def infinity : Float := 1.0 / 0.0

def nan : Float := 0.0 / 0.0

/-- Is a decimal beyond what the number formats can tell from infinity (`.gt`) or from zero (`.lt`)?
Such decimals are settled without computing their power of ten. -/
def Scientific.extreme (d : Scientific) : Ordering :=
  let leading := (Nat.toDigits 10 d.digits).length + d.exp
  if d.digits = 0 || leading < -400 then .lt else if 400 < leading then .gt else .eq

def Scientific.toFloat (d : Scientific) : Float :=
  let magnitude := match d.extreme with
    | .lt => 0.0
    | .gt => infinity
    | .eq => Float.ofScientific d.digits (d.exp < 0) d.exp.natAbs
  if d.negative then -magnitude else magnitude

/-- the nearest number of single precision -/
def Scientific.toFloat32 (d : Scientific) : Float32 :=
  let magnitude : Float32 := match d.extreme with
    | .lt => 0.0
    | .gt => 1.0 / 0.0
    | .eq => Float32.ofScientific d.digits (d.exp < 0) d.exp.natAbs
  if d.negative then -magnitude else magnitude

/-- the words for values that are no decimals -/
inductive Special
  | infinite
  | notANumber
deriving DecidableEq, Repr

/-- a word for a special value, in any letter case -/
def special? (cs : List Char) : Option Special :=
  let word := String.ofList (cs.map Char.toLower)
  if word == "inf" || word == "infinity" then some .infinite
  else if word == "nan" then some .notANumber
  else none

def float? (s : String) : Option Float :=
  match scientific? s.toList with
  | some d => some d.toFloat
  | none =>
    let (negative, rest) := sign s.toList
    (special? rest).map fun
      | .infinite => if negative then -infinity else infinity
      | .notANumber => nan

/-- a number of single precision in a text -/
def float32? (s : String) : Option Float32 :=
  match scientific? s.toList with
  | some d => some d.toFloat32
  | none =>
    let (negative, rest) := sign s.toList
    (special? rest).map fun
      | .infinite => if negative then -(1.0 / 0.0) else 1.0 / 0.0
      | .notANumber => 0.0 / 0.0

/-- the bits of a number in a text; here a sign in front of `nan` counts -/
def floatBits? (s : String) : Option UInt64 :=
  (float? s).map fun x => if x.isNaN && (sign s.toList).1 then x.toBits ||| 0x8000000000000000 else x.toBits

/-- the bits of a number of single precision in a text; here a sign in front of `nan` counts -/
def float32Bits? (s : String) : Option UInt32 :=
  (float32? s).map fun x => if x.isNaN && (sign s.toList).1 then x.toBits ||| 0x80000000 else x.toBits

end CalBench.Number
