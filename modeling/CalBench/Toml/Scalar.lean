/-
Numbers, truth values and instants in TOML.

Integers have 64 bits; they are decimal, without leading zeros, or hexadecimal, octal or binary. Floats
have a fraction or an exponent; a positive one beyond the largest float is refused, a negative one is an
infinity. Single underscores may stand between digits. Instants are dates, times or both, and have to
exist. Settings take neither instants, infinities nor fractions, so what is kept of these is only that
they are no text, integer or truth value.
-/
import CalBench.Json.Basic
import CalBench.Number.Read
import CalBench.Text.Instant
import CalBench.Toml.Text

namespace CalBench.Toml

/-- digits after the first, without the underscores between them, and what follows -/
def moreDigits (isDigit : Char → Bool) : List Char → List Char × List Char
  | '_' :: c :: rest =>
    if isDigit c then
      let (ds, r) := moreDigits isDigit rest
      (c :: ds, r)
    else ([], '_' :: c :: rest)
  | c :: rest =>
    if isDigit c then
      let (ds, r) := moreDigits isDigit rest
      (c :: ds, r)
    else ([], c :: rest)
  | [] => ([], [])

/-- at least one digit, without the underscores between digits, and what follows -/
def digits? (isDigit : Char → Bool) : List Char → Scan
  | c :: rest =>
    if isDigit c then
      let (ds, r) := moreDigits isDigit rest
      some (c :: ds, r)
    else none
  | [] => none

/-- a number of 64 bits, with a sign -/
def int64? (n : Int) : Option Json :=
  if -(Nat.pow 2 63 : Int) ≤ n && n < (Nat.pow 2 63 : Int) then some (.int n) else none

/-- the value of digits to a base -/
def valueOf (base : Nat) (digits : List Char) : Nat :=
  digits.foldl (fun n c => n * base + (Json.hexValue? c).getD 0) 0

/-- an integer to a base other than ten -/
def based? (base : Nat) (cs : List Char) : Option Json :=
  match digits? (fun c => (Json.hexValue? c).any fun d => d < base) cs with
  | some (ds, []) => int64? (valueOf base ds)
  | _ => none

/-- a float; an infinity or what is no number is kept as some fraction -/
def fraction (x : Float) : Json := if h : x.isFinite = true then .float x h else .ofFloat 0.5

/-- the digits of an exponent with their sign, if there are any -/
def exponent? : List Char → Option (List Char)
  | [] => some []
  | c :: rest =>
    if c = 'e' || c = 'E' then
      let (minus, cs) := Number.sign rest
      match digits? Char.isDigit cs with
      | some (ds, []) => some ('e' :: (if minus then '-' :: ds else ds))
      | _ => none
    else none

/-- the digits of a fraction and an exponent, of which one has to be there -/
def fractionDigits? : List Char → Option (List Char)
  | '.' :: rest =>
    match digits? Char.isDigit rest with
    | some (ds, r) => (exponent? r).map fun e => '.' :: ds ++ e
    | none => none
  | [] => none
  | cs => exponent? cs

/-- a decimal number after its sign -/
def decimal? (minus : Bool) (cs : List Char) : Option Json :=
  match digits? Char.isDigit cs with
  | none => none
  | some (ds, rest) =>
    if ds.head? = some '0' && 1 < ds.length then none
    else match rest with
      | [] => int64? (if minus then -(valueOf 10 ds : Int) else valueOf 10 ds)
      | _ =>
        match (fractionDigits? rest).bind fun f => Number.scientific? (ds ++ f) with
        | some d => if minus then some (fraction (-d.toFloat))
          else if d.toFloat.isFinite then some (fraction d.toFloat)
          else none
        | none => none

def number? : List Char → Option Json
  | '0' :: 'x' :: rest => based? 16 rest
  | '0' :: 'o' :: rest => based? 8 rest
  | '0' :: 'b' :: rest => based? 2 rest
  | cs =>
    let (minus, rest) := Number.sign cs
    if rest = ['i', 'n', 'f'] || rest = ['n', 'a', 'n'] then some (fraction Number.nan)
    else decimal? minus rest

/-! ## Instants -/

/-- a number of a fixed width between two bounds, and what follows -/
def field? (width least largest : Nat) (cs : List Char) : Option (Nat × List Char) :=
  match Number.natural? (cs.take width) with
  | some n => if width ≤ cs.length && least ≤ n && n ≤ largest then some (n, cs.drop width) else none
  | none => none

/-- what follows a mark -/
def mark? (c : Char) : List Char → Option (List Char)
  | d :: rest => if c = d then some rest else none
  | [] => none

/-- what follows a date that exists -/
def date? (cs : List Char) : Option (List Char) := do
  let (y, cs) ← field? 4 0 9999 cs
  let (m, cs) ← field? 2 1 12 (← mark? '-' cs)
  let (_, cs) ← field? 2 1 (Text.daysIn y m) (← mark? '-' cs)
  return cs

/-- what follows a time of day -/
def time? (cs : List Char) : Option (List Char) := do
  let (_, cs) ← field? 2 0 23 cs
  let (_, cs) ← field? 2 0 59 (← mark? ':' cs)
  let (_, cs) ← field? 2 0 60 (← mark? ':' cs)
  match cs with
  | '.' :: rest =>
    let more := rest.dropWhile Char.isDigit
    if more.length < rest.length then some more else none
  | _ => some cs

/-- an offset from universal time, or nothing -/
def isOffset : List Char → Bool
  | [] => true
  | ['Z'] => true
  | ['z'] => true
  | c :: rest =>
    (c = '+' || c = '-') &&
      ((field? 2 0 23 rest).bind fun r => (mark? ':' r.2).bind (field? 2 0 59)).any fun r => r.2.isEmpty

/-- Is the text a time of day and perhaps an offset? -/
def isTime (cs : List Char) : Bool := (time? cs).any isOffset

/-- a date, a time of day, or a date with a time -/
def isInstant (cs : List Char) : Bool :=
  match date? cs with
  | some [] => true
  | some (c :: rest) => (c = 'T' || c = 't' || c = ' ') && isTime rest
  | none => time? cs == some []

/-- what is kept of an instant -/
def instant : Json := .obj [("instant", .null)]

/-! ## All of them -/

/-- a character that ends a number, truth value or instant -/
def endsScalar (c : Char) : Bool := [' ', '\t', '\n', '\r', ',', ']', '\x7d', '#'].contains c

/-- a number, truth value or instant that is a whole text -/
def scalar? (cs : List Char) : Option Json :=
  if cs = "true".toList then some (.bool true)
  else if cs = "false".toList then some (.bool false)
  else if isInstant cs then some instant
  else number? cs

/-- A number, truth value or instant, and what follows. A date and a time may be a blank apart. -/
def readScalar? (cs : List Char) : Option (Json × List Char) :=
  let word := cs.takeWhile fun c => !endsScalar c
  let rest := cs.drop word.length
  let more := (rest.drop 1).takeWhile fun c => !endsScalar c
  if rest.head? = some ' ' && (date? word == some []) && isTime more then
    some (instant, rest.drop (1 + more.length))
  else (scalar? word).map fun j => (j, rest)

end CalBench.Toml
