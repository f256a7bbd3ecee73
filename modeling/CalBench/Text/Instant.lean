/-
Instants as texts.

An instant is a date, a `T` or a blank, a time of day and an offset from universal time, `Z`, `UTC` or
hours and minutes: `2024-01-31T12:30:00.5+02:00`. Blanks are allowed between the parts. The date has to
exist, and so has the date of the same moment in universal time; a minute may have a second 60.
`isInstant` checks a text and keeps nothing of it.
-/
import CalBench.Number.Read

namespace CalBench.Text

def dropBlanks (cs : List Char) : List Char := cs.dropWhile isBlank

/-- at least one and at most `width` digits, and what follows -/
def digitsUpTo? (width : Nat) (cs : List Char) : Option (Nat × List Char) :=
  let ds := (cs.take width).takeWhile fun c => (Number.digit? c).isSome
  (Number.natural? ds).map fun n => (n, cs.drop ds.length)

/-- a number between two bounds, after blanks -/
def part? (width least largest : Nat) (cs : List Char) : Option (Nat × List Char) :=
  (digitsUpTo? width (dropBlanks cs)).filter fun r => least ≤ r.1 && r.1 ≤ largest

/-- a mark between two parts, after blanks -/
def mark? (c : Char) (cs : List Char) : Option (List Char) :=
  match dropBlanks cs with
  | c' :: rest => if c' = c then some rest else none
  | [] => none

/-- the digits of a year: up to four, or any number of them after a sign -/
def yearDigits? (cs : List Char) : Option (Int × List Char) :=
  match dropBlanks cs with
  | '-' :: rest => (digitsUpTo? rest.length rest).map fun (n, r) => (-(n : Int), r)
  | '+' :: rest => (digitsUpTo? rest.length rest).map fun (n, r) => (Int.ofNat n, r)
  | rest => (digitsUpTo? 4 rest).map fun (n, r) => (Int.ofNat n, r)

def daysIn (year : Int) (month : Nat) : Nat :=
  if month = 2 then
    if year % 4 = 0 && (year % 100 ≠ 0 || year % 400 = 0) then 29 else 28
  else if month = 4 || month = 6 || month = 9 || month = 11 then 30
  else 31

/-- a day of the calendar -/
structure Date where
  year : Int
  month : Nat
  day : Nat
deriving DecidableEq, Repr

def Date.first : Date := ⟨-262143, 1, 1⟩

def Date.last : Date := ⟨262142, 12, 31⟩

def year? (cs : List Char) : Option (Int × List Char) :=
  (yearDigits? cs).filter fun r => Date.first.year ≤ r.1 && r.1 ≤ Date.last.year

/-- a date that exists -/
def date? (cs : List Char) : Option (Date × List Char) := do
  let (y, cs) ← year? cs
  let (m, cs) ← part? 2 1 12 (← mark? '-' cs)
  let (d, cs) ← part? 2 1 (daysIn y m) (← mark? '-' cs)
  return (⟨y, m, d⟩, cs)

/-- what follows a fraction of a second, if there is one -/
def fraction? : List Char → Option (List Char)
  | '.' :: rest =>
    let rest' := rest.dropWhile fun c => (Number.digit? c).isSome
    if rest'.length < rest.length then some rest' else none
  | cs => some cs

/-- a time of day, as the minute of the day it lies in -/
def time? (cs : List Char) : Option (Nat × List Char) := do
  let (h, cs) ← part? 2 0 23 cs
  let (m, cs) ← part? 2 0 59 (← mark? ':' cs)
  let (_, cs) ← part? 2 0 60 (← mark? ':' cs)
  return (h * 60 + m, ← fraction? cs)

def twoDigits? : List Char → Option (Nat × List Char)
  | a :: b :: rest => (Number.natural? [a, b]).map fun n => (n, rest)
  | _ => none

/-- an offset from universal time in minutes, less than a day -/
def offset? : List Char → Option (Int × List Char)
  | 'Z' :: rest => some (0, rest)
  | 'z' :: rest => some (0, rest)
  | c :: rest =>
    if c = '+' || c = '-' || c = '−' then do
      let (h, rest) ← twoDigits? rest
      let (m, rest) ← twoDigits? (rest.dropWhile fun c => c = ':' || isBlank c)
      if h < 24 && m < 60 then
        some (if c = '+' then ((h * 60 + m : Nat) : Int) else -((h * 60 + m : Nat) : Int), rest)
      else none
    else if String.ofList ((c :: rest).take 3 |>.map Char.toUpper) == "UTC" then some (0, rest.drop 2)
    else none
  | [] => none

/-- In universal time the moment lies on a day of the calendar too. -/
def Date.holds (date : Date) (minute : Nat) (offset : Int) : Bool :=
  let universal : Int := minute - offset
  (date != Date.first || 0 ≤ universal) && (date != Date.last || universal < 24 * 60)

/-- Is the text an instant? -/
def isInstant (s : String) : Bool :=
  let rest := do
    match ← date? s.toList with
    | (date, c :: cs) =>
      if c = 'T' || c = 't' || c = ' ' then
        let (minute, cs) ← time? cs
        let (offset, cs) ← offset? (dropBlanks cs)
        if date.holds minute offset then some cs else none
      else none
    | (_, []) => none
  rest.any fun cs => cs.all isBlank

end CalBench.Text
