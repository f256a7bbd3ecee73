/-
Durations.

A duration is a whole number of nanoseconds. Settings write it as a list of amounts with units,
`1h 30m`, and read it in the same form, where an amount may have a fraction that is a whole number of
nanoseconds (of seconds, from hours up). Messages show it in its largest unit, `1.5s`, `250ms`.
Timers tick once a millisecond and never fire early, so a pause takes `ticks` of them.
-/
import CalBench.Json.Record
import CalBench.Number.Layout
import CalBench.Number.Read

namespace CalBench

/-- a span of time in nanoseconds -/
structure Duration where
  nanos : Nat
deriving DecidableEq, Repr, Inhabited

namespace Duration

def zero : Duration := ⟨0⟩

def ofMicros (n : Nat) : Duration := ⟨n * 1000⟩

def ofMillis (n : Nat) : Duration := ⟨n * 1000000⟩

def ofSecs (n : Nat) : Duration := ⟨n * 1000000000⟩

instance : Add Duration := ⟨fun a b => ⟨a.nanos + b.nanos⟩⟩

/-- whole milliseconds, the rest dropped -/
def millis (d : Duration) : Nat := d.nanos / 1000000

/-- the timer ticks a pause of this length takes -/
def ticks (d : Duration) : Nat := (d.nanos + 999999) / 1000000

/-! ## In messages -/

/-- the digits of a fraction of `10 ^ places`, without trailing zeros -/
def fractionDigits (places n : Nat) : List Char :=
  let ds := Number.digits n
  let padded := List.replicate (places - ds.length) '0' ++ ds
  (padded.reverse.dropWhile (· == '0')).reverse

/-- an amount in units of `10 ^ places` nanoseconds -/
def amount (places nanos : Nat) (unit : String) : String :=
  let fraction := fractionDigits places (nanos % Nat.pow 10 places)
  let point := if fraction.isEmpty then "" else "." ++ String.ofList fraction
  Number.natText (nanos / Nat.pow 10 places) ++ point ++ unit

/-- the duration in its largest unit -/
def message (d : Duration) : String :=
  if 1000000000 ≤ d.nanos then amount 9 d.nanos "s"
  else if 1000000 ≤ d.nanos then amount 6 d.nanos "ms"
  else if 1000 ≤ d.nanos then amount 3 d.nanos "µs"
  else amount 0 d.nanos "ns"

/-! ## In settings -/

/-- the parts of a duration with their units, zero parts left out -/
def settingParts (d : Duration) : List String :=
  let secs := d.nanos / 1000000000
  let nanos := d.nanos % 1000000000
  let days := secs % 31557600 % 2630016
  let long (unit : String) (n : Nat) : List String :=
    if n = 0 then [] else [Number.natText n ++ unit ++ (if n = 1 then "" else "s")]
  let short (unit : String) (n : Nat) : List String :=
    if n = 0 then [] else [Number.natText n ++ unit]
  long "year" (secs / 31557600) ++ long "month" (secs % 31557600 / 2630016) ++
    long "day" (days / 86400) ++ short "h" (days % 86400 / 3600) ++ short "m" (days % 3600 / 60) ++
    short "s" (days % 60) ++ short "ms" (nanos / 1000000) ++ short "us" (nanos / 1000 % 1000) ++
    short "ns" (nanos % 1000)

/-- a duration as settings write it -/
def setting (d : Duration) : String :=
  if d.nanos = 0 then "0s" else " ".intercalate d.settingParts

inductive Unit
  | nanosecond | microsecond | millisecond | second | minute | hour | day | week | month | year
deriving DecidableEq, Repr

def Unit.ofName? (name : String) : Option Unit :=
  if ["nanos", "nsec", "ns"].contains name then some .nanosecond
  else if ["usec", "us", "µs"].contains name then some .microsecond
  else if ["millis", "msec", "ms"].contains name then some .millisecond
  else if ["seconds", "second", "secs", "sec", "s"].contains name then some .second
  else if ["minutes", "minute", "min", "mins", "m"].contains name then some .minute
  else if ["hours", "hour", "hr", "hrs", "h"].contains name then some .hour
  else if ["days", "day", "d"].contains name then some .day
  else if ["weeks", "week", "wk", "wks", "w"].contains name then some .week
  else if ["months", "month", "M"].contains name then some .month
  else if ["years", "year", "yr", "yrs", "y"].contains name then some .year
  else none

def Unit.nanos : Unit → Nat
  | .nanosecond => 1
  | .microsecond => 1000
  | .millisecond => 1000000
  | .second => 1000000000
  | .minute => 60000000000
  | .hour => 3600000000000
  | .day => 86400000000000
  | .week => 604800000000000
  | .month => 2630016000000000
  | .year => 31557600000000000

/-- fractions of a unit are whole multiples of this -/
def Unit.grain (u : Unit) : Nat :=
  if u.nanos < 3600000000000 then 1 else 1000000000

/-- an amount as read: whole part, numerator and denominator of the fraction, unit name -/
structure Amount where
  whole : Nat
  fraction : Option (Nat × Nat)
  unit : List Char

/-- a natural number of 64 bits -/
def word? (n : Nat) : Option Nat := if n < Nat.pow 2 64 then some n else none

/-- the seconds and nanoseconds, before carrying, of so many units -/
def Unit.times? (u : Unit) (n : Nat) : Option (Nat × Nat) :=
  if u.nanos < 1000000000 then (word? (n * u.nanos)).map fun nanos => (0, nanos)
  else (word? (n * (u.nanos / 1000000000))).map fun seconds => (seconds, 0)

/-- the seconds and nanoseconds, before carrying, of a fraction of a unit -/
def Unit.part? (u : Unit) (num den : Nat) : Option (Nat × Nat) := do
  if u = .nanosecond then none
  let n ← word? (num * (u.nanos / u.grain))
  if n % den ≠ 0 then none
  return if u.grain = 1 then (0, n / den) else (n / den, 0)

def isUnitLetter (c : Char) : Bool := c.isAlpha || c = 'µ'

/-- what has been read of an amount -/
inductive Progress
  | start
  | whole (n : Nat)
  | fraction (n num den : Nat)
  | unit (n : Nat) (fraction : Option (Nat × Nat)) (name : List Char)

/-- Adds seconds and nanoseconds to a sum. The seconds of the sum have 64 bits, and so have its
nanoseconds before carrying. -/
def addSpan? (sum : Nat) (span : Nat × Nat) : Option Nat := do
  let _ ← word? (sum % 1000000000 + span.2)
  let total := sum + span.1 * 1000000000 + span.2
  if total / 1000000000 < Nat.pow 2 64 then some total else none

/-- Adds an amount to a sum, its whole part first. -/
def addAmount? (sum : Nat) (a : Amount) : Option Nat := do
  let u ← Unit.ofName? (String.ofList a.unit)
  let sum ← addSpan? sum (← u.times? a.whole)
  match a.fraction with
  | none => return sum
  | some (num, den) => addSpan? sum (← u.part? num den)

/-- Reads amounts from some point on, adding them to a sum. -/
def readAmounts : Progress → Nat → List Char → Option Nat
  | .start, sum, [] => some sum
  | .whole n, sum, [] => addAmount? sum ⟨n, none, []⟩
  | .fraction n num den, sum, [] => if den = 1 then none else addAmount? sum ⟨n, some (num, den), []⟩
  | .unit n f name, sum, [] => addAmount? sum ⟨n, f, name⟩
  | .start, sum, c :: rest =>
    match Number.digit? c with
    | some d => readAmounts (.whole d) sum rest
    | none => if Text.isBlank c then readAmounts .start sum rest else none
  | .whole n, sum, c :: rest =>
    match Number.digit? c with
    | some d => (word? (n * 10 + d)).bind fun n => readAmounts (.whole n) sum rest
    | none =>
      if Text.isBlank c then readAmounts (.whole n) sum rest
      else if isUnitLetter c then readAmounts (.unit n none [c]) sum rest
      else if c = '.' then readAmounts (.fraction n 0 1) sum rest
      else none
  | .fraction n num den, sum, c :: rest =>
    match Number.digit? c with
    | some d =>
      match word? (num * 10 + d), word? (den * 10) with
      | some num, some den => readAmounts (.fraction n num den) sum rest
      | _, _ => none
    | none =>
      if Text.isBlank c then readAmounts (.fraction n num den) sum rest
      else if isUnitLetter c && den ≠ 1 then readAmounts (.unit n (some (num, den)) [c]) sum rest
      else none
  | .unit n f name, sum, c :: rest =>
    match Number.digit? c with
    | some d => (addAmount? sum ⟨n, f, name⟩).bind fun sum => readAmounts (.whole d) sum rest
    | none =>
      if Text.isBlank c then (addAmount? sum ⟨n, f, name⟩).bind fun sum => readAmounts .start sum rest
      else if isUnitLetter c then readAmounts (.unit n f (name ++ [c])) sum rest
      else none

def ofSetting? (s : String) : Option Duration :=
  if s == "0" then some zero
  else if Text.isBlankText s then none
  else (readAmounts .start 0 s.toList).map Duration.mk

instance : Codec Duration := ⟨fun d => .str d.setting, fun j => j.str?.bind ofSetting?⟩

end Duration

end CalBench
