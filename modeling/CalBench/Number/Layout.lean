/-
How numbers are written.

Which digits identify a float is the matter of `Dyadic.shortest`; here they are laid out. Two layouts
are in use. Texts (rendered arguments, messages, converted responses) are always positional and drop
a zero fraction: `10`, `0.0000001`. Documents keep the fraction and switch to an exponent for very
small and very large numbers, the exponent with its sign: `10.0`, `1e-7`, `1e+16`. Of two shortest
decimals equally near, texts take the larger and documents the even one.
-/
import CalBench.Number.Shortest

namespace CalBench.Number

/-- the decisions of one number format -/
structure Layout where
  /-- exponents of the leading digit that are written positionally; outside it an exponent is written -/
  positional : Int → Bool
  pointZero : Bool
  tie : Tie

def textLayout : Layout := ⟨fun _ => true, false, .up⟩

def documentLayout : Layout := ⟨fun e => -5 ≤ e && e < 16, true, .even⟩

/-- the decimal digits of a natural number -/
def digits (n : Nat) : List Char := Nat.toDigits 10 n

/-- an integer, with a minus sign if it is negative -/
def intText (n : Int) : String :=
  String.ofList (if n < 0 then '-' :: digits n.natAbs else digits n.natAbs)

def natText (n : Nat) : String := String.ofList (digits n)

/-- the digits of a positive decimal, laid out -/
def Layout.place (l : Layout) (d : Decimal) : List Char :=
  let ds := digits d.digits
  let point := (ds.length : Int) + d.exp
  if l.positional (point - 1) then
    if 0 ≤ d.exp then
      ds ++ List.replicate d.exp.toNat '0' ++ (if l.pointZero then ['.', '0'] else [])
    else if 0 < point then
      ds.take point.toNat ++ '.' :: ds.drop point.toNat
    else
      '0' :: '.' :: List.replicate (-point).toNat '0' ++ ds
  else
    let fraction := ds.drop 1
    let sign := if point < 1 then '-' else '+'
    ds.take 1 ++ (if fraction.isEmpty then [] else '.' :: fraction) ++
      'e' :: sign :: digits (point - 1).natAbs

/-- a finite float, sign first; zero keeps its sign -/
def Layout.write (l : Layout) (x : Float) : String :=
  let sign := if Nat.pow 2 63 ≤ x.toBits.toNat then ['-'] else []
  let v := Dyadic.ofFloat x
  let body := if v.m = 0 then '0' :: (if l.pointZero then ['.', '0'] else []) else l.place (v.shortest l.tie)
  String.ofList (sign ++ body)

/-- a number as it appears in texts -/
def text (x : Float) : String :=
  if x.isNaN then "NaN"
  else if x.isFinite then textLayout.write x
  else if x < 0 then "-inf" else "inf"

end CalBench.Number
