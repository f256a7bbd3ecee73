/-
The shortest decimal that identifies a float.

A finite float is decoded into `m * 2 ^ q`. The reals that round to it form an interval, whose ends
belong to it exactly when `m` is even. Grids of 1, 2, …, 17 significant digits are tried in turn: the
first grid on which one of the two neighbours of the value lies in the interval wins, of two such
neighbours the nearer one; an exact tie goes as the caller's `Tie` says. All arithmetic is exact, on
naturals.
-/

namespace CalBench.Number

/-- a finite non-negative float, `m * 2 ^ q` -/
structure Dyadic where
  m : Nat
  q : Int
  /-- the gap to the value below is half the gap to the value above -/
  narrowBelow : Bool
deriving DecidableEq, Repr

/-- `digits * 10 ^ exp` -/
structure Decimal where
  digits : Nat
  exp : Int
deriving DecidableEq, Repr

/-- which of two decimals as near as each other is taken -/
inductive Tie
  | up
  /-- the one with an even last digit -/
  | even
deriving DecidableEq, Repr

/-- the choice between `lo` and `lo + 1` -/
def Tie.choose : Tie → Nat → Nat
  | .up, lo => lo + 1
  | .even, lo => if lo % 2 = 0 then lo else lo + 1

/-- the magnitude of a finite float -/
def Dyadic.ofFloat (x : Float) : Dyadic :=
  let bits := x.toBits.toNat
  let e : Nat := bits / Nat.pow 2 52 % Nat.pow 2 11
  let f : Nat := bits % Nat.pow 2 52
  if e = 0 then ⟨f, -1074, false⟩ else ⟨Nat.pow 2 52 + f, (e : Int) - 1075, f == 0 && 1 < e⟩

/-- compares `a * 10 ^ i` with `n * 2 ^ j` -/
def compareScaled (a : Nat) (i : Int) (n : Nat) (j : Int) : Ordering :=
  compare (a * Nat.pow 10 i.toNat * Nat.pow 2 (-j).toNat) (n * Nat.pow 2 j.toNat * Nat.pow 10 (-i).toNat)

/-- the decimal lies among the reals that round to the float, to nearest with ties to even -/
def Dyadic.readsBack (x : Dyadic) (d : Decimal) : Bool :=
  let below := compareScaled d.digits d.exp (if x.narrowBelow then 4 * x.m - 1 else 4 * x.m - 2) (x.q - 2)
  let above := compareScaled d.digits d.exp (4 * x.m + 2) (x.q - 2)
  let ends := x.m % 2 == 0
  (below == .gt || (ends && below == .eq)) && (above == .lt || (ends && above == .eq))

/-- the least `k` with `m * 2 ^ q < 10 ^ k`, for a positive value -/
def Dyadic.scale (x : Dyadic) : Int :=
  let guess := ((x.m.log2 : Int) + x.q) * 30103 / 100000
  (([guess, guess + 1, guess + 2].find? fun k => compareScaled 1 k x.m x.q == .gt)).getD (guess + 3)

/-- the value in units of `10 ^ g`, rounded down -/
def Dyadic.floorAt (x : Dyadic) (g : Int) : Nat :=
  x.m * Nat.pow 2 x.q.toNat * Nat.pow 10 (-g).toNat / (Nat.pow 2 (-x.q).toNat * Nat.pow 10 g.toNat)

/-- the neighbour on the grid `10 ^ g` that reads back, the nearer one if both do -/
def Dyadic.onGrid? (x : Dyadic) (tie : Tie) (g : Int) : Option Decimal :=
  let lo := x.floorAt g
  match x.readsBack ⟨lo, g⟩, x.readsBack ⟨lo + 1, g⟩ with
  | true, true => match compareScaled (2 * lo + 1) g (2 * x.m) x.q with
    | .gt => some ⟨lo, g⟩
    | .eq => some ⟨tie.choose lo, g⟩
    | .lt => some ⟨lo + 1, g⟩
  | true, false => some ⟨lo, g⟩
  | false, true => some ⟨lo + 1, g⟩
  | false, false => none

/-- the value itself, written out in full -/
def Dyadic.exact (x : Dyadic) : Decimal :=
  ⟨x.m * Nat.pow 2 x.q.toNat * Nat.pow 5 (-x.q).toNat, min x.q 0⟩

/-- moves trailing zeros of the digits into the exponent -/
def Decimal.stripZeros : Nat → Decimal → Decimal
  | 0, d => d
  | fuel + 1, d => if d.digits % 10 = 0 then stripZeros fuel ⟨d.digits / 10, d.exp + 1⟩ else d

/-- the shortest decimal that reads back to a positive value -/
def Dyadic.shortest (x : Dyadic) (tie : Tie) : Decimal :=
  let k := x.scale
  let d := ((List.range 17).findSome? fun n => x.onGrid? tie (k - (n + 1 : Nat))).getD x.exact
  d.stripZeros 20

end CalBench.Number
