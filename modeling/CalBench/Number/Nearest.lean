/-
The nearest whole number.

A finite float is rounded to a whole number, halves away from zero. It keeps its sign, also where it comes to zero. What
is not finite stays as it is.
-/
import CalBench.Number.Shortest

namespace CalBench.Number

/-- the whole number nearest to a finite magnitude, halves up -/
def Dyadic.nearest (v : Dyadic) : Nat :=
  let unit := Nat.pow 2 (-v.q).toNat
  (2 * (v.m * Nat.pow 2 v.q.toNat) + unit) / (2 * unit)

/-- the whole number nearest to a float -/
def nearestWhole (x : Float) : Float :=
  let v := Dyadic.ofFloat x
  -- without a fraction it is whole already
  if x.isFinite && v.q < 0 then
    let n := Float.ofNat v.nearest
    if Nat.pow 2 63 ≤ x.toBits.toNat then -n else n
  else x

/-- what is not finite stays as it is -/
theorem nearestWhole_of_not_finite {x : Float} (h : x.isFinite = false) : nearestWhole x = x := by
  simp [nearestWhole, h]

example : nearestWhole 2.5 = 3 ∧ nearestWhole (-2.5) = -3 ∧ nearestWhole 2.4 = 2 ∧ nearestWhole (-0.25) = -0.0 := by
  decide +kernel

end CalBench.Number
