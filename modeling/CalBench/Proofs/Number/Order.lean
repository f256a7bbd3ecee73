/-
Order among floats.

A float that is not a number is neither less nor greater than any other, so that no comparison refuses it. Any two other
floats are in order one way or the other (`le_iff_not_lt`), and `not_lt_iff` says what it means not to be less for all
of them. What is not finite stays so when something is subtracted from it or when it is divided, and its distance to
itself is not a number.
-/
import CalBench.Number.Nearest

namespace CalBench.Number

open Float.Model Float.Model.UnpackedFloat

/-! ## Comparisons -/

theorem compare_swap (a b : UnpackedFloat) : b.compare a = (a.compare b).map Ordering.swap := by
  cases a with
  | notANumber => cases b <;> rfl
  | infinity s =>
    cases b with
    | infinity t => cases s <;> cases t <;> rfl
    | notANumber | zero | finite => cases s <;> rfl
  | zero s =>
    cases b with
    | finite t => cases t <;> rfl
    | infinity t => cases t <;> rfl
    | notANumber | zero => rfl
  | finite s m e hm =>
    cases b with
    | finite t n f hn =>
      have hswap : (compare f e).then (compare n m) = ((compare e f).then (compare m n)).swap := by
        rw [Ordering.swap_then, Int.compare_swap, Nat.compare_swap]
      cases s with
      | negative =>
        cases t with
        | negative => exact congrArg (fun o : Ordering => some o.swap) hswap
        | positive => rfl
      | positive =>
        cases t with
        | negative => rfl
        | positive => exact congrArg some hswap
    | infinity t => cases t <;> rfl
    | notANumber | zero => cases s <;> rfl

/-- only what is not a number does not compare -/
theorem compare_eq_none_iff {a b : UnpackedFloat} : a.compare b = none ↔ a.isNaN = true ∨ b.isNaN = true := by
  cases a with
  | notANumber => exact ⟨fun _ => .inl rfl, fun _ => by cases b <;> rfl⟩
  | infinity s | zero s | finite s =>
    cases b with
    | notANumber => cases s <;> exact ⟨fun _ => .inr rfl, fun _ => rfl⟩
    | infinity t | zero t | finite t => cases s <;> cases t <;> exact ⟨nofun, nofun⟩

variable {x y : Float}

theorem lt_iff_compare : x < y ↔ x.toModel.unpack.compare y.toModel.unpack = some .lt := by
  show decide (x.toModel.unpack.lt y.toModel.unpack = true) = true ↔ _
  rw [UnpackedFloat.lt, decide_eq_true_iff, beq_iff_eq]

/-- **What is not a number is less than nothing, and nothing is less than it** -/
theorem not_lt_of_isNaN (h : x.isNaN = true ∨ y.isNaN = true) : ¬ x < y := by
  have hnone : x.toModel.unpack.compare y.toModel.unpack = none := compare_eq_none_iff.2 h
  rw [lt_iff_compare, hnone]
  exact nofun

/-- **Two numbers are in order one way or the other** -/
theorem le_iff_not_lt (hx : x.isNaN = false) (hy : y.isNaN = false) : x ≤ y ↔ ¬ y < x := by
  have hsome : x.toModel.unpack.compare y.toModel.unpack ≠ none := by
    intro h
    rcases compare_eq_none_iff.1 h with h | h
    · cases hx.symm.trans h
    · cases hy.symm.trans h
  obtain ⟨o, ho⟩ := Option.ne_none_iff_exists'.1 hsome
  have hle : x ≤ y ↔ o.isLE = true := by
    show decide (x.toModel.unpack.le y.toModel.unpack = true) = true ↔ _
    rw [UnpackedFloat.le, ho, decide_eq_true_iff]
    rfl
  rw [hle, lt_iff_compare, compare_swap, ho]
  cases o <;> decide

/-- not to be less is to be at least, or not to be a number -/
theorem not_lt_iff : ¬ x < y ↔ (x.isNaN = false → y.isNaN = false → y ≤ x) := by
  constructor
  · intro h hx hy
    exact (le_iff_not_lt hy hx).2 h
  · intro h hlt
    cases hx : x.isNaN with
    | true => exact not_lt_of_isNaN (.inl hx) hlt
    | false =>
      cases hy : y.isNaN with
      | true => exact not_lt_of_isNaN (.inr hy) hlt
      | false => exact (le_iff_not_lt hy hx).1 (h hx hy) hlt

/-! ## What is not finite -/

theorem isFinite_of_isNaN (h : x.isNaN = true) : x.isFinite = false := by
  have h' : x.toModel.unpack.isNaN = true := h
  show x.toModel.unpack.isFinite = false
  cases hu : x.toModel.unpack with
  | notANumber => rfl
  | infinity | zero | finite =>
    rw [hu] at h'
    cases h'

theorem unpack_pack_of_not_finite {u : UnpackedFloat} (h : u.isFinite = false) : (Float.Model.pack u).unpack = u := by
  cases u with
  | notANumber => rfl
  | infinity s => cases s <;> rfl
  | zero | finite => cases h

/-- nothing that is subtracted makes it finite -/
theorem isFinite_sub (hx : x.isFinite = false) (y : Float) : (x - y).isFinite = false := by
  have hsub : (UnpackedFloat.sub Format.binary64 x.toModel.unpack y.toModel.unpack).isFinite = false := by
    have hx' : x.toModel.unpack.isFinite = false := hx
    cases hu : x.toModel.unpack with
    | notANumber => rfl
    | infinity s =>
      cases y.toModel.unpack with
      | infinity t => cases s <;> cases t <;> rfl
      | notANumber | zero | finite => cases s <;> rfl
    | zero | finite =>
      rw [hu] at hx'
      cases hx'
  show (Float.Model.pack _).unpack.isFinite = false
  rw [unpack_pack_of_not_finite hsub]
  exact hsub

/-- nothing that it is divided by makes it finite -/
theorem isFinite_div (hx : x.isFinite = false) (y : Float) : (x / y).isFinite = false := by
  have hdiv : (UnpackedFloat.div Format.binary64 x.toModel.unpack y.toModel.unpack).isFinite = false := by
    have hx' : x.toModel.unpack.isFinite = false := hx
    cases hu : x.toModel.unpack with
    | notANumber => rfl
    | infinity s => cases y.toModel.unpack <;> rfl
    | zero | finite =>
      rw [hu] at hx'
      cases hx'
  show (Float.Model.pack _).unpack.isFinite = false
  rw [unpack_pack_of_not_finite hdiv]
  exact hdiv

/-- its distance to itself is not a number -/
theorem isNaN_abs_sub_self (hx : x.isFinite = false) : (x - x).abs.isNaN = true := by
  have hx' : x.toModel.unpack.isFinite = false := hx
  have hsub : UnpackedFloat.sub Format.binary64 x.toModel.unpack x.toModel.unpack = .notANumber := by
    cases hu : x.toModel.unpack with
    | notANumber => rfl
    | infinity s => cases s <;> rfl
    | zero | finite =>
      rw [hu] at hx'
      cases hx'
  have hdifference : (x - x).toModel.unpack = .notANumber := by
    show (Float.Model.pack _).unpack = _
    rw [hsub]
    rfl
  show (Float.Model.pack (x - x).toModel.unpack.abs).unpack.isNaN = true
  rw [hdifference]
  rfl

end CalBench.Number
