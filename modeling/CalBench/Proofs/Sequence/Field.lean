/-
What the bindable fields of an operation stand for.

A text field counts as absent when it is blank. Numbers and truth values are written out, and what is written out
always holds a digit, a point or a letter, so only a text can be blank.

Results:
- `textOf_not_blank`: whatever the kind of binding and the raw value, a text that a field stands for is not blank;
- `textOf_literal`: a literal text that is not blank stands for itself.
-/
import CalBench.Sequence.Context

namespace CalBench

namespace Number

/-! ## Numbers are never written as blanks -/

theorem digits_cons (n : Nat) : ∃ c rest, digits n = c :: rest ∧ c.isDigit = true := by
  cases h : digits n with
  | nil => exact absurd h Nat.toDigits_ne_nil
  | cons c rest =>
    have hc : c ∈ Nat.toDigits 10 n := by
      rw [show Nat.toDigits 10 n = c :: rest from h]
      exact List.mem_cons_self
    exact ⟨c, rest, rfl, Nat.isDigit_of_mem_toDigits (by decide) (by decide) hc⟩

theorem not_blank_of_isDigit {c : Char} (h : c.isDigit = true) : Text.isBlank c = false := by
  have hc : 48 ≤ c.toNat ∧ c.toNat ≤ 57 := by
    simp only [Char.isDigit, Bool.and_eq_true, decide_eq_true_eq] at h
    exact h
  simp only [Text.isBlank, Text.inRanges, Text.blankRanges, List.any_cons, List.any_nil, Bool.or_false,
    Bool.or_eq_false_iff, Bool.and_eq_false_iff, decide_eq_false_iff_not]
  omega

/-- a text with a visible character is not blank -/
theorem not_blank_of_mem {cs : List Char} {c : Char} (hm : c ∈ cs) (hc : Text.isBlank c = false) :
    Text.isBlankText (String.ofList cs) = false := by
  simp only [Text.isBlankText, String.toList_ofList, List.all_eq_false]
  exact ⟨c, hm, by simp [hc]⟩

theorem intText_not_blank (n : Int) : Text.isBlankText (intText n) = false := by
  obtain ⟨c, rest, hd, hc⟩ := digits_cons n.natAbs
  refine not_blank_of_mem (c := c) ?_ (not_blank_of_isDigit hc)
  rw [hd]
  split <;> simp

/-- a positive decimal shows its first digit, a point or a zero, whatever the layout -/
theorem place_visible (l : Layout) (d : Decimal) : ∃ c ∈ l.place d, Text.isBlank c = false := by
  obtain ⟨c, rest, hd, hc⟩ := digits_cons d.digits
  have hb := not_blank_of_isDigit hc
  simp only [Layout.place]
  split
  · split
    · exact ⟨c, by simp [hd], hb⟩
    · split
      · exact ⟨'.', by simp, by decide⟩
      · exact ⟨'0', by simp, by decide⟩
  · exact ⟨c, by simp [hd], hb⟩

theorem write_not_blank (l : Layout) (x : Float) : Text.isBlankText (l.write x) = false := by
  by_cases hz : (Dyadic.ofFloat x).m = 0
  · simp only [Layout.write, hz, if_true]
    exact not_blank_of_mem (c := '0') (by simp) (by decide)
  · obtain ⟨c, hm, hc⟩ := place_visible l ((Dyadic.ofFloat x).shortest l.tie)
    simp only [Layout.write, hz, if_false]
    exact not_blank_of_mem (List.mem_append_right _ hm) hc

end Number

namespace Context

/-! ## Texts -/

/-- **A field never stands for a blank text**, whatever it is bound to -/
theorem textOf_not_blank {ctx : Context} {b : Bindable} {s : String} (h : ctx.textOf b = some s) :
    Text.isBlankText s = false := by
  obtain ⟨j, -, hj⟩ := Option.bind_eq_some_iff.1 h
  cases j with
  | str t =>
    simp only [Option.ite_none_left_eq_some, Option.some.injEq] at hj
    obtain ⟨hb, rfl⟩ := hj
    simpa using hb
  | int n => cases hj; exact Number.intText_not_blank n
  | float x _ => cases hj; exact Number.write_not_blank _ x
  | bool b => cases hj; cases b <;> decide
  | null => cases hj
  | arr _ => cases hj
  | obj _ => cases hj

/-- a literal text that is not blank stands for itself -/
theorem textOf_literal (ctx : Context) {s : String} (h : Text.isBlankText s = false) :
    ctx.textOf ⟨some (.str s), .literal⟩ = some s := by
  simp [textOf, resolveText, resolve, h]

end Context

end CalBench
