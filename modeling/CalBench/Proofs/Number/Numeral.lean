/-
Numbers in decimal digits.

`Numeral` is the grammar of these numbers: a digit, or a numeral and one more digit, which counts ten times as much as
before. Readers go over the digits from the left instead, with the value so far. They accept the numerals and no other
text, with their values.

Results:
- `natural?_eq_some_iff`: digits without a sign;
- `naturalUpTo?_eq_some_iff`: a plus sign may stand in front, and the number has a limit;
- `integerWithin?_eq_some_iff`: so may a minus sign;
- `numeral_digits`: a number is written as its numeral.
-/
import CalBench.Number.Layout
import CalBench.Number.Read
import Mathlib.Data.List.Induction
import Mathlib.Tactic.IntervalCases

namespace CalBench.Number

inductive Numeral : List Char → Nat → Prop
  | digit {d : Nat} (hd : d < 10) : Numeral [d.digitChar] d
  | snoc {cs : List Char} {n d : Nat} (h : Numeral cs n) (hd : d < 10) : Numeral (cs ++ [d.digitChar]) (10 * n + d)

theorem not_numeral_nil (n : Nat) : ¬ Numeral [] n := by
  generalize hcs : [] = cs
  intro h
  cases h with
  | digit => cases hcs
  | snoc => exact absurd hcs.symm (List.append_ne_nil_of_right_ne_nil _ (List.cons_ne_nil _ _))

/-- the last digit of a numeral, and what stands before it -/
theorem numeral_concat_iff {cs : List Char} {c : Char} {n : Nat} : Numeral (cs ++ [c]) n ↔
    ∃ d < 10, c = d.digitChar ∧ ((cs = [] ∧ n = d) ∨ ∃ m, Numeral cs m ∧ n = 10 * m + d) := by
  constructor
  · generalize hall : cs ++ [c] = all
    intro h
    cases h with
    | digit hd =>
      obtain ⟨rfl, hc⟩ := (List.append_eq_singleton_iff.1 hall).resolve_right fun h => nomatch h.2
      exact ⟨n, hd, (List.cons.inj hc).1, .inl ⟨rfl, rfl⟩⟩
    | @snoc front m d h hd =>
      obtain ⟨rfl, hc⟩ := List.append_inj' hall rfl
      exact ⟨d, hd, (List.cons.inj hc).1, .inr ⟨m, h, rfl⟩⟩
  · rintro ⟨d, hd, rfl, ⟨rfl, rfl⟩ | ⟨m, h, rfl⟩⟩
    · exact .digit hd
    · exact .snoc h hd

/-- **A natural number is written as its numeral** -/
theorem numeral_digits (n : Nat) : Numeral (digits n) n := by
  induction n using Nat.strongRecOn with
  | ind n ih =>
    rcases Nat.lt_or_ge n 10 with hlt | hge
    · rw [digits, Nat.toDigits_of_lt_base hlt]
      exact .digit hlt
    · -- the last digit is the remainder, and the digits in front of it are those of the tenth part
      have hlast : n % 10 < 10 := Nat.mod_lt n (by decide)
      have hsplit : digits n = digits (n / 10) ++ [(n % 10).digitChar] := by
        have hjoined := Nat.toDigits_append_toDigits (b := 10) (by decide) (show 0 < n / 10 by omega) hlast
        rw [Nat.toDigits_of_lt_base hlast, Nat.div_add_mod] at hjoined
        exact hjoined.symm
      have hnumeral := Numeral.snoc (ih (n / 10) (by omega)) hlast
      rwa [Nat.div_add_mod, ← hsplit] at hnumeral

/-! ## Readers -/

theorem digit?_eq_some_iff {c : Char} {d : Nat} : digit? c = some d ↔ d < 10 ∧ c = d.digitChar := by
  constructor
  · intro h
    simp only [digit?, Bool.and_eq_true, decide_eq_true_eq, Option.ite_none_right_eq_some, Option.some.injEq] at h
    obtain ⟨⟨hlow, hhigh⟩, rfl⟩ := h
    have hlow : 48 ≤ c.toNat := hlow
    have hhigh : c.toNat ≤ 57 := hhigh
    refine ⟨by omega, Char.toNat_inj.1 ?_⟩
    generalize c.toNat = k at hlow hhigh
    interval_cases k <;> rfl
  · rintro ⟨hd, rfl⟩
    interval_cases d <;> rfl

/-- one more digit is read last -/
theorem leadingDigits_concat {value count value' count' : Nat} {cs : List Char} {c : Char} :
    leadingDigits value count (cs ++ [c]) = (value', count', []) ↔
      ∃ v k d, leadingDigits value count cs = (v, k, []) ∧ digit? c = some d ∧ value' = v * 10 + d ∧
        count' = k + 1 := by
  induction cs generalizing value count with
  | nil =>
    cases h : digit? c with
    | none => simp [leadingDigits, h]
    | some d => simp [leadingDigits, h, eq_comm]
  | cons first cs ih =>
    cases h : digit? first with
    | none => simp [leadingDigits, h]
    | some d => simp only [List.cons_append, leadingDigits, h, ih]

/-- as many digits are read as there are -/
theorem length_of_leadingDigits {value count value' count' : Nat} {cs : List Char}
    (h : leadingDigits value count cs = (value', count', [])) : count' = count + cs.length := by
  induction cs generalizing value count with
  | nil => cases h; rfl
  | cons first cs ih =>
    cases hd : digit? first with
    | none => simp [leadingDigits, hd] at h
    | some d =>
      simp only [leadingDigits, hd] at h
      rw [ih h, List.length_cons]
      omega

theorem natural?_eq_some_iff_leadingDigits {cs : List Char} {n : Nat} :
    natural? cs = some n ↔ cs ≠ [] ∧ ∃ k, leadingDigits 0 0 cs = (n, k, []) := by
  unfold natural?
  split
  · rename_i value count hread
    have hcount := length_of_leadingDigits hread
    rw [Nat.zero_add] at hcount
    subst hcount
    simp [hread, List.length_pos_iff]
  · rename_i hread
    exact iff_of_false nofun fun ⟨_, k, h⟩ => hread n k h

/-- **A text of digits is a numeral, and has its value** -/
theorem natural?_eq_some_iff {cs : List Char} {n : Nat} : natural? cs = some n ↔ Numeral cs n := by
  rw [natural?_eq_some_iff_leadingDigits]
  induction cs using List.reverseRecOn generalizing n with
  | nil => exact iff_of_false (fun h => h.1 rfl) (not_numeral_nil n)
  | append_singleton cs c ih =>
    rw [numeral_concat_iff]
    constructor
    · rintro ⟨-, k, h⟩
      obtain ⟨v, m, d, hread, hd, rfl, -⟩ := leadingDigits_concat.1 h
      obtain ⟨hlt, hc⟩ := digit?_eq_some_iff.1 hd
      refine ⟨d, hlt, hc, ?_⟩
      by_cases hcs : cs = []
      · subst hcs
        cases hread
        exact .inl ⟨rfl, by omega⟩
      · exact .inr ⟨v, ih.1 ⟨hcs, m, hread⟩, by omega⟩
    · rintro ⟨d, hlt, hc, hfront⟩
      have hd : digit? c = some d := digit?_eq_some_iff.2 ⟨hlt, hc⟩
      refine ⟨List.concat_ne_nil _ _, ?_⟩
      rcases hfront with ⟨rfl, hn⟩ | ⟨m, hm, rfl⟩
      · exact ⟨1, leadingDigits_concat.2 ⟨0, 0, d, rfl, hd, by omega, rfl⟩⟩
      · obtain ⟨-, k, hread⟩ := ih.2 hm
        exact ⟨k + 1, leadingDigits_concat.2 ⟨m, k, d, hread, hd, by omega, rfl⟩⟩

/-! ## Signs -/

/-- a numeral begins with a digit -/
theorem not_numeral_cons {c : Char} (hc : digit? c = none) (cs : List Char) (n : Nat) : ¬ Numeral (c :: cs) n := by
  intro h
  obtain ⟨-, k, hread⟩ := natural?_eq_some_iff_leadingDigits.1 (natural?_eq_some_iff.2 h)
  simp [leadingDigits, hc] at hread

/-- **A natural number up to a limit is a numeral, perhaps with a plus sign in front** -/
theorem naturalUpTo?_eq_some_iff {largest n : Nat} {s : String} : naturalUpTo? largest s = some n ↔
    n ≤ largest ∧ ∃ digits, Numeral digits n ∧ (s.toList = digits ∨ s.toList = '+' :: digits) := by
  simp only [naturalUpTo?, Option.filter_eq_some_iff, decide_eq_true_eq]
  rw [and_comm]
  refine and_congr_right fun _ => ?_
  split
  · rename_i rest hs
    rw [natural?_eq_some_iff, hs]
    constructor
    · exact fun h => ⟨rest, h, .inr rfl⟩
    · rintro ⟨digits, h, rfl | heq⟩
      · exact absurd h (not_numeral_cons rfl _ _)
      · cases heq
        exact h
  · rename_i hs
    rw [natural?_eq_some_iff]
    constructor
    · exact fun h => ⟨_, h, .inl rfl⟩
    · rintro ⟨digits, h, rfl | heq⟩
      · exact h
      · exact absurd heq (hs digits)

/-- a numeral, perhaps with a sign in front, and the integer that it stands for -/
def SignedNumeral (cs : List Char) (i : Int) : Prop :=
  ∃ digits n, Numeral digits n ∧ ((i = n ∧ (cs = digits ∨ cs = '+' :: digits)) ∨ (i = -n ∧ cs = '-' :: digits))

theorem signedNumeral_iff_sign {cs : List Char} {i : Int} : SignedNumeral cs i ↔
    ∃ n, Numeral (sign cs).2 n ∧ i = if (sign cs).1 then -(n : Int) else n := by
  constructor
  · rintro ⟨digits, n, h, ⟨hi, rfl | rfl⟩ | ⟨hi, rfl⟩⟩
    · unfold sign
      split
      · exact absurd h (not_numeral_cons rfl _ _)
      · exact absurd h (not_numeral_cons rfl _ _)
      · exact ⟨n, h, hi⟩
    · exact ⟨n, h, hi⟩
    · exact ⟨n, h, hi⟩
  · rintro ⟨n, h, hi⟩
    revert h hi
    unfold sign
    split <;> intro h hi
    · exact ⟨_, n, h, .inr ⟨hi, rfl⟩⟩
    · exact ⟨_, n, h, .inl ⟨hi, .inr rfl⟩⟩
    · exact ⟨_, n, h, .inl ⟨hi, .inl rfl⟩⟩

/-- **An integer between two bounds is a numeral, perhaps with a sign in front** -/
theorem integerWithin?_eq_some_iff {least largest i : Int} {s : String} : integerWithin? least largest s = some i ↔
    least ≤ i ∧ i ≤ largest ∧ SignedNumeral s.toList i := by
  rw [signedNumeral_iff_sign]
  simp only [integerWithin?, Option.bind_eq_some_iff, natural?_eq_some_iff, Bool.and_eq_true, decide_eq_true_eq,
    Option.ite_none_right_eq_some, Option.some.injEq]
  constructor
  · rintro ⟨n, h, ⟨hleast, hlargest⟩, rfl⟩
    exact ⟨hleast, hlargest, n, h, rfl⟩
  · rintro ⟨hleast, hlargest, n, h, rfl⟩
    exact ⟨n, h, ⟨hleast, hlargest⟩, rfl⟩

end CalBench.Number
