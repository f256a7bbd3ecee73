/-
The last item of a kind.

Lists here are written in order of time: steps as they were carried out, members of an object as they were read. Where
several items are of a kind the last one counts, so the search starts from the end.

Results:
- `find?_reverse_eq_some_iff`: what that search finds is the last item of the kind;
- `exists_latest_iff`: there is one as soon as any item is of the kind.
-/
import Mathlib.Data.List.Basic

namespace CalBench

/-- `x` is the last item of a list with a property -/
def Latest {α : Type} (P : α → Prop) (xs : List α) (x : α) : Prop :=
  ∃ before after, xs = before ++ x :: after ∧ P x ∧ ∀ y ∈ after, ¬ P y

variable {α : Type} {P : α → Prop} {xs : List α} {x : α}

/-- **A search from the end finds the last item** -/
theorem find?_reverse_eq_some_iff {p : α → Bool} : xs.reverse.find? p = some x ↔ Latest (fun y => p y = true) xs x := by
  rw [List.find?_eq_some_iff_append]
  constructor
  · rintro ⟨hx, after, before, hxs, hafter⟩
    refine ⟨before.reverse, after.reverse, ?_, hx, fun y hy => ?_⟩
    · rw [← List.reverse_reverse xs, hxs, List.reverse_append, List.reverse_cons, List.append_assoc,
        List.singleton_append]
    · simpa using hafter y (List.mem_reverse.1 hy)
  · rintro ⟨before, after, rfl, hx, hafter⟩
    refine ⟨hx, after.reverse, before.reverse, ?_, fun y hy => ?_⟩
    · rw [List.reverse_append, List.reverse_cons, List.append_assoc, List.singleton_append]
    · simpa using hafter y (List.mem_reverse.1 hy)

theorem Latest.mem (h : Latest P xs x) : x ∈ xs ∧ P x := by
  obtain ⟨before, after, rfl, hx, -⟩ := h
  exact ⟨by simp, hx⟩

/-- **If an item has the property, one is the last** -/
theorem exists_latest_iff [DecidablePred P] : (∃ x, Latest P xs x) ↔ ∃ x ∈ xs, P x := by
  constructor
  · rintro ⟨x, h⟩
    exact ⟨x, h.mem⟩
  · rintro ⟨x, hx, hP⟩
    have hfound : (xs.reverse.find? fun y => decide (P y)).isSome = true :=
      List.find?_isSome.2 ⟨x, List.mem_reverse.2 hx, decide_eq_true hP⟩
    obtain ⟨last, hlast⟩ := Option.isSome_iff_exists.1 hfound
    exact ⟨last, by simpa only [decide_eq_true_eq] using find?_reverse_eq_some_iff.1 hlast⟩

end CalBench
