/-
The numbers that reach the text of a command.

The checks of a number parameter are written as refusals: less than the lower bound, more than the upper bound, further
from a step than a billionth. What is not a number is refused by none of them. An infinite number is refused by the
bounds and not by the steps, since its distance to the nearest whole number is not a number. `Within` says what the
checks establish for every other number.

- `onStep_of_not_finite`: the steps let everything through that is not finite;
- `render_mem`: the text of an instruction holds that of each of its parameters.

Results:
- `checkRange_eq_ok_iff`: exactly what is not a number or within the limits is let through;
- `rendered_numbers_are_checked`: every number that an instruction renders comes from its argument and is one of those.
Witnesses:
- `level_is_checked`: a level between two bounds;
- `levels_slip_through`: an argument `nan` between bounds and an argument `inf` on a step are rendered.
-/
import CalBench.Instruction.Render
import CalBench.Proofs.Number.Order

namespace CalBench

theorem Except.ok_of_map {ε α β : Type} {f : α → β} {x : Except ε α} {b : β} (h : x.map f = .ok b) :
    ∃ a, x = .ok a ∧ f a = b := by
  cases x with
  | ok a => exact ⟨a, rfl, Except.ok.inj h⟩
  | error err => cases h

theorem Except.ok_of_toOption {ε α : Type} {x : Except ε α} {a : α} (h : x.toOption = some a) : x = .ok a := by
  cases x with
  | ok b => exact congrArg Except.ok (Option.some.inj h)
  | error err => cases h

namespace Parameter

/-! ## The checks -/

/-- the number is within the enforced bounds, and if it is finite it is on the enforced steps -/
structure Within (p : Parameter) (x : Float) : Prop where
  lower : ∀ min ∈ p.lower?, min.isNaN = false → min ≤ x
  upper : ∀ max ∈ p.upper?, max.isNaN = false → x ≤ max
  steps : x.isFinite = true → ∀ step ∈ p.increment?, onStep (p.lower?.getD 0.0) step x = true

variable {p : Parameter} {x : Float}

/-- **The steps let everything through that is not finite** -/
theorem onStep_of_not_finite (hx : x.isFinite = false) (base step : Float) : onStep base step x = true := by
  have hsteps : ((x - base) / step).isFinite = false := Number.isFinite_div (Number.isFinite_sub hx base) step
  have hfar : ¬ (1e-9 : Float) < ((x - base) / step - (x - base) / step).abs :=
    Number.not_lt_of_isNaN (.inr (Number.isNaN_abs_sub_self hsteps))
  show (!decide (_ > _)) = true
  rw [Number.nearestWhole_of_not_finite hsteps, Bool.not_eq_true', decide_eq_false_iff_not]
  exact hfar

/-- the refusals one by one -/
theorem checkRange_eq_ok_iff_not_refused : p.checkRange x = .ok () ↔
    (∀ min ∈ p.lower?, ¬ x < min) ∧ (∀ max ∈ p.upper?, ¬ max < x) ∧
      ∀ step ∈ p.increment?, onStep (p.lower?.getD 0.0) step x = true := by
  unfold checkRange
  constructor
  · intro h
    split at h
    · cases h
    rename_i hlower
    split at h
    · cases h
    rename_i hupper
    split at h
    · cases h
    rename_i hsteps
    simp only [Option.any_eq_true, not_exists, not_and, decide_eq_true_eq, Bool.not_eq_true', Bool.not_eq_false]
      at hlower hupper hsteps
    exact ⟨hlower, hupper, hsteps⟩
  · rintro ⟨hlower, hupper, hsteps⟩
    have hlower' : ¬ (p.lower?.any fun min => x < min) = true := by simpa [Option.any_eq_true] using hlower
    have hupper' : ¬ (p.upper?.any fun max => x > max) = true := by simpa [Option.any_eq_true] using hupper
    have hsteps' : ¬ (p.increment?.any fun step => !onStep (p.lower?.getD 0.0) step x) = true := by
      simpa [Option.any_eq_true] using hsteps
    rw [if_neg hlower', if_neg hupper', if_neg hsteps']

/-- **The checks let through exactly what is not a number or within the limits** -/
theorem checkRange_eq_ok_iff : p.checkRange x = .ok () ↔ x.isNaN = true ∨ p.Within x := by
  rw [checkRange_eq_ok_iff_not_refused]
  cases hx : x.isNaN with
  | true =>
    have hfin : x.isFinite = false := Number.isFinite_of_isNaN hx
    refine ⟨fun _ => .inl rfl, fun _ => ⟨fun min _ => ?_, fun max _ => ?_, fun step _ => ?_⟩⟩
    · exact Number.not_lt_of_isNaN (.inl hx)
    · exact Number.not_lt_of_isNaN (.inr hx)
    · exact onStep_of_not_finite hfin _ step
  | false =>
    constructor
    · rintro ⟨hlower, hupper, hsteps⟩
      refine .inr ⟨fun min hmin => ?_, fun max hmax hnan => ?_, fun _ => hsteps⟩
      · exact Number.not_lt_iff.1 (hlower min hmin) hx
      · exact Number.not_lt_iff.1 (hupper max hmax) hnan hx
    · intro h
      rcases h with h | ⟨hlower, hupper, hsteps⟩
      · cases h
      refine ⟨fun min hmin => ?_, fun max hmax => ?_, fun step hstep => ?_⟩
      · exact Number.not_lt_iff.2 fun _ => hlower min hmin
      · exact Number.not_lt_iff.2 fun hnan _ => hupper max hmax hnan
      · cases hfin : x.isFinite with
        | true => exact hsteps hfin step hstep
        | false => exact onStep_of_not_finite hfin _ step

/-! ## Rendering -/

variable {refs : References} {args : List ParameterArgument}

/-- the text of a number parameter that is supplied with a value -/
theorem render_number {a : Argument} {shown : String} (hk : p.kind = .number) (ha : p.supplied? args = some a)
    (h : p.render args refs = .ok shown) : ∃ x, a.number? = some x ∧ p.checkRange x = .ok () ∧
      shown = p.beforeText.getD "" ++ Number.text x ++ p.afterText.getD "" := by
  obtain ⟨v, hv, hshown⟩ := Except.ok_of_map h
  simp only [valueText, hk, ha] at hv
  obtain ⟨s, hs, rfl⟩ := Except.ok_of_map hv
  simp only [writeValue, hk] at hs
  split at hs
  · cases hs
  rename_i x hx
  obtain ⟨_, hcheck, rfl⟩ := Except.ok_of_map hs
  exact ⟨x, hx, hcheck, hshown.symm⟩

/-- every parameter of a list is in its text -/
theorem renderAll_mem {ps : List Parameter} {shown : String} (h : renderAll args refs ps = .ok shown) (hp : p ∈ ps) :
    ∃ before own after, p.render args refs = .ok own ∧ shown = before ++ own ++ after := by
  induction ps generalizing shown with
  | nil => cases hp
  | cons q rest ih =>
    unfold renderAll at h
    split at h
    · cases h
    rename_i first hq
    obtain ⟨others, hothers, rfl⟩ := Except.ok_of_map h
    rcases List.mem_cons.1 hp with rfl | hp
    · exact ⟨"", first, others, hq, by rw [String.empty_append]⟩
    · obtain ⟨before, own, after, hown, rfl⟩ := ih hothers hp
      exact ⟨first ++ before, own, after, hown, by simp only [String.append_assoc]⟩

end Parameter

namespace Instruction

/-- every parameter of an instruction is in its text -/
theorem render_mem {i : Instruction} {args : List ParameterArgument} {refs : References} {text : String}
    (h : i.render args refs = .ok text) {p : Parameter} (hp : p ∈ i.parameters) :
    ∃ before own after, p.render args refs = .ok own ∧ text = before ++ own ++ after := by
  unfold Instruction.render at h
  split at h
  · cases h
  rename_i pre hpre
  obtain ⟨post, hpost, rfl⟩ := Except.ok_of_map h
  rcases List.mem_append.1 hp with hp | hp
  · obtain ⟨before, own, after, hown, rfl⟩ := Parameter.renderAll_mem hpre hp
    exact ⟨before, own, after ++ i.command ++ post, hown, by simp only [String.append_assoc]⟩
  · obtain ⟨before, own, after, hown, rfl⟩ := Parameter.renderAll_mem hpost hp
    exact ⟨pre ++ i.command ++ before, own, after, hown, by simp only [String.append_assoc]⟩

/-- **Every number that an instruction renders is the number of its argument or default, and it is within the enforced
limits of its parameter unless it is not a number**; the steps are established for finite numbers only -/
theorem rendered_numbers_are_checked {i : Instruction} {args : List ParameterArgument} {refs : References}
    {text : String} (h : i.render args refs = .ok text) :
    ∀ p ∈ i.parameters, p.kind = .number → ∀ a, p.supplied? args = some a →
      ∃ x before after, a.number? = some x ∧
        text = before ++ (p.beforeText.getD "" ++ Number.text x ++ p.afterText.getD "") ++ after ∧
        (x.isNaN = false → p.Within x) := by
  intro p hp hk a ha
  obtain ⟨before, own, after, hown, htext⟩ := render_mem h hp
  obtain ⟨x, hx, hcheck, rfl⟩ := Parameter.render_number hk ha hown
  refine ⟨x, before, after, hx, htext, fun hnan => ?_⟩
  rcases Parameter.checkRange_eq_ok_iff.1 hcheck with h | h
  · cases hnan.symm.trans h
  · exact h

/-! ## A source with bounds and a trigger with steps -/

def level : Parameter :=
  { id := "level", kind := .number, beforeText := some " ", useMin := some true, useMax := some true, min := some 0,
    max := some 10 }

def repetitions : Parameter :=
  { id := "repetitions", kind := .number, beforeText := some " ", useStep := some true, step := some 1 }

/-- a command with one parameter after it -/
def commandWith (command : String) (p : Parameter) : Instruction :=
  { id := "", name := "", kind := .write, command, postParameters := some [p] }

/-- a level in its bounds -/
theorem level_is_checked :
    (commandWith "VOLT" level).render [⟨"level", .text " 2.5"⟩] (Bindings.references {}) = .ok "VOLT 2.5" ∧
      level ∈ (commandWith "VOLT" level).parameters ∧ level.kind = .number ∧
      level.supplied? [⟨"level", .text " 2.5"⟩] = some (.text " 2.5") ∧
      ∃ x before after, Argument.number? (.text " 2.5") = some x ∧
        "VOLT 2.5" = before ++ (level.beforeText.getD "" ++ Number.text x ++ level.afterText.getD "") ++ after ∧
        (x.isNaN = false → level.Within x) := by
  have hrender : (commandWith "VOLT" level).render [⟨"level", .text " 2.5"⟩] (Bindings.references {}) =
      .ok "VOLT 2.5" := Except.ok_of_toOption (by decide +kernel)
  have hmem : level ∈ (commandWith "VOLT" level).parameters := List.mem_singleton.2 rfl
  have hsupplied : level.supplied? [⟨"level", .text " 2.5"⟩] = some (.text " 2.5") := rfl
  exact ⟨hrender, hmem, rfl, hsupplied, rendered_numbers_are_checked hrender level hmem rfl _ hsupplied⟩

/-- **An argument that is not a number is rendered between two bounds, and an infinite one where steps are enforced** -/
theorem levels_slip_through :
    (level.lower? = some 0 ∧ level.upper? = some 10 ∧
      (commandWith "VOLT" level).render [⟨"level", .text "nan"⟩] (Bindings.references {}) = .ok "VOLT NaN" ∧
      ∃ x, Argument.number? (.text "nan") = some x ∧ ¬ 0 ≤ x ∧ ¬ x ≤ 10) ∧
    (repetitions.increment? = some 1 ∧
      (commandWith "INIT" repetitions).render [⟨"repetitions", .text "inf"⟩] (Bindings.references {}) =
        .ok "INIT inf" ∧
      ∃ x, Argument.number? (.text "inf") = some x ∧ x.isFinite = false) := by
  refine ⟨⟨by decide +kernel, by decide +kernel, Except.ok_of_toOption (by decide +kernel), ?_⟩,
    by decide +kernel, Except.ok_of_toOption (by decide +kernel), ?_⟩
  · exact ⟨(0 : Float) / 0, by decide +kernel, by decide +kernel, by decide +kernel⟩
  · exact ⟨(1 : Float) / 0, by decide +kernel, by decide +kernel⟩

end Instruction

end CalBench
