/-
The text of an instruction is put together from the texts of its parameters.

A parameter is rendered by itself: `alone` is an instruction that consists of nothing else. An instruction is rendered
from what its parameters give alone, with its command between those before it and those after it, and it fails as the
first of them fails. So what an instruction reads is what its parameters read: the first argument with the id of each
one and the references that the response and variable parameters name (`References.AgreeOn`). The renderings of all six
kinds of parameter agree where these agree (`Parameter.render_congr`), which is the one place that looks at the kinds.

- `renderAll_eq_ok_iff`, `renderAll_eq_error_iff`: the two outcomes of rendering several parameters in order;
- `render_congr`: an instruction is rendered alike where each of its parameters is.

Results:
- `rendering_is_compositional`: when an instruction is rendered, as what, with which failure, and what does not matter.
Witness:
- `channel_is_compositional`: a channel before the command and an earlier response after it.
-/
import CalBench.Proofs.Instruction.Unresolved
import CalBench.Proofs.Instruction.Range
import Mathlib.Data.List.Find
import Mathlib.Data.List.Nodup

namespace CalBench

/-- the references agree on what the response and variable parameters of a list name; one without a tag or a name
refers to the empty one, as its failure says -/
structure References.AgreeOn (refs refs' : References) (ps : List Parameter) : Prop where
  response : ∀ p ∈ ps, p.kind = .storedResponse →
    refs.response (p.responseTag.getD "") = refs'.response (p.responseTag.getD "")
  variableValue : ∀ p ∈ ps, p.kind = .driverVariable →
    refs.variableValue (p.variableName.getD "") = refs'.variableValue (p.variableName.getD "")

namespace Parameter

variable {p : Parameter} {ps : List Parameter} {args args' : List ParameterArgument} {refs refs' : References}

def alone (p : Parameter) : Instruction := { id := "", name := "", kind := .write, preParameters := some [p] }

/-! ## What a parameter reads -/

/-- **A parameter is rendered alike from the same value and the same references to what it names** -/
theorem render_congr (hargs : p.supplied? args = p.supplied? args') (hrefs : refs.AgreeOn refs' [p]) :
    p.render args refs = p.render args' refs' := by
  have hvalue : p.valueText args refs = p.valueText args' refs' := by
    unfold valueText
    split
    · rename_i hk
      rw [hrefs.response p (List.mem_singleton.2 rfl) hk]
    · rename_i hk
      rw [hrefs.variableValue p (List.mem_singleton.2 rfl) hk]
    · rw [hargs]
  unfold render
  rw [hvalue]

/-- only the first argument with the id matters -/
theorem supplied?_congr (h : (args.find? fun a => a.parameterId == p.id) = args'.find? fun a => a.parameterId == p.id) :
    p.supplied? args = p.supplied? args' := by
  unfold supplied?
  rw [h]

/-- arguments with distinct ids can be given in any order -/
theorem supplied?_perm (h : args.Perm args') (hids : (args.map ParameterArgument.parameterId).Nodup) :
    p.supplied? args = p.supplied? args' := by
  refine supplied?_congr (List.find?_eq_find?_of_perm h ?_)
  rintro a ⟨ha, hp⟩ b ⟨hb, hq⟩
  exact List.inj_on_of_nodup_map hids ha hb ((beq_iff_eq.1 hp).trans (beq_iff_eq.1 hq).symm)

/-- arguments at the end are not looked at if their ids are taken or are not the one of the parameter -/
theorem supplied?_append {more : List ParameterArgument}
    (h : ∀ a ∈ more, a.parameterId ∈ args.map ParameterArgument.parameterId ∨ p.id ≠ a.parameterId) :
    p.supplied? (args ++ more) = p.supplied? args := by
  refine supplied?_congr ?_
  rw [List.find?_append]
  cases hfind : args.find? fun a => a.parameterId == p.id with
  | some a => rfl
  | none =>
    rw [Option.none_or, List.find?_eq_none]
    intro a ha hid
    have hid := beq_iff_eq.1 hid
    rcases h a ha with h | h
    · obtain ⟨b, hb, heq⟩ := List.mem_map.1 h
      exact List.find?_eq_none.1 hfind b hb (beq_iff_eq.2 (heq.trans hid))
    · exact h hid.symm

/-! ## Several parameters in order -/

theorem renderAll_congr (h : ∀ p ∈ ps, p.render args refs = p.render args' refs') :
    renderAll args refs ps = renderAll args' refs' ps := by
  induction ps with
  | nil => rfl
  | cons p rest ih =>
    simp only [renderAll]
    rw [h p List.mem_cons_self, ih fun q hq => h q (List.mem_cons_of_mem p hq)]

/-- **Parameters in order are rendered as the texts that each of them gives** -/
theorem renderAll_eq_ok_iff {text : String} : renderAll args refs ps = .ok text ↔
    ∃ texts, ps.map (fun p => p.render args refs) = texts.map .ok ∧ text = String.join texts := by
  induction ps generalizing text with
  | nil =>
    constructor
    · intro h
      exact ⟨[], rfl, (Except.ok.inj h).symm⟩
    · rintro ⟨texts, htexts, rfl⟩
      rw [List.map_eq_nil_iff.1 htexts.symm]
      rfl
  | cons p rest ih =>
    constructor
    · intro h
      unfold renderAll at h
      split at h
      · cases h
      rename_i first hp
      obtain ⟨others, hothers, rfl⟩ := Except.ok_of_map h
      obtain ⟨texts, htexts, rfl⟩ := ih.1 hothers
      exact ⟨first :: texts, by rw [List.map_cons, List.map_cons, hp, htexts], String.join_cons.symm⟩
    · rintro ⟨texts, htexts, rfl⟩
      cases texts with
      | nil => cases htexts
      | cons first texts =>
        obtain ⟨hp, htexts⟩ := List.cons.inj htexts
        simp only [renderAll, hp, ih.2 ⟨texts, htexts, rfl⟩, Except.map, String.join_cons]

/-- **Parameters in order fail as the first one that fails** -/
theorem renderAll_eq_error_iff {err : RenderError} : renderAll args refs ps = .error err ↔
    ∃ before p after, ps = before ++ p :: after ∧ (∀ q ∈ before, ∃ own, q.render args refs = .ok own) ∧
      p.render args refs = .error err := by
  induction ps with
  | nil =>
    constructor
    · intro h
      cases h
    · rintro ⟨before, p, after, hps, -⟩
      exact absurd hps.symm (List.append_ne_nil_of_right_ne_nil before (List.cons_ne_nil p after))
  | cons p rest ih =>
    constructor
    · intro h
      unfold renderAll at h
      split at h
      · rename_i hp
        cases h
        exact ⟨[], p, rest, rfl, fun q hq => absurd hq List.not_mem_nil, hp⟩
      · rename_i own hp
        obtain ⟨before, q, after, rfl, hbefore, hq⟩ := ih.1 (Except.error_of_map h)
        exact ⟨p :: before, q, after, rfl, List.forall_mem_cons.2 ⟨⟨own, hp⟩, hbefore⟩, hq⟩
    · rintro ⟨before, q, after, hps, hbefore, hq⟩
      cases before with
      | nil =>
        obtain ⟨rfl, rfl⟩ := List.cons.inj hps
        simp only [renderAll, hq]
      | cons r before =>
        obtain ⟨rfl, rfl⟩ := List.cons.inj hps
        obtain ⟨⟨own, hown⟩, hbefore⟩ := List.forall_mem_cons.1 hbefore
        simp only [renderAll, hown, ih.2 ⟨before, q, after, rfl, hbefore, hq⟩, Except.map]

theorem renderAll_append (qs : List Parameter) : renderAll args refs (ps ++ qs) =
    match renderAll args refs ps with
    | .error err => .error err
    | .ok before => (renderAll args refs qs).map (before ++ ·) := by
  induction ps with
  | nil =>
    cases h : renderAll args refs qs <;> simp [renderAll, h, Except.map]
  | cons p rest ih =>
    simp only [List.cons_append, renderAll, ih]
    cases p.render args refs <;> cases renderAll args refs rest <;> cases renderAll args refs qs <;>
      simp [Except.map, String.append_assoc]

/-- parameters in order are rendered if each of them is -/
theorem renderAll_succeeds_iff : (∃ text, renderAll args refs ps = .ok text) ↔
    ∀ p ∈ ps, ∃ own, p.render args refs = .ok own := by
  cases h : renderAll args refs ps with
  | ok text =>
    refine ⟨fun _ p hp => ?_, fun _ => ⟨text, rfl⟩⟩
    obtain ⟨before, own, after, hown, -⟩ := renderAll_mem h hp
    exact ⟨own, hown⟩
  | error err =>
    obtain ⟨before, p, after, rfl, -, hp⟩ := renderAll_eq_error_iff.1 h
    refine ⟨fun ⟨text, h⟩ => (nomatch h), fun h => ?_⟩
    obtain ⟨own, hown⟩ := h p (List.mem_append_right before List.mem_cons_self)
    cases hp.symm.trans hown

end Parameter

namespace Instruction

variable {i : Instruction} {args args' : List ParameterArgument} {refs refs' : References}

/-- the instruction consists of one parameter -/
structure IsJust (j : Instruction) (p : Parameter) : Prop where
  parameters : j.parameters = [p]
  command : j.command = ""

/-- an instruction with an empty command is rendered as its parameters -/
theorem render_of_command_empty (h : i.command = "") :
    i.render args refs = Parameter.renderAll args refs i.parameters := by
  unfold Instruction.render Instruction.parameters
  rw [Parameter.renderAll_append, h]
  cases Parameter.renderAll args refs (i.preParameters.getD []) with
  | error err => rfl
  | ok before => simp only [String.append_empty]

/-- one parameter is rendered as it is within any instruction -/
theorem IsJust.render {p : Parameter} (h : i.IsJust p) : i.render args refs = p.render args refs := by
  rw [render_of_command_empty h.command, h.parameters]
  cases hp : p.render args refs <;> simp [Parameter.renderAll, hp, Except.map]

theorem alone_render (p : Parameter) : p.alone.render args refs = p.render args refs :=
  IsJust.render ⟨rfl, rfl⟩

/-- the text of an instruction -/
theorem render_eq_ok_iff {text : String} : i.render args refs = .ok text ↔
    ∃ before after, Parameter.renderAll args refs (i.preParameters.getD []) = .ok before ∧
      Parameter.renderAll args refs (i.postParameters.getD []) = .ok after ∧ text = before ++ i.command ++ after := by
  constructor
  · intro h
    unfold Instruction.render at h
    split at h
    · cases h
    rename_i before hbefore
    obtain ⟨after, hafter, rfl⟩ := Except.ok_of_map h
    exact ⟨before, after, hbefore, hafter, rfl⟩
  · rintro ⟨before, after, hbefore, hafter, rfl⟩
    simp only [Instruction.render, hbefore, hafter, Except.map]

/-- the failure of an instruction is that of its parameters in order -/
theorem render_eq_error_iff {err : RenderError} :
    i.render args refs = .error err ↔ Parameter.renderAll args refs i.parameters = .error err := by
  unfold Instruction.render Instruction.parameters
  rw [Parameter.renderAll_append]
  cases Parameter.renderAll args refs (i.preParameters.getD []) with
  | error err' => rfl
  | ok before => cases Parameter.renderAll args refs (i.postParameters.getD []) <;> simp [Except.map]

/-- an instruction is rendered if its parameters in order are -/
theorem render_succeeds_iff :
    (∃ text, i.render args refs = .ok text) ↔ ∃ text, Parameter.renderAll args refs i.parameters = .ok text := by
  cases h : i.render args refs with
  | error err => rw [render_eq_error_iff.1 h]
  | ok text =>
    refine iff_of_true ⟨text, rfl⟩ ?_
    cases h' : Parameter.renderAll args refs i.parameters with
    | error err => cases h.symm.trans (render_eq_error_iff.2 h')
    | ok text' => exact ⟨text', rfl⟩

/-- an instruction is rendered alike where its parameters are -/
theorem render_congr (h : ∀ p ∈ i.parameters, p.render args refs = p.render args' refs') :
    i.render args refs = i.render args' refs' := by
  unfold Instruction.render
  rw [Parameter.renderAll_congr fun p hp => h p (List.mem_append_left _ hp),
    Parameter.renderAll_congr fun p hp => h p (List.mem_append_right _ hp)]

theorem render_congr_args (h : ∀ p ∈ i.parameters, p.supplied? args = p.supplied? args') :
    i.render args refs = i.render args' refs :=
  render_congr fun p hp => Parameter.render_congr (h p hp) ⟨fun _ _ _ => rfl, fun _ _ _ => rfl⟩

theorem render_congr_refs (h : refs.AgreeOn refs' i.parameters) : i.render args refs = i.render args refs' := by
  refine render_congr fun p hp => Parameter.render_congr rfl ⟨fun q hq => ?_, fun q hq => ?_⟩
  · rw [List.mem_singleton.1 hq]
    exact h.response p hp
  · rw [List.mem_singleton.1 hq]
    exact h.variableValue p hp

/-- **An instruction is rendered exactly if each of its parameters alone is, as their texts with the command between
those before and those after it; otherwise it fails as the first of them that fails alone. The order of arguments with
distinct ids does not matter, nor do further arguments whose id is taken or belongs to no parameter, nor responses and
variables that no parameter names**. The first part says that it does not matter either by which instruction a
parameter is made to stand alone. -/
theorem rendering_is_compositional (i : Instruction) (args : List ParameterArgument) (refs : References) :
    (∀ (j : Instruction) (p : Parameter), j.IsJust p → j.render args refs = p.alone.render args refs) ∧
    ((∃ text, i.render args refs = .ok text) ↔ ∀ p ∈ i.parameters, ∃ own, p.alone.render args refs = .ok own) ∧
    (∀ text, i.render args refs = .ok text ↔ ∃ before after,
      (i.preParameters.getD []).map (fun p => p.alone.render args refs) = before.map .ok ∧
      (i.postParameters.getD []).map (fun p => p.alone.render args refs) = after.map .ok ∧
      text = String.join before ++ i.command ++ String.join after) ∧
    (∀ err, i.render args refs = .error err ↔ ∃ before p after, i.parameters = before ++ p :: after ∧
      (∀ q ∈ before, ∃ own, q.alone.render args refs = .ok own) ∧ p.alone.render args refs = .error err) ∧
    (∀ args', args.Perm args' → (args.map ParameterArgument.parameterId).Nodup →
      i.render args' refs = i.render args refs) ∧
    (∀ more, (∀ a ∈ more, a.parameterId ∈ args.map ParameterArgument.parameterId ∨
        ∀ p ∈ i.parameters, p.id ≠ a.parameterId) → i.render (args ++ more) refs = i.render args refs) ∧
    (∀ refs', refs.AgreeOn refs' i.parameters → i.render args refs' = i.render args refs) := by
  simp only [alone_render]
  refine ⟨fun j p hj => hj.render, ?_, fun text => ?_, fun err => ?_, fun args' hperm hids => ?_, fun more hmore => ?_,
    fun refs' hrefs => (render_congr_refs hrefs).symm⟩
  · rw [render_succeeds_iff, Parameter.renderAll_succeeds_iff]
  · simp only [render_eq_ok_iff, Parameter.renderAll_eq_ok_iff]
    constructor
    · rintro ⟨_, _, ⟨before, hbefore, rfl⟩, ⟨after, hafter, rfl⟩, rfl⟩
      exact ⟨before, after, hbefore, hafter, rfl⟩
    · rintro ⟨before, after, hbefore, hafter, rfl⟩
      exact ⟨_, _, ⟨before, hbefore, rfl⟩, ⟨after, hafter, rfl⟩, rfl⟩
  · rw [render_eq_error_iff, Parameter.renderAll_eq_error_iff]
  · exact (render_congr_args fun p _ => Parameter.supplied?_perm hperm hids).symm
  · exact render_congr_args fun p hp => Parameter.supplied?_append fun a ha => (hmore a ha).imp_right fun h => h p hp

/-! ## A level for one channel -/

def channel : Parameter := { id := "channel", kind := .string, beforeText := some "@", afterText := some ":" }

def earlierLevel : Parameter :=
  { id := "level", kind := .storedResponse, beforeText := some " ", responseTag := some "level" }

def setChannel : Instruction :=
  { id := "", name := "", kind := .write, command := "VOLT", preParameters := some [channel],
    postParameters := some [earlierLevel] }

/-- the arguments in the other order, a second channel and an argument of no parameter, and one more response -/
theorem channel_is_compositional :
    setChannel.render [⟨"range", .text "10"⟩, ⟨"channel", .text "2"⟩] (Bindings.setResponse {} "level" "5").references =
      .ok "@2:VOLT 5" ∧
    setChannel.render ([⟨"channel", .text "2"⟩, ⟨"range", .text "10"⟩] ++
      [⟨"channel", .text "7"⟩, ⟨"mode", .text "x"⟩]) (Bindings.setResponse {} "level" "5").references =
      .ok "@2:VOLT 5" ∧
    setChannel.render [⟨"channel", .text "2"⟩, ⟨"range", .text "10"⟩]
      ((Bindings.setResponse {} "level" "5").setResponse "offset" "3").references = .ok "@2:VOLT 5" := by
  obtain ⟨-, -, hok, -, hperm, hmore, hrefs⟩ := rendering_is_compositional setChannel
    [⟨"channel", .text "2"⟩, ⟨"range", .text "10"⟩] (Bindings.setResponse {} "level" "5").references
  have h := (hok "@2:VOLT 5").2 ⟨["@2:"], [" 5"], by decide +kernel, by decide +kernel, by decide +kernel⟩
  refine ⟨?_, ?_, ?_⟩
  · exact (hperm _ (.swap _ _ []) (by decide)).trans h
  · exact (hmore _ (by decide)).trans h
  · refine (hrefs _ ⟨?_, ?_⟩).trans h <;> decide +kernel

end Instruction

end CalBench
