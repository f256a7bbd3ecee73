/-
How a request has to spell the names of an action.

A request is put into lower case by the rules for all letters, and then its names are compared with those of sections
and actions by the case of ASCII letters alone. A name that was deployed with a capital outside ASCII is not the same as
its own lower case form, so a request that spells it as it is does not reach it; and a request may reach an action whose
name it does not have. For a name whose lower case form is the same to a look-up (`StaysItself`), as that of every ASCII
text is, both ways of looking up agree.

Results:
- `action_congr`: a look-up does not tell names apart that differ in the case of ASCII letters;
- `lowered_lookup_iff`: an action that names find is found by their lower case forms exactly if they stay themselves;
- `requests_reach_plain_names`: for names that stay themselves, and for no others, a request finds in every procedure
  what its names find, and reaches the action that they find.
Witnesses:
- `volts_are_reached`: names with ASCII capitals;
- `ohms_are_not_reached`: a section `Ω` is found by its name and not by a request for it.
-/
import CalBench.Proofs.Procedure.Refusal
import CalBench.Proofs.Procedure.Traversal

namespace CalBench

namespace Text

/-! ## Names that stay themselves -/

theorem sameIgnoringCase_iff {a b : String} :
    sameIgnoringCase a b = true ↔ a.toList.map Char.toLower = b.toList.map Char.toLower := by
  rw [sameIgnoringCase, beq_iff_eq]

theorem sameIgnoringCase_self (a : String) : sameIgnoringCase a a = true := sameIgnoringCase_iff.2 rfl

/-- texts that are the same are the same as the same texts -/
theorem sameIgnoringCase_congr {a b : String} (h : sameIgnoringCase a b = true) (c : String) :
    sameIgnoringCase c a = sameIgnoringCase c b := by
  rw [sameIgnoringCase_iff] at h
  rw [sameIgnoringCase, sameIgnoringCase, h]

/-- the lower case form of a name is the same name to a look-up -/
def StaysItself (name : String) : Prop := sameIgnoringCase (lower name) name = true

instance (name : String) : Decidable (StaysItself name) :=
  inferInstanceAs (Decidable (sameIgnoringCase (lower name) name = true))

/-- beyond the ASCII capitals the table has no ASCII characters -/
theorem lowerRows_beyond : ∀ r ∈ lowerRows.tail, 128 ≤ r.1 := by decide +kernel

/-- an ASCII character that is no capital is its own lower case form -/
theorem lowerChar_small {c : Char} (hc : c.toNat < 128) (hsmall : ¬ (0x41 ≤ c.toNat ∧ c.toNat ≤ 0x5A)) :
    lowerChar c = [c] := by
  have hrow : rowDelta lowerRows c.toNat = none := by
    rw [rowDelta, Option.map_eq_none_iff, List.find?_eq_none]
    intro r hr
    rcases List.mem_cons.1 (show r ∈ (0x41, 0x5A, 1, 32) :: lowerRows.tail from hr) with rfl | hr
    · simpa using fun h h' => absurd ⟨h, h'⟩ hsmall
    · have hbeyond := lowerRows_beyond r hr
      have hnot : ¬ r.1 ≤ c.toNat := by omega
      simp [hnot]
  have hlong : lowerLong.find? (fun r => r.1 == c.toNat) = none := by
    rw [List.find?_eq_none]
    intro r hr
    obtain rfl := List.mem_singleton.1 hr
    simp
    omega
  rw [lowerChar, mapCase, hrow, hlong]

/-- ASCII characters one by one -/
theorem lowerChar_ascii {c : Char} (hc : c.toNat < 128) :
    c ≠ 'Σ' ∧ lowerChar c = [c.toLower] ∧ c.toLower.toLower = c.toLower := by
  have hall : ∀ n < 128, Char.ofNat n ≠ 'Σ' ∧
      (if 0x41 ≤ n ∧ n ≤ 0x5A then lowerChar (Char.ofNat n) = [(Char.ofNat n).toLower]
        else (Char.ofNat n).toLower = Char.ofNat n) ∧
      (Char.ofNat n).toLower.toLower = (Char.ofNat n).toLower := by decide +kernel
  obtain ⟨hsigma, hlower, htwice⟩ := hall c.toNat hc
  rw [Char.ofNat_toNat] at hsigma hlower htwice
  refine ⟨hsigma, ?_, htwice⟩
  split at hlower
  · exact hlower
  · next hsmall => rw [hlower, lowerChar_small hc hsmall]

theorem lowerFrom_ascii (before : List Char) {cs : List Char} (h : ∀ c ∈ cs, c.toNat < 128) :
    lowerFrom before cs = cs.map Char.toLower := by
  induction cs generalizing before with
  | nil => rfl
  | cons c cs ih =>
    obtain ⟨hc, hcs⟩ := List.forall_mem_cons.1 h
    obtain ⟨hsigma, hlower, -⟩ := lowerChar_ascii hc
    rw [lowerFrom, if_neg hsigma, hlower, ih _ hcs]
    rfl

/-- **ASCII texts stay themselves** -/
theorem staysItself_ascii {name : String} (h : isAscii name = true) : StaysItself name := by
  have hascii : ∀ c ∈ name.toList, c.toNat < 128 := by simpa [isAscii] using h
  apply sameIgnoringCase_iff.2
  rw [lower, lowerFrom_ascii _ hascii, String.toList_ofList, List.map_map]
  apply List.map_congr_left
  intro c hc
  exact (lowerChar_ascii (hascii c hc)).2.2

end Text

namespace Procedure

open Text

variable {p : Procedure} {sectionName sectionName' action action' : String} {i : Nat}

/-! ## Look-ups -/

/-- **Look-ups do not tell names apart that differ in the case of ASCII letters** -/
theorem action_congr (hsection : sameIgnoringCase sectionName sectionName' = true)
    (haction : sameIgnoringCase action action' = true) (p : Procedure) :
    (p.action sectionName action).toOption = (p.action sectionName' action').toOption := by
  have hfind : p.section? sectionName = p.section? sectionName' := by
    unfold section?
    simp only [sameIgnoringCase_congr hsection]
  unfold Procedure.action
  rw [hfind]
  cases p.section? sectionName' with
  | none => rfl
  | some s =>
    simp only [sameIgnoringCase_congr haction]
    split <;> rfl

/-- **An action that names find is found by their lower case forms exactly if they stay themselves** -/
theorem lowered_lookup_iff (h : p.action sectionName action = .ok i) :
    p.action (lower sectionName) (lower action) = .ok i ↔ StaysItself sectionName ∧ StaysItself action := by
  obtain ⟨-, hname, short, hshort, hsection⟩ := action_eq_ok h
  constructor
  · intro hlowered
    obtain ⟨-, hname', short', hshort', hsection'⟩ := action_eq_ok hlowered
    cases hshort.symm.trans hshort'
    rw [sameIgnoringCase_iff] at hname hsection hname' hsection'
    constructor
    · exact sameIgnoringCase_iff.2 (hsection'.symm.trans hsection)
    · exact sameIgnoringCase_iff.2 (hname'.symm.trans hname)
  · rintro ⟨hstays, hstays'⟩
    have hagree := action_congr hstays hstays' p
    rw [h] at hagree
    cases hlowered : p.action (lower sectionName) (lower action) with
    | ok j =>
      rw [hlowered] at hagree
      cases hagree
      rfl
    | error e =>
      rw [hlowered] at hagree
      cases hagree

def actionOf (sectionName action : String) : Procedure where
  nodes := [
    { id := "s", type := NodeType.sectionConfiguration.name, shortName := some sectionName },
    { id := "a", type := NodeType.actionStart.name, name := action, sectionId := some "s" }]

theorem actionOf_section (sectionName action : String) : (actionOf sectionName action).sectionOf? 1 = some 0 := by
  have hmeant : (actionOf sectionName action).Meant "s" 0 := by
    refine ⟨⟨_, rfl, rfl⟩, ?_⟩
    intro j n hn hid
    match j, hn with
    | 0, _ => exact Nat.le_refl 0
    | 1, hn =>
      cases hn
      have hother : upper "a" ≠ upper "s" := by decide +kernel
      exact absurd hid hother
  have hfound : (actionOf sectionName action).find? "s" = some 0 := find?_eq_some_iff.2 hmeant
  have hid : ((actionOf sectionName action).node 1).sectionId = some "s" := rfl
  rw [sectionOf?, hid, Option.bind_some, hfound]
  rfl

/-- the action is found by the names it has -/
theorem actionOf_found (sectionName action : String) :
    (actionOf sectionName action).action sectionName action = .ok 1 := by
  have hsections : (actionOf sectionName action).ofType .sectionConfiguration = [0] := rfl
  have hactions : (actionOf sectionName action).ofType .actionStart = [1] := rfl
  have hsection : (actionOf sectionName action).section? sectionName = some 0 := by
    rw [section?, hsections, List.find?_cons_of_pos]
    exact sameIgnoringCase_self sectionName
  have haction : [1].find? (fun i => sameIgnoringCase ((actionOf sectionName action).node i).name action &&
      (actionOf sectionName action).sectionOf? i == some 0) = some 1 := by
    rw [List.find?_cons_of_pos]
    rw [actionOf_section]
    exact Bool.and_eq_true_iff.2 ⟨sameIgnoringCase_self action, rfl⟩
  rw [Procedure.action, hsection, hactions]
  simp only [haction]

/-- **A request reaches what its names find exactly if they stay themselves in lower case.**

A request is looked up with its names in lower case. This finds the same action in every procedure, and none in the same
procedures, as looking the names up directly, exactly if both names stay themselves, as ASCII names do. Where the names
find an action, as those an action was deployed with do if it is the first with them, the request reaches it exactly if
they stay themselves; otherwise the request is refused or reaches another action. -/
theorem requests_reach_plain_names (r : TriggerRequest) :
    ((∀ p : Procedure, (p.action r.normalized.sectionName r.normalized.action).toOption =
      (p.action r.sectionName r.action).toOption) ↔ StaysItself r.sectionName ∧ StaysItself r.action) ∧
    (∀ (p : Procedure) (i : Nat), p.action r.sectionName r.action = .ok i →
      (p.action r.normalized.sectionName r.normalized.action = .ok i ↔
        StaysItself r.sectionName ∧ StaysItself r.action)) ∧
    (isAscii r.sectionName = true → isAscii r.action = true → StaysItself r.sectionName ∧ StaysItself r.action) := by
  refine ⟨?_, fun p i hfound => lowered_lookup_iff hfound, fun hs ha => ⟨staysItself_ascii hs, staysItself_ascii ha⟩⟩
  constructor
  · intro hagree
    -- the procedure that has the two names and nothing else
    have hfound := actionOf_found r.sectionName r.action
    have hlowered := hagree (actionOf r.sectionName r.action)
    rw [hfound] at hlowered
    apply (lowered_lookup_iff hfound).1
    cases hcase : (actionOf r.sectionName r.action).action r.normalized.sectionName r.normalized.action with
    | ok j =>
      rw [hcase] at hlowered
      cases hlowered
      exact hcase
    | error e =>
      rw [hcase] at hlowered
      cases hlowered
  · rintro ⟨hsection, haction⟩ p
    exact action_congr hsection haction p

/-- **Names with ASCII capitals are reached** as they were deployed, and names with other capitals are not -/
theorem volts_are_reached :
    ((actionOf "DCV" "Verify").sectionName? 1 = some "DCV" ∧
      (actionOf "DCV" "Verify").action "DCV" "Verify" = .ok 1 ∧
      (actionOf "DCV" "Verify").action (lower "DCV") (lower "Verify") = .ok 1) ∧
    (actionOf "Ω" "Verify").sectionName? 1 = some "Ω" ∧
      (actionOf "Ω" "Verify").action "Ω" "Verify" = .ok 1 ∧
      (actionOf "Ω" "Verify").action (lower "Ω") (lower "Verify") ≠ .ok 1 := by
  have hvolts : (actionOf "DCV" "Verify").sectionName? 1 = some "DCV" := by decide +kernel
  have hohms : (actionOf "Ω" "Verify").sectionName? 1 = some "Ω" := by decide +kernel
  have hreach := (requests_reach_plain_names { kind := .start, sectionName := "DCV", action := "Verify" }).2.1 _ 1
    (actionOf_found "DCV" "Verify")
  have hmiss := (requests_reach_plain_names { kind := .start, sectionName := "Ω", action := "Verify" }).2.1 _ 1
    (actionOf_found "Ω" "Verify")
  refine ⟨⟨hvolts, actionOf_found "DCV" "Verify", hreach.2 ⟨by decide +kernel, by decide +kernel⟩⟩,
    hohms, actionOf_found "Ω" "Verify", ?_⟩
  intro hreached
  exact absurd (hmiss.1 hreached).1 (by decide +kernel)

end Procedure

namespace Station

/-- **A section `Ω` is found by its name and not by a request for it**: the request is refused because there is no
section `ω` -/
theorem ohms_are_not_reached :
    let p := Procedure.actionOf "Ω" "Verify"
    p.action "Ω" "Verify" = .ok 1 ∧
      ∀ fresh, apply (Λ := Emulated) p fresh { kind := .start, sectionName := "Ω", action := "Verify" } =
        .done (.error (.lookup (.noSection "ω"))) := by
  intro p
  have hlowered : p.action (Text.lower "Ω") (Text.lower "Verify") = .error (.noSection "ω") := by decide +kernel
  refine ⟨Procedure.actionOf_found "Ω" "Verify", fun fresh => ?_⟩
  unfold apply
  simp only [TriggerRequest.normalized, hlowered]

end Station

end CalBench
