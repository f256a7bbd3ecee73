/-
What the far end of a wire has heard.

Links are written for any type of wires, so what they send is stated for any type of wires too: by a view of the wire,
the bytes that have reached its far end in the order in which they were sent. `Wire.Hears` says what such a view has to
be like: it grows by what is sent and by nothing else.

An attempt on a link sends pieces, one after another, until it fails (`Attempt.Sends`). Which pieces these are follows
from the parts that it is put together from, and often from a field of the link that the parts leave alone
(`Attempt.Leaves`).

Results:
- `Attempt.Sends.bind`: what is sent by one operation after another;
- `hears_scriptedPeer`: scripted peers have such a view, the lines that they have received and the line that has not
  ended.
-/
import CalBench.Proofs.Link.Tidy

namespace CalBench

/-- a view of wires as what their far ends have heard; what could not be sent is not heard -/
structure Wire.Hears {ω : Type} [Wire ω] (heard : ω → Bytes) : Prop where
  dial : ∀ w, heard (Wire.dial w).1 = heard w
  sent : ∀ data w, (Wire.send data w).2 = .ok () → heard (Wire.send data w).1 = heard w ++ data
  unsent : ∀ data w e, (Wire.send data w).2 = .error e → heard (Wire.send data w).1 = heard w
  hangUp : ∀ w, heard (Wire.hangUp w) = heard w
  putBack : ∀ events w, heard (Wire.putBack events w) = heard w

namespace Attempt

variable {Λ α β : Type} {heard : Λ → Bytes}

@[simp] theorem pure_apply (x : α) (l : Λ) : (pure x : Attempt Λ α) l = { link := l, result := .ok x } := rfl

@[simp] theorem fail_apply (e : LinkError) (l : Λ) : (fail e : Attempt Λ α) l = { link := l, result := .error e } := rfl

@[simp] theorem get_apply (l : Λ) : (get : Attempt Λ Λ) l = { link := l, result := .ok l } := rfl

@[simp] theorem update_apply (f : Λ → Λ) (l : Λ) : update f l = { link := f l, result := .ok () } := rfl

@[simp] theorem ofExcept_apply (r : Except LinkError α) (l : Λ) : ofExcept r l = { link := l, result := r } := by
  cases r <;> rfl

theorem get_bind (f : Λ → Attempt Λ α) (l : Λ) : (get >>= f) l = f l l := by
  simp [bind_apply]

/-! ### Attempts that leave a field alone -/

section Leaving

variable {γ : Type} {field : Λ → γ}

/-- whatever comes of the attempt, a field of the link is as it was -/
def Leaves (field : Λ → γ) (a : Attempt Λ α) : Prop := ∀ l, field (a l).link = field l

theorem leaves_pure (x : α) : (pure x : Attempt Λ α).Leaves field := fun _ => rfl

theorem leaves_fail (e : LinkError) : (fail e : Attempt Λ α).Leaves field := fun _ => rfl

theorem leaves_ofExcept (r : Except LinkError α) : (ofExcept r : Attempt Λ α).Leaves field := fun l => by
  rw [ofExcept_apply]

theorem leaves_get : (get : Attempt Λ Λ).Leaves field := fun _ => rfl

theorem leaves_update {f : Λ → Λ} (h : ∀ l, field (f l) = field l) : (update f).Leaves field := h

theorem Leaves.bind {a : Attempt Λ α} {f : α → Attempt Λ β} (ha : a.Leaves field) (hf : ∀ x, (f x).Leaves field) :
    (a >>= f).Leaves field := by
  intro l
  have hfirst := ha l
  rw [bind_apply]
  revert hfirst
  rcases a l with ⟨l', delay, e | x⟩ <;> intro hfirst
  · exact hfirst
  · exact (hf x l').trans hfirst

theorem Leaves.link {a : Attempt Λ α} {l l' : Λ} {delay : Nat} {r : Except LinkError α} (ha : a.Leaves field)
    (h : a l = ⟨l', delay, r⟩) : field l' = field l := by
  rw [← ha l, h]

end Leaving

/-! ### What attempts send -/

/-- what an attempt sends: pieces one after another, up to where it fails -/
def Sends (heard : Λ → Bytes) (a : Attempt Λ α) (l : Λ) (pieces : List Bytes) : Prop :=
  ∃ sent, sent <+: pieces ∧ heard (a l).link = heard l ++ sent.flatten ∧ ∀ x, (a l).result = .ok x → sent = pieces

theorem Sends.whole {a : Attempt Λ α} {l l' : Λ} {pieces : List Bytes} {delay : Nat} {x : α}
    (h : a.Sends heard l pieces) (hok : a l = ⟨l', delay, .ok x⟩) : heard l' = heard l ++ pieces.flatten := by
  obtain ⟨sent, -, hheard, hall⟩ := h
  rw [hok] at hheard hall
  rw [hheard, hall x rfl]

theorem sends_nothing {a : Attempt Λ α} {l : Λ} (h : heard (a l).link = heard l) : a.Sends heard l [] :=
  ⟨[], List.prefix_rfl, by simp [h], fun _ _ => rfl⟩

/-- an attempt that fails may have sent nothing -/
theorem sends_failed {a : Attempt Λ α} {l : Λ} {e : LinkError} (hheard : heard (a l).link = heard l)
    (hfailed : (a l).result = .error e) (pieces : List Bytes) : a.Sends heard l pieces :=
  ⟨[], List.nil_prefix, by simp [hheard], by simp [hfailed]⟩

/-- sending over a wire sends the data -/
theorem sends_over {ω : Type} [Wire ω] {heard : ω → Bytes} (hwire : Wire.Hears heard) (wire : Λ → ω)
    {a : Attempt Λ Unit} {l : Λ} {data : Bytes} (hlink : wire (a l).link = (Wire.send data (wire l)).1)
    (hresult : (a l).result = (Wire.send data (wire l)).2) : a.Sends (fun l => heard (wire l)) l [data] := by
  cases hsent : (Wire.send data (wire l)).2 with
  | error e =>
    refine ⟨[], List.nil_prefix, ?_, ?_⟩
    · simp [hlink, hwire.unsent data (wire l) e hsent]
    · simp [hresult, hsent]
  | ok u => exact ⟨[data], List.prefix_rfl, by simp [hlink, hwire.sent data (wire l) hsent], fun _ _ => rfl⟩

/-- **One operation after the other sends what the first sends, and then what the second sends** -/
theorem Sends.bind {a : Attempt Λ α} {f : α → Attempt Λ β} {l : Λ} {pieces more : List Bytes}
    (ha : a.Sends heard l pieces)
    (hf : ∀ l' delay x, a l = ⟨l', delay, .ok x⟩ → (f x).Sends heard l' more) :
    (a >>= f).Sends heard l (pieces ++ more) := by
  obtain ⟨sent, hfront, hheard, hall⟩ := ha
  rcases hal : a l with ⟨l', delay, e | x⟩
  · rw [hal] at hheard
    refine ⟨sent, hfront.trans (List.prefix_append _ _), ?_, ?_⟩
    · rw [bind_apply, hal]
      exact hheard
    · intro y hy
      rw [bind_apply, hal] at hy
      cases hy
  · rw [hal] at hheard hall
    obtain rfl := hall x rfl
    obtain ⟨sentMore, hprefixMore, hheardMore, hallMore⟩ := hf l' delay x hal
    refine ⟨sent ++ sentMore, (List.prefix_append_right_inj sent).2 hprefixMore, ?_, ?_⟩
    · rw [bind_apply, hal]
      simp [hheardMore, hheard]
    · intro y hy
      rw [bind_apply, hal] at hy
      rw [hallMore y hy]

end Attempt

namespace ScriptedPeer

/-- the lines of all connections with their ends, and the line that has not ended -/
def heard (p : ScriptedPeer) : Bytes := p.received.flatten.flatMap (· ++ p.lineEnd) ++ p.unfinished

theorem flatten_record (line : Bytes) (received : List (List Bytes)) :
    (record line received).flatten = received.flatten ++ [line] := by
  fun_induction record line received with
  | case1 => rfl
  | case2 lines => simp
  | case3 lines rest _ ih => simp [ih]

theorem heard_takeLine (p : ScriptedPeer) (line : Bytes) (h : p.unfinished = []) :
    (p.takeLine line).heard = p.heard ++ (line ++ p.lineEnd) := by
  simp [heard, takeLine, flatten_record, h]

theorem heard_takeBytes (p : ScriptedPeer) (data : Bytes) : (p.takeBytes data).heard = p.heard ++ data := by
  fun_induction takeBytes p data with
  | case1 p => simp
  | case2 p b rest line hend ih =>
    -- the line without its end, and its end, are the line
    have hline : line.take (line.length - p.lineEnd.length) ++ p.lineEnd = line := by
      obtain ⟨front, hfront⟩ := List.isSuffixOf_iff_suffix.1 hend
      simp [← hfront]
    rw [ih, heard_takeLine _ _ rfl, hline]
    simp [heard, line]
  | case3 p b rest line _ ih =>
    rw [ih]
    simp [heard, line]

theorem hears_scriptedPeer : Wire.Hears heard where
  dial p := by
    cases hrefusal : p.refusal with
    | some reason => simp [Wire.dial, hrefusal]
    | none =>
      simp only [Wire.dial, hrefusal, startSession, heard]
      split <;> simp
  sent data p _ := heard_takeBytes p data
  unsent _ _ _ h := nomatch h
  hangUp _ := rfl
  putBack _ _ := rfl

end ScriptedPeer

end CalBench
