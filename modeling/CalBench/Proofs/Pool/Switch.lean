/-
Which interfaces of a pool are enabled.

Interfaces are switched on and off together. Everything else that is done to a pool, by whoever has an interface or
waits for one, leaves the switches alone.

Results:
- `switch?_enableAll`: enabling all switches every interface on;
- `disableAll_switches`: disabling all switches every interface off, as long as those who use interfaces meanwhile do
  not touch the switches.
-/
import CalBench.Proofs.Pool.Lease
import CalBench.Proofs.Process.Obeys

namespace CalBench

open Proc

variable {Λ α : Type}

/-! ## Tables -/

theorem Table.get?_mapValues (f : α → α) (t : Table α) (key : String) :
    (⟨t.entries.map fun e => (e.1, f e.2)⟩ : Table α).get? key = (t.get? key).map f := by
  simp only [get?, List.find?_map, Function.comp_def, Option.map_map]

theorem Table.mem_keys_of_get? {t : Table α} {key : String} {a : α} (h : t.get? key = some a) :
    key ∈ t.entries.map Prod.fst := by
  obtain ⟨e, he, -⟩ := Option.map_eq_some_iff.1 h
  have hkey : e.1 = key := by simpa using List.find?_some he
  exact hkey ▸ List.mem_map_of_mem (List.mem_of_find?_eq_some he)

namespace Pool

/-! ## Switches -/

def switch? (p : Pool Λ) (key : String) : Option Bool := (p.entries.get? key).map Entry.enabled

theorem isEnabled_eq (p : Pool Λ) (name : String) : p.isEnabled name = (p.switch? (key name)).getD false := by
  unfold isEnabled entry? switch?
  cases p.entries.get? (key name) <;> rfl

theorem contains_eq (p : Pool Λ) (name : String) : p.contains name = (p.switch? (key name)).isSome := by
  rw [contains, Table.contains_eq_isSome, switch?, Option.isSome_map]

theorem get?_enableAll (p : Pool Λ) (key : String) :
    p.enableAll.entries.get? key = (p.entries.get? key).map fun e => { e with enabled := true } :=
  Table.get?_mapValues (fun e : Entry Λ => { e with enabled := true }) p.entries key

theorem switch?_enableAll (p : Pool Λ) (key : String) :
    p.enableAll.switch? key = (p.switch? key).map fun _ => true := by
  simp only [switch?, get?_enableAll, Option.map_map, Function.comp_def]

theorem switch?_modify {f : Entry Λ → Entry Λ} (hf : ∀ e, (f e).enabled = e.enabled) (p : Pool Λ) (key : String) :
    (p.modify key f).switch? = p.switch? := by
  funext key'
  simp only [switch?, get?_modify]
  by_cases h : key' = key
  · simp [h, Function.comp_def, hf]
  · simp [h]

theorem switch?_off (p : Pool Λ) (key key' : String) :
    (p.modify key fun e => { e with enabled := false }).switch? key' =
      if key' = key then (p.switch? key').map fun _ => false else p.switch? key' := by
  simp only [switch?, get?_modify]
  by_cases h : key' = key
  · simp [h, Function.comp_def]
  · simp [h]

theorem switch?_unclaim (p : Pool Λ) (e : Entry Λ) : (p.unclaim e).switch? = p.switch? := by
  unfold unclaim
  split <;> rfl

theorem switch?_callLink [Link Λ] (p : Pool Λ) (key : String) (c : Call) :
    (callLink key c p).1.switch? = p.switch? := by
  unfold callLink
  split
  · rename_i e _
    exact switch?_modify (f := fun e' => { e' with link := (Link.call c e.link).link }) (fun _ => rfl) p key
  · rfl

theorem switch?_join (p : Pool Λ) (key : String) : (p.join key).switch? = p.switch? :=
  switch?_modify (f := fun e => { e with queue := e.queue ++ [e.issued], issued := e.issued + 1 }) (fun _ => rfl) p key

theorem switch?_leave (c : Client Λ) : c.leave.pool.switch? = c.pool.switch? := by
  unfold Client.leave
  split
  · rename_i place _
    exact switch?_modify (f := fun e => { e with queue := e.queue.erase place.number }) (fun _ => rfl) _ _
  · rfl

/-! ## Disabling -/

def Switched (switches : String → Option Bool) (c : Client Λ) : Prop := c.pool.switch? = switches

/-- those who use interfaces do not touch the switches -/
def Unswitching (c d : Client Λ) : Prop := d.pool.switch? = c.pool.switch?

theorem giveBack_keeps (switches : String → Option Bool) : (giveBack (Λ := Λ)).Keeps (Switched switches) :=
  keeps_update fun c hc => (switch?_leave c).trans hc

theorem queueFor_keeps (switches : String → Option Bool) (key : String) :
    (queueFor (Λ := Λ) key).Keeps (Switched switches) := by
  refine keeps_bind (keeps_update fun c hc => ?_) fun _ _ => trivial
  exact (switch?_join c.pool key).trans hc

variable [Link Λ]

theorem perform_keeps (switches : String → Option Bool) (key : String) (c : Call) :
    (perform (Λ := Λ) key c).Keeps (Switched switches) :=
  ⟨fun s hs => (switch?_callLink s.pool key c).trans hs,
    fun _ _ => keeps_bind (keeps_sleepIfAny _ _) fun _ => trivial⟩

/-- disabling an interface switches it off -/
theorem disable_switches (key : String) (c : Client Λ) :
    (disable key).Obeys Unswitching Anything (fun d _ => ∀ key', d.pool.switch? key' =
      if key' = key then (c.pool.switch? key').map fun _ => false else c.pool.switch? key') c := by
  refine obeys_update_bind trivial ?_
  -- from here on the switches stay as they are
  refine Obeys.imp (Keeps.obeys (I := Switched (c.pool.modify key fun e => { e with enabled := false }).switch?) ?_ ?_
    ?_) fun d _ hd key' => ?_
  · refine keeps_bind (queueFor_keeps _ key) fun _ => keeps_get_bind fun s _ => ?_
    split
    · exact giveBack_keeps _
    · rename_i e _
      refine keeps_bind ?_ fun _ => keeps_bind (keeps_update fun d hd => ?_) fun _ => giveBack_keeps _
      · split
        · exact keeps_bind (perform_keeps _ key .disconnect) fun _ => trivial
        · trivial
      · exact (switch?_unclaim d.pool e).trans hd
  · exact fun x y hxy hx => hxy.trans hx
  · rfl
  · rw [hd, switch?_off]

theorem disableEach_switches (keys : List String) (c : Client Λ) :
    (disableEach keys).Obeys Unswitching Anything (fun d _ => ∀ key, d.pool.switch? key =
      if key ∈ keys then (c.pool.switch? key).map fun _ => false else c.pool.switch? key) c := by
  induction keys generalizing c with
  | nil => exact fun key => by simp
  | cons first rest ih =>
    refine obeys_bind ((disable_switches first c).imp fun d _ hd => (ih d).imp fun e _ he key => ?_)
    rw [he, hd]
    by_cases hfirst : key = first <;> by_cases hrest : key ∈ rest <;> simp [hfirst, hrest]

/-- **Disabling all switches every interface off** -/
theorem disableAll_switches (c : Client Λ) :
    (disableAll (Λ := Λ)).Obeys Unswitching Anything
      (fun d _ => ∀ key, d.pool.switch? key = (c.pool.switch? key).map fun _ => false) c := by
  refine obeys_get_bind trivial ((disableEach_switches _ c).imp fun d _ hd key => ?_)
  rw [hd]
  split
  · rfl
  · -- only registered interfaces have switches
    rename_i hkey
    cases h : c.pool.entries.get? key with
    | none => simp [switch?, h]
    | some e => exact absurd (Table.mem_keys_of_get? h) hkey

end Pool

end CalBench
