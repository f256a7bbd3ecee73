/-
Plans that are bound.

A step looks two things up: the device of its unit, and the interface that it uses, the one the device hangs off or the
one to be reset. Binding a plan looks all of them up beforehand (`Finds`). Interfaces are never taken out of a pool, so
that what was found once is found again, as long as the others take none out either.

Results:
- `bind_eq_ok_iff`: a plan is bound exactly when each of its steps finds what it looks up;
- `bind_eq_error`: a plan that cannot be bound names the unit or the interface at fault;
- `Deed.names`, `UsedByOthers.extends`: no user of a pool takes an interface out of it, or gives it another name;
- `Obeys.throughout`: what holds at first, and is kept by a process and by the others, holds at every change;
- `FindsAll.extends`: what the steps of a plan find they go on finding.
-/
import CalBench.Proofs.Run.Changes

namespace CalBench

open Proc

/-! ## Units of a plan -/

theorem Plan.mem_unitsFrom {known : List String} {steps : List Step} {u : String} :
    u ∈ unitsFrom known steps ↔ u ∈ known ∨ ∃ step ∈ steps, step.unit? = some u := by
  induction steps generalizing known with
  | nil => simp [unitsFrom]
  | cons step rest ih =>
    unfold unitsFrom
    split
    · rename_i v hv
      split
      · rename_i hknown
        have hmem : v ∈ known := by simpa using hknown
        rw [ih]
        constructor
        · rintro (h | ⟨step', hs, hu⟩)
          · exact .inl h
          · exact .inr ⟨step', List.mem_cons_of_mem _ hs, hu⟩
        · rintro (h | ⟨step', hs, hu⟩)
          · exact .inl h
          · rcases List.mem_cons.1 hs with rfl | hs
            · obtain rfl : v = u := Option.some.inj (hv.symm.trans hu)
              exact .inl hmem
            · exact .inr ⟨step', hs, hu⟩
      · rw [ih]
        simp only [List.mem_append, List.mem_cons, List.not_mem_nil, or_false, exists_eq_or_imp, hv,
          Option.some.injEq, or_assoc, @eq_comm _ v]
    · rename_i hv
      rw [ih]
      simp only [List.mem_cons, exists_eq_or_imp, hv, reduceCtorEq, false_or]

/-- the units of a plan are those that its steps address -/
theorem Plan.mem_units {p : Plan} {u : String} : u ∈ p.units ↔ ∃ step ∈ p.steps, step.unit? = some u := by
  rw [units, mem_unitsFrom]
  simp

namespace Executor

variable {e : Executor} {registered : String → Bool} {p : Plan}

/-! ## Binding -/

/-- the step finds what it looks up, if some interfaces are there: the device of its unit and the interface of the
device, and the interface that it resets -/
structure Finds (e : Executor) (there : String → Prop) (step : Step) : Prop where
  device : ∀ unit, step.unit? = some unit → ∃ d, e.device unit = .ok d ∧ there d.interface
  interface : ∀ name, step = .resetInterface name → there name

theorem Finds.mono {e : Executor} {there there' : String → Prop} {step : Step} (h : e.Finds there step)
    (hthere : ∀ name, there name → there' name) : e.Finds there' step := by
  refine ⟨fun unit hunit => ?_, fun name hname => hthere name (h.interface name hname)⟩
  obtain ⟨d, hd, hinterface⟩ := h.device unit hunit
  exact ⟨d, hd, hthere _ hinterface⟩

theorem device_eq_ok_iff {unit : String} {d : DeviceBinding} :
    e.device unit = .ok d ↔ e.devices.get? unit = some d := by
  unfold device
  cases e.devices.get? unit with
  | none => simp
  | some d' => simp

theorem interfaceOf_eq_ok_iff {unit : String} {d : DeviceBinding} :
    e.interfaceOf registered unit = .ok d ↔ e.device unit = .ok d ∧ registered d.interface = true := by
  unfold interfaceOf
  rw [device_eq_ok_iff]
  cases hd : e.devices.get? unit with
  | none => simp
  | some d' =>
    dsimp only
    by_cases hr : registered d'.interface = true
    · rw [if_pos hr, Except.ok.injEq, Option.some.injEq]
      constructor
      · intro h
        exact ⟨h, h ▸ hr⟩
      · exact fun h => h.1
    · rw [if_neg hr]
      simp only [reduceCtorEq, Option.some.injEq, false_iff]
      rintro ⟨rfl, h⟩
      exact hr h

theorem bindUnits_eq_ok_iff {units : List String} :
    e.bindUnits registered units = .ok () ↔ ∀ u ∈ units, ∃ d, e.device u = .ok d ∧ registered d.interface = true := by
  induction units with
  | nil => simp [bindUnits]
  | cons u rest ih =>
    rw [bindUnits, List.forall_mem_cons, ← ih]
    cases h : e.interfaceOf registered u with
    | ok d =>
      have hfound : ∃ d, e.device u = .ok d ∧ registered d.interface = true := ⟨d, interfaceOf_eq_ok_iff.1 h⟩
      simp [Except.bind, hfound]
    | error f =>
      have hmissing : ¬ ∃ d, e.device u = .ok d ∧ registered d.interface = true := by
        rintro ⟨d, hd⟩
        rw [interfaceOf_eq_ok_iff.2 hd] at h
        cases h
      simp [Except.bind, hmissing]

theorem bindResets_eq_ok_iff {steps : List Step} :
    bindResets registered steps = .ok () ↔ ∀ name, .resetInterface name ∈ steps → registered name = true := by
  fun_induction bindResets registered steps with
  | case1 => simp
  | case2 name rest hname ih => simp [ih, hname]
  | case3 name rest hname =>
    simp only [reduceCtorEq, false_iff]
    exact fun h => hname (h name List.mem_cons_self)
  | case4 step rest hstep ih =>
    rw [ih]
    constructor
    · intro h name hmem
      rcases List.mem_cons.1 hmem with heq | hmem
      · exact absurd heq.symm (hstep name)
      · exact h name hmem
    · exact fun h name hmem => h name (List.mem_cons_of_mem _ hmem)

/-- **A plan is bound exactly when each of its steps finds what it looks up.** -/
theorem bind_eq_ok_iff :
    e.bind registered p = .ok () ↔ ∀ step ∈ p.steps, e.Finds (fun name => registered name = true) step := by
  have hboth : e.bind registered p = .ok () ↔
      e.bindUnits registered p.units = .ok () ∧ bindResets registered p.steps = .ok () := by
    unfold bind
    cases e.bindUnits registered p.units with
    | ok => simp [Except.bind]
    | error f => simp [Except.bind]
  rw [hboth, bindUnits_eq_ok_iff, bindResets_eq_ok_iff]
  constructor
  · rintro ⟨hunits, hresets⟩ step hstep
    refine ⟨fun unit hunit => hunits unit (Plan.mem_units.2 ⟨step, hstep, hunit⟩), fun name hname => ?_⟩
    exact hresets name (hname ▸ hstep)
  · intro h
    refine ⟨fun u hu => ?_, fun name hname => (h _ hname).interface name rfl⟩
    obtain ⟨step, hstep, hunit⟩ := Plan.mem_units.1 hu
    exact (h step hstep).device u hunit

/-- why a plan cannot be bound -/
inductive Misses (e : Executor) (registered : String → Bool) (p : Plan) : Failure → Prop
  | device (u : String) (hu : u ∈ p.units) (h : ∀ d, e.device u ≠ .ok d) : Misses e registered p (.unknownUnit u)
  /-- a device that hangs off no interface -/
  | interface (u : String) (d : DeviceBinding) (hu : u ∈ p.units) (h : e.device u = .ok d)
      (hr : registered d.interface = false) : Misses e registered p (.unknownInterface d.interface)
  | reset (name : String) (hn : .resetInterface name ∈ p.steps) (hr : registered name = false) :
      Misses e registered p (.unknownInterface name)

theorem bindUnits_misses {units : List String} {f : Failure} (h : e.bindUnits registered units = .error f)
    (hu : ∀ u ∈ units, u ∈ p.units) : e.Misses registered p f := by
  induction units with
  | nil => cases h
  | cons u rest ih =>
    unfold bindUnits interfaceOf at h
    split at h
    · rename_i hd
      cases h
      refine .device u (hu u List.mem_cons_self) fun d h => ?_
      rw [device_eq_ok_iff, hd] at h
      cases h
    · rename_i d hd
      split at h
      · exact ih h fun v hv => hu v (List.mem_cons_of_mem _ hv)
      · rename_i hr
        cases h
        exact .interface u d (hu u List.mem_cons_self) (device_eq_ok_iff.2 hd) (Bool.eq_false_iff.2 hr)

theorem bindResets_misses {steps : List Step} {f : Failure} (h : bindResets registered steps = .error f)
    (hsteps : ∀ step ∈ steps, step ∈ p.steps) : e.Misses registered p f := by
  fun_induction bindResets registered steps with
  | case1 => cases h
  | case2 name rest _ ih => exact ih h fun step hs => hsteps step (List.mem_cons_of_mem _ hs)
  | case3 name rest hr =>
    cases h
    exact .reset name (hsteps _ List.mem_cons_self) (Bool.eq_false_iff.2 hr)
  | case4 step rest _ ih => exact ih h fun step hs => hsteps step (List.mem_cons_of_mem _ hs)

/-- **A plan that cannot be bound says what its steps miss.** -/
theorem bind_eq_error {f : Failure} (h : e.bind registered p = .error f) : e.Misses registered p f := by
  unfold bind at h
  cases hunits : e.bindUnits registered p.units with
  | error f' =>
    rw [hunits] at h
    cases h
    exact bindUnits_misses hunits fun u hu => hu
  | ok =>
    rw [hunits] at h
    exact bindResets_misses h fun step hs => hs

end Executor

/-! ## What stays registered -/

namespace Pool

variable {Λ : Type} {p q : Pool Λ} {name : String}

def nameAt (p : Pool Λ) (key : String) : Option String := (p.entries.get? key).map Entry.name

def Keyed (p : Pool Λ) : Prop := ∀ k n, p.nameAt k = some n → key n = k

def Present (p : Pool Λ) (name : String) : Prop := ∃ n, p.nameAt (key name) = some n ∧ key n = key name

/-- the interfaces of a pool are in another one too, under their names -/
def Extends (p q : Pool Λ) : Prop := ∀ k n, p.nameAt k = some n → q.nameAt k = some n

theorem contains_eq_isSome (p : Pool Λ) (name : String) : p.contains name = (p.nameAt (key name)).isSome := by
  rw [contains, Table.contains_eq_isSome, nameAt, Option.isSome_map]

theorem Keyed.present (hp : p.Keyed) (h : p.contains name = true) : p.Present name := by
  rw [contains_eq_isSome, Option.isSome_iff_exists] at h
  obtain ⟨n, hn⟩ := h
  exact ⟨n, hn, hp _ n hn⟩

theorem Present.contains (h : p.Present name) : p.contains name = true := by
  obtain ⟨n, hn, -⟩ := h
  rw [contains_eq_isSome, hn]
  rfl

theorem Present.extends (h : p.Present name) (hq : p.Extends q) : q.Present name := by
  obtain ⟨n, hn, hkey⟩ := h
  exact ⟨n, hq _ n hn, hkey⟩

theorem nameAt_modify (p : Pool Λ) (k : String) {f : Entry Λ → Entry Λ} (hf : ∀ e, (f e).name = e.name) :
    (p.modify k f).nameAt = p.nameAt := by
  funext k'
  rw [nameAt, nameAt, get?_modify]
  split
  · rename_i hk
    rw [hk, Option.map_map]
    exact congrArg (fun g => (p.entries.get? k).map g) (funext hf)
  · rfl

end Pool

/-- **No user of a pool takes an interface out of it**, or gives it another name -/
theorem Client.Deed.names {Λ : Type} [Link Λ] {rule : Call → Prop} {x y : Client Λ} (h : x.Deed rule y) :
    y.pool.nameAt = x.pool.nameAt := by
  have hentries : y.pool.entries = x.pool.entries → y.pool.nameAt = x.pool.nameAt := by
    intro h
    funext k
    rw [Pool.nameAt, Pool.nameAt, h]
  cases h with
  | none h => rw [h]
  | sets key f h hf => rw [h, Pool.nameAt_modify _ _ fun e => (hf e).1]
  | calls key c _ h =>
    rw [h, Pool.callLink]
    split
    · exact Pool.nameAt_modify x.pool key fun _ => rfl
    · rfl
  | claims key e _ h => exact hentries (Pool.untouched_claim h).2
  | unclaims e h => exact hentries (h ▸ Pool.entries_unclaim x.pool e)

/-- other users of a pool have made some changes to it -/
def Pool.UsedByOthers {Λ : Type} [Link Λ] : Pool Λ → Pool Λ → Prop :=
  Relation.ReflTransGen fun p q => ∃ place place', Client.Uses ⟨p, place⟩ ⟨q, place'⟩

/-- **Whatever other users do to a pool, its interfaces stay** -/
theorem Pool.UsedByOthers.extends {Λ : Type} [Link Λ] {p q : Pool Λ} (h : p.UsedByOthers q) : p.Extends q := by
  induction h with
  | refl => exact fun _ _ hn => hn
  | tail _ hlast ih =>
    intro k n hn
    obtain ⟨place, place', huses⟩ := hlast
    have hnames := huses.names
    exact hnames ▸ ih k n hn

/-! ## At every point of a run -/

/-- what holds at first, and is kept by the process and by the others, holds before and after every change -/
theorem Proc.Obeys.throughout {σ α : Type} {theirs mine : σ → σ → Prop} {I : σ → Prop} {post : σ → α → Prop}
    {p : Proc σ α} {s : σ} (h : p.Obeys theirs mine post s) (ht : ∀ x y, theirs x y → I x → I y)
    (hm : ∀ x y, mine x y → I x → I y) (hs : I s) :
    p.Obeys theirs (fun x y => mine x y ∧ I x ∧ I y) (fun t a => post t a ∧ I t) s := by
  induction p generalizing s with
  | done a => exact ⟨h, hs⟩
  | act update next ih =>
    have hafter : I (update s) := hm _ _ h.1 hs
    exact ⟨⟨h.1, hs, hafter⟩, ih s h.2 hafter⟩
  | pause ticks ready next ih => exact fun t b hb hr => ih b (h t b hb hr) (ht s t hb hs)

namespace Executor

variable {Λ : Type} {e : Executor} {p : Plan}

def FindsAll (e : Executor) (p : Plan) (x : Bench Λ × Run) : Prop := ∀ step ∈ p.steps, e.Finds x.1.pool.Present step

/-- what they find they go on finding, as long as no interface is taken out -/
theorem FindsAll.extends {x y : Bench Λ × Run} (h : e.FindsAll p x) (hxy : x.1.pool.Extends y.1.pool) :
    e.FindsAll p y :=
  fun step hstep => (h step hstep).mono fun _ hname => hname.extends hxy

end Executor

end CalBench
