/-
Configurations that are ready.

The check of a configuration, the construction of its interfaces, their registration and the binding of plans each read
the same records, with rules of their own for the kinds of interfaces and for letter case. They agree: what the check
lets pass is built, registered and found, so that a plan is bound unless it names something that no record defines.

Results:
- `Table.mem_of_get?_ofList`, `Table.get?_ofList_eq_none_iff`: what a table of a list holds;
- `build_of_checked`: a record with the settings of its kind can be built;
- `install_of_checked`: records that pass the check are all registered, by induction over the records with the names
  before them;
- `interface_of_checked`: so are the interfaces of devices that pass it;
- `checked_configuration_ready`: a configuration that passes the check is ready for every plan that lacks nothing.
Witness `mixed_case_ready`.
-/
import Mathlib.Data.List.Forall2
import CalBench.Config.Installation
import CalBench.Proofs.Run.Causes

namespace CalBench

theorem Except.ok_of_bind {ε α β : Type} {x : Except ε α} {f : α → Except ε β} {b : β} (h : x >>= f = .ok b) :
    ∃ a, x = .ok a ∧ f a = .ok b := by
  cases x with
  | error e => cases h
  | ok a => exact ⟨a, rfl, h⟩

/-! ## Tables of lists -/

namespace Table

variable {α : Type}

theorem get?_inserted (pairs : List (String × α)) (t : Table α) (key : String) :
    (pairs.foldl (fun t e => t.insert e.1 e.2) t).get? key =
      ((pairs.reverse.find? fun e => e.1 == key).map Prod.snd).or (t.get? key) := by
  induction pairs generalizing t with
  | nil => rfl
  | cons e rest ih =>
    rw [List.foldl_cons, ih, get?_insert, List.reverse_cons, List.find?_append, Option.map_or, Option.or_assoc]
    congr 1
    rw [List.find?_singleton]
    by_cases h : key = e.1
    · simp [h]
    · simp [h, Ne.symm h]

/-- a table of a list holds what is in the list -/
theorem mem_of_get?_ofList {pairs : List (String × α)} {key : String} {value : α}
    (h : (ofList pairs).get? key = some value) : (key, value) ∈ pairs := by
  rw [ofList, get?_inserted, get?_empty, Option.or_none] at h
  obtain ⟨⟨key', value'⟩, hfound, rfl⟩ := Option.map_eq_some_iff.1 h
  have hkey := List.find?_some hfound
  simp only [beq_iff_eq] at hkey
  subst hkey
  exact List.mem_reverse.1 (List.mem_of_find?_eq_some hfound)

/-- it holds something under every key of the list -/
theorem get?_ofList_eq_none_iff {pairs : List (String × α)} {key : String} :
    (ofList pairs).get? key = none ↔ ∀ e ∈ pairs, e.1 ≠ key := by
  rw [ofList, get?_inserted, get?_empty, Option.or_none, Option.map_eq_none_iff, List.find?_eq_none]
  simp

theorem put_of_absent {key : String} (value : α) {entries : List (String × α)}
    (h : (entries.any fun e => e.1 == key) = false) : put key value entries = entries ++ [(key, value)] := by
  induction entries with
  | nil => rfl
  | cons e rest ih =>
    rw [List.any_cons, Bool.or_eq_false_iff] at h
    rw [put, h.1, ih h.2]
    rfl

end Table

variable {ω : Type} [Wire ω]

/-! ## Interfaces -/

/-- **A record with the settings of its kind can be built**, whatever its kind -/
theorem build_of_checked {r : InterfaceRecord} (h : r.checkBlock = .ok ()) (defaults : Timeouts)
    (reach : Endpoint → ω) :
    ∃ l, r.build defaults reach = .ok l ∧ Link.name l = r.name ∧ Link.kind l = r.kind := by
  unfold InterfaceRecord.checkBlock at h
  unfold InterfaceRecord.build InterfaceRecord.device
  split at h
  case h_1 hk =>
    rw [hk]
    split at h
    · cases h
    · rename_i hboard
      obtain ⟨s, hs⟩ := Option.ne_none_iff_exists'.1 (by simpa using hboard)
      rw [hs]
      exact ⟨_, rfl, rfl, rfl⟩
  case h_5 hk =>
    rw [hk]
    exact ⟨_, rfl, rfl, rfl⟩
  all_goals
    -- a check has found the very settings that the device is built from
    rename_i hk
    rw [hk]
    split at h
    · cases h
    · rename_i s hs
      rw [hs]
      exact ⟨_, rfl, rfl, rfl⟩

/-- an entry of a pool is the interface of a record: built from it, disabled, and under the key of its name -/
structure Installs (defaults : Timeouts) (reach : Endpoint → ω) (r : InterfaceRecord)
    (e : String × Entry (Interface ω)) : Prop where
  key : e.1 = Pool.key r.name
  name : e.2.name = r.name
  kind : e.2.kind = r.kind
  built : r.build defaults reach = .ok e.2.link
  disabled : e.2.enabled = false

theorem register_of_free {p : Pool (Interface ω)} {l : Interface ω} (h : p.contains (Link.name l) = false) :
    ∃ q, p.register l = .ok q ∧
      q.entries.entries = p.entries.entries ++ [(Pool.key (Link.name l), Pool.registered l)] := by
  unfold Pool.register
  dsimp only
  rw [h]
  exact ⟨_, rfl, Table.put_of_absent _ h⟩

/-- what a check of interfaces has found -/
theorem checkInterfaces_cons {names : List String} {r : InterfaceRecord} {rest : List InterfaceRecord}
    (h : checkInterfaces names (r :: rest) = .ok ()) : Pool.key r.name ∉ names ∧ r.checkBlock = .ok () ∧
      checkInterfaces (Pool.key r.name :: names) rest = .ok () := by
  unfold checkInterfaces at h
  split at h
  · cases h
  · rename_i hfresh
    have hfresh : Text.upper r.name ∉ names := by simpa using hfresh
    obtain ⟨_, hblock, h⟩ := Except.ok_of_bind h
    obtain ⟨_, _, hrest⟩ := Except.ok_of_bind h
    exact ⟨hfresh, hblock, hrest⟩

/-- **Records that pass the check are all registered**, one after the other, behind those that are there -/
theorem install_of_checked (defaults : Timeouts) (reach : Endpoint → ω) {records : List InterfaceRecord}
    {names : List String} {p : Pool (Interface ω)} (hnames : ∀ k, p.entries.contains k = true ↔ k ∈ names)
    (hc : checkInterfaces names records = .ok ()) :
    ∃ q more, p.install defaults reach records = .ok q ∧ q.entries.entries = p.entries.entries ++ more ∧
      List.Forall₂ (Installs defaults reach) records more := by
  induction records generalizing names p with
  | nil => exact ⟨p, [], rfl, (List.append_nil _).symm, .nil⟩
  | cons r rest ih =>
    obtain ⟨hfresh, hblock, hrest⟩ := checkInterfaces_cons hc
    obtain ⟨l, hl, hname, hkind⟩ := build_of_checked hblock defaults reach
    have hfree : p.contains (Link.name l) = false := by
      rw [hname, Pool.contains, Bool.eq_false_iff]
      exact fun h => hfresh ((hnames _).1 h)
    obtain ⟨p', hp', hentries⟩ := register_of_free hfree
    rw [hname] at hentries
    have hnames' : ∀ k, p'.entries.contains k = true ↔ k ∈ Pool.key r.name :: names := by
      intro k
      have hlast : p'.entries.contains k = (p.entries.contains k || Pool.key r.name == k) := by
        rw [Table.contains, hentries, List.any_append]
        simp [Table.contains]
      rw [hlast, Bool.or_eq_true, hnames, beq_iff_eq, List.mem_cons, or_comm, eq_comm]
    obtain ⟨q, more, hq, hmore, hinstalls⟩ := ih hnames' hrest
    refine ⟨q, (Pool.key r.name, Pool.registered l) :: more, ?_, ?_, .cons ⟨rfl, hname, hkind, hl, rfl⟩ hinstalls⟩
    · rw [Pool.install, hl]
      change (p.register l >>= fun p => p.install defaults reach rest) = .ok q
      rw [hp']
      exact hq
    · rw [hmore, hentries, List.append_assoc]
      rfl

/-- records and interfaces correspond to each other -/
theorem Installs.exists {defaults : Timeouts} {reach : Endpoint → ω} {records : List InterfaceRecord}
    {entries : List (String × Entry (Interface ω))} (h : List.Forall₂ (Installs defaults reach) records entries) :
    (∀ r ∈ records, ∃ e ∈ entries, Installs defaults reach r e) ∧
      ∀ e ∈ entries, ∃ r ∈ records, Installs defaults reach r e := by
  induction h with
  | nil => exact ⟨fun _ h => (nomatch h), fun _ h => (nomatch h)⟩
  | cons hfirst _ ih =>
    constructor
    · rintro r hr
      rcases List.mem_cons.1 hr with rfl | hr
      · exact ⟨_, List.mem_cons_self, hfirst⟩
      · obtain ⟨e, he, h⟩ := ih.1 r hr
        exact ⟨e, List.mem_cons_of_mem _ he, h⟩
    · rintro e he
      rcases List.mem_cons.1 he with rfl | he
      · exact ⟨_, List.mem_cons_self, hfirst⟩
      · obtain ⟨r, hr, h⟩ := ih.2 e he
        exact ⟨r, List.mem_cons_of_mem _ hr, h⟩

section Installed

variable {defaults : Timeouts} {reach : Endpoint → ω} {records : List InterfaceRecord} {p : Pool (Interface ω)}
  (h : List.Forall₂ (Installs defaults reach) records p.entries.entries)

include h

/-- names are found in any letter case -/
theorem contains_of_installs (name : String) :
    p.contains name = true ↔ ∃ r ∈ records, Pool.key r.name = Pool.key name := by
  rw [Pool.contains, Table.contains, List.any_eq_true]
  constructor
  · rintro ⟨e, he, hkey⟩
    obtain ⟨r, hr, hinstalls⟩ := (Installs.exists h).2 e he
    exact ⟨r, hr, hinstalls.key ▸ beq_iff_eq.1 hkey⟩
  · rintro ⟨r, hr, hkey⟩
    obtain ⟨e, he, hinstalls⟩ := (Installs.exists h).1 r hr
    exact ⟨e, he, beq_iff_eq.2 (hinstalls.key.trans hkey)⟩

theorem keyed_of_installs : p.Keyed := by
  intro k n hn
  obtain ⟨e, he, rfl⟩ := Option.map_eq_some_iff.1 hn
  obtain ⟨⟨k', e'⟩, hfound, rfl⟩ := Option.map_eq_some_iff.1 he
  obtain ⟨r, -, hinstalls⟩ := (Installs.exists h).2 _ (List.mem_of_find?_eq_some hfound)
  have hkey : k' = k := by simpa using List.find?_some hfound
  rw [hinstalls.name, ← hinstalls.key, hkey]

end Installed

/-! ## Devices -/

/-- a check of devices has found the interface of each -/
theorem interface_of_checked {interfaces units : List String} {devices : List DeviceBinding}
    (h : checkDevices interfaces units devices = .ok ()) : ∀ d ∈ devices, Pool.key d.interface ∈ interfaces := by
  induction devices generalizing units with
  | nil => exact fun _ h => nomatch h
  | cons d rest ih =>
    unfold checkDevices at h
    dsimp only at h
    split at h
    · cases h
    · split at h
      · cases h
      · rename_i hinterface
        have hinterface : Text.upper d.interface ∈ interfaces := by simpa using hinterface
        have hrest : checkDevices interfaces (d.unitId :: units) rest = .ok () := by
          split at h
          · split at h
            · cases h
            · exact h
          · exact h
        exact List.forall_mem_cons.2 ⟨hinterface, ih hrest⟩

namespace EngineConfig

variable {c : EngineConfig}

/-- what a configuration that passes the check consists of -/
theorem check_parts (h : c.check = .ok ()) : checkInterfaces [] c.interfaces = .ok () ∧
    checkDevices (c.interfaces.map fun r => Text.upper r.name) [] c.devices = .ok () := by
  unfold check at h
  dsimp only at h
  split at h
  · cases h
  · split at h
    · cases h
    · split at h
      · cases h
      · obtain ⟨_, hinterfaces, hdevices⟩ := Except.ok_of_bind h
        exact ⟨hinterfaces, hdevices⟩

/-- the device of a unit is one of the configuration -/
theorem device_of_executor {unit : String} {d : DeviceBinding} (h : c.executor.device unit = .ok d) :
    d ∈ c.devices ∧ d.unitId = unit := by
  have hmem := Table.mem_of_get?_ofList (Executor.device_eq_ok_iff.1 h)
  obtain ⟨d', hd', heq⟩ := List.mem_map.1 hmem
  cases heq
  exact ⟨hd', rfl⟩

/-- only a unit without a device is not found -/
theorem no_device_iff {unit : String} : (∀ d, c.executor.device unit ≠ .ok d) ↔ ∀ d ∈ c.devices, d.unitId ≠ unit := by
  have hnone : (∀ d, c.executor.device unit ≠ .ok d) ↔ c.executor.devices.get? unit = none := by
    rw [Option.eq_none_iff_forall_ne_some]
    exact forall_congr' fun d => not_congr Executor.device_eq_ok_iff
  rw [hnone]
  refine Table.get?_ofList_eq_none_iff.trans ?_
  simp

/-- what a plan uses that a configuration does not have -/
inductive Lacks (c : EngineConfig) (p : Plan) : Failure → Prop
  | unit (u : String) (hu : u ∈ p.units) (h : ∀ d ∈ c.devices, d.unitId ≠ u) : Lacks c p (.unknownUnit u)
  /-- the name of an interface that is to be reset, which no record has in any letter case -/
  | interface (name : String) (hn : .resetInterface name ∈ p.steps)
      (h : ∀ r ∈ c.interfaces, Text.upper r.name ≠ Text.upper name) : Lacks c p (.unknownInterface name)

/-- what a configuration has installed: all of its interfaces, which serve every plan that it does not lack anything
of -/
structure Ready (c : EngineConfig) (reach : Endpoint → ω) (pool : Pool (Interface ω)) : Prop where
  /-- the interfaces of the records and no others, in order -/
  installed : List.Forall₂ (Installs c.execution.timeouts reach) c.interfaces pool.entries.entries
  names : ∀ name, pool.contains name = true ↔ ∃ r ∈ c.interfaces, Text.upper r.name = Text.upper name
  devices : ∀ d ∈ c.devices, pool.contains d.interface = true
  refused : ∀ (p : Plan) (f : Failure), c.executor.bind pool.contains p = .error f → c.Lacks p f
  bound : ∀ p : Plan, c.executor.bind pool.contains p = .ok () ↔ ∀ f, ¬ c.Lacks p f
  /-- no step of a plan that is bound fails for an unknown unit or interface, then or later -/
  serves : ∀ (p : Plan) (others : Bench (Interface ω) → Bench (Interface ω) → Prop) (s : Bench (Interface ω) × Run),
    c.executor.bind pool.contains p = .ok () → pool.Extends s.1.pool →
    (∀ b b', others b b' → b.pool.Extends b'.pool) →
    c.executor.Serves (fun name => pool.contains name = true) p others s

theorem refused_of_misses {registered : String → Bool} {p : Plan} {f : Failure}
    (hnames : ∀ name, registered name = true ↔ ∃ r ∈ c.interfaces, Text.upper r.name = Text.upper name)
    (hdevices : ∀ d ∈ c.devices, registered d.interface = true) (h : c.executor.Misses registered p f) :
    c.Lacks p f := by
  cases h with
  | device u hu hd => exact .unit u hu (no_device_iff.1 hd)
  | interface u d _ hd hr =>
    -- a device is never to blame
    rw [hdevices d (device_of_executor hd).1] at hr
    cases hr
  | reset name hn hr =>
    refine .interface name hn fun r hmem hkey => ?_
    rw [(hnames name).2 ⟨r, hmem, hkey⟩] at hr
    cases hr

theorem Lacks.not_bound {registered : String → Bool} {p : Plan} {f : Failure}
    (hnames : ∀ name, registered name = true ↔ ∃ r ∈ c.interfaces, Text.upper r.name = Text.upper name)
    (h : c.Lacks p f) : c.executor.bind registered p ≠ .ok () := by
  intro hbound
  have hfinds := Executor.bind_eq_ok_iff.1 hbound
  cases h with
  | unit u hu hmissing =>
    obtain ⟨step, hstep, hunit⟩ := Plan.mem_units.1 hu
    obtain ⟨d, hd, -⟩ := (hfinds step hstep).device u hunit
    obtain ⟨hmem, hid⟩ := device_of_executor hd
    exact hmissing d hmem hid
  | interface name hn hmissing =>
    obtain ⟨r, hr, hkey⟩ := (hnames name).1 ((hfinds _ hn).interface name rfl)
    exact hmissing r hr hkey

/-- **A configuration that passes the check is ready.** Whatever wires its endpoints lead to, all of its interfaces are
built and registered. For every plan, binding fails for none but a unit that no device has or an interface to be reset
that no record has, and never for the interface of a device. Once a plan is bound, its steps find their devices and
interfaces whenever its run makes a change, and none of its failures is that one of them is unknown. -/
theorem checked_configuration_ready (c : EngineConfig) (h : c.check = .ok ()) (reach : Endpoint → ω) :
    ∃ pool, c.pool reach = .ok pool ∧ c.Ready reach pool := by
  obtain ⟨hinterfaces, hdevices⟩ := check_parts h
  have hempty : ∀ k, ({} : Pool (Interface ω)).entries.contains k = true ↔ k ∈ ([] : List String) :=
    fun k => ⟨fun h => (nomatch h), fun h => (nomatch h)⟩
  obtain ⟨pool, entries, hpool, hentries, hinstalled⟩ :=
    install_of_checked c.execution.timeouts reach hempty hinterfaces
  have hinstalled : List.Forall₂ (Installs c.execution.timeouts reach) c.interfaces pool.entries.entries := by
    rw [hentries]
    exact hinstalled
  have hnames := contains_of_installs hinstalled
  have hfound : ∀ d ∈ c.devices, pool.contains d.interface = true := by
    intro d hd
    obtain ⟨r, hr, hkey⟩ := List.mem_map.1 (interface_of_checked hdevices d hd)
    exact (hnames d.interface).2 ⟨r, hr, hkey⟩
  have hrefused : ∀ (p : Plan) (f : Failure), c.executor.bind pool.contains p = .error f → c.Lacks p f :=
    fun p f hf => refused_of_misses hnames hfound (Executor.bind_eq_error hf)
  refine ⟨pool, hpool, hinstalled, hnames, hfound, hrefused, fun p => ?_, fun p others s hb hs hothers => ?_⟩
  · constructor
    · exact fun hb f hf => hf.not_bound hnames hb
    · intro hnone
      cases hb : c.executor.bind pool.contains p with
      | ok => rfl
      | error f => exact absurd (hrefused p f hb) (hnone f)
  · exact Executor.bound_plan_serves hothers (keyed_of_installs hinstalled) hb hs

/-- names in different letter cases: the capitals of the last interface are spelled with one letter more -/
def mixedCase : EngineConfig where
  interfaces := [
    { name := "Rack", kind := .networkController, tcp := some { host := "10.0.0.7" } },
    { name := "bench", kind := .emulated },
    { name := "Gießerei", kind := .serialLine, serial := some { path := "/dev/ttyS0" } }]
  devices := [
    { unitId := "DMM1", interface := "RACK", address := some 5 },
    { unitId := "OVEN", interface := "giesserei" }]

def roundPlan : Plan where
  steps := [.trigger "DMM1", .resetDevice "OVEN", .resetInterface "BENCH"]

/-- a plan that resets an interface that is not there -/
def strayPlan : Plan where
  steps := [.trigger "DMM1", .resetInterface "loft"]

/-- **Letter case does not matter**: the plan that uses every interface is bound, and served while others use the pool
too; the other one is not bound because of the interface that no record has -/
theorem mixed_case_ready :
    mixedCase.check = .ok () ∧ ∃ pool, mixedCase.pool unplugged = .ok pool ∧
      mixedCase.executor.bind pool.contains roundPlan = .ok () ∧
      mixedCase.executor.bind pool.contains strayPlan = .error (.unknownInterface "loft") ∧
      mixedCase.executor.Serves (fun name => pool.contains name = true) roundPlan
        (fun b b' => b.pool.UsedByOthers b'.pool) ({ pool, signals := [false] }, { id := "run-1", signal := 0 }) := by
  have hcheck : mixedCase.check = .ok () := by decide +kernel
  obtain ⟨pool, hpool, hready⟩ := checked_configuration_ready mixedCase hcheck unplugged
  have hround : mixedCase.executor.bind pool.contains roundPlan = .ok () := by
    refine (hready.bound roundPlan).2 fun f hf => ?_
    cases hf with
    | unit u hu h =>
      have hunits : ∀ u ∈ roundPlan.units, ∃ d ∈ mixedCase.devices, d.unitId = u := by decide +kernel
      obtain ⟨d, hd, hid⟩ := hunits u hu
      exact h d hd hid
    | interface name hn h =>
      have hname : name = "BENCH" := by simpa [roundPlan] using hn
      have hrecord : ∃ r ∈ mixedCase.interfaces, Text.upper r.name = Text.upper "BENCH" := by decide +kernel
      obtain ⟨r, hr, hkey⟩ := hrecord
      exact h r hr (hname ▸ hkey)
  have hstray : mixedCase.executor.bind pool.contains strayPlan = .error (.unknownInterface "loft") := by
    cases hb : mixedCase.executor.bind pool.contains strayPlan with
    | ok =>
      have hlacks : mixedCase.Lacks strayPlan (.unknownInterface "loft") :=
        .interface "loft" (by simp [strayPlan]) (by decide +kernel)
      exact absurd hlacks ((hready.bound strayPlan).1 hb _)
    | error f =>
      cases hready.refused strayPlan f hb with
      | unit u hu h =>
        have hunits : ∀ u ∈ strayPlan.units, ∃ d ∈ mixedCase.devices, d.unitId = u := by decide +kernel
        obtain ⟨d, hd, hid⟩ := hunits u hu
        exact absurd hid (h d hd)
      | interface name hn h =>
        have hname : name = "loft" := by simpa [strayPlan] using hn
        rw [hname]
  have hserves := hready.serves roundPlan (fun b b' => b.pool.UsedByOthers b'.pool)
    ({ pool, signals := [false] }, { id := "run-1", signal := 0 }) hround (fun _ _ h => h) fun _ _ h => h.extends
  exact ⟨hcheck, pool, hpool, hround, hstray, hserves⟩

end EngineConfig

end CalBench
