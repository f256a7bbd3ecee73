/-
Emptying an error queue.

An instrument keeps its errors in a queue and gives one away with each query. `Coded` says which code an entry has, and
`Drained` what the replies to the queries make of a check, if so many may be asked for: an entry with code zero ends
it, so does one without a code and so does a query that fails, and if none of these has come when the limit is reached
the queue is given up. All entries before have a code other than zero. The replies are those of the link, one query
after the other (`reply`), for as long as others leave the interface alone.

- `code?_eq_some_iff`: the code that is read is the one that an entry has;
- `plays_nextEntry`, `comes_drain`: one query, and by induction over the limit all of them;
- `comes_checkErrors`: the whole check, from the lease of the interface on;
- `drain_succeeds`: what a report holds, whatever others do.

Results:
- `error_queue_is_read_in_order`: what a check comes to, which calls it makes, that it ends in an idle pool, and that
  every entry of a report has a code other than zero.
Witness: `endless_queue_is_given_up`.
-/
import CalBench.Proofs.Number.Numeral
import CalBench.Proofs.Pool.Plays
import CalBench.Proofs.Run.ErrorChecks
import Mathlib.Data.List.TakeWhile
import Mathlib.Logic.Function.Iterate

namespace CalBench

open Proc

namespace ErrorCheck

/-! ## Entries and their codes -/

/-- an entry has a code: what stands before its first comma, without the blanks around it and with any number of plus
signs in front, is a number that fits 32 bits -/
def Coded (entry : String) (n : Int) : Prop :=
  -2147483648 ≤ n ∧ n ≤ 2147483647 ∧ ∃ plus number, Number.SignedNumeral number n ∧
    Text.strip (entry.toList.takeWhile fun c => c != ',') = List.replicate plus '+' ++ number

def Faulty (entry : String) : Prop := ∃ n, Coded entry n ∧ n ≠ 0

theorem dropPlus_numeral {digits : List Char} {n : Nat} (h : Number.Numeral digits n) :
    digits.dropWhile (· == '+') = digits := by
  cases digits with
  | nil => rfl
  | cons c rest =>
    by_cases hc : c = '+'
    · subst hc
      exact absurd h (Number.not_numeral_cons rfl _ _)
    · exact List.dropWhile_cons_of_neg (by simpa using hc)

/-- a number is the same without its plus signs -/
theorem signedNumeral_dropPlus {number : List Char} {n : Int} (h : Number.SignedNumeral number n) (plus : Nat) :
    Number.SignedNumeral ((List.replicate plus '+' ++ number).dropWhile (· == '+')) n := by
  have hplus : (List.replicate plus '+' ++ number).dropWhile (· == '+') = number.dropWhile (· == '+') := by
    induction plus with
    | zero => rfl
    | succ plus ih => exact ih
  rw [hplus]
  obtain ⟨digits, m, hdigits, ⟨hn, rfl | rfl⟩ | ⟨hn, rfl⟩⟩ := h
  · rw [dropPlus_numeral hdigits]
    exact ⟨_, m, hdigits, .inl ⟨hn, .inl rfl⟩⟩
  · rw [List.dropWhile_cons_of_pos rfl, dropPlus_numeral hdigits]
    exact ⟨digits, m, hdigits, .inl ⟨hn, .inl rfl⟩⟩
  · exact ⟨digits, m, hdigits, .inr ⟨hn, rfl⟩⟩

/-- **The code that is read is the one that an entry has** -/
theorem code?_eq_some_iff {entry : String} {n : Int} : code? entry = some n ↔ Coded entry n := by
  simp only [code?, Number.integerWithin?_eq_some_iff, String.toList_ofList]
  generalize hhead : Text.strip (entry.toList.takeWhile fun c => c != ',') = head
  refine and_congr_right fun _ => and_congr_right fun _ => ?_
  constructor
  · intro h
    have hplus : head.takeWhile (· == '+') = List.replicate (head.takeWhile (· == '+')).length '+' :=
      List.eq_replicate_of_mem fun c hc => by simpa using List.mem_takeWhile_imp hc
    refine ⟨(head.takeWhile (· == '+')).length, _, h, ?_⟩
    rw [hhead, ← hplus, List.takeWhile_append_dropWhile]
  · rintro ⟨plus, number, h, heq⟩
    rw [hhead] at heq
    exact heq ▸ signedNumeral_dropPlus h plus

/-- the error of a reply that is no entry -/
def notAnEntry (entry : String) : LinkError := .malformed s!"'{entry}' is not an error queue entry"

/-- what is checked of an entry: its code, or that it has none -/
theorem code_cases (entry : String) : (∃ n, Coded entry n ∧ code entry = .ok n) ∨
    ((∀ n, ¬ Coded entry n) ∧ code entry = .error (notAnEntry entry)) := by
  unfold code
  cases h : code? entry with
  | some n => exact .inl ⟨n, code?_eq_some_iff.1 h, rfl⟩
  | none => exact .inr ⟨fun n hn => (nomatch h.symm.trans (code?_eq_some_iff.2 hn)), rfl⟩

/-! ## What replies make of a check -/

/-- what the replies make of a check that asks for a limited number of entries -/
inductive Drained (limit : Nat) : List (Except LinkError String) → Except LinkError (List String) → Prop
  | emptied {entries : List String} {last : String} (hentries : ∀ x ∈ entries, Faulty x) (hlast : Coded last 0)
    (hlimit : entries.length < limit) : Drained limit (entries.map .ok ++ [.ok last]) (.ok entries)
  | malformed {entries : List String} {last : String} (hentries : ∀ x ∈ entries, Faulty x)
    (hlast : ∀ n, ¬ Coded last n) (hlimit : entries.length < limit) :
    Drained limit (entries.map .ok ++ [.ok last]) (.error (notAnEntry last))
  | failed {entries : List String} {err : LinkError} (hentries : ∀ x ∈ entries, Faulty x)
    (hlimit : entries.length < limit) : Drained limit (entries.map .ok ++ [.error err]) (.error err)
  /-- the queue does not empty -/
  | givenUp {entries : List String} (hentries : ∀ x ∈ entries, Faulty x) (hlimit : entries.length = limit) :
    Drained limit (entries.map .ok) (.ok entries)

/-- one more entry, in front of the others -/
theorem Drained.cons {limit : Nat} {entry : String} (hentry : Faulty entry) {replies : List (Except LinkError String)}
    {q : Except LinkError (List String)} (h : Drained limit replies q) :
    Drained (limit + 1) (.ok entry :: replies) (q.map (entry :: ·)) := by
  cases h with
  | emptied hentries hlast hlimit =>
    exact .emptied (List.forall_mem_cons.2 ⟨hentry, hentries⟩) hlast (Nat.succ_lt_succ hlimit)
  | malformed hentries hlast hlimit =>
    exact .malformed (List.forall_mem_cons.2 ⟨hentry, hentries⟩) hlast (Nat.succ_lt_succ hlimit)
  | failed hentries hlimit => exact .failed (List.forall_mem_cons.2 ⟨hentry, hentries⟩) (Nat.succ_lt_succ hlimit)
  | givenUp hentries hlimit => exact .givenUp (List.forall_mem_cons.2 ⟨hentry, hentries⟩) (congrArg Nat.succ hlimit)

/-! ## Queries one after another -/

variable {Λ : Type} [Link Λ] {others : Client Λ → Client Λ → Prop} {key : String}

def askEntry : Attempt Λ String := do
  return Text.trim (← Link.query queueQuery)

/-- the calls with which that is done: the reply is read if the question could be written -/
def entryCalls (l : Λ) : List Call :=
  .writeString queueQuery :: Pool.onSuccess (Link.call (.writeString queueQuery) l).result fun _ => [.read .terminated]

def afterEntries (l : Λ) (n : Nat) : Λ := (fun l => (askEntry l).link)^[n] l

def reply (l : Λ) (n : Nat) : Except LinkError String := (askEntry (afterEntries l n)).result

def drainCalls (l : Λ) (n : Nat) : List Call := (List.range n).flatMap fun k => entryCalls (afterEntries l k)

theorem replies_succ (l : Λ) (n : Nat) :
    (List.range (n + 1)).map (reply l) = (askEntry l).result :: (List.range n).map (reply (askEntry l).link) := by
  rw [List.range_succ_eq_map, List.map_cons, List.map_map]
  rfl

theorem drainCalls_succ (l : Λ) (n : Nat) :
    drainCalls l (n + 1) = entryCalls l ++ drainCalls (askEntry l).link n := by
  rw [drainCalls, List.range_succ_eq_map, List.flatMap_cons, List.flatMap_map]
  rfl

theorem plays_nextEntry (halone : LeavesAlone key others) :
    Pool.Plays others key (nextEntry key) (askEntry (Λ := Λ)) entryCalls := by
  have h := (Pool.plays_query halone queueQuery).andThen fun s => Pool.plays_done (Text.trim s)
  simp only [Pool.onSuccess_nil, List.append_nil] at h
  exact h

/-- what a drain comes to on a link -/
def Drains (limit : Nat) (l : Λ) (q : Except LinkError (List String)) (l' : Λ) (calls : List Call) : Prop :=
  ∃ n, Drained limit ((List.range n).map (reply l)) q ∧ l' = afterEntries l n ∧ calls = drainCalls l n

/-- one query, after which nothing more is asked -/
theorem drains_one {limit : Nat} {l : Λ} {q : Except LinkError (List String)}
    (h : Drained limit [(askEntry l).result] q) : Drains limit l q (askEntry l).link (entryCalls l) :=
  ⟨1, h, rfl, (List.append_nil _).symm⟩

theorem Drains.cons {limit : Nat} {l l' : Λ} {q : Except LinkError (List String)} {calls : List Call} {entry : String}
    (hreply : (askEntry l).result = .ok entry) (hentry : Faulty entry) (h : Drains limit (askEntry l).link q l' calls) :
    Drains (limit + 1) l (q.map (entry :: ·)) l' (entryCalls l ++ calls) := by
  obtain ⟨n, hdrained, rfl, rfl⟩ := h
  refine ⟨n + 1, ?_, rfl, (drainCalls_succ l n).symm⟩
  rw [replies_succ, hreply]
  exact hdrained.cons hentry

/-- **A drain is what the replies make of it** -/
theorem comes_drain (halone : LeavesAlone key others) (left : Nat) (entries : List String) (l : Λ) (asked : List Call) :
    Pool.Comes others key l asked (drain key left entries) fun r l' calls =>
      ∃ q, Drains left l q l' calls ∧ r = q.map (entries ++ ·) := by
  induction left generalizing entries l asked with
  | zero =>
    have hnothing : Drained 0 [] (.ok []) := .givenUp (fun _ h => absurd h List.not_mem_nil) rfl
    have hnone : Drains 0 l (.ok []) l [] := ⟨0, hnothing, rfl, rfl⟩
    exact meets_done fun c hc =>
      ⟨l, [], ⟨.ok [], hnone, by rw [Except.map, List.append_nil]⟩, by rwa [List.append_nil]⟩
  | succ left ih =>
    have hfirst : ∀ x ∈ ([] : List String), Faulty x := fun _ h => absurd h List.not_mem_nil
    cases hreply : (askEntry l).result with
    | error err =>
      have hfailed : Drained (left + 1) [(askEntry l).result] (.error err) :=
        hreply ▸ .failed hfirst (Nat.succ_pos left)
      exact (plays_nextEntry halone).fails hreply fun c hc => ⟨_, _, ⟨_, drains_one hfailed, rfl⟩, hc⟩
    | ok entry =>
      refine (plays_nextEntry halone).succeeds hreply ?_
      rcases code_cases entry with ⟨n, hn, hcode⟩ | ⟨hnone, hcode⟩
      · rw [hcode]
        dsimp only
        by_cases hzero : n = 0
        · subst hzero
          have hempty : Drained (left + 1) [(askEntry l).result] (.ok []) :=
            hreply ▸ .emptied hfirst hn (Nat.succ_pos left)
          rw [if_pos rfl]
          exact meets_done fun c hc => ⟨_, _, ⟨_, drains_one hempty, by rw [Except.map, List.append_nil]⟩, hc⟩
        · rw [if_neg hzero]
          refine (ih (entries ++ [entry]) _ _).mono (fun _ h => h) fun r c ⟨l', calls, ⟨q, hq, hr⟩, hc⟩ => ?_
          refine ⟨l', _, ⟨_, hq.cons hreply ⟨n, hn, hzero⟩, ?_⟩, by rwa [← List.append_assoc]⟩
          rw [hr]
          cases q with
          | ok more => exact congrArg Except.ok (List.append_assoc _ _ _)
          | error err => rfl
      · have hmalformed : Drained (left + 1) [(askEntry l).result] (.error (notAnEntry entry)) :=
          hreply ▸ .malformed hfirst hnone (Nat.succ_pos left)
        rw [hcode]
        exact meets_done fun c hc => ⟨_, _, ⟨_, drains_one hmalformed, rfl⟩, hc⟩

/-! ## Checks -/

/-- the device is addressed, which it need not be without an address or without bus calls -/
inductive Addressed (address : Option UInt8) (l : Λ) : Except LinkError Unit → Λ → List Call → Prop
  | unneeded (h : address = none ∨ Link.isGpib l = false) : Addressed address l (.ok ()) l []
  | needed {a : UInt8} (h : address = some a) (hbus : Link.isGpib l = true) :
    Addressed address l (Link.call (.setAddress a) l).result (Link.call (.setAddress a) l).link [.setAddress a]

/-- what a check comes to on a link: the device cannot be addressed, or its queue is drained of up to 32 entries -/
inductive Inspected (address : Option UInt8) (l : Λ) : Except LinkError (List String) → Λ → List Call → Prop
  | unaddressed {err : LinkError} {l' : Λ} {calls : List Call} (h : Addressed address l (.error err) l' calls) :
    Inspected address l (.error err) l' calls
  | drained {q : Except LinkError (List String)} {m l' : Λ} {calls calls' : List Call}
    (h : Addressed address l (.ok ()) m calls) (hdrains : Drains 32 m q l' calls') :
    Inspected address l q l' (calls ++ calls')

theorem comes_select (halone : LeavesAlone key others) (address : Option UInt8) (l : Λ) (asked : List Call) :
    Pool.Comes others key l asked (Executor.select key address) (Addressed address l) := by
  have hunneeded (h : address = none ∨ Link.isGpib l = false) :
      Pool.Comes others key l asked (.done (.ok ())) (Addressed address l) :=
    meets_done fun c hc => ⟨l, [], .unneeded h, by rwa [List.append_nil]⟩
  cases address with
  | none => exact hunneeded (.inl rfl)
  | some a =>
    refine meets_get_bind (fun _ => trivial) fun c hc => ?_
    have hbus : Executor.onBus key c = Link.isGpib l := by
      obtain ⟨⟨e, he, -, rfl⟩, -⟩ := hc
      rw [Executor.onBus, he]
      rfl
    rw [hbus]
    cases h : Link.isGpib l with
    | true =>
      refine (Pool.plays_perform halone (.setAddress a) l asked).mono (fun d hd => hd ▸ hc) fun r d hd => ?_
      exact ⟨_, _, hd.1 ▸ .needed rfl h, hd.2⟩
    | false => exact (hunneeded (.inr h)).mono (fun d hd => hd ▸ hc) fun _ _ h => h

theorem comes_ask (halone : LeavesAlone key others) (d : DeviceBinding) (l : Λ) (asked : List Call) :
    Pool.Comes others key l asked (ask .scpi d key) (Inspected d.address l) := by
  refine meets_andThen (comes_select halone d.address l asked) (fun _ c hc => ?_) fun err c hc => ?_
  · obtain ⟨m, calls, h, hc⟩ := hc
    refine (comes_drain halone maxEntries [] m _ c hc).imp fun y r ⟨l', calls', ⟨q, hq, hr⟩, hy⟩ => ?_
    have hsame : r = q := hr.trans (by cases q <;> rfl)
    subst hsame
    exact ⟨l', _, .drained h hq, by rwa [← List.append_assoc]⟩
  · obtain ⟨l', calls, h, hc⟩ := hc
    exact ⟨l', calls, .unaddressed h, hc⟩

/-- **A drain reports errors only, and not more than it may** -/
theorem drain_succeeds (left : Nat) {entries : List String} (hentries : ∀ x ∈ entries, Faulty x) :
    (drain (Λ := Λ) key left entries).Succeeds fun errors =>
      errors.length ≤ entries.length + left ∧ ∀ x ∈ errors, Faulty x := by
  induction left generalizing entries with
  | zero => exact fun errors h => by cases h; exact ⟨Nat.le_refl _, hentries⟩
  | succ left ih =>
    refine succeeds_andThen (succeeds_trivial (nextEntry key)) fun entry _ => ?_
    have hcode := code_cases entry
    generalize code entry = checked at hcode ⊢
    rcases hcode with ⟨n, hn, rfl⟩ | ⟨-, rfl⟩
    · dsimp only
      split
      · exact fun errors h => by cases h; exact ⟨Nat.le_add_right _ _, hentries⟩
      · rename_i hzero
        have hmore : ∀ x ∈ entries ++ [entry], Faulty x :=
          List.forall_mem_append.2 ⟨hentries, List.forall_mem_singleton.2 ⟨n, hn, hzero⟩⟩
        refine (ih hmore).mono fun r hr errors h => ?_
        obtain ⟨hlength, hall⟩ := hr errors h
        rw [List.length_append, List.length_singleton, Nat.add_right_comm] at hlength
        exact ⟨hlength, hall⟩
    · exact fun errors h => nomatch h

def report (unitId : String) (q : Except LinkError (List String)) : Except Failure ErrorCheckReport :=
  match q with
  | .ok errors => .ok { unitId, kind := .scpi, errors }
  | .error err => .error (.link err)

end ErrorCheck

namespace Executor

open ErrorCheck

variable {Λ : Type} [Link Λ] {others : Client Λ → Client Λ → Prop} {e : Executor} {unitId : String} {d : DeviceBinding}
  {l : Λ} {asked : List Call}

/-- a check of a known unit whose interface is open -/
theorem comes_checkErrors (hunit : e.devices.get? unitId = some d) (hopen : Link.connected l = true)
    (halone : LeavesAlone (Pool.key d.interface) others) :
    Meets others Anything (fun c => c.pool.Facing (Pool.key d.interface) l asked) (e.checkErrors unitId .scpi)
      fun r c => ∃ q l' calls, Inspected d.address l q l' calls ∧ r = report unitId q ∧
        c.pool.Facing (Pool.key d.interface) l' (asked ++ calls) := by
  refine meets_get_bind (fun _ => trivial) fun c hc => ?_
  have hknown : e.interfaceOf c.pool.contains unitId = .ok d := by
    obtain ⟨⟨entry, hentry, -⟩, -⟩ := hc
    have hthere : c.pool.contains d.interface = true := by
      rw [Pool.contains, Table.contains_eq_isSome, hentry, Option.isSome_some]
    simp only [interfaceOf, hunit, hthere, if_true]
  rw [hknown]
  dsimp only
  have huse : Meets others Anything (· = c) (Pool.withLease d.interface (ask .scpi d)) fun q y =>
      ∃ l' calls, Inspected d.address l q l' calls ∧ y.pool.Facing (Pool.key d.interface) l' (asked ++ calls) :=
    (Pool.comes_withLease halone hopen (comes_ask halone d l asked)).mono (fun y hy => hy ▸ hc) fun _ _ h => h
  refine meets_andThen (meets_mapError huse Failure.link) (fun errors => meets_done fun y hy => ?_) fun f y hy => ?_
  · obtain ⟨q, ⟨l', calls, h, hy⟩, hr⟩ := hy
    cases q with
    | ok errors' => cases hr; exact ⟨_, l', calls, h, rfl, hy⟩
    | error err => cases hr
  · obtain ⟨q, ⟨l', calls, h, hy⟩, hr⟩ := hy
    cases q with
    | ok errors' => cases hr
    | error err => cases hr; exact ⟨_, l', calls, h, rfl, hy⟩

/-- a report holds errors only, and not more than a check may ask for -/
theorem checkErrors_reports_errors (e : Executor) (unitId : String) :
    (e.checkErrors (Λ := Λ) unitId .scpi).Succeeds fun report =>
      report.errors.length ≤ 32 ∧ ∀ entry ∈ report.errors, Faulty entry := by
  refine returns_get_bind fun s => ?_
  split
  · exact fun _ h => nomatch h
  · rename_i d _
    have hask : ∀ key, (ask (Λ := Λ) .scpi d key).Succeeds fun errors =>
        errors.length ≤ 32 ∧ ∀ entry ∈ errors, Faulty entry := fun key =>
      succeeds_andThen (succeeds_trivial _) fun _ _ =>
        (drain_succeeds maxEntries fun _ h => absurd h List.not_mem_nil).mono fun r hr errors h =>
          ⟨(hr errors h).1.trans (Nat.le_of_eq (Nat.zero_add maxEntries)), (hr errors h).2⟩
    refine succeeds_andThen (succeeds_mapError (Pool.withLease_succeeds d.interface hask) Failure.link)
      fun errors herrors report hreport => ?_
    cases hreport
    exact herrors

/-- **An error queue is read in order, and the reading stops in time.** Let a unit be known and its interface open and
enabled, with a link `l`. While others leave the interface alone, a check asks the link for one entry after the other up
to the first one with code zero, without a code or not to be had, and for 32 entries at most (`Inspected`, `Drained`):
it reports all entries before, or the error of the last query. Alone in an idle pool it ends. Whatever the link does
and whatever others do, no more than 32 entries are reported, and all of them have a code other than zero. -/
theorem error_queue_is_read_in_order (e : Executor) {unitId : String} {d : DeviceBinding} {l : Λ} {asked : List Call}
    {c : Client Λ} (hunit : e.devices.get? unitId = some d) (hopen : Link.connected l = true)
    (hc : c.pool.Facing (Pool.key d.interface) l asked) :
    (∀ others t r, LeavesAlone (Pool.key d.interface) others → (e.checkErrors unitId .scpi).Yields others c t r →
      ∃ q l' calls, Inspected d.address l q l' calls ∧ r = report unitId q ∧
        t.pool.Facing (Pool.key d.interface) l' (asked ++ calls)) ∧
    (c.pool.Idle → ∃ t n q l' calls, (e.checkErrors unitId .scpi).alone c = .finished t n (report unitId q) ∧
      Inspected d.address l q l' calls ∧ t.pool.Facing (Pool.key d.interface) l' (asked ++ calls)) ∧
    (e.checkErrors (Λ := Λ) unitId .scpi).Succeeds fun report =>
      report.errors.length ≤ 32 ∧ ∀ entry ∈ report.errors, Faulty entry := by
  have hyields : ∀ others t r, LeavesAlone (Pool.key d.interface) others →
      (e.checkErrors unitId .scpi).Yields others c t r → ∃ q l' calls, Inspected d.address l q l' calls ∧
        r = report unitId q ∧ t.pool.Facing (Pool.key d.interface) l' (asked ++ calls) :=
    fun others t r halone h => (comes_checkErrors hunit hopen halone c hc).of_yields h
  refine ⟨hyields, fun hidle => ?_, checkErrors_reports_errors e unitId⟩
  obtain ⟨t, n, r, hend, -⟩ := checkErrors_ends e unitId .scpi hidle
  have heq : LeavesAlone (Pool.key d.interface) (Eq : Client Λ → Client Λ → Prop) := fun _ _ _ _ h hx => h ▸ hx
  obtain ⟨q, l', calls, hq, rfl, ht⟩ := hyields Eq t r heq (yields_of_alone (fun _ => rfl) hend)
  exact ⟨t, n, q, l', calls, hend, hq, ht⟩

/-! ## A queue that does not empty -/

def faultyMeter : Emulated := { name := "bench", connected := true, responder := .fixed "-113,Undefined header" }

def faultyBench : Client Emulated :=
  let entry : Entry Emulated :=
    { name := "bench", kind := .emulated, resource := "emulated:bench", enabled := true, link := faultyMeter }
  { pool := { entries := ⟨[("BENCH", entry)]⟩ } }

/-- **A queue that does not empty is given up after 32 entries** -/
theorem endless_queue_is_given_up :
    let errors := List.replicate 32 "-113,Undefined header"
    meterExecutor.devices.get? "DMM1" = some ⟨"DMM1", "bench", some 22⟩ ∧ Link.connected faultyMeter = true ∧
      faultyBench.pool.Facing (Pool.key "bench") faultyMeter [] ∧ faultyBench.pool.Idle ∧
      ∃ t n l' calls, (meterExecutor.checkErrors "DMM1" .scpi).alone faultyBench =
          .finished t n (.ok { unitId := "DMM1", kind := .scpi, errors }) ∧
        Inspected (some 22) faultyMeter (.ok errors) l' calls ∧ t.pool.Facing (Pool.key "bench") l' calls := by
  intro errors
  have hunit : meterExecutor.devices.get? "DMM1" = some ⟨"DMM1", "bench", some 22⟩ := rfl
  have hfacing : faultyBench.pool.Facing (Pool.key "bench") faultyMeter [] := ⟨⟨_, rfl, rfl, rfl⟩, rfl⟩
  have hidle : faultyBench.pool.Idle := by
    intro key
    by_cases h : "BENCH" = key <;> simp [Pool.queueOf, Table.get?, faultyBench, h]
  have hresult : ((meterExecutor.checkErrors "DMM1" .scpi).alone faultyBench).result? =
      some (.ok { unitId := "DMM1", kind := .scpi, errors }) := by decide +kernel
  obtain ⟨-, hends, -⟩ := error_queue_is_read_in_order meterExecutor hunit rfl hfacing
  obtain ⟨t, n, q, l', calls, hend, hq, ht⟩ := hends hidle
  rw [hend] at hresult
  cases q with
  | ok errors' =>
    cases hresult
    exact ⟨hunit, rfl, hfacing, hidle, t, n, l', calls, hend, hq, ht⟩
  | error err => cases hresult

end Executor

end CalBench
