/-
A reply that comes too late is not read as the next one.

A stream delivers chunks, each at an instant that does not depend on the reader as long as one is there (`schedule`). A
receive moves along the schedule: it takes the chunk that comes next, or waits up to its deadline and finds that every
other chunk comes after it. `Passes` is what holds between two points of a stream that a reader goes through, and reads
and drains are chains of such steps. A drain that meets a silence of its quiet period ends in it, so all that is left
comes after its end.

Results:
- `receive_passes`, `readFrame_passes`, `discardLate_passes`: a reader moves along the schedule;
- `discardLate_quiet`: a drain that meets a silence drops all that came up to its end;
- `readFrame_frame`: a read returns the frame that its request cuts off;
- `late_replies_are_dropped`: what a read that has timed out leaves behind, when, and what is read next.
Witness:
- `late_reading_is_not_read`: a reply of which the second half comes after the limit, and the reply after it.
-/
import CalBench.Proofs.Link.Framing

namespace CalBench

/-! ## When a stream delivers what -/

/-- the chunks of a stream with the instants they come at, for a reader that is there from an instant on -/
def schedule : Nat → List StreamEvent → List (Nat × Bytes)
  | _, [] => []
  | now, .data b :: rest => (now, b) :: schedule now rest
  | now, .silence ms :: rest => schedule (now + ms) rest
  | now, .silentUntil t :: rest => schedule (max now t) rest
  | now, .fault _ :: rest => schedule now rest
  | _, .closed :: _ => []

def later (instant : Nat) (chunks : List (Nat × Bytes)) : List (Nat × Bytes) := chunks.filter fun c => instant < c.1

theorem le_of_mem_schedule {now : Nat} {events : List StreamEvent} {c : Nat × Bytes} (hc : c ∈ schedule now events) :
    now ≤ c.1 := by
  fun_induction schedule now events with
  | case1 => cases hc
  | case2 now b rest ih =>
    rcases List.mem_cons.1 hc with rfl | hc
    · exact Nat.le_refl now
    · exact ih hc
  | case3 now ms rest ih => exact Nat.le_trans (Nat.le_add_right now ms) (ih hc)
  | case4 now t rest ih => exact Nat.le_trans (Nat.le_max_left now t) (ih hc)
  | case5 now p rest ih => exact ih hc
  | case6 => cases hc

/-- chunks that all come after an instant are all later -/
theorem later_eq_self {instant : Nat} {chunks : List (Nat × Bytes)} (h : ∀ c ∈ chunks, instant < c.1) :
    later instant chunks = chunks := by
  rw [later, List.filter_eq_self]
  intro c hc
  exact decide_eq_true (h c hc)

/-- a stream that flows delivers all that it carries -/
theorem flatMap_schedule {now : Nat} {events : List StreamEvent} (h : ∀ e ∈ events, e.Flows none) :
    (schedule now events).flatMap Prod.snd = payload events := by
  fun_induction schedule now events with
  | case1 => rfl
  | case2 now b rest ih =>
    rw [List.flatMap_cons, ih (List.forall_mem_cons.1 h).2]
    rfl
  | case3 now ms rest ih => exact ih (List.forall_mem_cons.1 h).2
  | case4 now t rest ih => exact ih (List.forall_mem_cons.1 h).2
  | case5 now p rest => exact (List.forall_mem_cons.1 h).1.elim
  | case6 now rest => exact (List.forall_mem_cons.1 h).1.elim

/-- when a reader starts makes no difference to what it gets -/
theorem map_schedule (now now' : Nat) (events : List StreamEvent) :
    (schedule now events).map Prod.snd = (schedule now' events).map Prod.snd := by
  induction events generalizing now now' with
  | nil => rfl
  | cons e rest ih =>
    cases e with
    | data b => exact congrArg (b :: ·) (ih now now')
    | silence ms => exact ih _ _
    | silentUntil t => exact ih _ _
    | fault p => exact ih now now'
    | closed => rfl

/-! ## Moving along -/

/-- From one point of a stream to another that a reader has come to: time has passed, the chunks that are left come when
they would have come, and of those that come after the new instant none is missing. -/
structure Passes (now : Nat) (events : List StreamEvent) (time : Nat) (rest : List StreamEvent) : Prop where
  forward : now ≤ time
  times : ∀ c ∈ schedule time rest, ∃ c' ∈ schedule now events, c'.1 = c.1
  kept : ∀ instant, time ≤ instant → later instant (schedule time rest) = later instant (schedule now events)
  flows : (∀ e ∈ events, e.Flows none) → ∀ e ∈ rest, e.Flows none

namespace Passes

variable {now time time' : Nat} {events rest rest' : List StreamEvent}

theorem refl (now : Nat) (events : List StreamEvent) : Passes now events now events where
  forward := Nat.le_refl now
  times c hc := ⟨c, hc, rfl⟩
  kept _ _ := rfl
  flows h := h

theorem trans (h : Passes now events time rest) (h' : Passes time rest time' rest') :
    Passes now events time' rest' where
  forward := Nat.le_trans h.forward h'.forward
  times c hc := by
    obtain ⟨c', hc', heq'⟩ := h'.times c hc
    obtain ⟨c'', hc'', heq⟩ := h.times c' hc'
    exact ⟨c'', hc'', heq.trans heq'⟩
  kept instant hlate := (h'.kept instant hlate).trans (h.kept instant (Nat.le_trans h'.forward hlate))
  flows hflows := h'.flows (h.flows hflows)

/-- a reader that is past a silence -/
theorem of_schedule (hforward : now ≤ time) (h : schedule time rest = schedule now events)
    (hflows : (∀ e ∈ events, e.Flows none) → ∀ e ∈ rest, e.Flows none) : Passes now events time rest where
  forward := hforward
  times c hc := ⟨c, h ▸ hc, rfl⟩
  kept _ _ := by rw [h]
  flows := hflows

end Passes

theorem inTime_some_iff {time deadline : Nat} : inTime time (some deadline) = true ↔ time ≤ deadline :=
  decide_eq_true_iff

/-- **A receive moves along the schedule**, and not beyond its deadline -/
theorem receive_passes (room : Nat) {deadline now : Nat} (hnow : now ≤ deadline) (events : List StreamEvent) :
    Passes now events (receive room (some deadline) now events).time (receive room (some deadline) now events).rest ∧
      (receive room (some deadline) now events).time ≤ deadline := by
  fun_induction receive room (some deadline) now events with
  | case1 now =>
    refine ⟨.of_schedule (Nat.le_max_left now _) rfl fun h => h, ?_⟩
    exact Nat.max_le.2 ⟨hnow, Nat.le_refl _⟩
  | case2 now b rest =>
    refine ⟨?_, hnow⟩
    split
    · refine ⟨Nat.le_refl now, fun c hc => ⟨c, List.mem_cons_of_mem _ hc, rfl⟩, fun instant hlate => ?_, fun h => ?_⟩
      · simp [later, schedule, Nat.not_lt.2 hlate]
      · exact (List.forall_mem_cons.1 h).2
    · next hlong =>
      refine ⟨Nat.le_refl now, fun c hc => ?_, fun instant hlate => ?_, fun h => ?_⟩
      · rcases List.mem_cons.1 hc with rfl | hc
        · exact ⟨(now, b), List.mem_cons_self, rfl⟩
        · exact ⟨c, List.mem_cons_of_mem _ hc, rfl⟩
      · simp [later, schedule, Nat.not_lt.2 hlate]
      · refine List.forall_mem_cons.2 ⟨?_, (List.forall_mem_cons.1 h).2⟩
        simpa [StreamEvent.Flows] using hlong
  | case3 now ms rest hintime ih =>
    obtain ⟨hpasses, hle⟩ := ih (inTime_some_iff.1 hintime)
    refine ⟨Passes.trans ?_ hpasses, hle⟩
    exact .of_schedule (Nat.le_add_right now ms) rfl fun h => (List.forall_mem_cons.1 h).2
  | case4 now ms rest hlate =>
    have hlate' : deadline < now + ms := Nat.lt_of_not_le (mt inTime_some_iff.2 hlate)
    have htime : max now ((some deadline).getD now) = deadline := Nat.max_eq_right hnow
    rw [htime]
    refine ⟨.of_schedule hnow ?_ fun h => ?_, Nat.le_refl _⟩
    · rw [schedule, schedule, Nat.max_eq_right (Nat.le_of_lt hlate')]
    · exact List.forall_mem_cons.2 ⟨rfl, (List.forall_mem_cons.1 h).2⟩
  | case5 now t rest hintime ih =>
    obtain ⟨hpasses, hle⟩ := ih (inTime_some_iff.1 hintime)
    refine ⟨Passes.trans ?_ hpasses, hle⟩
    exact .of_schedule (Nat.le_max_left now t) rfl fun h => (List.forall_mem_cons.1 h).2
  | case6 now t rest hlate =>
    have hlate' : deadline < max now t := Nat.lt_of_not_le (mt inTime_some_iff.2 hlate)
    have htime : max now ((some deadline).getD now) = deadline := Nat.max_eq_right hnow
    rw [htime]
    refine ⟨.of_schedule hnow ?_ fun h => h, Nat.le_refl _⟩
    have ht : deadline < t := by omega
    rw [schedule, schedule, Nat.max_eq_right (Nat.le_of_lt ht), Nat.max_eq_right (by omega)]
  | case7 now p rest =>
    exact ⟨.of_schedule (Nat.le_refl now) rfl fun h => (List.forall_mem_cons.1 h).2, hnow⟩
  | case8 now rest => exact ⟨.refl now _, hnow⟩

/-- a receive that gets bytes gets them when they come -/
theorem receive_bytes {room now : Nat} {deadline : Option Nat} {events : List StreamEvent} {b : Bytes}
    (h : (receive room deadline now events).delivery = .bytes b) (hb : b ≠ []) :
    ∃ c later, schedule now events = ((receive room deadline now events).time, c) :: later ∧ b = c.take room := by
  fun_induction receive room deadline now events with
  | case2 now c rest =>
    cases h
    exact ⟨c, _, rfl, rfl⟩
  | case3 now ms rest _ ih => exact ih h
  | case5 now t rest _ ih => exact ih h
  | case8 =>
    cases h
    exact absurd rfl hb
  | case1 | case4 | case6 | case7 => cases h

/-- **A receive that times out does so at its deadline, and everything comes after it** -/
theorem receive_timedOut {room deadline now : Nat} (hnow : now ≤ deadline) {events : List StreamEvent}
    (h : (receive room (some deadline) now events).delivery = .timedOut) :
    (receive room (some deadline) now events).time = deadline ∧
      ∀ c ∈ schedule now events, deadline < c.1 := by
  fun_induction receive room (some deadline) now events with
  | case1 now => exact ⟨Nat.max_eq_right hnow, fun c hc => by cases hc⟩
  | case2 | case7 | case8 => cases h
  | case3 now ms rest hintime ih => exact ih (inTime_some_iff.1 hintime) h
  | case4 now ms rest hlate =>
    have hlate' : deadline < now + ms := Nat.lt_of_not_le (mt inTime_some_iff.2 hlate)
    exact ⟨Nat.max_eq_right hnow, fun c hc => Nat.lt_of_lt_of_le hlate' (le_of_mem_schedule hc)⟩
  | case5 now t rest hintime ih => exact ih (inTime_some_iff.1 hintime) h
  | case6 now t rest hlate =>
    have hlate' : deadline < max now t := Nat.lt_of_not_le (mt inTime_some_iff.2 hlate)
    exact ⟨Nat.max_eq_right hnow, fun c hc => Nat.lt_of_lt_of_le hlate' (le_of_mem_schedule hc)⟩

/-- a stream that flows delivers bytes or nothing -/
theorem receive_steady {room : Nat} (hroom : room ≠ 0) (deadline : Option Nat) (now : Nat) {events : List StreamEvent}
    (h : ∀ e ∈ events, e.Flows none) : (∃ b, b ≠ [] ∧ (receive room deadline now events).delivery = .bytes b) ∨
      (receive room deadline now events).delivery = .timedOut := by
  fun_induction receive room deadline now events with
  | case2 now b rest =>
    have hb : b ≠ [] := (List.forall_mem_cons.1 h).1
    exact .inl ⟨b.take room, by simpa [hroom] using hb, rfl⟩
  | case3 now ms rest _ ih => exact ih (List.forall_mem_cons.1 h).2
  | case5 now t rest _ ih => exact ih (List.forall_mem_cons.1 h).2
  | case7 now p rest => exact (List.forall_mem_cons.1 h).1.elim
  | case8 now rest => exact (List.forall_mem_cons.1 h).1.elim
  | case1 | case4 | case6 => exact .inr rfl

/-! ## Reads -/

/-- **A read moves along the schedule**, and it times out at its deadline -/
theorem readFrame_passes (t : Terminator) (mode : ReadMode) {deadline now : Nat} (hnow : now ≤ deadline) (i : Inlet) :
    Passes now i.events (readFrame t mode (some deadline) now i).time
        (readFrame t mode (some deadline) now i).inlet.events ∧
      ((readFrame t mode (some deadline) now i).outcome = .timedOut →
        (readFrame t mode (some deadline) now i).time = deadline) := by
  fun_induction readFrame t mode (some deadline) now i with
  | case1 now i frame pending htake => exact ⟨.refl now _, fun h => by cases h⟩
  | case2 now i _ a hdelivery =>
    exact ⟨(receive_passes chunk hnow i.events).1, fun _ => (receive_timedOut hnow hdelivery).1⟩
  | case3 now i _ a p hdelivery => exact ⟨(receive_passes chunk hnow i.events).1, fun h => by cases h⟩
  | case4 now i _ a hdelivery => exact ⟨(receive_passes chunk hnow i.events).1, fun h => by cases h⟩
  | case5 now i _ a b hdelivery hb _ hlong => exact ⟨(receive_passes chunk hnow i.events).1, fun h => by cases h⟩
  | case6 now i _ a b hdelivery hb _ hlong ih =>
    obtain ⟨hpasses, hle⟩ := receive_passes chunk hnow i.events
    obtain ⟨hrest, htime⟩ := ih hle
    exact ⟨hpasses.trans hrest, htime⟩

/-- **A read returns the frame that its request cuts off**, however much has arrived -/
theorem readFrame_frame {r : FrameRequest} {deadline : Option Nat} {now : Nat} {i : Inlet} {frame : Bytes}
    (h : (readFrame r.terminator r.mode deadline now i).outcome = .frame frame) :
    r.Cuts i.unread frame (readFrame r.terminator r.mode deadline now i).inlet.unread := by
  generalize ht : r.terminator = t, hm : r.mode = mode at h ⊢
  fun_induction readFrame t mode deadline now i with
  | case1 now i first pending htake =>
    cases h
    subst ht hm
    exact (FrameRequest.takeFrame?_eq_some_iff.1 htake).append (payload i.events)
  | case2 | case3 | case4 | case5 => cases h
  | case6 now i _ a b hdelivery hb _ hlong ih =>
    rw [← i.unread_receive hdelivery]
    exact ih h

/-- **A read without a terminator returns what comes first** -/
theorem readFrame_unbounded {deadline : Option Nat} {now : Nat} {events : List StreamEvent} {frame : Bytes}
    (h : (readFrame .none .terminated deadline now { events }).outcome = .frame frame) :
    ∃ time c later, schedule now events = (time, c) :: later ∧ frame = c.take chunk := by
  have htake : takeFrame? .none .terminated [] = none := rfl
  rw [readFrame, htake] at h
  dsimp only at h
  split at h
  · cases h
  · cases h
  · next b hdelivery =>
    split at h
    · cases h
    next hb =>
    split at h
    · cases h
    -- what has arrived is the frame
    have hwhole : takeFrame? .none .terminated ([] ++ b) = some (b, []) := by simp [takeFrame?, hb]
    rw [readFrame, hwhole] at h
    cases h
    obtain ⟨c, rest, hschedule, heq⟩ := receive_bytes hdelivery hb
    exact ⟨_, c, rest, hschedule, heq⟩

/-! ## The drain -/

/-- **A drain moves along the schedule**, and it ends before a quiet period after its limit is over -/
theorem discardLate_passes (quiet stop now : Nat) (events : List StreamEvent) :
    Passes now events (discardLate quiet stop now events).1 (discardLate quiet stop now events).2 ∧
      (discardLate quiet stop now events).1 ≤ max now (stop + quiet) := by
  fun_induction discardLate quiet stop now events with
  | case1 now events hnow a hclosed =>
    obtain ⟨hpasses, hle⟩ : Passes now events a.time a.rest ∧ a.time ≤ now + quiet :=
      receive_passes chunk (Nat.le_add_right now quiet) events
    exact ⟨hpasses, by omega⟩
  | case2 now events hnow a b hdelivery hb hlast ih =>
    obtain ⟨hpasses, hle⟩ : Passes now events a.time a.rest ∧ a.time ≤ now + quiet :=
      receive_passes chunk (Nat.le_add_right now quiet) events
    obtain ⟨hrest, hend⟩ := ih
    exact ⟨hpasses.trans hrest, by omega⟩
  | case3 now events hnow a hdelivery =>
    obtain ⟨hpasses, hle⟩ : Passes now events a.time a.rest ∧ a.time ≤ now + quiet :=
      receive_passes chunk (Nat.le_add_right now quiet) events
    exact ⟨hpasses, by omega⟩
  | case4 now events hnow => exact ⟨.refl now events, Nat.le_max_left now _⟩

def SilentFrom (instant period : Nat) (chunks : List (Nat × Bytes)) : Prop :=
  ∀ c ∈ chunks, instant < c.1 → instant + period < c.1

instance (instant period : Nat) (chunks : List (Nat × Bytes)) : Decidable (SilentFrom instant period chunks) :=
  inferInstanceAs (Decidable (∀ c ∈ chunks, instant < c.1 → instant + period < c.1))

theorem SilentFrom.passes {instant period now time : Nat} {events rest : List StreamEvent}
    (h : SilentFrom instant period (schedule now events)) (hpasses : Passes now events time rest) :
    SilentFrom instant period (schedule time rest) := by
  intro c hc hafter
  obtain ⟨c', hc', heq⟩ := hpasses.times c hc
  rw [← heq] at hafter ⊢
  exact h c' hc' hafter

/-- **A drain that meets a silence drops all that came up to its end**: everything that is left comes after it -/
theorem discardLate_quiet {quiet stop now silence : Nat} {events : List StreamEvent}
    (hflows : ∀ e ∈ events, e.Flows none) (hstart : now ≤ silence) (hstop : silence < stop)
    (hsilent : SilentFrom silence quiet (schedule now events)) :
    ∀ c ∈ schedule (discardLate quiet stop now events).1 (discardLate quiet stop now events).2,
      (discardLate quiet stop now events).1 < c.1 := by
  fun_induction discardLate quiet stop now events with
  | case1 now events hnow a hclosed =>
    obtain ⟨b, hb, hbytes⟩ | htimedOut := receive_steady chunk_ne_zero (some (now + quiet)) now hflows
    · cases hclosed.symm.trans hbytes
      exact absurd rfl hb
    · cases hclosed.symm.trans htimedOut
  | case2 now events hnow a b hdelivery hb hlast ih =>
    obtain ⟨hpasses, hle⟩ : Passes now events a.time a.rest ∧ a.time ≤ now + quiet :=
      receive_passes chunk (Nat.le_add_right now quiet) events
    -- what has come did not come in the silence, so it came before
    have hbefore : a.time ≤ silence := by
      obtain ⟨c, later, hschedule, -⟩ := receive_bytes hdelivery hb
      have hc : (a.time, c) ∈ schedule now events := by
        rw [hschedule]
        exact List.mem_cons_self
      refine Nat.le_of_not_lt fun hafter => ?_
      have hlong : silence + quiet < a.time := hsilent _ hc hafter
      omega
    exact ih (hpasses.flows hflows) hbefore (hsilent.passes hpasses)
  | case3 now events hnow a hdelivery =>
    obtain ⟨b, hb, hbytes⟩ | htimedOut := receive_steady chunk_ne_zero (some (now + quiet)) now hflows
    · exact absurd hbytes (hdelivery b)
    · obtain ⟨htime, hafter⟩ := receive_timedOut (Nat.le_add_right now quiet) htimedOut
      have hpasses : Passes now events a.time a.rest := (receive_passes chunk (Nat.le_add_right now quiet) events).1
      intro c hc
      obtain ⟨c', hc', heq⟩ := hpasses.times c hc
      have hlate : a.time < c'.1 := htime ▸ hafter c' hc'
      rwa [heq] at hlate
  | case4 now events hnow => exact absurd (Nat.lt_of_le_of_lt hstart hstop) hnow

/-! ## Reads with a limit -/

theorem Duration.ticks_eight (d : Duration) : (Duration.mk (d.nanos * drainPeriods)).ticks ≤ 8 * d.ticks := by
  simp only [Duration.ticks, drainPeriods]
  omega

/-- the first frame of chunks: what a request cuts off their bytes, or without a terminator what a single receive takes
of them -/
inductive FirstFrame : Terminator → ReadMode → List Bytes → Bytes → Prop
  | cut {r : FrameRequest} {chunks : List Bytes} {frame rest : Bytes} (h : r.Cuts chunks.flatten frame rest) :
      FirstFrame r.terminator r.mode chunks frame
  | whole (c : Bytes) (chunks : List Bytes) : FirstFrame .none .terminated (c :: chunks) (c.take chunk)

section

variable {t : Terminator} {mode : ReadMode} {after : Duration} {now : Nat} {i : Inlet}

theorem readWithin_eq_ok_iff {frame : Bytes} : (readWithin t mode after now i).result = .ok frame ↔
    (readFrame t mode (some (now + after.ticks)) now i).outcome = .frame frame := by
  unfold readWithin
  dsimp only
  split
  · next hframe => rw [hframe, Except.ok.injEq, FrameOutcome.frame.injEq]
  · next hfailed => exact ⟨nofun, fun h => by cases hfailed.symm.trans h⟩
  · next htimedOut => exact ⟨nofun, fun h => by cases htimedOut.symm.trans h⟩

theorem readWithin_eq_timeout_iff : (readWithin t mode after now i).result = .error (.timeout .read after) ↔
    (readFrame t mode (some (now + after.ticks)) now i).outcome = .timedOut := by
  unfold readWithin
  dsimp only
  split
  · next hframe => exact ⟨nofun, fun h => by cases hframe.symm.trans h⟩
  · next hfailed => exact ⟨nofun, fun h => by cases hfailed.symm.trans h⟩
  · next htimedOut => exact ⟨fun _ => htimedOut, fun _ => rfl⟩

/-- what a read that times out drains -/
theorem readWithin_of_timedOut (h : (readFrame t mode (some (now + after.ticks)) now i).outcome = .timedOut) :
    readWithin t mode after now i =
      let drain := discardLate after.ticks
        (now + after.ticks + (Duration.mk (after.nanos * drainPeriods)).ticks) (now + after.ticks)
        (readFrame t mode (some (now + after.ticks)) now i).inlet.events
      ⟨drain.1, .error (.timeout .read after), { events := drain.2 }⟩ := by
  have htime := (readFrame_passes t mode (Nat.le_add_right now after.ticks) i).2 h
  unfold readWithin
  dsimp only
  split
  · next hframe => cases hframe.symm.trans h
  · next hfailed => cases hfailed.symm.trans h
  · rw [htime]

/-- **A read of an inlet where nothing is pending returns the first frame of what comes** -/
theorem readFrame_firstFrame {deadline : Option Nat} {events : List StreamEvent} (hflows : ∀ e ∈ events, e.Flows none)
    {frame : Bytes} (h : (readFrame t mode deadline now { events }).outcome = .frame frame) (start : Nat) :
    FirstFrame t mode ((schedule start events).map Prod.snd) frame := by
  rw [map_schedule start now]
  by_cases hbounded : mode = .terminated → t ≠ .none
  · have hcut := readFrame_frame (r := ⟨t, mode, hbounded⟩) h
    have hbytes : Inlet.unread { events } = ((schedule now events).map Prod.snd).flatten := by
      rw [← List.flatMap_def, flatMap_schedule hflows]
      rfl
    rw [hbytes] at hcut
    exact .cut hcut
  · obtain ⟨rfl, rfl⟩ : mode = .terminated ∧ t = .none := by simpa using hbounded
    obtain ⟨time, c, later, hschedule, rfl⟩ := readFrame_unbounded h
    rw [hschedule]
    exact .whole c _

/-- the chunks fall silent for a limit before the time of a drain that starts at an instant is over -/
def FallsSilent (after : Duration) (start : Nat) (chunks : List (Nat × Bytes)) : Prop :=
  ∃ silence, start ≤ silence ∧ silence < start + (Duration.mk (after.nanos * drainPeriods)).ticks ∧
    SilentFrom silence after.ticks chunks

/-- **A reply that comes too late is not read as the next one.**

A read that times out leaves nothing pending, it ends no later than ten times its limit after it started, and of what
comes after its end nothing is missing. If the stream falls silent for the limit before the time of the drain is over,
all that was delivered up to the end of the read is dropped: what is left is exactly what comes after it, and the next
read that succeeds, whatever it asks for, returns the first frame of that. Time is counted in ticks, and a limit is the
ticks that a pause of its length takes. -/
theorem late_replies_are_dropped (h : (readWithin t mode after now i).result = .error (.timeout .read after)) :
    let r := readWithin t mode after now i
    r.inlet.pending = [] ∧ r.time ≤ now + 10 * after.ticks ∧
      later r.time (schedule r.time r.inlet.events) = later r.time (schedule now i.events) ∧
      ((∀ e ∈ i.events, e.Flows none) → FallsSilent after (now + after.ticks) (schedule now i.events) →
        schedule r.time r.inlet.events = later r.time (schedule now i.events) ∧
        ∀ t' mode' now' frame,
          (∃ deadline, (readFrame t' mode' deadline now' r.inlet).outcome = .frame frame) ∨
            (∃ after', (readWithin t' mode' after' now' r.inlet).result = .ok frame) →
          FirstFrame t' mode' ((later r.time (schedule now i.events)).map Prod.snd) frame) := by
  have htimedOut := readWithin_eq_timeout_iff.1 h
  obtain ⟨hread, htime⟩ := readFrame_passes t mode (Nat.le_add_right now after.ticks) i
  rw [htime htimedOut] at hread
  rw [readWithin_of_timedOut htimedOut]
  obtain ⟨hdrain, hend⟩ := discardLate_passes after.ticks
    (now + after.ticks + (Duration.mk (after.nanos * drainPeriods)).ticks) (now + after.ticks)
    (readFrame t mode (some (now + after.ticks)) now i).inlet.events
  have hpasses := hread.trans hdrain
  refine ⟨rfl, ?_, hpasses.kept _ (Nat.le_refl _), fun hflows hsilent => ?_⟩
  · have hbudget := after.ticks_eight
    dsimp only
    omega
  · obtain ⟨silence, hstart, hstop, hquiet⟩ := hsilent
    have hleft := discardLate_quiet (hread.flows hflows) hstart hstop (hquiet.passes hread)
    have hschedule := (later_eq_self hleft).symm.trans (hpasses.kept _ (Nat.le_refl _))
    have hrest := hpasses.flows hflows
    refine ⟨hschedule, fun t' mode' now' frame hnext => ?_⟩
    rw [← hschedule]
    rcases hnext with ⟨deadline, hframe⟩ | ⟨after', hok⟩
    · exact readFrame_firstFrame hrest hframe _
    · exact readFrame_firstFrame hrest (readWithin_eq_ok_iff.1 hok) _

end

/-- a reading of which the second half comes after a limit of 50 milliseconds, and the ones after it -/
def lateReading : Inlet :=
  { events := [.data [49], .silence 60, .data [50, 10], .silence 20, .data [51, 10], .silence 200, .data [86, 10]] }

/-- **The late half is dropped, and what came before the drain was over**; the reading after the silence is read -/
theorem late_reading_is_not_read :
    let r := readWithin .lf .terminated (.ofMillis 50) 0 lateReading
    r.result = .error (.timeout .read (.ofMillis 50)) ∧ (∀ e ∈ lateReading.events, e.Flows none) ∧
      FallsSilent (.ofMillis 50) 50 (schedule 0 lateReading.events) ∧ r.time = 130 ∧
      schedule r.time r.inlet.events = [(280, [86, 10])] ∧
      (readWithin .lf .terminated (.ofSecs 1) 140 r.inlet).result = .ok [86] ∧
      FirstFrame .lf .terminated [[86, 10]] [86] := by
  have hresult : (readWithin .lf .terminated (.ofMillis 50) 0 lateReading).result =
      .error (.timeout .read (.ofMillis 50)) := readWithin_eq_timeout_iff.2 (by decide +kernel)
  have hflows : ∀ e ∈ lateReading.events, e.Flows none := by decide
  have hsilent : FallsSilent (.ofMillis 50) 50 (schedule 0 lateReading.events) :=
    ⟨80, by decide, by decide, by decide⟩
  have hnext : (readWithin .lf .terminated (.ofSecs 1) 140
      (readWithin .lf .terminated (.ofMillis 50) 0 lateReading).inlet).result = .ok [86] :=
    readWithin_eq_ok_iff.2 (by decide +kernel)
  have htime : (readWithin .lf .terminated (.ofMillis 50) 0 lateReading).time = 130 := by decide +kernel
  have hlater : later 130 (schedule 0 lateReading.events) = [(280, [86, 10])] := by decide
  obtain ⟨-, -, -, hlate⟩ := late_replies_are_dropped hresult
  obtain ⟨hleft, hframe⟩ := hlate hflows hsilent
  rw [htime, hlater] at hleft hframe
  exact ⟨hresult, hflows, hsilent, htime, by rw [htime]; exact hleft, hnext, hframe _ _ _ _ (.inr ⟨_, hnext⟩)⟩

end CalBench
