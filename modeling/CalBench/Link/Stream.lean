/-
Byte streams in time.

A stream is the list of what it will do: deliver bytes, stay silent for a while, fail once, or be
closed for good. After the last event it is silent for ever. `receive` takes the next delivery, no more
than fits the reader's buffer, and waits for it up to a deadline; what arrives at the very deadline
still counts. A silence is counted from the moment a reader first meets it, and it runs on when the
reader gives up.
-/
import CalBench.Text.Utf8

namespace CalBench

/-- what a stream does next -/
inductive StreamEvent
  | data (bytes : Bytes)
  /-- is silent for so many milliseconds, from when it is first read -/
  | silence (ms : Nat)
  /-- is silent up to an instant -/
  | silentUntil (time : Nat)
  /-- fails once -/
  | fault (problem : String)
  | closed
deriving DecidableEq, Repr

/-- what a reader gets -/
inductive Delivery
  /-- bytes; none when the stream is closed -/
  | bytes (b : Bytes)
  | fault (problem : String)
  | timedOut
deriving DecidableEq, Repr

/-- a delivery, when it came, and the stream after it -/
structure Arrival where
  time : Nat
  delivery : Delivery
  rest : List StreamEvent
deriving DecidableEq, Repr

/-- an instant is not after the deadline -/
def inTime (time : Nat) (deadline : Option Nat) : Bool := deadline.all fun d => time ≤ d

/-- takes the next delivery of at most `room` bytes -/
def receive (room : Nat) (deadline : Option Nat) : Nat → List StreamEvent → Arrival
  | now, [] => ⟨max now (deadline.getD now), .timedOut, []⟩
  | now, .data b :: rest =>
    ⟨now, .bytes (b.take room), if b.length ≤ room then rest else .data (b.drop room) :: rest⟩
  | now, .silence ms :: rest =>
    if inTime (now + ms) deadline then receive room deadline (now + ms) rest
    else ⟨max now (deadline.getD now), .timedOut, .silentUntil (now + ms) :: rest⟩
  | now, .silentUntil t :: rest =>
    if inTime (max now t) deadline then receive room deadline (max now t) rest
    else ⟨max now (deadline.getD now), .timedOut, .silentUntil t :: rest⟩
  | now, .fault p :: rest => ⟨now, .fault p, rest⟩
  | now, .closed :: rest => ⟨now, .bytes [], .closed :: rest⟩

/-- how much a stream has left to deliver -/
def StreamEvent.weight : StreamEvent → Nat
  | .data b => b.length + 1
  | _ => 1

/-- how much a list of events has left to deliver -/
def streamWeight (events : List StreamEvent) : Nat := events.foldr (fun e n => e.weight + n) 0

theorem streamWeight_cons (e : StreamEvent) (events : List StreamEvent) :
    streamWeight (e :: events) = e.weight + streamWeight events := by simp [streamWeight]

theorem streamWeight_receive {room now : Nat} {deadline : Option Nat} {events : List StreamEvent}
    {b : Bytes} (h : (receive room deadline now events).delivery = .bytes b) (hb : b ≠ []) :
    streamWeight (receive room deadline now events).rest < streamWeight events := by
  fun_induction receive room deadline now events with
  | case1 => simp at h
  | case2 now c rest =>
    simp only [Delivery.bytes.injEq] at h
    subst h
    have hr : room ≠ 0 := fun h0 => hb (by simp [h0])
    have hc : c ≠ [] := fun h0 => hb (by simp [h0])
    have hl : 0 < c.length := List.length_pos_iff.2 hc
    split
    · simp [streamWeight_cons, StreamEvent.weight]
    · simp only [streamWeight_cons, StreamEvent.weight, List.length_drop]
      omega
  | case3 now ms rest _ ih =>
    have := ih h
    simp only [streamWeight_cons, StreamEvent.weight]
    omega
  | case4 => simp at h
  | case5 now t rest _ ih =>
    have := ih h
    simp only [streamWeight_cons, StreamEvent.weight]
    omega
  | case6 => simp at h
  | case7 => simp at h
  | case8 =>
    simp only [Delivery.bytes.injEq] at h
    exact absurd h.symm hb

end CalBench
