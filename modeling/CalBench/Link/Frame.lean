/-
Framed reads.

A response is cut out of a byte stream either at its terminator, which is dropped, or after a fixed
number of bytes. What has arrived beyond it stays in an `Inlet` for the next read. `readWithin` gives
up after a time limit: the part of a response that has arrived is dropped, and so is whatever else
arrives until the stream has been quiet for that long, so that the next read starts on a fresh
response. The wait for quiet is limited to eight times the limit.
-/
import CalBench.Link.Basic
import CalBench.Link.Stream
import CalBench.Link.Terminator

namespace CalBench

/-- the receiving end of a stream -/
structure Inlet where
  /-- bytes that have arrived and were not read -/
  pending : Bytes := []
  events : List StreamEvent := []
deriving DecidableEq, Repr, Inhabited

/-- why a frame could not be read -/
inductive FrameError
  | closed
  /-- so many bytes arrived without a terminator -/
  | tooLong (limit : Nat)
  | fault (problem : String)
deriving DecidableEq, Repr

def FrameError.message : FrameError → String
  | .closed => "link closed before a complete response arrived"
  | .tooLong limit => "response exceeds " ++ Number.natText limit ++ " bytes without a terminator"
  | .fault problem => problem

def FrameError.kindName : FrameError → String
  | .closed => "UnexpectedEof"
  | .tooLong _ => "InvalidData"
  | .fault _ => "BrokenPipe"

/-- how an attempt to read a frame ends -/
inductive FrameOutcome
  | frame (bytes : Bytes)
  | failed (e : FrameError)
  | timedOut
deriving DecidableEq, Repr

/-- the end of an attempt, when it came, and the inlet after it -/
structure FrameRead where
  time : Nat
  outcome : FrameOutcome
  inlet : Inlet
deriving DecidableEq, Repr

/-- bytes up to the first occurrence of a mark, and the bytes after it -/
def splitAtMark? (mark : Bytes) : Bytes → Option (Bytes × Bytes)
  | [] => none
  | b :: rest =>
    if mark.isPrefixOf (b :: rest) then some ([], (b :: rest).drop mark.length)
    else (splitAtMark? mark rest).map fun (before, after) => (b :: before, after)

/-- the frame at the front of the bytes that have arrived, if it is complete -/
def takeFrame? (t : Terminator) (mode : ReadMode) (pending : Bytes) : Option (Bytes × Bytes) :=
  match mode with
  | .length n => if n ≤ pending.length then some (pending.take n, pending.drop n) else none
  | .terminated =>
    if t = .none then if pending.isEmpty then none else some (pending, [])
    else splitAtMark? t.bytes pending

/-- the most bytes that are kept while a terminator is awaited -/
def maxFrame : Nat := 1048576

/-- the most bytes that are kept in a read mode -/
def ReadMode.room : ReadMode → Nat
  | .length n => max n maxFrame
  | .terminated => maxFrame

/-- the bytes that are taken from a stream at a time -/
def chunk : Nat := 512

/-- reads one frame, up to a deadline -/
def readFrame (t : Terminator) (mode : ReadMode) (deadline : Option Nat) (now : Nat) (i : Inlet) :
    FrameRead :=
  match takeFrame? t mode i.pending with
  | some (frame, pending) => ⟨now, .frame frame, { i with pending }⟩
  | none =>
    let a := receive chunk deadline now i.events
    match h : a.delivery with
    | .timedOut => ⟨a.time, .timedOut, { i with events := a.rest }⟩
    | .fault p => ⟨a.time, .failed (.fault p), { i with events := a.rest }⟩
    | .bytes b =>
      if hb : b = [] then ⟨a.time, .failed .closed, { i with events := a.rest }⟩
      else
        have := streamWeight_receive h hb
        if mode.room < (i.pending ++ b).length then
          ⟨a.time, .failed (.tooLong mode.room), ⟨[], a.rest⟩⟩
        else readFrame t mode deadline a.time ⟨i.pending ++ b, a.rest⟩
termination_by streamWeight i.events

/-- the limit of a wait for quiet, in quiet periods -/
def drainPeriods : Nat := 8

/-- drops what arrives until the stream is quiet for a period, closed, failed, or the time is over -/
def discardLate (quiet stop now : Nat) (events : List StreamEvent) : Nat × List StreamEvent :=
  if now < stop then
    let a := receive chunk (some (now + quiet)) now events
    match h : a.delivery with
    | .bytes b =>
      if hb : b = [] then (a.time, a.rest)
      else
        have := streamWeight_receive h hb
        discardLate quiet stop a.time a.rest
    | _ => (a.time, a.rest)
  else (now, events)
termination_by streamWeight events

/-- a framed read with a time limit -/
structure LimitedRead where
  time : Nat
  result : Except LinkError Bytes
  inlet : Inlet

/-- Reads one frame, or gives up after a time limit. -/
def readWithin (t : Terminator) (mode : ReadMode) (after : Duration) (now : Nat) (i : Inlet) :
    LimitedRead :=
  let r := readFrame t mode (some (now + after.ticks)) now i
  match r.outcome with
  | .frame b => ⟨r.time, .ok b, r.inlet⟩
  | .failed e => ⟨r.time, .error (.io e.message), r.inlet⟩
  | .timedOut =>
    let stop := r.time + (Duration.mk (after.nanos * drainPeriods)).ticks
    let (time, events) := discardLate after.ticks stop r.time r.inlet.events
    ⟨time, .error (.timeout .read after), ⟨[], events⟩⟩

end CalBench
