/-
Asking devices for errors.

An IEEE 488.2 device is polled for a service request and asked for its event status register. A SCPI
device is asked for one entry of its error queue after the other, until one has the code zero; a queue
that does not empty is given up after a number of entries.
-/
import CalBench.Run.Executor

namespace CalBench

namespace ErrorCheck

/-- the most entries that are read from an error queue -/
def maxEntries : Nat := 32

/-- the question for the next entry of the error queue -/
def queueQuery : String := "SYST:ERR?"

/-- the code of an entry of the error queue: what stands before its first comma -/
def code? (entry : String) : Option Int :=
  let head := Text.strip (entry.toList.takeWhile fun c => c != ',')
  Number.integerWithin? (-2147483648) 2147483647 (String.ofList (head.dropWhile fun c => c == '+'))

/-- the code of an entry, or the error of a malformed one -/
def code (entry : String) : Except LinkError Int :=
  match code? entry with
  | some n => .ok n
  | none => .error (.malformed s!"'{entry}' is not an error queue entry")

variable {Λ : Type} [Link Λ]

/-- Reads the next entry of the error queue. -/
def nextEntry (key : String) : Proc.Fallible (Client Λ) LinkError String :=
  (Pool.query key queueQuery).andThen fun s => .done (.ok (Text.trim s))

/-- Reads up to so many entries of the error queue, after those already read. -/
def drain (key : String) : Nat → List String → Proc.Fallible (Client Λ) LinkError (List String)
  | 0, entries => .done (.ok entries)
  | left + 1, entries =>
    (nextEntry key).andThen fun entry => match code entry with
      | .error err => .done (.error err)
      | .ok n => if n = 0 then .done (.ok entries) else drain key left (entries ++ [entry])

/-- Polls a device and asks for its event status register. -/
def poll (key : String) (address : Option UInt8) : Proc.Fallible (Client Λ) LinkError (List String) :=
  Executor.ifOnBus key
    (match address with
      | none => .done (.error .notConfigured)
      | some a =>
        (Pool.perform key (.serialPoll a none)).andThen fun status =>
        (Pool.perform key (.setAddress a)).andThen fun _ =>
        (Pool.perform key .eventStatus).andThen fun events =>
          let requested := status &&& StatusByte.requestingService != 0
          .done (.ok ((if requested then ["SRQ"] else []) ++ eventErrors events)))
    (.done (.error (.unsupported (Call.serialPoll 0 none).name)))

/-- Asks a device for its errors over an interface that is ours. -/
def ask (kind : ErrorCheckKind) (d : DeviceBinding) (key : String) :
    Proc.Fallible (Client Λ) LinkError (List String) :=
  match kind with
  | .gpib4882 => poll key d.address
  | .scpi => (Executor.select key d.address).andThen fun _ => drain key maxEntries []

end ErrorCheck

def Executor.checkErrors {Λ : Type} [Link Λ] (e : Executor) (unitId : String) (kind : ErrorCheckKind) :
    Proc.Fallible (Client Λ) Failure ErrorCheckReport :=
  Proc.get.bind fun s => match e.interfaceOf s.pool.contains unitId with
    | .error f => .done (.error f)
    | .ok d =>
      ((Pool.withLease d.interface (ErrorCheck.ask kind d)).mapError Failure.link).andThen fun errors =>
        .done (.ok { unitId, kind, errors })

end CalBench
