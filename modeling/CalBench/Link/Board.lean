/-
Bus controller boards.

A board in the machine itself, driven through an instrument library. What the library does is left to
a type of drivers; `NoDriver` stands for a build without the library, in which nothing can be opened.
-/
import CalBench.Link.Call
import CalBench.Link.Settings

namespace CalBench

/-- a type of drivers for boards; devices are chosen by their address -/
class BoardDriver (δ : Type) where
  isOpen : δ → Bool
  load : δ → δ × Except LinkError Unit
  unload : δ → δ
  write : UInt8 → Bytes → δ → δ × Except LinkError Unit
  /-- Reads a response as it comes, with its terminator. -/
  read : UInt8 → ReadMode → δ → δ × Except LinkError Bytes
  clear : UInt8 → δ → δ × Except LinkError Unit
  poll : UInt8 → δ → δ × Except LinkError UInt8

/-- no driver at all -/
inductive NoDriver
  | absent

/-- the component a build without a driver lacks -/
def NoDriver.missing : LinkError := .featureMissing "instrument_visa"

instance : BoardDriver NoDriver where
  isOpen _ := false
  load d := (d, .error NoDriver.missing)
  unload d := d
  write _ _ d := (d, .error NoDriver.missing)
  read _ _ d := (d, .error NoDriver.missing)
  clear _ d := (d, .error .notConnected)
  poll _ d := (d, .error .notConnected)

/-- a bus controller board -/
structure Board (δ : Type) where
  name : String
  board : UInt8
  driver : δ
  /-- address of the device that is talked to -/
  address : UInt8 := 1
  terminator : Terminator := .lf
  timeouts : Timeouts := {}
  endOfInstruction : Bool := true

namespace Board

variable {δ : Type} [BoardDriver δ]

/-- the name of a device at an address, as the library knows it -/
def resourceString (d : Board δ) (address : UInt8) : String :=
  "GPIB" ++ Number.natText d.board.toNat ++ "::" ++ Number.natText address.toNat ++ "::INSTR"

/-- Lets the driver do something at the address of the device that is talked to. -/
def drive {α : Type} (f : UInt8 → δ → δ × Except LinkError α) : Attempt (Board δ) α := do
  let d ← Attempt.get
  let (driver, result) := f d.address d.driver
  Attempt.update fun d => { d with driver }
  Attempt.ofExcept result

def connect : Attempt (Board δ) Unit := do
  if BoardDriver.isOpen (← Attempt.get).driver then return
  drive fun _ driver => BoardDriver.load driver

def writeBytes (data : Bytes) : Attempt (Board δ) Unit := drive fun a => BoardDriver.write a data

/-- Sends a text and the terminator to the device. -/
def writeString (s : String) : Attempt (Board δ) Unit := do
  let d ← Attempt.get
  writeBytes (Text.utf8 s ++ d.terminator.bytes)

def read (mode : ReadMode) : Attempt (Board δ) Bytes := do
  let d ← Attempt.get
  let data ← drive fun a => BoardDriver.read a mode
  match mode with
  | .length _ => return data
  | .terminated => return d.terminator.strip data

/-- Sends the trigger command to one device after the other. -/
def triggerEach : List UInt8 → Attempt (Board δ) Unit
  | [] => pure ()
  | a :: rest => do
    Attempt.update fun d => { d with address := a }
    writeString "*TRG"
    triggerEach rest

/-- Lets the driver do something at an address, which is talked to from then on. A build without a driver leaves the
address as it is; nobody can tell, since nothing can be done at any address there. -/
def selectAndDrive {α : Type} (a : UInt8) (f : UInt8 → δ → δ × Except LinkError α) : Attempt (Board δ) α := do
  Attempt.update fun d => { d with address := a }
  drive f

def call : (c : Call) → Attempt (Board δ) c.Answer
  | .connect => connect
  | .disconnect => Attempt.update fun d => { d with driver := BoardDriver.unload d.driver }
  | .setTerminator t => Attempt.update fun d => { d with terminator := t }
  | .writeBytes data => writeBytes data
  | .writeString s => writeString s
  | .read mode => read mode
  | .setAddress a => Attempt.update fun d => { d with address := a }
  | .clearDevice (some a) => selectAndDrive a BoardDriver.clear
  | .clearDevice none => drive BoardDriver.clear
  | .endOfInstruction => do return (← Attempt.get).endOfInstruction
  | .setEndOfInstruction enabled => Attempt.update fun d => { d with endOfInstruction := enabled }
  | .serialPoll primary _ => selectAndDrive primary BoardDriver.poll
  | .statusByte => drive BoardDriver.poll
  | .trigger addresses => do
    let previous := (← Attempt.get).address
    triggerEach addresses
    Attempt.update fun d => { d with address := previous }
  | c => Attempt.standard writeString (read .terminated) c

instance : Link (Board δ) where
  name d := d.name
  kind _ := .board
  resource d := "gpib:" ++ Number.natText d.board.toNat
  isGpib _ := true
  timeouts d := d.timeouts
  terminator d := d.terminator
  connected d := BoardDriver.isOpen d.driver
  configure t d :=
    if BoardDriver.isOpen d.driver then .error .alreadyConnected else .ok { d with timeouts := t }
  call := call

end Board

end CalBench
