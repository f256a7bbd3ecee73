/-
End-of-string terminators.

A terminator is appended to text writes and ends text reads. Besides its bytes it has a name in
documents, a code that bus controllers know it by, and the spellings in which settings may give it.
-/
import CalBench.Instruction.Value

namespace CalBench

/-- what ends a text on a link -/
inductive Terminator
  | crLf
  | cr
  | lf
  /-- nothing; reads end by length or by the bus -/
  | none
deriving DecidableEq, Repr

namespace Terminator

instance : Inhabited Terminator := ⟨.lf⟩

def bytes : Terminator → Bytes
  | .crLf => [13, 10]
  | .cr => [13]
  | .lf => [10]
  | .none => []

/-- the code a bus controller knows it by -/
def code : Terminator → Nat
  | .crLf => 0
  | .cr => 1
  | .lf => 2
  | .none => 3

def ofCode? : Nat → Option Terminator
  | 0 => some .crLf
  | 1 => some .cr
  | 2 => some .lf
  | 3 => some .none
  | _ => Option.none

/-- data without one terminator at its end -/
def strip (t : Terminator) (data : Bytes) : Bytes :=
  if t.bytes.isSuffixOf data then data.take (data.length - t.bytes.length) else data

def name : Terminator → String
  | .crLf => "CrLf"
  | .cr => "Cr"
  | .lf => "Lf"
  | .none => "none"

def ofName? (s : String) : Option Terminator :=
  [crLf, cr, lf, Terminator.none].find? fun t => t.name == s

/-- A terminator as settings spell it: itself, or its name in any letter case. -/
def ofSpelling (s : String) : Except String Terminator :=
  if s == "\r\n" then .ok .crLf
  else if s == "\r" then .ok .cr
  else if s == "\n" then .ok .lf
  else
    let word := Text.lowerAscii (Text.trim s)
    if word == "crlf" then .ok .crLf
    else if word == "cr" then .ok .cr
    else if word == "lf" then .ok .lf
    else if word == "none" || word == "" then .ok .none
    else .error s!"Unknown terminator '{word}'"

instance : Codec Terminator := ⟨fun t => .str t.name, fun j => j.choice?.bind ofName?⟩

end Terminator

end CalBench
