/-
Texts for debugging.

`debugQuoted` writes a text so that every character of it can be seen: quotes, backslashes, control
characters and characters without a shape of their own are escaped. `debugOption` and `debugList`
write optional values and lists.
-/
import CalBench.Text.Blank
import CalBench.Text.HiddenTable

namespace CalBench.Text

def hexDigits (n : Nat) : List Char := Nat.toDigits 16 n

/-- a character inside quotes -/
def debugChar (c : Char) : List Char :=
  if c = '"' then ['\\', '"']
  else if c = '\\' then ['\\', '\\']
  else if c = '\n' then ['\\', 'n']
  else if c = '\r' then ['\\', 'r']
  else if c = '\t' then ['\\', 't']
  else if c.toNat = 0 then ['\\', '0']
  else if inRanges hiddenRanges c.toNat then ['\\', 'u', '\x7b'] ++ hexDigits c.toNat ++ ['\x7d']
  else [c]

/-- a text in quotes -/
def debugQuoted (s : String) : String := String.ofList ('"' :: s.toList.flatMap debugChar ++ ['"'])

/-- an optional value, given its text -/
def debugOption (s : Option String) : String :=
  match s with
  | some s => "Some(" ++ s ++ ")"
  | none => "None"

/-- a list, given the texts of its items -/
def debugList (items : List String) : String := "[" ++ ", ".intercalate items ++ "]"

end CalBench.Text
