/-
Comparison and change of case for the ASCII letters alone; every other character stands for itself.

`sameIgnoringCase` is how names of drivers, categories, sections and actions are compared.
-/

namespace CalBench.Text

/-- the text with its ASCII letters in lower case -/
def lowerAscii (s : String) : String := String.ofList (s.toList.map Char.toLower)

/-- two texts that differ at most in the case of ASCII letters -/
def sameIgnoringCase (a b : String) : Bool := a.toList.map Char.toLower == b.toList.map Char.toLower

def isAscii (s : String) : Bool := s.toList.all fun c => c.toNat < 0x80

end CalBench.Text
