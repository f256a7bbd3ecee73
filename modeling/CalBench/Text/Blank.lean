/-
White space, as the Unicode property White_Space has it: 25 characters in ten ranges.

Replies, identifiers and numbers are compared and read after their surrounding white space is
dropped, and a field of white space alone counts as absent. `strip` works on characters, `trim` on
texts; `isBlankText` says that nothing is left after trimming.
-/

namespace CalBench.Text

/-- closed ranges of code points, ascending and apart -/
def blankRanges : List (Nat × Nat) :=
  [(0x09, 0x0D), (0x20, 0x20), (0x85, 0x85), (0xA0, 0xA0), (0x1680, 0x1680), (0x2000, 0x200A),
   (0x2028, 0x2029), (0x202F, 0x202F), (0x205F, 0x205F), (0x3000, 0x3000)]

def inRanges (ranges : List (Nat × Nat)) (n : Nat) : Bool :=
  ranges.any fun r => r.1 ≤ n && n ≤ r.2

def isBlank (c : Char) : Bool := inRanges blankRanges c.toNat

/-- the characters without the white space at either end -/
def strip (cs : List Char) : List Char :=
  ((cs.dropWhile isBlank).reverse.dropWhile isBlank).reverse

/-- the text without the white space at either end -/
def trim (s : String) : String := String.ofList (strip s.toList)

/-- the text holds nothing but white space -/
def isBlankText (s : String) : Bool := s.toList.all isBlank

end CalBench.Text
