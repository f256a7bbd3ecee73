/-
Full change of letter case.

`upper` and `lower` map every letter by the table, some to more than one character. A capital sigma
that ends a word becomes the final small sigma: some cased letter stands before it and none after
it, case-ignorable characters between them not counting.
-/
import CalBench.Text.Blank
import CalBench.Text.CaseTable

namespace CalBench.Text

/-- the delta of the first row that covers a code point -/
def rowDelta (rows : List (Nat × Nat × Nat × Int)) (n : Nat) : Option Int :=
  (rows.find? fun (first, last, step, _) => first ≤ n && n ≤ last && (n - first) % step == 0).map
    fun (_, _, _, delta) => delta

/-- a letter mapped by a table of rows and, failing that, by a table of long forms -/
def mapCase (rows : List (Nat × Nat × Nat × Int)) (long : List (Nat × List Nat)) (c : Char) :
    List Char :=
  match rowDelta rows c.toNat with
  | some delta => [Char.ofNat (c.toNat + delta).toNat]
  | none => match long.find? fun r => r.1 == c.toNat with
    | some (_, cs) => cs.map Char.ofNat
    | none => [c]

/-- the upper case form of one character -/
def upperChar : Char → List Char := mapCase upperRows upperLong

/-- the lower case form of one character that is no sigma -/
def lowerChar : Char → List Char := mapCase lowerRows lowerLong

/-- the first character that is not case-ignorable has case -/
def startsCased (cs : List Char) : Bool :=
  match cs.dropWhile fun c => inRanges caseIgnorable c.toNat with
  | c :: _ => inRanges cased c.toNat
  | [] => false

/-- lower case of the characters that follow those already read, kept in reverse -/
def lowerFrom : List Char → List Char → List Char
  | _, [] => []
  | before, c :: rest =>
    let mapped :=
      if c = 'Σ' then
        if startsCased before && !startsCased rest then ['ς'] else ['σ']
      else lowerChar c
    mapped ++ lowerFrom (c :: before) rest

def upper (s : String) : String := String.ofList (s.toList.flatMap upperChar)

def lower (s : String) : String := String.ofList (lowerFrom [] s.toList)

end CalBench.Text
