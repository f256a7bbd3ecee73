/-
Writing documents.

`compact` writes a value on one line without blanks. `pretty` puts every item and member on a line of
its own, indented by two blanks per level; empty lists and objects stay on one line. Members keep
their order. Texts are quoted: the quote, the backslash and control characters are escaped, every
other character stands for itself.
-/
import CalBench.Json.Basic
import CalBench.Number.Layout

namespace CalBench.Json

/-- one hexadecimal digit, in lower case -/
def hexDigit (n : Nat) : Char := Nat.digitChar n

/-- a character inside quotes -/
def quoteChar (c : Char) : List Char :=
  if c = '"' then ['\\', '"']
  else if c = '\\' then ['\\', '\\']
  else if c = '\n' then ['\\', 'n']
  else if c = '\r' then ['\\', 'r']
  else if c = '\t' then ['\\', 't']
  else if c.toNat = 8 then ['\\', 'b']
  else if c.toNat = 12 then ['\\', 'f']
  else if c.toNat < 32 then ['\\', 'u', '0', '0', hexDigit (c.toNat / 16), hexDigit (c.toNat % 16)]
  else [c]

def quote (s : String) : List Char := '"' :: s.toList.flatMap quoteChar ++ ['"']

/-- a number, a text, a boolean or null -/
def atom : Json → List Char
  | .null => "null".toList
  | .bool true => "true".toList
  | .bool false => "false".toList
  | .int n => (Number.intText n).toList
  | .float x _ => (Number.documentLayout.write x).toList
  | .str s => quote s
  | .arr _ => []
  | .obj _ => []

mutual

/-- the value on one line -/
def compactChars : Json → List Char
  | .arr items => '[' :: compactItems items
  | .obj members => '{' :: compactMembers members
  | .null => atom .null
  | .bool b => atom (.bool b)
  | .int n => atom (.int n)
  | .float x h => atom (.float x h)
  | .str s => atom (.str s)

/-- items up to the closing bracket -/
def compactItems : List Json → List Char
  | [] => [']']
  | [j] => compactChars j ++ [']']
  | j :: rest => compactChars j ++ ',' :: compactItems rest

/-- members up to the closing brace -/
def compactMembers : List (String × Json) → List Char
  | [] => ['}']
  | [(name, j)] => quote name ++ ':' :: compactChars j ++ ['}']
  | (name, j) :: rest => quote name ++ ':' :: compactChars j ++ ',' :: compactMembers rest

end

def compact (j : Json) : String := String.ofList (compactChars j)

/-- a new line at an indentation level -/
def newLine (level : Nat) : List Char := '\n' :: List.replicate (2 * level) ' '

mutual

/-- the value over several lines, itself at an indentation level -/
def prettyChars (level : Nat) : Json → List Char
  | .arr [] => ['[', ']']
  | .arr (j :: rest) =>
    '[' :: newLine (level + 1) ++ prettyChars (level + 1) j ++ prettyItems level rest
  | .obj [] => ['{', '}']
  | .obj ((name, j) :: rest) =>
    '{' :: newLine (level + 1) ++ quote name ++ ':' :: ' ' :: prettyChars (level + 1) j ++
      prettyMembers level rest
  | .null => atom .null
  | .bool b => atom (.bool b)
  | .int n => atom (.int n)
  | .float x h => atom (.float x h)
  | .str s => atom (.str s)

/-- the items after the first, up to the closing bracket -/
def prettyItems (level : Nat) : List Json → List Char
  | [] => newLine level ++ [']']
  | j :: rest => ',' :: newLine (level + 1) ++ prettyChars (level + 1) j ++ prettyItems level rest

/-- the members after the first, up to the closing brace -/
def prettyMembers (level : Nat) : List (String × Json) → List Char
  | [] => newLine level ++ ['}']
  | (name, j) :: rest =>
    ',' :: newLine (level + 1) ++ quote name ++ ':' :: ' ' :: prettyChars (level + 1) j ++
      prettyMembers level rest

end

def pretty (j : Json) : String := String.ofList (prettyChars 0 j)

end CalBench.Json
