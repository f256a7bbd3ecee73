/-
Settings from the environment.

A variable `CALSEQ_SECTION__KEY` sets `key` in `section`; the letter case of its name does not matter.
Its text is read as a truth value, a number, a quoted text, a list in brackets or a table in braces, and
taken as it is if it is none of these. What begins with `true` or `false` is a truth value and nothing
else. `merge` lays one document over another: tables are merged, anything else is replaced.
-/
import CalBench.Json.Record
import CalBench.Text.Ascii
import CalBench.Toml.Scalar

namespace CalBench.Environment

/-! ## Overlays -/

def setMember (name : String) (j : Json) : List (String × Json) → List (String × Json)
  | [] => [(name, j)]
  | m :: rest => if m.1 == name then (name, j) :: rest else m :: setMember name j rest

/-- the value of a member, null if there is none -/
def memberOrNull (name : String) (members : List (String × Json)) : Json :=
  ((members.find? fun m => m.1 == name).map Prod.snd).getD .null

/-- the members of a table, none for anything else -/
def tableMembers : Json → List (String × Json)
  | .obj members => members
  | _ => []

mutual

/-- a document with another laid over it -/
def merge (base : Json) : Json → Json
  | .obj added => .obj (mergeMembers (tableMembers base) added)
  | .null => .null
  | .bool b => .bool b
  | .int n => .int n
  | .float x h => .float x h
  | .str s => .str s
  | .arr items => .arr items

def mergeMembers (base : List (String × Json)) : List (String × Json) → List (String × Json)
  | [] => base
  | (name, j) :: added => mergeMembers (setMember name (merge (memberOrNull name base) j) base) added

end

/-! ## Texts of variables -/

/-- a character that ends a text without quotes -/
def isSeparator (c : Char) : Bool := [',', '[', ']', '\x7b', '\x7d'].contains c

/-- a blank between parts -/
def isGap (c : Char) : Bool := [' ', '\t', '\n', '\r', '\x0c'].contains c

/-- Drops blanks between parts. -/
def skip (cs : List Char) : List Char := cs.dropWhile isGap

/-- what a text without quotes stands for -/
def plain (s : String) : Json :=
  match (if s.toList.contains '.' then Number.float? s else none),
      Number.integerWithin? (-(Nat.pow 2 63 : Int)) ((Nat.pow 2 64 : Int) - 1) s with
  | some x, _ => Toml.fraction x
  | none, some n => .int n
  | none, none => .str s

/-- the leading characters that take up at most so many bytes -/
def leadingBytes : Nat → List Char → List Char
  | n, c :: rest => if c.utf8Size ≤ n then c :: leadingBytes (n - c.utf8Size) rest else []
  | _, [] => []

/-- A text after its opening quote, and what follows its closing one. Where there are escapes, what stands
before the first of them counts only up to as many bytes as it has characters. -/
def quoted? (cs : List Char) : Option (String × List Char) :=
  let before := cs.takeWhile fun c => c != '\\' && c != '"'
  (Toml.escapedBody cs).map fun (body, rest) =>
    let kept := if (cs.drop before.length).head? = some '\\' then leadingBytes before.length before else before
    (String.ofList (kept ++ body.drop before.length), rest)

/-- the name of a member in a table between blanks, and what follows -/
def readName? (cs : List Char) : Option (String × List Char) :=
  let name : Option (String × List Char) := match skip cs with
    | '"' :: rest => quoted? rest
    | cs =>
      let word := cs.takeWhile fun c => c.isAlphanum || c = '_' || c = '-'
      if word.isEmpty then none else some (String.ofList word, cs.drop word.length)
  name.map fun (name, rest) => (name, skip rest)

mutual

/-- a value between blanks and what follows, with fuel -/
def readValue? : Nat → List Char → Option (Json × List Char)
  | 0, _ => none
  | fuel + 1, cs =>
    match skip cs with
    | 't' :: 'r' :: 'u' :: 'e' :: rest => some (.bool true, skip rest)
    | 'f' :: 'a' :: 'l' :: 's' :: 'e' :: rest => some (.bool false, skip rest)
    | '"' :: rest => (quoted? rest).map fun (s, r) => (.str s, skip r)
    | '\'' :: c :: '\'' :: rest => some (.str (String.singleton c), skip rest)
    | '\'' :: _ => none
    | '[' :: rest => (readItems? fuel rest).map fun (js, r) => (.arr js, skip r)
    | '\x7b' :: rest => (readMembers? fuel rest).map fun (ms, r) => (.obj ms, skip r)
    | cs =>
      let word := cs.takeWhile fun c => !isSeparator c
      some (plain (Text.trim (String.ofList word)), cs.drop word.length)

/-- The items of a list up to its bracket, with fuel. Only an item may begin with blanks. -/
def readItems? : Nat → List Char → Option (List Json × List Char)
  | 0, _ => none
  | fuel + 1, cs =>
    match cs with
    | ']' :: rest => some ([], rest)
    | cs =>
      match readValue? fuel cs with
      | some (j, ',' :: rest) => (readItems? fuel rest).map fun (js, r) => (j :: js, r)
      | some (j, ']' :: rest) => some ([j], rest)
      | _ => none

/-- The members of a table up to its brace, with fuel. Only a member may begin with blanks. -/
def readMembers? : Nat → List Char → Option (List (String × Json) × List Char)
  | 0, _ => none
  | fuel + 1, cs =>
    match cs with
    | '\x7d' :: rest => some ([], rest)
    | cs =>
      match readName? cs with
      | some (name, '=' :: rest) =>
        match readValue? fuel rest with
        | some (j, ',' :: rest) => (readMembers? fuel rest).map fun (ms, r) => ((name, j) :: ms, r)
        | some (j, '\x7d' :: rest) => some ([(name, j)], rest)
        | _ => none
      | _ => none

end

/-- what the text of a variable stands for -/
def value (s : String) : Json :=
  match readValue? (2 * s.length + 2) s.toList with
  | some (j, []) => j.canonical
  | _ => .str s

/-! ## Names of variables -/

/-- what the names of all variables for this program begin with -/
def mark : List Char := "calseq_".toList

/-- the parts of a name between double underscores or points -/
def parts : List Char → List (List Char)
  | '_' :: '_' :: rest => [] :: parts rest
  | '.' :: rest => [] :: parts rest
  | c :: rest =>
    match parts rest with
    | part :: more => (c :: part) :: more
    | [] => [[c]]
  | [] => [[]]

/-- the path of the setting that a variable sets, if it is one of ours -/
def path? (name : String) : Option (List String) :=
  let key := (Text.lowerAscii (Text.trim name)).toList
  if mark.isPrefixOf key then
    let path := parts (Text.strip (key.drop mark.length))
    if path.any List.isEmpty then none else some (path.map String.ofList)
  else none

/-- the document of one setting -/
def nest (j : Json) : List String → Json
  | [] => j
  | key :: path => .obj [(key, nest j path)]

/-- the settings of the environment, later ones laid over earlier ones -/
def document (settings : List (String × String)) : Json :=
  settings.foldl (fun j (name, text) => match path? name with
    | some path => merge j (nest (value text) path)
    | none => j) (.obj [])

end CalBench.Environment
