/-
Reading TOML.

A document is a sequence of lines: headers of tables, `[name]` and `[[name]]`, and settings,
`key = value`. Keys may be quoted and dotted. Lists may run over several lines and end in a comma,
inline tables may not. There is room for 79 levels of lists and inline tables and for 79 parts of a key.
`parse?` gives the document as an object, or nothing if it breaks a rule.
-/
import CalBench.Toml.Scalar
import CalBench.Toml.Tree

namespace CalBench.Toml

/-- Drops blanks within a line. -/
def skip (cs : List Char) : List Char := cs.dropWhile isBlank

/-- Drops blanks, line breaks and comments; `comment` says that one has begun. -/
def skipLines (comment : Bool) : List Char → Option (List Char)
  | '\n' :: rest => skipLines false rest
  | '\r' :: '\n' :: rest => skipLines false rest
  | c :: rest =>
    if comment then
      if isPlain c then skipLines true rest else none
    else if isBlank c then skipLines false rest
    else if c = '#' then skipLines true rest
    else some (c :: rest)
  | [] => some []

/-- Drops the rest of a line, which is blank but for a comment. -/
def endLine (comment : Bool) : List Char → Option (List Char)
  | '\n' :: rest => some rest
  | '\r' :: '\n' :: rest => some rest
  | c :: rest =>
    if comment then
      if isPlain c then endLine true rest else none
    else if isBlank c then endLine false rest
    else if c = '#' then endLine true rest
    else none
  | [] => some []

def isKeyChar (c : Char) : Bool := c.isAlphanum || c = '_' || c = '-'

/-- one part of a key, and what follows -/
def readPart? : List Char → Option (String × List Char)
  | '"' :: rest => (escapedBody rest).map fun (cs, r) => (String.ofList cs, r)
  | '\'' :: rest => (plainBody rest).map fun (cs, r) => (String.ofList cs, r)
  | cs =>
    let word := cs.takeWhile isKeyChar
    if word.isEmpty then none else some (String.ofList word, cs.drop word.length)

/-- the levels of lists and inline tables a value may have, and the parts a key may have -/
def maxDepth : Nat := 79

/-- the parts of a key, at most so many, and what follows after blanks -/
def readKey? : Nat → List Char → Option (List String × List Char)
  | 0, _ => none
  | parts + 1, cs =>
    match readPart? (skip cs) with
    | none => none
    | some (part, rest) =>
      match skip rest with
      | '.' :: rest => (readKey? parts rest).map fun (parts, r) => (part :: parts, r)
      | rest => some ([part], rest)

mutual

/-- a value and what follows, with fuel and a number of levels left -/
def readValue? : Nat → Nat → List Char → Option (Json × List Char)
  | 0, _, _ => none
  | fuel + 1, depth, cs =>
    match cs, depth with
    | '[' :: _, 0 => none
    | '\x7b' :: _, 0 => none
    | '[' :: rest, depth + 1 => (readItems? fuel depth rest).map fun (js, r) => (.arr js, r)
    | '\x7b' :: rest, depth + 1 =>
      match skip rest with
      | '\x7d' :: rest => some (.obj [], rest)
      | rest => (readMembers? fuel depth [] rest).map fun (es, r) => (.obj (members es), r)
    | c :: _, _ =>
      if c = '"' || c = '\'' then (text? cs).map fun (t, r) => (.str (String.ofList t), r) else readScalar? cs
    | [], _ => none

/-- the items of a list up to its bracket, with fuel -/
def readItems? : Nat → Nat → List Char → Option (List Json × List Char)
  | 0, _, _ => none
  | fuel + 1, depth, cs =>
    match skipLines false cs with
    | none => none
    | some (']' :: rest) => some ([], rest)
    | some cs =>
      match readValue? fuel depth cs with
      | none => none
      | some (j, rest) =>
        match skipLines false rest with
        | some (',' :: rest) => (readItems? fuel depth rest).map fun (js, r) => (j :: js, r)
        | some (']' :: rest) => some ([j], rest)
        | _ => none

/-- the settings of an inline table up to its brace, with fuel -/
def readMembers? : Nat → Nat → Entries → List Char → Option (Entries × List Char)
  | 0, _, _, _ => none
  | fuel + 1, depth, es, cs =>
    match readSetting? fuel depth cs with
    | none => none
    | some (path, key, j, rest) =>
      match es.set true path key j, skip rest with
      | some es, ',' :: rest => readMembers? fuel depth es rest
      | some es, '\x7d' :: rest => some (es, rest)
      | _, _ => none

/-- a setting: the path and the last part of its key, its value, and what follows, with fuel -/
def readSetting? : Nat → Nat → List Char → Option (List String × String × Json × List Char)
  | 0, _, _ => none
  | fuel + 1, depth, cs =>
    match readKey? maxDepth cs with
    | some (parts, '=' :: rest) =>
      match readValue? fuel depth (skip rest) with
      | some (j, rest) => some (parts.dropLast, parts.getLast?.getD "", j, rest)
      | none => none
    | _ => none

end

/-- what follows a header's brackets, and its key -/
def readHeader? (closing cs : List Char) : Option (List String × List Char) :=
  match readKey? maxDepth cs with
  | some (parts, rest) =>
    if closing.isPrefixOf rest then (endLine false (rest.drop closing.length)).map fun r => (parts, r) else none
  | none => none

/-- one line of a document, and what follows -/
def readLine? (d : Draft) (cs : List Char) : Option (Draft × List Char) :=
  match cs with
  | '[' :: '[' :: rest => do
    let (header, rest) ← readHeader? [']', ']'] rest
    return (← d.openListed header, rest)
  | '[' :: rest => do
    let (header, rest) ← readHeader? [']'] rest
    return (← d.openTable header, rest)
  | cs => do
    let (path, key, j, rest) ← readSetting? (2 * cs.length + 2) maxDepth cs
    let rest ← endLine false rest
    return (← d.set path key j, rest)

/-- the lines of a document, with fuel -/
def readLines? : Nat → Draft → List Char → Option Entries
  | 0, _, _ => none
  | fuel + 1, d, cs =>
    match skipLines false cs with
    | none => none
    | some [] => d.complete
    | some cs => (readLine? d cs).bind fun (d, rest) => readLines? fuel d rest

/-- Drops the mark that a text may begin with. -/
def dropMark : List Char → List Char
  | c :: rest => if c.toNat = 0xFEFF then rest else c :: rest
  | [] => []

def parse? (s : String) : Option Json :=
  let cs := dropMark s.toList
  (readLines? (cs.length + 1) {} cs).map fun es => .obj (members es)

end CalBench.Toml
