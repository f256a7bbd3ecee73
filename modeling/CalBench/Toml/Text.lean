/-
Texts in TOML.

A text stands between double quotes, where escapes count, or between single quotes, where they do not.
Three quotes open a text that may run over several lines; a line break right after them is dropped, and
in an escaped text so is one after a backslash, with all blanks and line breaks that follow. Up to two
quotes may stand right before the closing ones.
-/
import CalBench.Json.Reader

namespace CalBench.Toml

/-- Control characters other than the tab do not stand in texts and comments. -/
def isPlain (c : Char) : Bool := c = '\t' || (32 ≤ c.toNat && c.toNat ≠ 127)

/-- a blank within a line -/
def isBlank (c : Char) : Bool := c = ' ' || c = '\t'

def hexNumber? (digits : List Char) : Option Nat :=
  digits.foldlM (fun n c => (Json.hexValue? c).map fun d => n * 16 + d) 0

/-- the character with a number, if there is one -/
def charOf? (n : Nat) : Option Char :=
  if n < 0xD800 || (0xDFFF < n && n < 0x110000) then some (Char.ofNat n) else none

/-- the character an escape letter stands for -/
def escape? : Char → Option Char
  | 'b' => some (Char.ofNat 8)
  | 't' => some '\t'
  | 'n' => some '\n'
  | 'f' => some (Char.ofNat 12)
  | 'r' => some '\r'
  | '"' => some '"'
  | '\\' => some '\\'
  | _ => none

/-- a text that was read, and what follows -/
abbrev Scan := Option (List Char × List Char)

/-- Puts a character in front of what was read. -/
def Scan.cons (c : Char) (s : Scan) : Scan := s.map fun (cs, rest) => (c :: cs, rest)

/-- an escaped text on one line, up to its closing quote -/
def escapedBody : List Char → Scan
  | '"' :: rest => some ([], rest)
  | '\\' :: 'u' :: a :: b :: c :: d :: rest =>
    match (hexNumber? [a, b, c, d]).bind charOf? with
    | some x => Scan.cons x (escapedBody rest)
    | none => none
  | '\\' :: 'U' :: a :: b :: c :: d :: e :: f :: g :: h :: rest =>
    match (hexNumber? [a, b, c, d, e, f, g, h]).bind charOf? with
    | some x => Scan.cons x (escapedBody rest)
    | none => none
  | '\\' :: c :: rest =>
    match escape? c with
    | some x => Scan.cons x (escapedBody rest)
    | none => none
  | c :: rest => if isPlain c && c ≠ '\\' then Scan.cons c (escapedBody rest) else none
  | [] => none

/-- a plain text on one line, up to its closing quote -/
def plainBody : List Char → Scan
  | '\'' :: rest => some ([], rest)
  | c :: rest => if isPlain c then Scan.cons c (plainBody rest) else none
  | [] => none

/-- Nothing but blanks comes before the end of the line. -/
def lineEnds (cs : List Char) : Bool :=
  match cs.dropWhile isBlank with
  | '\n' :: _ => true
  | '\r' :: '\n' :: _ => true
  | _ => false

/-- An escaped text over several lines, up to its closing quotes. After a backslash at the end of a line
`folding` is set: blanks and line breaks are dropped. -/
def escapedLines (folding : Bool) : List Char → Scan
  | '"' :: '"' :: '"' :: '"' :: '"' :: rest => some (['"', '"'], rest)
  | '"' :: '"' :: '"' :: '"' :: rest => some (['"'], rest)
  | '"' :: '"' :: '"' :: rest => some ([], rest)
  | '\\' :: 'u' :: a :: b :: c :: d :: rest =>
    match (hexNumber? [a, b, c, d]).bind charOf? with
    | some x => Scan.cons x (escapedLines false rest)
    | none => none
  | '\\' :: 'U' :: a :: b :: c :: d :: e :: f :: g :: h :: rest =>
    match (hexNumber? [a, b, c, d, e, f, g, h]).bind charOf? with
    | some x => Scan.cons x (escapedLines false rest)
    | none => none
  | '\\' :: c :: rest =>
    if lineEnds (c :: rest) then escapedLines true (c :: rest)
    else match escape? c with
      | some x => Scan.cons x (escapedLines false rest)
      | none => none
  | '\r' :: '\n' :: rest =>
    if folding then escapedLines true rest else Scan.cons '\n' (escapedLines false rest)
  | c :: rest =>
    if folding && (isBlank c || c = '\n') then escapedLines true rest
    else if c = '\n' || (isPlain c && c ≠ '\\') then Scan.cons c (escapedLines false rest)
    else none
  | [] => none

/-- a plain text over several lines, up to its closing quotes -/
def plainLines : List Char → Scan
  | '\'' :: '\'' :: '\'' :: '\'' :: '\'' :: rest => some (['\'', '\''], rest)
  | '\'' :: '\'' :: '\'' :: '\'' :: rest => some (['\''], rest)
  | '\'' :: '\'' :: '\'' :: rest => some ([], rest)
  | '\r' :: '\n' :: rest => Scan.cons '\n' (plainLines rest)
  | c :: rest => if c = '\n' || isPlain c then Scan.cons c (plainLines rest) else none
  | [] => none

/-- Drops one line break. -/
def dropLineBreak : List Char → List Char
  | '\n' :: rest => rest
  | '\r' :: '\n' :: rest => rest
  | cs => cs

/-- a text with its quotes -/
def text? : List Char → Scan
  | '"' :: '"' :: '"' :: rest => escapedLines false (dropLineBreak rest)
  | '\'' :: '\'' :: '\'' :: rest => plainLines (dropLineBreak rest)
  | '"' :: rest => escapedBody rest
  | '\'' :: rest => plainBody rest
  | _ => none

end CalBench.Toml
