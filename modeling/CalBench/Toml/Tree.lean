/-
The tables of a TOML document while it is read.

A table may be opened by a header, by the header of a table below it, or by a dotted key. Each key is
set once, and each table is opened by a header once: a header may come after headers of tables below
it, but not after a dotted key has opened its table, and a dotted key does not reach into tables that
a header has opened. Values, inline tables among them, are closed.
-/
import CalBench.Json.Basic

namespace CalBench.Toml

/-- what is under a key -/
inductive Node where
  | value (j : Json)
  /-- a table: not opened by its own header, opened by a dotted key -/
  | table (implicit dotted : Bool) (entries : List (String × Node))
  | tables (items : List (List (String × Node)))

abbrev Entries := List (String × Node)

namespace Entries

def get? (es : Entries) (key : String) : Option Node := (es.find? fun e => e.1 == key).map Prod.snd

def put (es : Entries) (key : String) (n : Node) : Entries :=
  if (es.get? key).isSome then es.map fun e => if e.1 == key then (key, n) else e else es ++ [(key, n)]

/-- Sets a dotted key below a table. Only a table that dotted keys have opened takes it, unless the key
has no dots. -/
def set (es : Entries) (top : Bool) (path : List String) (key : String) (j : Json) : Option Entries :=
  match path with
  | [] => if top && (es.get? key).isNone then some (es.put key (.value j)) else none
  | k :: path =>
    match es.get? k with
    | none => (set [] true path key j).map fun sub => es.put k (.table true true sub)
    | some (.table true dotted sub) => (set sub dotted path key j).map fun sub => es.put k (.table true dotted sub)
    | some (.tables items) =>
      (set (items.getLast?.getD []) false path key j).map fun sub => es.put k (.tables (items.dropLast ++ [sub]))
    | _ => none

/-- Changes the table at a path of headers, which opens what is missing on the way. -/
def modifyAt (es : Entries) (path : List String) (f : Entries → Option Entries) : Option Entries :=
  match path with
  | [] => f es
  | k :: path =>
    match es.get? k with
    | none => (modifyAt [] path f).map fun sub => es.put k (.table true false sub)
    | some (.table i d sub) => (modifyAt sub path f).map fun sub => es.put k (.table i d sub)
    | some (.tables items) =>
      (modifyAt (items.getLast?.getD []) path f).map fun sub => es.put k (.tables (items.dropLast ++ [sub]))
    | some (.value _) => none

/-- what a table that a header opens already holds, if it may be opened -/
def reopen (es : Entries) : List String → Option Entries
  | [] => none
  | [k] =>
    match es.get? k with
    | none => some []
    | some (.table true false sub) => some sub
    | _ => none
  | k :: path =>
    match es.get? k with
    | none => some []
    | some (.table _ _ sub) => reopen sub path
    | some (.tables items) => reopen (items.getLast?.getD []) path
    | some (.value _) => none

/-- Adds a table to the list of tables under a key. -/
def push (es : Entries) (key : String) (sub : Entries) : Option Entries :=
  match es.get? key with
  | none => some (es.put key (.tables [sub]))
  | some (.tables items) => some (es.put key (.tables (items ++ [sub])))
  | _ => none

end Entries

mutual

def Node.document : Node → Json
  | .value j => j
  | .table _ _ es => .obj (members es)
  | .tables items => .arr (documents items)

def members : List (String × Node) → List (String × Json)
  | [] => []
  | (k, n) :: rest => (k, n.document) :: members rest

def documents : List (List (String × Node)) → List Json
  | [] => []
  | es :: rest => .obj (members es) :: documents rest

end

/-- a document being read: the tables that are complete, and the one that is open -/
structure Draft where
  root : Entries := []
  header : List String := []
  /-- the open table is one of a list -/
  listed : Bool := false
  current : Entries := []

namespace Draft

/-- the tables with the open one completed -/
def complete (d : Draft) : Option Entries :=
  match d.header.getLast? with
  | none => some d.current
  | some key => d.root.modifyAt d.header.dropLast fun es =>
    if d.listed then es.push key d.current else some (es.put key (.table false false d.current))

/-- Opens the table of a header. -/
def openTable (d : Draft) (header : List String) : Option Draft :=
  d.complete.bind fun root => (root.reopen header).map fun current => { root, header, current }

/-- Opens the next table of the list of a header. -/
def openListed (d : Draft) (header : List String) : Option Draft :=
  d.complete.map fun root => { root, header, listed := true }

/-- Sets a key of the open table. -/
def set (d : Draft) (path : List String) (key : String) (j : Json) : Option Draft :=
  (d.current.set true path key j).map fun current => { d with current }

end Draft

end CalBench.Toml
