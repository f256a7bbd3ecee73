/-
Looking things up in a library.

An instruction is found by its id alone, wherever it stands: the library's own instructions come
first, then its shared sets, then the sets of its drivers, then the standard sets; `Catalog` indexes
the first instruction of each id. `issues` lists the problems of every instruction of the library
with the place where it stands.
-/
import CalBench.Catalog.Standard

namespace CalBench

/-- the standard sets that a driver's flags imply -/
def Driver.standardSets (d : Driver) : List InstructionSet :=
  (if d.isIeee4882.getD false then [Standard.ieee4882] else []) ++
    (if d.isScpi.getD false then [Standard.scpi] else [])

/-- every instruction within reach of a library, in order of precedence -/
def Library.allInstructions (l : Library) : List Instruction :=
  l.instructions ++ l.instructionSets.flatMap InstructionSet.instructions ++
    (l.drivers.flatMap Driver.instructionSets).flatMap InstructionSet.instructions ++
    Standard.ieee4882.instructions ++ Standard.scpi.instructions

/-- a library with its index of instructions -/
structure Catalog where
  library : Library
  index : Table Instruction

namespace Catalog

/-- Adds an instruction to an index unless its id is taken. -/
def addFirst (index : Table Instruction) (i : Instruction) : Table Instruction :=
  if index.contains i.id then index else index.insert i.id i

def ofLibrary (l : Library) : Catalog := ⟨l, l.allInstructions.foldl addFirst .empty⟩

instance : Inhabited Catalog := ⟨ofLibrary {}⟩

def instruction? (c : Catalog) (id : String) : Option Instruction := c.index.get? id

def driver? (c : Catalog) (manufacturer model : String) : Option Driver :=
  c.library.drivers.find? fun d =>
    Text.sameIgnoringCase d.manufacturer manufacturer && Text.sameIgnoringCase d.model model

def driversIn (c : Catalog) (category : String) : List Driver :=
  c.library.drivers.filter fun d => d.inCategory category

/-- the shared sets that a category names, in the order of the category -/
def categorySets (c : Catalog) (category : String) : List InstructionSet :=
  match c.library.categories.find? fun k => Text.sameIgnoringCase k.name category with
  | none => []
  | some k => k.instructionSets.filterMap fun id => c.library.instructionSets.find? fun s => s.id == id

end Catalog

/-- a problem of one instruction of a library -/
structure LibraryIssue where
  location : String
  problem : String
deriving DecidableEq, Repr

def LibraryIssue.message (i : LibraryIssue) : String := s!"{i.location}: {i.problem}"

def Instruction.issuesAt (location : String) (i : Instruction) : List LibraryIssue :=
  i.problems.map fun p => ⟨location, p⟩

/-- the issues of a set whose place is named by a text in front -/
def InstructionSet.issuesUnder (place : String) (s : InstructionSet) : List LibraryIssue :=
  s.instructions.flatMap fun i => i.issuesAt s!"{place}{s.name} / {i.name}"

/-- every issue of a library, in the order of its instructions -/
def Library.issues (l : Library) : List LibraryIssue :=
  (l.instructions.flatMap fun i => i.issuesAt i.name) ++
    (l.instructionSets.flatMap fun s => s.issuesUnder "") ++
    (l.drivers.flatMap fun d => d.instructionSets.flatMap fun s =>
      s.issuesUnder s!"{d.manufacturer} {d.model} / ")

end CalBench
