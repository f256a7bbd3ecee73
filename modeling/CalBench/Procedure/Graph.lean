/-
Procedures.

A procedure is a list of nodes that are wired to each other. Sections hold actions; what an action
does is laid down by the sequence and error check nodes downstream of it. Nodes are addressed by their
position in the list, and referred to by their ids in any letter case: of two nodes with one id, the
later one is meant.

`connected` gives the nodes reachable from a node, depth first. Procedures may have cycles, so it
takes the nodes already visited, neither reports nor passes through them, and gives back all that have
been visited since.
-/
import CalBench.Measurement
import CalBench.Sequence.Operation
import CalBench.Text.Ascii

namespace CalBench

open Json

/-- the types of nodes that matter here -/
inductive NodeType
  | sectionConfiguration
  | actionStart
  | actionCompleted
  | commandSequence
  | errorCheck
deriving DecidableEq, Repr

def NodeType.name : NodeType → String
  | .sectionConfiguration => "indysoft-section-configuration"
  | .actionStart => "indysoft-action-start"
  | .actionCompleted => "indysoft-action-completed"
  | .commandSequence => "indysoft-command-sequence-builder"
  | .errorCheck => "indysoft-instrument-error-check"

/-- a deployed node; most fields matter for nodes of one type only -/
structure Node where
  id : String
  /-- name of the node's type, which may be any -/
  type : String
  name : String := ""
  /-- ids of the nodes downstream, a list for every output -/
  wires : List (List String) := []
  /-- of a section -/
  shortName : Option String := none
  sectionId : Option String := none
  /-- of a sequence -/
  operations : Option (List Operation) := none
  respondInBulk : Option Bool := none
  results : Option (List ResultSpec) := none
  /-- of an error check: the device to ask -/
  unitId : Option String := none
  checkKind : Option ErrorCheckKind := none
deriving Inhabited

namespace Node

def is (n : Node) (t : NodeType) : Bool := n.type == t.name

def sequence? (n : Node) : Option SequenceDocument :=
  n.operations.map fun ops => ⟨n.respondInBulk.getD false, ops⟩

/-- does the node do anything when its action runs -/
def isWork (n : Node) : Bool := n.is .commandSequence || n.is .errorCheck

end Node

structure Procedure where
  nodes : List Node := []
deriving Inhabited

/-- why an action was not found -/
inductive LookupError
  | noSection (name : String)
  | noAction (action sectionName : String)
  | notAnAction (position : Nat)
deriving DecidableEq, Repr

def LookupError.message : LookupError → String
  | .noSection name => s!"section '{name}' does not exist"
  | .noAction action sectionName => s!"action '{action}' does not exist in section '{sectionName}'"
  | .notAnAction position => "node " ++ Number.natText position ++ " is not an action start node"

namespace Procedure

/-- the positions of the nodes that satisfy a condition -/
def positions (p : Procedure) (condition : Node → Bool) : List Nat :=
  (List.range p.nodes.length).filter fun i => p.nodes[i]?.any condition

/-- the node at a position, a blank one outside the list -/
def node (p : Procedure) (i : Nat) : Node := p.nodes[i]?.getD default

/-- the last node with an id, in any letter case -/
def find? (p : Procedure) (id : String) : Option Nat :=
  let key := Text.upper id
  (p.positions fun n => Text.upper n.id == key).getLast?

def ofType (p : Procedure) (t : NodeType) : List Nat := p.positions fun n => n.is t

/-- the first section with a short name, in any letter case -/
def section? (p : Procedure) (shortName : String) : Option Nat :=
  (p.ofType .sectionConfiguration).find? fun i =>
    (p.node i).shortName.any fun s => Text.sameIgnoringCase s shortName

def sectionOf? (p : Procedure) (action : Nat) : Option Nat :=
  ((p.node action).sectionId.bind p.find?).filter fun i => (p.node i).is .sectionConfiguration

/-- the first action with a name in the section with a short name, both in any letter case -/
def action (p : Procedure) (sectionName action : String) : Except LookupError Nat :=
  match p.section? sectionName with
  | none => .error (.noSection sectionName)
  | some s =>
    match (p.ofType .actionStart).find? fun i =>
        Text.sameIgnoringCase (p.node i).name action && p.sectionOf? i == some s with
    | some i => .ok i
    | none => .error (.noAction action sectionName)

/-- where the wires of a node lead, output by output -/
def targets (p : Procedure) (i : Nat) : List Nat := (p.node i).wires.flatten.filterMap p.find?

theorem find?_lt {p : Procedure} {id : String} {i : Nat} (h : p.find? id = some i) :
    i < p.nodes.length := by
  have h' := List.mem_of_getLast? h
  simp only [positions, List.mem_filter, List.mem_range] at h'
  exact h'.1

/-- how many positions have not been visited -/
def unvisited (p : Procedure) (visited : List Nat) : Nat :=
  ((List.range p.nodes.length).filter fun i => !visited.contains i).length

theorem unvisited_cons_lt {p : Procedure} {visited : List Nat} {i : Nat} (h : i < p.nodes.length)
    (hv : visited.contains i = false) : p.unvisited (i :: visited) < p.unvisited visited := by
  unfold unvisited
  have : ((List.range p.nodes.length).filter fun j => !(i :: visited).contains j) =
      ((List.range p.nodes.length).filter fun j => !visited.contains j).filter fun j => j != i := by
    rw [List.filter_filter]
    congr 1
    funext j
    by_cases hj : j = i <;> simp [hj]
  rw [this]
  refine List.length_filter_lt_length_iff_exists.2 ⟨i, ?_, by simp⟩
  simp only [List.mem_filter, List.mem_range]
  refine ⟨h, ?_⟩
  rw [hv]
  rfl

/-- Visits the nodes of a stack and all that is reachable from them, depth first. Gives the nodes found
and all nodes visited. Positions outside the procedure are passed over. -/
def visit (p : Procedure) (visited : List Nat) : List Nat → List Nat × List Nat
  | [] => ([], visited)
  | i :: stack =>
    if h : i < p.nodes.length ∧ visited.contains i = false then
      have := unvisited_cons_lt h.1 h.2
      let (found, visited') := p.visit (i :: visited) (p.targets i ++ stack)
      (i :: found, visited')
    else p.visit visited stack
termination_by stack => (p.unvisited visited, stack.length)

/-- the nodes reachable from a node, which is not among them, and all nodes visited -/
def connected (p : Procedure) (start : Nat) (visited : List Nat) : List Nat × List Nat :=
  p.visit (if visited.contains start then visited else start :: visited) (p.targets start)

def downstream (p : Procedure) (start : Nat) : List Nat := (p.connected start []).1

/-- the sequence and error check nodes downstream of an action, in the order they are carried out -/
def work (p : Procedure) (action : Nat) : List Nat :=
  (p.downstream action).filter fun i => (p.node i).isWork

/-- the short name of the section an action belongs to -/
def sectionName? (p : Procedure) (action : Nat) : Option String :=
  (p.sectionOf? action).bind fun s => (p.node s).shortName

end Procedure

/-! ## Documents -/

instance : Shaped Node := ⟨.record (
  Shape.wholes ["id", "type", "name", "wires", "shortName", "sectionConfigId"] ++
  [(["operations"], shape (List Operation)), (["respondInBulk"], .whole),
   (["results"], shape (List ResultSpec))] ++
  Shape.wholes ["unitId", "checkType"])⟩

instance : Codec Node where
  encode n := record [
    field "id" n.id,
    field "type" n.type,
    field "name" n.name,
    field "wires" n.wires,
    fieldIfSome "shortName" n.shortName,
    fieldIfSome "sectionConfigId" n.sectionId,
    fieldIfSome "operations" n.operations,
    fieldIfSome "respondInBulk" n.respondInBulk,
    fieldIfSome "results" n.results,
    fieldIfSome "unitId" n.unitId,
    fieldIfSome "checkType" n.checkKind]
  decode j := do
    let m ← members? (shape Node).names j
    return {
      id := ← m.required ["id"]
      type := ← m.required ["type"]
      name := ← m.defaulted ["name"] ""
      wires := ← m.defaulted ["wires"] []
      shortName := ← m.optional ["shortName"]
      sectionId := ← m.optional ["sectionConfigId"]
      operations := ← m.optional ["operations"]
      respondInBulk := ← m.optional ["respondInBulk"]
      results := ← m.optional ["results"]
      unitId := ← m.optional ["unitId"]
      checkKind := ← m.optional ["checkType"] }

/-- a procedure is deployed as the list of its nodes -/
instance : Shaped Procedure := ⟨shape (List Node)⟩

instance : Codec Procedure := ⟨fun p => Codec.encode p.nodes, fun j => (Codec.decode j).map Procedure.mk⟩

end CalBench
