/-
The traversal of a procedure is the recursive depth-first search.

The traversal works off a stack: it puts the targets of a node in front of all that is still to be visited, and looks
only when it takes a node off whether it has been visited. The search has no stack. It goes through what a node names,
output by output, skips what has been visited, and otherwise marks the node, reports it and goes through the outputs of
that node before it comes to the next one. What has been visited is handed from each call to the next.

Where the search is inside many calls, the traversal has one stack, on which a node may stand although a node above it
has led there first. So the two are compared on a stack with anything below the targets that are searched
(`visit_append`): what lies below is worked off after them, with what they have marked.

Results:
- `visit_append`: the targets on top of a stack are searched, and then the rest of the stack is worked off;
- `connected_is_preorder`: the nodes found are the preorder of the recursive search, one by one, and the nodes visited
  at the end are those the search has visited.
-/
import CalBench.Proofs.Procedure.Traversal

namespace CalBench

namespace Procedure

/-! ## The recursive search -/

/-- what a search has reported, in order, and all that has been visited by then; nothing visited is forgotten -/
structure Searched (p : Procedure) (visited : List Nat) where
  reported : List Nat
  marked : List Nat
  grown : p.unvisited marked ≤ p.unvisited visited

/-- Goes through ids, output by output. One that no node has, or a visited one, is skipped. Another one is marked and
reported, and the outputs of its node are gone through before the next id. -/
def search (p : Procedure) (visited : List Nat) : (outputs : List (List String)) → p.Searched visited
  | [] => ⟨[], visited, Nat.le_refl _⟩
  | [] :: outputs => p.search visited outputs
  | (id :: ids) :: outputs =>
    match hid : p.find? id with
    | none => p.search visited (ids :: outputs)
    | some i =>
      if hv : visited.contains i = true then p.search visited (ids :: outputs)
      else
        have hless := unvisited_cons_lt (find?_lt hid) (Bool.eq_false_iff.2 hv)
        let inner := p.search (i :: visited) (p.node i).wires
        let later := p.search inner.marked (ids :: outputs)
        ⟨i :: inner.reported ++ later.reported, later.marked,
          Nat.le_trans later.grown (Nat.le_trans inner.grown (Nat.le_of_lt hless))⟩
termination_by outputs => (p.unvisited visited, outputs.length + outputs.flatten.length)
decreasing_by
  · exact Prod.Lex.right _ (Nat.add_lt_add_right (Nat.lt_succ_self outputs.length) _)
  · exact Prod.Lex.right _ (Nat.add_lt_add_left (Nat.lt_succ_self (ids :: outputs).flatten.length) _)
  · exact Prod.Lex.right _ (Nat.add_lt_add_left (Nat.lt_succ_self (ids :: outputs).flatten.length) _)
  · exact Prod.Lex.left _ _ hless
  · exact Prod.Lex.left _ _ (Nat.lt_of_le_of_lt (Searched.grown _) hless)

/-- the search from a node: the node is marked and not reported, and its outputs are gone through -/
def preorder (p : Procedure) (start : Nat) (visited : List Nat) : List Nat × List Nat :=
  let s := p.search (if visited.contains start then visited else start :: visited) (p.node start).wires
  (s.reported, s.marked)

section

variable {p : Procedure} {visited : List Nat} {id : String} {i : Nat}

/-- an id that no node has is skipped -/
theorem search_unknown (hid : p.find? id = none) (ids : List String) (outputs : List (List String)) :
    p.search visited ((id :: ids) :: outputs) = p.search visited (ids :: outputs) := by
  rw [search]
  split
  · rfl
  · next i hi => cases hid.symm.trans hi

/-- a visited node is skipped -/
theorem search_visited (hid : p.find? id = some i) (hv : visited.contains i = true) (ids : List String)
    (outputs : List (List String)) :
    p.search visited ((id :: ids) :: outputs) = p.search visited (ids :: outputs) := by
  rw [search]
  split
  · next hnone => cases hid.symm.trans hnone
  · next j hj =>
    cases hid.symm.trans hj
    rw [dif_pos hv]

/-- another node is marked and reported, then its outputs are searched, then what comes after it -/
theorem search_fresh (hid : p.find? id = some i) (hv : ¬ visited.contains i = true) (ids : List String)
    (outputs : List (List String)) :
    let inner := p.search (i :: visited) (p.node i).wires
    let later := p.search inner.marked (ids :: outputs)
    (p.search visited ((id :: ids) :: outputs)).reported = i :: inner.reported ++ later.reported ∧
      (p.search visited ((id :: ids) :: outputs)).marked = later.marked := by
  intro inner later
  rw [search]
  split
  · next hnone => cases hid.symm.trans hnone
  · next j hj =>
    cases hid.symm.trans hj
    rw [dif_neg hv]
    exact ⟨rfl, rfl⟩

/-! ## The stack -/

def leads (p : Procedure) (outputs : List (List String)) : List Nat := outputs.flatten.filterMap p.find?

theorem leads_unknown (hid : p.find? id = none) (ids : List String) (outputs : List (List String)) :
    p.leads ((id :: ids) :: outputs) = p.leads (ids :: outputs) := by
  simp [leads, hid]

theorem leads_known (hid : p.find? id = some i) (ids : List String) (outputs : List (List String)) :
    p.leads ((id :: ids) :: outputs) = i :: p.leads (ids :: outputs) := by
  simp [leads, hid]

/-- a visited node on top of a stack is passed over -/
theorem visit_visited_top (hv : visited.contains i = true) (stack : List Nat) :
    p.visit visited (i :: stack) = p.visit visited stack := by
  rw [visit, dif_neg]
  rintro ⟨-, hfresh⟩
  rw [hv] at hfresh
  cases hfresh

/-- another node on top is found, and its targets are put on top of the rest -/
theorem visit_fresh_top (hi : i < p.nodes.length) (hv : ¬ visited.contains i = true) (stack : List Nat) :
    p.visit visited (i :: stack) =
      (i :: (p.visit (i :: visited) (p.leads (p.node i).wires ++ stack)).1,
        (p.visit (i :: visited) (p.leads (p.node i).wires ++ stack)).2) := by
  rw [visit, dif_pos ⟨hi, Bool.eq_false_iff.2 hv⟩]
  rfl

end

/-- **The targets on top of a stack are searched, and then the rest of the stack is worked off** -/
theorem visit_append (p : Procedure) (visited : List Nat) (outputs : List (List String)) (stack : List Nat) :
    p.visit visited (p.leads outputs ++ stack) =
      ((p.search visited outputs).reported ++ (p.visit (p.search visited outputs).marked stack).1,
        (p.visit (p.search visited outputs).marked stack).2) := by
  -- by the recursion of the search, for whatever lies below
  induction visited, outputs using search.induct p generalizing stack with
  | case1 visited =>
    rw [search]
    rfl
  | case2 visited outputs ih =>
    rw [search]
    exact ih stack
  | case3 visited id ids outputs hid ih =>
    rw [search_unknown hid, leads_unknown hid]
    exact ih stack
  | case4 visited id ids outputs i hid hv ih =>
    rw [search_visited hid hv, leads_known hid, List.cons_append, visit_visited_top hv]
    exact ih stack
  | case5 visited id ids outputs i hid hv _ inner ihinner _ ihlater =>
    obtain ⟨hreported, hmarked⟩ := search_fresh hid hv ids outputs
    -- the targets of the node come on top of the targets after it, which are now below
    rw [leads_known hid, List.cons_append, visit_fresh_top (find?_lt hid) hv, ihinner, ihlater, hreported, hmarked]
    simp only [List.cons_append, List.append_assoc]

/-- **The traversal is the recursive depth-first search.**

The search marks the start and then, for each id that is wired in the order in which they are written down, skips a
node that has been visited, and otherwise marks it, reports it and searches from there before the next id. The
traversal finds the nodes that the search reports, in the same order, from any start and with any nodes visited before;
and it leaves the same nodes visited. -/
theorem connected_is_preorder (p : Procedure) (start : Nat) (visited : List Nat) :
    p.connected start visited = p.preorder start visited := by
  have hsearched :=
    visit_append p (if visited.contains start then visited else start :: visited) (p.node start).wires []
  rw [List.append_nil, visit, List.append_nil] at hsearched
  exact hsearched

end Procedure

end CalBench
