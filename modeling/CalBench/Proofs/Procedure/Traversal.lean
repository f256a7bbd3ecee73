/-
What the traversal of a procedure finds.

The traversal keeps a stack that may hold a node many times, and marks nodes only when they are taken off it. What it
finds is stated without the stack, over the wires as they are written down: `Meant` says which node an id refers to,
`Wired` that a node names another one in an output, and `Reaches` that there is a path of wires whose inner nodes
satisfy a condition. Cycles, wires to the node itself, wires given twice and ids that no node has are all allowed.

- `mem_visit_iff`: from a stack, exactly the nodes are found to which a path leads from an entry that avoids the nodes
  visited; when a node is marked, a path through it is cut down to its last piece, from a node it is wired to.

Results:
- `connected_exactly`: the traversal from a node lists without repetition the nodes that are reached through nodes not
  yet visited; afterwards these, the node itself and those visited before are marked.
-/
import CalBench.Procedure.Graph
import Mathlib.Logic.Relation

namespace CalBench

namespace Procedure

variable {p : Procedure}

/-! ## Wires -/

/-- the last node with an id, in any letter case, stands at a position -/
structure Meant (p : Procedure) (id : String) (i : Nat) : Prop where
  named : ∃ n, p.nodes[i]? = some n ∧ Text.upper n.id = Text.upper id
  last : ∀ j n, p.nodes[j]? = some n → Text.upper n.id = Text.upper id → j ≤ i

def Wired (p : Procedure) (i j : Nat) : Prop :=
  ∃ n, p.nodes[i]? = some n ∧ ∃ output ∈ n.wires, ∃ id ∈ output, p.Meant id j

/-- wires lead from a node to another one, through nodes that satisfy a condition -/
def Reaches (p : Procedure) (through : Nat → Prop) (i j : Nat) : Prop :=
  ∃ k, Relation.ReflTransGen (fun a b => p.Wired a b ∧ through b) i k ∧ p.Wired k j

theorem mem_positions_iff {condition : Node → Bool} {i : Nat} :
    i ∈ p.positions condition ↔ ∃ n, p.nodes[i]? = some n ∧ condition n = true := by
  rw [positions, List.mem_filter, List.mem_range, Option.any_eq_true]
  refine ⟨And.right, fun h => ⟨?_, h⟩⟩
  obtain ⟨n, hn, -⟩ := h
  exact (List.getElem?_eq_some_iff.1 hn).1

/-- a look-up finds the node that is meant -/
theorem find?_eq_some_iff {id : String} {i : Nat} : p.find? id = some i ↔ p.Meant id i := by
  have hmem : ∀ j, (j ∈ p.positions fun n => Text.upper n.id == Text.upper id) ↔
      ∃ n, p.nodes[j]? = some n ∧ Text.upper n.id = Text.upper id := fun j => by
    rw [mem_positions_iff]
    simp only [beq_iff_eq]
  -- positions are listed in increasing order
  have hsorted : (p.positions fun n => Text.upper n.id == Text.upper id).Pairwise (· < ·) :=
    List.Pairwise.filter _ List.pairwise_lt_range
  constructor
  · intro h
    obtain ⟨before, hsplit⟩ := List.getLast?_eq_some_iff.1 h
    refine ⟨(hmem i).1 (List.mem_of_getLast? h), fun j n hn hid => ?_⟩
    have hj := (hmem j).2 ⟨n, hn, hid⟩
    rw [hsplit, List.mem_append, List.mem_singleton] at hj
    rw [hsplit, List.pairwise_append] at hsorted
    rcases hj with hj | rfl
    · exact Nat.le_of_lt (hsorted.2.2 j hj i (List.mem_singleton_self i))
    · exact Nat.le_refl j
  · intro h
    have hi := (hmem i).2 h.named
    obtain ⟨j, hj⟩ := Option.isSome_iff_exists.1 (List.getLast?_isSome.2 (List.ne_nil_of_mem hi))
    obtain ⟨before, hsplit⟩ := List.getLast?_eq_some_iff.1 hj
    obtain ⟨n, hn, hid⟩ := (hmem j).1 (List.mem_of_getLast? hj)
    have hle := h.last j n hn hid
    rw [hsplit, List.mem_append, List.mem_singleton] at hi
    rw [hsplit, List.pairwise_append] at hsorted
    rcases hi with hi | rfl
    · exact absurd (hsorted.2.2 i hi j (List.mem_singleton_self j)) (Nat.not_lt.2 hle)
    · exact hj

theorem Wired.lt {i j : Nat} (h : p.Wired i j) : j < p.nodes.length := by
  obtain ⟨_, _, _, _, _, _, hmeant⟩ := h
  exact find?_lt (find?_eq_some_iff.2 hmeant)

/-- wires are followed by look-up, and ids that no node has lead nowhere -/
theorem mem_targets_iff {i j : Nat} : j ∈ p.targets i ↔ p.Wired i j := by
  unfold targets node Wired
  simp only [List.mem_filterMap, List.mem_flatten, find?_eq_some_iff]
  cases p.nodes[i]? with
  | none => exact ⟨fun ⟨_, ⟨_, h, _⟩, _⟩ => (List.not_mem_nil h).elim, fun ⟨_, h, _⟩ => nomatch h⟩
  | some n =>
    exact ⟨fun ⟨id, ⟨output, ho, hid⟩, hm⟩ => ⟨n, rfl, output, ho, id, hid, hm⟩,
      fun ⟨_, rfl, output, ho, id, hid, hm⟩ => ⟨id, ⟨output, ho, hid⟩, hm⟩⟩

/-! ## Visiting -/

/-- a wire to a node that has not been visited -/
def Open (p : Procedure) (visited : List Nat) (a b : Nat) : Prop := p.Wired a b ∧ b ∉ visited

/-- The nodes found are put before those visited, the last one first. -/
theorem visit_visited (p : Procedure) (visited stack : List Nat) :
    (p.visit visited stack).2 = (p.visit visited stack).1.reverse ++ visited := by
  fun_induction visit p visited stack with
  | case1 => rfl
  | case2 visited i stack h _ found visited' heq ih =>
    rw [heq] at ih
    rw [ih, List.reverse_cons, List.append_assoc]
    rfl
  | case3 visited i stack h ih => exact ih

/-- Nodes are found once, and none that has been visited. -/
theorem visit_nodup (p : Procedure) (visited stack : List Nat) :
    (p.visit visited stack).1.Nodup ∧ ∀ n ∈ (p.visit visited stack).1, n ∉ visited := by
  fun_induction visit p visited stack with
  | case1 => exact ⟨List.nodup_nil, fun _ h => (List.not_mem_nil h).elim⟩
  | case2 visited i stack h _ found visited' heq ih =>
    rw [heq] at ih
    obtain ⟨hnodup, hfresh⟩ := ih
    refine ⟨List.nodup_cons.2 ⟨fun hi => hfresh i hi List.mem_cons_self, hnodup⟩, fun n hn => ?_⟩
    rcases List.mem_cons.1 hn with rfl | hn
    · simpa using h.2
    · exact fun hv => hfresh n hn (List.mem_cons_of_mem i hv)
  | case3 visited i stack h ih => exact ih

/-- A path to `n` that may pass `i` ends there, avoids it, or goes on from a node that `i` is wired to without coming
back to it. -/
theorem path_cut {visited : List Nat} {i s n : Nat} (h : Relation.ReflTransGen (p.Open visited) s n) :
    n = i ∨ (s ≠ i ∧ Relation.ReflTransGen (p.Open (i :: visited)) s n) ∨
      ∃ t, p.Open (i :: visited) i t ∧ Relation.ReflTransGen (p.Open (i :: visited)) t n := by
  induction h using Relation.ReflTransGen.head_induction_on with
  | refl =>
    by_cases hn : n = i
    · exact .inl hn
    · exact .inr (.inl ⟨hn, .refl⟩)
  | @head a c hstep _ ih =>
    rcases ih with hn | ⟨hc, hpath⟩ | hlater
    · exact .inl hn
    · have hopen : p.Open (i :: visited) a c := ⟨hstep.1, fun hmem => by
        rcases List.mem_cons.1 hmem with rfl | hmem
        · exact hc rfl
        · exact hstep.2 hmem⟩
      by_cases ha : a = i
      · exact .inr (.inr ⟨c, ha ▸ hopen, hpath⟩)
      · exact .inr (.inl ⟨ha, .head hopen hpath⟩)
    · exact .inr (.inr hlater)

/-- a path that avoids one more node avoids the others -/
theorem path_mono {visited : List Nat} {i s n : Nat} (h : Relation.ReflTransGen (p.Open (i :: visited)) s n) :
    Relation.ReflTransGen (p.Open visited) s n :=
  Relation.ReflTransGen.mono (fun _ _ hopen => ⟨hopen.1, fun hv => hopen.2 (List.mem_cons_of_mem i hv)⟩) _ _ h

/-- Exactly the nodes are found that a path leads to from the stack, over nodes that have not been visited. -/
theorem mem_visit_iff (p : Procedure) (visited stack : List Nat) (n : Nat) :
    n ∈ (p.visit visited stack).1 ↔
      ∃ s ∈ stack, s < p.nodes.length ∧ s ∉ visited ∧ Relation.ReflTransGen (p.Open visited) s n := by
  fun_induction visit p visited stack with
  | case1 => exact ⟨fun h => (List.not_mem_nil h).elim, fun ⟨_, h, _⟩ => (List.not_mem_nil h).elim⟩
  | case2 visited i stack h _ found visited' heq ih =>
    obtain ⟨hlt, hi⟩ : i < p.nodes.length ∧ i ∉ visited := by simpa using h
    rw [heq] at ih
    rw [List.mem_cons, ih]
    constructor
    · rintro (rfl | ⟨s, hs, hslt, hfree, hpath⟩)
      · exact ⟨n, List.mem_cons_self, hlt, hi, .refl⟩
      · have hs' : s ∉ visited := fun hv => hfree (List.mem_cons_of_mem i hv)
        rcases List.mem_append.1 hs with hs | hs
        · exact ⟨i, List.mem_cons_self, hlt, hi, .head ⟨mem_targets_iff.1 hs, hs'⟩ (path_mono hpath)⟩
        · exact ⟨s, List.mem_cons_of_mem i hs, hslt, hs', path_mono hpath⟩
    · rintro ⟨s, hs, hslt, hs', hpath⟩
      rcases path_cut (i := i) hpath with hn | ⟨hsi, hpath⟩ | ⟨t, hopen, hpath⟩
      · exact .inl hn
      · have hs : s ∈ stack := (List.mem_cons.1 hs).resolve_left hsi
        exact .inr ⟨s, List.mem_append_right _ hs, hslt, List.not_mem_cons_of_ne_of_not_mem hsi hs', hpath⟩
      · exact .inr ⟨t, List.mem_append_left _ (mem_targets_iff.2 hopen.1), hopen.1.lt, hopen.2, hpath⟩
  | case3 visited i stack h ih =>
    rw [ih]
    constructor
    · rintro ⟨s, hs, hrest⟩
      exact ⟨s, List.mem_cons_of_mem i hs, hrest⟩
    · rintro ⟨s, hs, hslt, hs', hpath⟩
      rcases List.mem_cons.1 hs with rfl | hs
      · exact absurd ⟨hslt, by simpa using hs'⟩ h
      · exact ⟨s, hs, hslt, hs', hpath⟩

/-! ## From a node -/

/-- what is marked before anything is visited -/
theorem mem_marked_iff {start : Nat} {visited : List Nat} {n : Nat} :
    (n ∈ if visited.contains start then visited else start :: visited) ↔ n ∈ visited ∨ n = start := by
  split
  case isTrue h => exact ⟨.inl, fun hn => hn.elim id fun hn => hn ▸ List.contains_iff_mem.1 h⟩
  case isFalse => rw [List.mem_cons, or_comm]

/-- **The traversal from a node lists, each once, the nodes other than it that have not been visited and that wires
reach through such nodes; afterwards those visited before, the node itself and the nodes listed are marked.** -/
theorem connected_exactly (p : Procedure) (start : Nat) (visited : List Nat) :
    (p.connected start visited).1.Nodup ∧
      (∀ n, n ∈ (p.connected start visited).1 ↔
        n ∉ visited ∧ n ≠ start ∧ p.Reaches (fun k => k ∉ visited ∧ k ≠ start) start n) ∧
      ∀ n, n ∈ (p.connected start visited).2 ↔
        n ∈ visited ∨ n = start ∨ n ∈ (p.connected start visited).1 := by
  unfold connected
  generalize hmarked : (if visited.contains start then visited else start :: visited) = marked
  have hmem : ∀ n, n ∈ marked ↔ n ∈ visited ∨ n = start := fun n => hmarked ▸ mem_marked_iff
  have hfree : ∀ n, n ∉ marked ↔ n ∉ visited ∧ n ≠ start := fun n => by rw [hmem, not_or]
  obtain ⟨hnodup, hfresh⟩ := visit_nodup p marked (p.targets start)
  refine ⟨hnodup, fun n => ?_, fun n => ?_⟩
  · -- both sides speak of paths from the start, told apart by whether its first or its last wire is split off
    have hpaths : p.Reaches (fun k => k ∉ visited ∧ k ≠ start) start n ↔
        ∃ k, Relation.ReflTransGen (p.Open marked) start k ∧ p.Wired k n := by
      simp only [← hfree]
      rfl
    rw [hpaths, ← and_assoc, ← hfree]
    constructor
    · intro hn
      obtain ⟨s, hs, -, hs', hpath⟩ := (mem_visit_iff p marked _ n).1 hn
      have hwhole : Relation.ReflTransGen (p.Open marked) start n := .head ⟨mem_targets_iff.1 hs, hs'⟩ hpath
      rcases Relation.ReflTransGen.cases_tail hwhole with rfl | ⟨k, hk, hlast⟩
      · exact absurd ((hmem n).2 (.inr rfl)) (hfresh n hn)
      · exact ⟨hfresh n hn, k, hk, hlast.1⟩
    · rintro ⟨hn, k, hk, hlast⟩
      rcases Relation.ReflTransGen.cases_head (hk.tail ⟨hlast, hn⟩) with rfl | ⟨s, hfirst, hpath⟩
      · exact absurd ((hmem start).2 (.inr rfl)) hn
      · exact (mem_visit_iff p marked _ n).2
          ⟨s, mem_targets_iff.2 hfirst.1, hfirst.1.lt, hfirst.2, hpath⟩
  · rw [visit_visited, List.mem_append, List.mem_reverse, hmem, or_comm, or_assoc]

end Procedure

end CalBench
