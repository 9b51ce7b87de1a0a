import Mathlib.Data.Fintype.EquivFin
import Mathlib.Data.Fintype.Sets
import Mathlib.Logic.Relation
import Mathlib.Order.WellFounded
import NestedWorkflow.Proofs.Graph.Order

/-!
# Circles of dependencies

A circle is a path of dependencies, with at least one step, from a node to itself.  The check of a
graph does not look for paths: it peels nodes off, as many times as there are nodes, and asks
whether one is left.  This file shows that a node is left if and only if the graph has a circle
(`isAcyclic_iff`).

The nodes on a circle are never peeled off, because each of them depends on another.  Conversely, as
long as peeling takes something away, it is through after so many times; a list of nodes from which
it takes nothing away has a circle, since on a finite set a transitive relation without circles has
a minimal element.
-/

namespace NestedWorkflow

namespace Graph

/-- A node lists another one as its prerequisite. -/
def Edge (g : Graph) (u node : NodeId) : Prop := u ∈ g.prerequisites node

/-- Dependencies lead from some node back to it. -/
def Circular (g : Graph) : Prop := ∃ node, Relation.TransGen g.Edge node node

/-- A node on a circle has a prerequisite on a circle. -/
lemma exists_edge_of_circle {g : Graph} {node : NodeId} (h : Relation.TransGen g.Edge node node) :
    ∃ u ∈ g.prerequisites node, Relation.TransGen g.Edge u u := by
  obtain ⟨u, hpath, hedge⟩ := Relation.TransGen.tail'_iff.1 h
  exact ⟨u, hedge, .head' hedge hpath⟩

/-- Without circles, dependencies among finitely many nodes do not go back forever. -/
lemma wellFounded_of_not_circular {g : Graph} (hg : ¬ g.Circular) (nodes : List NodeId) :
    WellFounded fun a b : {n // n ∈ nodes} => Relation.TransGen g.Edge a.1 b.1 := by
  have : IsTrans {n // n ∈ nodes} fun a b => Relation.TransGen g.Edge a.1 b.1 :=
    ⟨fun _ _ _ hab hbc => hab.trans hbc⟩
  have : Std.Irrefl fun a b : {n // n ∈ nodes} => Relation.TransGen g.Edge a.1 b.1 :=
    ⟨fun a hcircle => hg ⟨a.1, hcircle⟩⟩
  exact Finite.wellFounded_of_trans_of_irrefl _

/-- Where every node has a prerequisite, dependencies lead in a circle. -/
lemma circular_of_stuck {g : Graph} {stuck : List NodeId} (hne : stuck ≠ [])
    (hstuck : ∀ node ∈ stuck, ∃ u ∈ g.prerequisites node, u ∈ stuck) : g.Circular := by
  by_contra hnone
  obtain ⟨start, hstart⟩ := List.exists_mem_of_ne_nil stuck hne
  obtain ⟨first, -, hfirst⟩ :=
    (wellFounded_of_not_circular hnone stuck).has_min Set.univ ⟨⟨start, hstart⟩, Set.mem_univ _⟩
  obtain ⟨u, hu, hus⟩ := hstuck first.1 first.2
  exact hfirst ⟨u, hus⟩ (Set.mem_univ _) (.single hu)

/-- Without circles, peeling takes something away as long as there is something. -/
lemma length_peel_lt {g : Graph} (hg : ¬ g.Circular) {remaining : List NodeId}
    (hne : remaining ≠ []) : (g.peel remaining).length < remaining.length := by
  rw [peel, List.length_filter_lt_length_iff_exists]
  by_contra hnone
  refine hg (circular_of_stuck hne fun node hnode => ?_)
  have hkept : ((g.prerequisites node).any fun u => remaining.contains u) = true := by
    by_contra hpeeled
    exact hnone ⟨node, hnode, hpeeled⟩
  simpa using hkept

/-- Without circles, peeling as many times as there are nodes leaves nothing. -/
lemma peelTimes_eq_nil {g : Graph} (hg : ¬ g.Circular) {n : Nat} {remaining : List NodeId}
    (hn : remaining.length ≤ n) : g.peelTimes n remaining = [] := by
  induction n generalizing remaining with
  | zero => exact List.eq_nil_of_length_eq_zero (Nat.le_zero.1 hn)
  | succ n ih =>
    refine ih ?_
    by_cases hne : remaining = []
    · simp [hne, peel]
    · exact Nat.le_of_lt_succ (lt_of_lt_of_le (length_peel_lt hg hne) hn)

/-- If dependencies stay inside the graph, the check of a graph finds out whether they lead in a
circle. -/
theorem isAcyclic_iff {g : Graph} (hmem : ∀ node ∈ mentioned g.dependencies, node ∈ g.nodes) :
    g.isAcyclic = true ↔ ¬ g.Circular := by
  constructor
  · rintro hacyclic ⟨node, hcircle⟩
    refine not_stuck_of_isAcyclic hacyclic (fun n => Relation.TransGen g.Edge n n) ?_
      (fun _ hn => exists_edge_of_circle hn) node hcircle
    intro n hn
    obtain ⟨u, hu, -⟩ := exists_edge_of_circle hn
    exact (mem_nodes_of_prerequisite hmem hu).2
  · intro hg
    exact List.isEmpty_iff.2 (peelTimes_eq_nil hg le_rfl)

end Graph

end NestedWorkflow
