import NestedWorkflow.Proofs.Graph.Circle
import NestedWorkflow.Proofs.Graph.Precedence

/-!
# Circles found by depth-first search

Another way to find out whether dependencies lead in a circle is to follow them from every node,
depth first, and to look for an edge back: one that leads to a node which was entered and not yet
left.  This file describes that search (`Explores`) and shows that it always ends, and that there is
an edge back if and only if the graph has a circle (`explores_none_iff`,
`exists_explores_some_iff`).  So it agrees with the peeling of `Graph.isAcyclic`.

An edge back closes a circle since everything on the path leads to what is looked at from its top.
The other direction is about the nodes that were left, the last one first: a node is left after all
that depend on it, so this list is backed by dependents, and a circle cannot lie in such a list.
-/

namespace NestedWorkflow

namespace Graph

/-- Follow dependencies depth first.  `path` has the nodes that were entered and not left, the last
one first, `done` those that were left, and `todo` what is still to be looked at from the top of the
path.  The outcome is `none` if an edge leads back to the path, and otherwise the nodes left in the
end. -/
inductive Explores (g : Graph) :
    List NodeId → List NodeId → List NodeId → Option (List NodeId) → Prop
  | finish (path done : List NodeId) : Explores g path done [] (some done)
  | back {path done todo : List NodeId} {node : NodeId} (hpath : node ∈ path) :
      Explores g path done (node :: todo) none
  | skip {path done todo : List NodeId} {node : NodeId} {outcome : Option (List NodeId)}
      (hpath : node ∉ path) (hdone : node ∈ done) (hrest : Explores g path done todo outcome) :
      Explores g path done (node :: todo) outcome
  | abort {path done todo : List NodeId} {node : NodeId} (hpath : node ∉ path)
      (hdone : node ∉ done) (hbelow : Explores g (node :: path) done (g.dependents node) none) :
      Explores g path done (node :: todo) none
  | leave {path done below todo : List NodeId} {node : NodeId} {outcome : Option (List NodeId)}
      (hpath : node ∉ path) (hdone : node ∉ done)
      (hbelow : Explores g (node :: path) done (g.dependents node) (some below))
      (hrest : Explores g path (node :: below) todo outcome) :
      Explores g path done (node :: todo) outcome

/-! ### An edge back closes a circle -/

/-- What leads to a node leads to all that depend on it, and so does the node. -/
lemma leads_dependents {g : Graph} {path : List NodeId} {node : NodeId}
    (h : ∀ x ∈ path, Relation.TransGen g.Edge x node) :
    ∀ x ∈ node :: path, ∀ n ∈ g.dependents node, Relation.TransGen g.Edge x n := by
  intro x hx n hn
  have hedge : g.Edge node n := mem_dependents_iff.1 hn
  rcases List.mem_cons.1 hx with rfl | hx
  · exact .single hedge
  · exact (h x hx).tail hedge

/-- If everything on the path leads to what is looked at, an edge back closes a circle. -/
lemma Explores.circular {g : Graph} {path done todo : List NodeId}
    {outcome : Option (List NodeId)} (h : g.Explores path done todo outcome)
    (hleads : ∀ x ∈ path, ∀ n ∈ todo, Relation.TransGen g.Edge x n) (hnone : outcome = none) :
    g.Circular := by
  induction h with
  | finish => cases hnone
  | @back path done todo node hpath => exact ⟨node, hleads node hpath node List.mem_cons_self⟩
  | skip _ _ _ ih => exact ih (fun x hx n hn => hleads x hx n (List.mem_cons_of_mem _ hn)) hnone
  | abort _ _ _ ih =>
    exact ih (leads_dependents fun x hx => hleads x hx _ List.mem_cons_self) rfl
  | leave _ _ _ _ _ ih =>
    exact ih (fun x hx n hn => hleads x hx n (List.mem_cons_of_mem _ hn)) hnone

/-! ### Without an edge back there is no circle -/

/-- A search without an edge back leaves all that it looks at, and a node only after all that depend
on it. -/
lemma Explores.left {g : Graph} {path done todo : List NodeId} {outcome : Option (List NodeId)}
    (h : g.Explores path done todo outcome) {all : List NodeId} (hsome : outcome = some all) :
    done ⊆ all ∧ todo ⊆ all ∧ (Backed g.dependents done → Backed g.dependents all) := by
  induction h generalizing all with
  | finish path done =>
    cases hsome
    exact ⟨List.Subset.refl _, List.nil_subset _, id⟩
  | back => cases hsome
  | skip _ hdone _ ih =>
    obtain ⟨hkeeps, hcovers, hbacked⟩ := ih hsome
    exact ⟨hkeeps, List.cons_subset.2 ⟨hkeeps hdone, hcovers⟩, hbacked⟩
  | abort => cases hsome
  | leave _ _ _ _ ihbelow ihrest =>
    obtain ⟨hkeeps, hcovers, hbacked⟩ := ihbelow rfl
    obtain ⟨hkeeps', hcovers', hbacked'⟩ := ihrest hsome
    obtain ⟨hnode, hbelow⟩ := List.cons_subset.1 hkeeps'
    refine ⟨List.Subset.trans hkeeps hbelow, List.cons_subset.2 ⟨hnode, hcovers'⟩, fun hdone => ?_⟩
    exact hbacked' (.cons (fun x hx => hcovers hx) (hbacked hdone))

/-- No node of a list that is backed by dependents lies on a circle. -/
lemma Backed.not_circle {g : Graph} {l : List NodeId} (h : Backed g.dependents l) :
    ∀ node ∈ l, ¬ Relation.TransGen g.Edge node node := by
  induction h with
  | nil => simp
  | @cons first rest hfirst _ ih =>
    intro node hnode hcircle
    rcases List.mem_cons.1 hnode with rfl | hnode
    · -- The next node on the circle is further behind.
      obtain ⟨next, hedge, hpath⟩ := Relation.TransGen.head'_iff.1 hcircle
      exact ih next (hfirst next (mem_dependents_iff.2 hedge)) (.tail' hpath hedge)
    · exact ih node hnode hcircle

/-! ### The search ends -/

/-- The nodes that a search has not entered. -/
def unseen (g : Graph) (path done : List NodeId) : List NodeId :=
  g.nodes.filter fun n => n ∉ path ∧ n ∉ done

/-- With more nodes left there are not more unseen. -/
lemma length_unseen_le {g : Graph} {path done more : List NodeId} (h : done ⊆ more) :
    (g.unseen path more).length ≤ (g.unseen path done).length := by
  refine (List.monotone_filter_right g.nodes fun n hn => ?_).length_le
  simp only [decide_eq_true_eq] at hn ⊢
  exact ⟨hn.1, fun hdone => hn.2 (h hdone)⟩

/-- Entering a node for the first time leaves fewer nodes unseen. -/
lemma length_unseen_cons_lt {g : Graph} {path done : List NodeId} {node : NodeId}
    (hnode : node ∈ g.nodes) (hpath : node ∉ path) (hdone : node ∉ done) :
    (g.unseen (node :: path) done).length < (g.unseen path done).length := by
  have hother : g.unseen (node :: path) done = (g.unseen path done).filter fun n => n ≠ node := by
    rw [unseen, unseen, List.filter_filter]
    refine List.filter_congr fun n _ => ?_
    simp [and_assoc]
  rw [hother, List.length_filter_lt_length_iff_exists]
  exact ⟨node, List.mem_filter.2 ⟨hnode, by simp [hpath, hdone]⟩, by simp⟩

/-- If dependencies stay inside the graph, the search comes to an outcome. -/
lemma exists_explores {g : Graph} (hmem : ∀ node ∈ mentioned g.dependencies, node ∈ g.nodes)
    {budget : Nat} {path done todo : List NodeId} (htodo : todo ⊆ g.nodes)
    (hbudget : (g.unseen path done).length < budget) :
    ∃ outcome, g.Explores path done todo outcome := by
  -- Nodes above the path are entered with one unseen node less, siblings with no more than before.
  induction budget generalizing path done todo with
  | zero => omega
  | succ budget ihbelow =>
    induction todo generalizing done with
    | nil => exact ⟨_, .finish path done⟩
    | cons node todo ihrest =>
      obtain ⟨hnode, htodo⟩ := List.cons_subset.1 htodo
      by_cases hpath : node ∈ path
      · exact ⟨none, .back hpath⟩
      by_cases hdone : node ∈ done
      · obtain ⟨outcome, hrest⟩ := ihrest htodo hbudget
        exact ⟨outcome, .skip hpath hdone hrest⟩
      have hdependents : g.dependents node ⊆ g.nodes := fun n hn =>
        (mem_nodes_of_prerequisite hmem (mem_dependents_iff.1 hn)).2
      have hfewer := length_unseen_cons_lt hnode hpath hdone
      obtain ⟨outcome, hbelow⟩ := ihbelow hdependents
        (lt_of_lt_of_le hfewer (Nat.le_of_lt_succ hbudget))
      cases outcome with
      | none => exact ⟨none, .abort hpath hdone hbelow⟩
      | some below =>
        have hkeeps : done ⊆ node :: below :=
          List.subset_cons_of_subset node (hbelow.left rfl).1
        obtain ⟨outcome, hrest⟩ := ihrest htodo
          (lt_of_le_of_lt (length_unseen_le hkeeps) hbudget)
        exact ⟨outcome, .leave hpath hdone hbelow hrest⟩

/-! ### What the search finds out -/

section Outcome

variable {g : Graph} (hmem : ∀ node ∈ mentioned g.dependencies, node ∈ g.nodes)
include hmem

/-- The search from all nodes has an outcome. -/
lemma exists_explores_nodes : ∃ outcome, g.Explores [] [] g.nodes outcome :=
  exists_explores hmem (List.Subset.refl _) (Nat.lt_succ_self _)

/-- A search from all nodes that meets no edge back rules out circles. -/
lemma not_circular_of_explores {all : List NodeId} (h : g.Explores [] [] g.nodes (some all)) :
    ¬ g.Circular := by
  rintro ⟨node, hcircle⟩
  obtain ⟨-, hcovers, hbacked⟩ := h.left rfl
  obtain ⟨u, hu, -⟩ := exists_edge_of_circle hcircle
  have hnode : node ∈ all := hcovers (mem_nodes_of_prerequisite hmem hu).2
  exact (hbacked .nil).not_circle node hnode hcircle

/-- There is an edge back if and only if dependencies lead in a circle. -/
theorem explores_none_iff : g.Explores [] [] g.nodes none ↔ g.Circular := by
  refine ⟨fun h => h.circular (by simp) rfl, fun hg => ?_⟩
  obtain ⟨outcome, h⟩ := exists_explores_nodes hmem
  cases outcome with
  | none => exact h
  | some all => exact absurd hg (not_circular_of_explores hmem h)

/-- All nodes are left if and only if dependencies do not lead in a circle. -/
theorem exists_explores_some_iff :
    (∃ all, g.Explores [] [] g.nodes (some all)) ↔ ¬ g.Circular := by
  refine ⟨fun ⟨all, h⟩ => not_circular_of_explores hmem h, fun hg => ?_⟩
  obtain ⟨outcome, h⟩ := exists_explores_nodes hmem
  cases outcome with
  | none => exact absurd ((explores_none_iff hmem).1 h) hg
  | some all => exact ⟨all, h⟩

end Outcome

end Graph

end NestedWorkflow
