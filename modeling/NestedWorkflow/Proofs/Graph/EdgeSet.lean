import Mathlib.Data.List.Sort
import NestedWorkflow.Proofs.Graph.Verdict
import NestedWorkflow.Proofs.SubWorkflow.Building

/-!
# The order depends on the set of edges

Dependencies are lists, and a graph keeps them as they were written: a node may list a prerequisite
twice and in any place, and a node without prerequisites may have an entry or none.  `Graph.order`
works with these lists, so a node is pushed onto the stack as often as it lists the node that makes
it ready.  Nevertheless the order depends on the nodes and on the set of edges only
(`Graph.edges_determine_order`).

Comparing the stacks of two such runs directly fails, because already after one step they have
different lengths.  What they agree in are the nodes that are not emitted yet, each at the place of
its topmost copy (`fresh`).  This is enough, as a lower copy is dropped when it comes to the top
(`Emits.of_fresh_eq`).  That the pushed nodes agree in this sense is due to their order: edges are
added by increasing dependent, whatever the lists look like, so copies of a node lie side by side.
-/

namespace NestedWorkflow

namespace Graph

/-! ### Edges -/

/-- The edges from prerequisites to the nodes that list them, in the order in which they are added:
by node, and for one node as it lists them. -/
def edges (dependencies : Dependencies) : List (NodeId × NodeId) :=
  dependencies.entries.flatMap fun (node, needed) => needed.map fun u => (u, node)

/-- An edge leads from each prerequisite of a node to the node. -/
lemma mem_edges_iff {g : Graph} {u node : NodeId} :
    (u, node) ∈ edges g.dependencies ↔ u ∈ g.prerequisites node := by
  rw [mem_prerequisites_iff]
  simp [edges]

/-- Edges are added by increasing dependent. -/
lemma pairwise_edges (dependencies : Dependencies) :
    (edges dependencies).Pairwise fun e f => e.2 ≤ f.2 := by
  refine List.pairwise_flatMap.2 ⟨fun entry _ => ?_, dependencies.inOrder.imp ?_⟩
  · exact List.pairwise_map.2 (List.pairwise_of_forall fun _ _ => String.le_refl _)
  · intro entry later hlt e he f hf
    obtain ⟨u, -, rfl⟩ := List.mem_map.1 he
    obtain ⟨v, -, rfl⟩ := List.mem_map.1 hf
    exact String.not_lt.1 (String.lt_asymm hlt)

/-- The dependents of a node are the ends of its edges, beginning with the edge that was added
last. -/
lemma dependents_eq_reverse (g : Graph) (u : NodeId) :
    g.dependents u =
      (((edges g.dependencies).filter fun e => e.1 == u).map Prod.snd).reverse := by
  have hentry : ∀ entry : NodeId × List NodeId,
      ((entry.2.map fun v => (v, entry.1)).filter fun e => e.1 == u).map Prod.snd =
        List.replicate (entry.2.count u) entry.1 := by
    intro entry
    simp [List.filter_map, Function.comp_def, List.count_eq_length_filter]
  rw [edges, List.filter_flatMap, List.map_flatMap, List.reverse_flatMap, dependents]
  simp only [hentry, Function.comp_def, List.reverse_replicate]

/-- The nodes that an emitted node makes ready are pushed by increasing identifier. -/
lemma pairwise_released (g : Graph) (node : NodeId) (done : List NodeId) :
    (g.released node done).Pairwise (· ≤ ·) := by
  rw [released, dependents_eq_reverse, List.filter_reverse, List.reverse_reverse]
  refine List.Pairwise.filter _ (List.pairwise_map.2 ?_)
  exact (pairwise_edges g.dependencies).filter _

/-! ### Nodes at their topmost place -/

/-- The nodes of a stack that were not seen before, each at the place where it stands first. -/
def fresh (seen : List NodeId) : List NodeId → List NodeId
  | [] => []
  | node :: stack => if node ∈ seen then fresh seen stack else node :: fresh (node :: seen) stack

/-- Only nodes of the stack are fresh, and none that was seen before. -/
lemma mem_fresh_iff {seen stack : List NodeId} {n : NodeId} :
    n ∈ fresh seen stack ↔ n ∈ stack ∧ n ∉ seen := by
  induction stack generalizing seen with
  | nil => simp [fresh]
  | cons node stack ih =>
    rw [fresh]
    split
    · rename_i hnode
      rw [ih, List.mem_cons]
      constructor
      · exact fun ⟨hstack, hseen⟩ => ⟨.inr hstack, hseen⟩
      · rintro ⟨rfl | hstack, hseen⟩
        · exact absurd hnode hseen
        · exact ⟨hstack, hseen⟩
    · rename_i hnode
      rw [List.mem_cons, ih, List.mem_cons, List.mem_cons]
      by_cases heq : n = node
      · simp [heq, hnode]
      · simp [heq]

/-- The fresh nodes stand in the stack, in the same order. -/
lemma fresh_sublist (seen stack : List NodeId) : (fresh seen stack).Sublist stack := by
  induction stack generalizing seen with
  | nil => exact .slnil
  | cons node stack ih =>
    rw [fresh]
    split
    · exact (ih seen).cons node
    · exact (ih (node :: seen)).cons_cons node

/-- No node is fresh twice. -/
lemma nodup_fresh (seen stack : List NodeId) : (fresh seen stack).Nodup := by
  induction stack generalizing seen with
  | nil => exact List.nodup_nil
  | cons node stack ih =>
    rw [fresh]
    split
    · exact ih seen
    · refine List.nodup_cons.2 ⟨fun hmem => ?_, ih (node :: seen)⟩
      exact (mem_fresh_iff.1 hmem).2 List.mem_cons_self

/-- When more was seen, the fresh nodes are those of before that are not among it. -/
lemma fresh_of_mem_iff {seen more all : List NodeId} (h : ∀ n, n ∈ all ↔ n ∈ more ∨ n ∈ seen)
    (stack : List NodeId) : fresh all stack = (fresh seen stack).filter fun n => n ∉ more := by
  induction stack generalizing seen all with
  | nil => rfl
  | cons node stack ih =>
    rw [fresh, fresh]
    by_cases hseen : node ∈ seen
    · rw [if_pos hseen, if_pos ((h node).2 (.inr hseen))]
      exact ih h
    rw [if_neg hseen]
    by_cases hmore : node ∈ more
    · rw [if_pos ((h node).2 (.inl hmore)), List.filter_cons_of_neg (by simpa using hmore)]
      refine ih fun n => ?_
      rw [h, List.mem_cons]
      constructor
      · exact Or.imp_right .inr
      · rintro (hn | rfl | hn)
        exacts [.inl hn, .inl hmore, .inr hn]
    · have hall : node ∉ all := fun hnode => ((h node).1 hnode).elim hmore hseen
      rw [if_neg hall, List.filter_cons_of_pos (by simpa using hmore)]
      refine congrArg (List.cons node) (ih fun n => ?_)
      rw [List.mem_cons, h, List.mem_cons]
      exact or_left_comm

/-- What is put on top of a stack hides its copies below. -/
lemma fresh_append (seen front stack : List NodeId) :
    fresh seen (front ++ stack) =
      fresh seen front ++ (fresh seen stack).filter fun n => n ∉ front := by
  induction front generalizing seen with
  | nil => simp [fresh]
  | cons node front ih =>
    rw [List.cons_append, fresh, fresh]
    by_cases hseen : node ∈ seen
    · rw [if_pos hseen, if_pos hseen, ih]
      refine congrArg _ (List.filter_congr fun n hn => ?_)
      have hne : n ≠ node := fun heq => (mem_fresh_iff.1 hn).2 (heq ▸ hseen)
      simp [hne]
    · have hbelow : fresh (node :: seen) stack = (fresh seen stack).filter fun n => n ∉ [node] :=
        fresh_of_mem_iff (by simp) stack
      rw [if_neg hseen, if_neg hseen, ih, hbelow, List.filter_filter]
      refine congrArg (fun l => node :: (_ ++ l)) (List.filter_congr fun n _ => ?_)
      simp [Bool.and_comm]

/-- Stacks that show the same fresh nodes still do when the same nodes are put on top, in any number
of copies that lie side by side. -/
lemma fresh_append_congr {seen front front' stack stack' : List NodeId}
    (hsorted : front.Pairwise (· ≤ ·)) (hsorted' : front'.Pairwise (· ≤ ·))
    (hmem : ∀ n, n ∈ front' ↔ n ∈ front) (h : fresh seen stack' = fresh seen stack) :
    fresh seen (front' ++ stack') = fresh seen (front ++ stack) := by
  have hstrict : ∀ l : List NodeId, l.Pairwise (· ≤ ·) → (fresh seen l).Pairwise (· < ·) := by
    intro l hl
    have hle := hl.sublist (fresh_sublist seen l)
    refine hle.imp₂ ?_ (nodup_fresh seen l)
    intro a b hab hne
    exact String.not_le.1 fun hba => hne (String.le_antisymm hab hba)
  have hfront : fresh seen front' = fresh seen front := by
    refine (hstrict _ hsorted').eq_of_mem_iff (hstrict _ hsorted) fun n => ?_
    rw [mem_fresh_iff, mem_fresh_iff, hmem]
  rw [fresh_append, fresh_append, hfront, h]
  exact congrArg _ (List.filter_congr fun n _ => by simp [hmem])

/-- If a stack shows a fresh node, then everything above it was seen before. -/
lemma exists_of_fresh_eq_cons {seen stack rest : List NodeId} {node : NodeId}
    (h : fresh seen stack = node :: rest) :
    ∃ above below, stack = above ++ node :: below ∧ (∀ n ∈ above, n ∈ seen) ∧ node ∉ seen ∧
      fresh (node :: seen) below = rest := by
  induction stack with
  | nil => cases h
  | cons top stack ih =>
    rw [fresh] at h
    split at h
    · rename_i htop
      obtain ⟨above, below, rfl, habove, hnode, hbelow⟩ := ih h
      exact ⟨top :: above, below, rfl, List.forall_mem_cons.2 ⟨htop, habove⟩, hnode, hbelow⟩
    · rename_i htop
      cases h
      exact ⟨[], stack, rfl, by simp, htop, rfl⟩

/-! ### Graphs with the same edges -/

/-- The same nodes in the same order, and the same edges, as often and in whatever order they are
listed. -/
structure Alike (g g' : Graph) : Prop where
  nodes_eq : g'.nodes = g.nodes
  edges_iff : ∀ e, e ∈ edges g'.dependencies ↔ e ∈ edges g.dependencies

namespace Alike

variable {g g' : Graph} (h : g.Alike g')
include h

/-- Nodes have the same prerequisites. -/
lemma mem_prerequisites_iff {u node : NodeId} :
    u ∈ g'.prerequisites node ↔ u ∈ g.prerequisites node := by
  rw [← mem_edges_iff, ← mem_edges_iff, h.edges_iff]

/-- The same nodes are ready. -/
lemma isReady_eq (done : List NodeId) (node : NodeId) :
    g'.isReady done node = g.isReady done node := by
  rw [Bool.eq_iff_iff]
  simp [isReady, h.mem_prerequisites_iff]

/-- The same nodes become ready. -/
lemma mem_released_iff {node n : NodeId} {done : List NodeId} :
    n ∈ g'.released node done ↔ n ∈ g.released node done := by
  rw [Graph.mem_released_iff, Graph.mem_released_iff, h.mem_prerequisites_iff, h.isReady_eq]

/-- The same nodes have no prerequisites. -/
lemma sources_eq : g'.sources = g.sources := by
  unfold sources
  rw [h.nodes_eq]
  refine List.filter_congr fun node _ => ?_
  rw [Bool.eq_iff_iff]
  simp [List.eq_nil_iff_forall_not_mem, h.mem_prerequisites_iff]

/-- The same nodes are peeled off. -/
lemma peelTimes_eq (n : Nat) (remaining : List NodeId) :
    g'.peelTimes n remaining = g.peelTimes n remaining := by
  induction n generalizing remaining with
  | zero => rfl
  | succ n ih =>
    have hpeel : g'.peel remaining = g.peel remaining := by
      refine List.filter_congr fun node _ => ?_
      rw [Bool.eq_iff_iff]
      simp [h.mem_prerequisites_iff]
    rw [peelTimes, peelTimes, hpeel, ih]

/-- Both are acyclic, or none is. -/
lemma isAcyclic_eq : g'.isAcyclic = g.isAcyclic := by
  rw [isAcyclic, isAcyclic, h.nodes_eq, h.peelTimes_eq]

end Alike

/-- Nodes that are emitted already are taken off one after the other. -/
lemma Emits.of_subset {g : Graph} {above stack done all : List NodeId}
    (habove : ∀ n ∈ above, n ∈ done) (h : g.Emits stack done all) :
    g.Emits (above ++ stack) done all := by
  induction above with
  | nil => exact h
  | cons node above ih =>
    obtain ⟨hnode, habove⟩ := List.forall_mem_cons.1 habove
    exact .drop hnode (ih habove)

/-- From stacks that show the same fresh nodes, graphs with the same edges emit the same. -/
theorem Emits.of_fresh_eq {g g' : Graph} (halike : g.Alike g') {stack stack' done all : List NodeId}
    (h : g.Emits stack done all) (hfresh : fresh done stack' = fresh done stack) :
    g'.Emits stack' done all := by
  induction h generalizing stack' with
  | empty done =>
    have hdone : ∀ n ∈ stack', n ∈ done := by
      intro n hn
      by_contra hnew
      have hmem := mem_fresh_iff.2 ⟨hn, hnew⟩
      rw [hfresh] at hmem
      cases hmem
    rw [← List.append_nil stack']
    exact .of_subset hdone (.empty done)
  | drop hdone _ ih =>
    rw [fresh, if_pos hdone] at hfresh
    exact ih hfresh
  | @push node stack done all hnew _ ih =>
    rw [fresh, if_neg hnew] at hfresh
    obtain ⟨above, below, rfl, habove, -, hbelow⟩ := exists_of_fresh_eq_cons hfresh
    refine .of_subset habove (.push hnew (ih ?_))
    exact fresh_append_congr (g.pairwise_released node done) (g'.pairwise_released node done)
      (fun n => halike.mem_released_iff) hbelow

/-- Graphs with the same edges have the same order. -/
theorem Alike.order_eq {g g' : Graph} (h : g.Alike g') : g'.order = g.order := by
  have hemits : g'.Emits g'.sources.reverse [] g.order.reverse := by
    rw [h.sources_eq]
    exact g.emits_order.of_fresh_eq h rfl
  exact List.reverse_injective (hemits.unique g'.emits_order)

end Graph

/-! ### What is built -/

section Build

variable {nodes : List NodeId} {dependencies others : Dependencies}

/-- If all nodes that are listed are known, the same edges give the same defect or the same
order. -/
lemma Graph.map_order_of_eq (hknown : Known nodes dependencies) (hknown' : Known nodes others)
    (hedges : ∀ e, e ∈ edges dependencies ↔ e ∈ edges others) :
    (Graph.of nodes dependencies).map order = (Graph.of nodes others).map order := by
  have halike : Alike ⟨nodes, others⟩ ⟨nodes, dependencies⟩ := ⟨rfl, hedges⟩
  unfold Graph.of
  rw [find?_mentioned_eq_none_iff.2 hknown, find?_mentioned_eq_none_iff.2 hknown']
  cases firstRepeated [] nodes with
  | some x => rfl
  | none =>
    simp only [halike.isAcyclic_eq]
    split
    · exact congrArg Except.ok halike.order_eq
    · rfl

/-- The check of a sub-workflow reads its dependencies only to find a defect of the graph. -/
lemma SubWorkflow.Parts.check_dependencies {p : Parts}
    (h : (Graph.of p.nodeIds dependencies).map Graph.order =
      (Graph.of p.nodeIds others).map Graph.order) :
    check { p with dependencies := dependencies } = check { p with dependencies := others } := by
  have hgraph : ∀ d, checkGraph { p with dependencies := d } =
      (Graph.of p.nodeIds d).map Graph.order >>= fun _ =>
        if startNodeId ∉ p.nodeIds then .error (.missingStartNode p.id) else .ok () := by
    intro d
    have hnodes : nodeIds { p with dependencies := d } = p.nodeIds := rfl
    rw [checkGraph, hnodes]
    cases Graph.of p.nodeIds d <;> rfl
  rw [check_eq_bind, check_eq_bind, hgraph, hgraph, h]
  rfl

/-- Declared nodes are listed in the order of the graph, whatever its dependencies look like. -/
lemma SubWorkflow.map_declaredNodes_of_eq {p : Parts}
    (h : (Graph.of p.nodeIds dependencies).map Graph.order =
      (Graph.of p.nodeIds others).map Graph.order) :
    (ofParts { p with dependencies := dependencies }).map declaredNodes =
      (ofParts { p with dependencies := others }).map declaredNodes := by
  have hcheck := Parts.check_dependencies h
  have hdeclared : Parts.declaredNodes { p with dependencies := dependencies } =
      Parts.declaredNodes { p with dependencies := others } := by
    have hmap : ∀ d, Parts.declaredNodes { p with dependencies := d } =
        ((Graph.of p.nodeIds d).map Graph.order).map (· ++ p.failureNode.toList.map Node.id) := by
      intro d
      change (Graph.of p.nodeIds d).map _ = _
      cases Graph.of p.nodeIds d <;> rfl
    rw [hmap, hmap, h]
  cases hothers : Parts.check { p with dependencies := others } with
  | error e => rw [ofParts_of_error hothers, ofParts_of_error (hcheck.trans hothers)]
  | ok _ =>
    rw [ofParts_of_ok hothers, ofParts_of_ok (hcheck.trans hothers)]
    have hleft := declaredNodes_toParts ⟨_, hcheck.trans hothers⟩
    have hright := declaredNodes_toParts ⟨_, hothers⟩
    exact hleft.symm.trans (hdeclared.trans hright)

/-- Dependencies over the same nodes that have the same edges are as good as each other: if one of
them makes a graph, so does the other, and the order is the same; otherwise the same defect is
reported.  The same holds for sub-workflows that differ in such dependencies only, and for their
declared nodes. -/
theorem Graph.edges_determine_order (hknown : Known nodes dependencies)
    (hknown' : Known nodes others) (hedges : ∀ e, e ∈ edges dependencies ↔ e ∈ edges others) :
    (Graph.of nodes dependencies).map order = (Graph.of nodes others).map order ∧
      ∀ p : SubWorkflow.Parts, p.nodeIds = nodes →
        (SubWorkflow.ofParts { p with dependencies := dependencies }).map
            SubWorkflow.declaredNodes =
          (SubWorkflow.ofParts { p with dependencies := others }).map
            SubWorkflow.declaredNodes := by
  have horder := map_order_of_eq hknown hknown' hedges
  refine ⟨horder, ?_⟩
  rintro p rfl
  exact SubWorkflow.map_declaredNodes_of_eq horder

end Build

namespace Sample

/-- The prerequisites of `roundaboutDependencies`, each listed once and in another place, and an
entry for a node that stands alone. -/
def tidiedDependencies : Dependencies :=
  Dict.ofList [("alone", []), (startNodeId, ["fetch", "login"]), ("fetch", ["login"]),
    ("report", ["login", startNodeId, "fetch"])]

/-- Both have the same edges, so their graphs have the same order. -/
theorem roundabout_tidied :
    (∀ e, e ∈ Graph.edges roundaboutDependencies ↔ e ∈ Graph.edges tidiedDependencies) ∧
      roundaboutDependencies ≠ tidiedDependencies ∧
      (Graph.of roundabout tidiedDependencies).map Graph.order =
        .ok ["login", "fetch", startNodeId, "report", "alone"] := by
  have hknown : Graph.Known roundabout roundaboutDependencies :=
    Graph.known_iff.2 (by decide)
  have hknown' : Graph.Known roundabout tidiedDependencies := Graph.known_iff.2 (by decide)
  have hsubset : Graph.edges roundaboutDependencies ⊆ Graph.edges tidiedDependencies := by decide
  have hsubset' : Graph.edges tidiedDependencies ⊆ Graph.edges roundaboutDependencies := by decide
  have hedges : ∀ e, e ∈ Graph.edges roundaboutDependencies ↔ e ∈ Graph.edges tidiedDependencies :=
    fun e => ⟨fun he => hsubset he, fun he => hsubset' he⟩
  obtain ⟨hsame, -⟩ := Graph.edges_determine_order hknown hknown' hedges
  exact ⟨hedges, by decide, hsame.symm.trans (by decide)⟩

end Sample

end NestedWorkflow
