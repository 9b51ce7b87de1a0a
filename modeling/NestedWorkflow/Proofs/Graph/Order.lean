import Mathlib.Algebra.BigOperators.Group.List.Basic
import Mathlib.Data.List.Nodup
import NestedWorkflow.SubWorkflow

/-!
# The order of an acyclic graph is complete

`Graph.order` takes nodes off a stack until its fuel is spent.  This file shows that the fuel always
lasts until the stack is empty (`emits_order`), and that an acyclic graph then has no node left out
(`mem_order_iff`).  So a sub-workflow declares exactly the nodes it can look up
(`SubWorkflow.mem_declaredNodes_iff`).

The fuel is compared with a *demand*: what is on the stack now, and what the nodes not yet emitted
can still push.  Emitting a node moves its share of the demand onto the stack, and every node taken
off lowers the demand by one.

Completeness uses the invariant `Frontier`: a node whose prerequisites are all emitted is emitted
itself or waits on the stack.  Once the stack is empty, every node that is left out lacks a
prerequisite that is left out too; peeling sources off never removes such a set.
-/

namespace NestedWorkflow

namespace Graph

/-! ### Graphs that pass the check -/

/-- What the check of a graph grants: no node repeats, dependencies stay inside the graph, and none
of them leads in a circle. -/
structure IsDag (g : Graph) : Prop where
  nodup : g.nodes.Nodup
  mem_nodes : ∀ node ∈ mentioned g.dependencies, node ∈ g.nodes
  acyclic : g.isAcyclic = true

/-- A list without a repeated element, none of which was seen before. -/
lemma nodup_of_firstRepeated_eq_none {seen nodes : List NodeId}
    (h : firstRepeated seen nodes = none) : nodes.Nodup ∧ ∀ x ∈ nodes, x ∉ seen := by
  induction nodes generalizing seen with
  | nil => simp
  | cons x rest ih =>
    simp only [firstRepeated] at h
    split at h
    · cases h
    · rename_i hx
      obtain ⟨hnodup, hfresh⟩ := ih h
      have hxrest : x ∉ rest := fun hmem => hfresh x hmem List.mem_cons_self
      refine ⟨List.nodup_cons.2 ⟨hxrest, hnodup⟩, ?_⟩
      intro y hy
      rcases List.mem_cons.1 hy with rfl | hy
      · exact hx
      · exact fun hseen => hfresh y hy (List.mem_cons_of_mem _ hseen)

/-- A graph that passes the check has the given nodes and dependencies and is acyclic. -/
lemma isDag_of_of_eq_ok {nodes : List NodeId} {dependencies : Dependencies} {g : Graph}
    (h : Graph.of nodes dependencies = .ok g) : g = ⟨nodes, dependencies⟩ ∧ g.IsDag := by
  unfold Graph.of at h
  split at h
  · cases h
  · rename_i hrep
    split at h
    · cases h
    · rename_i hfind
      simp only at h
      split at h
      · rename_i hacyclic
        cases h
        refine ⟨rfl, (nodup_of_firstRepeated_eq_none hrep).1, fun node hnode => ?_, hacyclic⟩
        have hcontains := List.find?_eq_none.1 hfind node hnode
        simpa using hcontains
      · cases h

/-- Prerequisites are what the entry of a node lists. -/
lemma mem_prerequisites_iff {g : Graph} {u node : NodeId} :
    u ∈ g.prerequisites node ↔ ∃ needed, (node, needed) ∈ g.dependencies.entries ∧ u ∈ needed := by
  unfold prerequisites
  constructor
  · intro h
    cases hget : g.dependencies.get? node with
    | none => simp [hget] at h
    | some needed => exact ⟨needed, Dict.mem_entries_iff.2 hget, by simpa [hget] using h⟩
  · rintro ⟨needed, hmem, hu⟩
    simpa [Dict.mem_entries_iff.1 hmem] using hu

/-- Dependents and prerequisites are the two ends of one edge. -/
lemma mem_dependents_iff {g : Graph} {u node : NodeId} :
    node ∈ g.dependents u ↔ u ∈ g.prerequisites node := by
  rw [mem_prerequisites_iff]
  unfold dependents
  simp only [List.mem_flatMap, List.mem_reverse, List.mem_replicate, ne_eq, List.count_eq_zero]
  constructor
  · rintro ⟨⟨later, needed⟩, hmem, hcount, rfl⟩
    exact ⟨needed, hmem, not_not.1 hcount⟩
  · rintro ⟨needed, hmem, hu⟩
    exact ⟨(node, needed), hmem, not_not.2 hu, rfl⟩

/-- If dependencies stay inside the graph, both ends of an edge are nodes of it. -/
lemma mem_nodes_of_prerequisite {g : Graph}
    (hmem : ∀ node ∈ mentioned g.dependencies, node ∈ g.nodes) {u node : NodeId}
    (h : u ∈ g.prerequisites node) : u ∈ g.nodes ∧ node ∈ g.nodes := by
  obtain ⟨needed, hentry, hu⟩ := mem_prerequisites_iff.1 h
  constructor
  · exact hmem u (List.mem_flatMap.2 ⟨_, hentry, List.mem_cons_of_mem _ hu⟩)
  · exact hmem node (List.mem_flatMap.2 ⟨_, hentry, List.mem_cons_self⟩)

/-! ### Peeling -/

/-- Peeling keeps every set of nodes in which each node lacks a prerequisite of the set. -/
lemma mem_peelTimes_of_stuck {g : Graph} {stuck : NodeId → Prop}
    (hstuck : ∀ node, stuck node → ∃ u ∈ g.prerequisites node, stuck u) (n : Nat)
    {remaining : List NodeId} (h : ∀ node, stuck node → node ∈ remaining) {node : NodeId}
    (hnode : stuck node) : node ∈ g.peelTimes n remaining := by
  induction n generalizing remaining with
  | zero => exact h node hnode
  | succ n ih =>
    refine ih fun later hlater => ?_
    obtain ⟨u, hu, hus⟩ := hstuck later hlater
    refine List.mem_filter.2 ⟨h later hlater, List.any_eq_true.2 ⟨u, hu, ?_⟩⟩
    simpa using h u hus

/-- In an acyclic graph no set of nodes is stuck on itself. -/
lemma not_stuck_of_isAcyclic {g : Graph} (hacyclic : g.isAcyclic = true) (stuck : NodeId → Prop)
    (hnodes : ∀ node, stuck node → node ∈ g.nodes)
    (hstuck : ∀ node, stuck node → ∃ u ∈ g.prerequisites node, stuck u) (node : NodeId) :
    ¬ stuck node := by
  intro hnode
  have hpeeled : g.peelTimes g.nodes.length g.nodes = [] := List.isEmpty_iff.1 hacyclic
  have hmem := mem_peelTimes_of_stuck hstuck g.nodes.length hnodes hnode
  rw [hpeeled] at hmem
  simp at hmem

/-! ### Emitting -/

/-- The nodes that an emitted node makes ready. -/
def released (g : Graph) (node : NodeId) (done : List NodeId) : List NodeId :=
  ((g.dependents node).filter (g.isReady (node :: done))).reverse

/-- A node is made ready by a prerequisite that is emitted last. -/
lemma mem_released_iff {g : Graph} {node n : NodeId} {done : List NodeId} :
    n ∈ g.released node done ↔ node ∈ g.prerequisites n ∧ g.isReady (node :: done) n = true := by
  rw [released, List.mem_reverse, List.mem_filter, mem_dependents_iff]

/-- Nodes are taken off a stack until it is empty.  One that is emitted already is dropped, any
other one is emitted and pushes the nodes that it makes ready.  The emitted nodes come last first:
those before, and those in the end. -/
inductive Emits (g : Graph) : List NodeId → List NodeId → List NodeId → Prop
  | empty (done : List NodeId) : Emits g [] done done
  | drop {node : NodeId} {stack done all : List NodeId} (h : node ∈ done)
      (hrest : Emits g stack done all) : Emits g (node :: stack) done all
  | push {node : NodeId} {stack done all : List NodeId} (h : node ∉ done)
      (hrest : Emits g (g.released node done ++ stack) (node :: done) all) :
      Emits g (node :: stack) done all

/-! ### Fuel -/

/-- All prerequisites that are listed, with repetitions. -/
def listed (g : Graph) : List NodeId := g.dependencies.entries.flatMap Prod.snd

/-- The pushes that are still to come: each listed prerequisite that is not emitted yet will push
the node that lists it, at most once. -/
def reserve (g : Graph) (done : List NodeId) : Nat := g.listed.countP fun u => u ∉ done

/-- A node has as many dependents as it is listed. -/
lemma length_dependents (g : Graph) (u : NodeId) : (g.dependents u).length = g.listed.count u := by
  have hlength : (g.dependents u).length =
      (g.dependencies.entries.map fun e => e.2.count u).sum := by
    rw [dependents, List.length_flatMap, List.map_reverse, List.sum_reverse]
    simp
  rw [hlength, listed, List.count_flatMap]
  rfl

/-- What emitting a node takes out of the reserve. -/
lemma reserve_eq_add_length_dependents {g : Graph} {done : List NodeId} {node : NodeId}
    (h : node ∉ done) : g.reserve done = g.reserve (node :: done) + (g.dependents node).length := by
  rw [length_dependents]
  unfold reserve
  induction g.listed with
  | nil => simp
  | cons u rest ih =>
    by_cases hu : u = node
    · subst hu
      simp [h] at ih ⊢
      omega
    · simp [List.countP_cons, hu] at ih ⊢
      omega

/-- No more nodes are pushed than the reserve gives up. -/
lemma length_released_le (g : Graph) {node : NodeId} {done : List NodeId} (h : node ∉ done) :
    (g.released node done).length + g.reserve (node :: done) ≤ g.reserve done := by
  have hreserve := g.reserve_eq_add_length_dependents h
  have hpushed : (g.released node done).length ≤ (g.dependents node).length := by
    rw [released, List.length_reverse]
    exact List.length_filter_le _ _
  omega

/-- With fuel for the stack and for all that is still to be pushed, the stack is emptied. -/
theorem emits_emit (g : Graph) {fuel : Nat} {stack done : List NodeId}
    (hfuel : stack.length + g.reserve done ≤ fuel) :
    g.Emits stack done (g.emit fuel stack done) := by
  induction fuel generalizing stack done with
  | zero =>
    have hnil : stack = [] := List.eq_nil_of_length_eq_zero (by omega)
    subst hnil
    exact .empty done
  | succ fuel ih =>
    cases stack with
    | nil => exact .empty done
    | cons node stack =>
      rw [List.length_cons] at hfuel
      rw [emit]
      by_cases hdone : node ∈ done
      · rw [if_pos hdone]
        exact .drop hdone (ih (by omega))
      · rw [if_neg hdone]
        have hpushed := g.length_released_le hdone
        refine .push hdone (ih ?_)
        rw [List.length_append]
        omega

/-! ### What emitting preserves -/

/-- A node whose prerequisites are all emitted is emitted itself or waits on the stack. -/
structure Frontier (g : Graph) (stack done : List NodeId) : Prop where
  mem_nodes : ∀ node ∈ stack, node ∈ g.nodes
  done_subset : ∀ node ∈ done, node ∈ g.nodes
  nodup : done.Nodup
  covers : ∀ node ∈ g.nodes, g.isReady done node = true → node ∈ done ∨ node ∈ stack

/-- A node that becomes ready with the next emission waits for exactly that node. -/
lemma mem_released {g : Graph} {node next : NodeId} {done : List NodeId}
    (hready : g.isReady (node :: done) next = true) (hbefore : ¬ g.isReady done next = true) :
    next ∈ g.released node done := by
  simp only [isReady, List.all_eq_true, List.contains_eq_mem, decide_eq_true_eq, not_forall]
    at hready hbefore
  obtain ⟨u, hu, hdone⟩ := hbefore
  have hnode : u = node := by
    rcases List.mem_cons.1 (hready u hu) with h | h
    · exact h
    · exact absurd h hdone
  subst hnode
  refine mem_released_iff.2 ⟨hu, ?_⟩
  simpa [isReady] using hready

/-- A node on the stack that is emitted already can be dropped. -/
lemma Frontier.skip {g : Graph} {node : NodeId} {stack done : List NodeId}
    (h : g.Frontier (node :: stack) done) (hnode : node ∈ done) : g.Frontier stack done where
  mem_nodes n hn := h.mem_nodes n (List.mem_cons_of_mem _ hn)
  done_subset := h.done_subset
  nodup := h.nodup
  covers n hn hready := by
    rcases h.covers n hn hready with hdone | hstack
    · exact .inl hdone
    · rcases List.mem_cons.1 hstack with rfl | hstack
      · exact .inl hnode
      · exact .inr hstack

/-- Emitting the top of the stack pushes what becomes ready. -/
lemma Frontier.emit {g : Graph} (hg : g.IsDag) {node : NodeId} {stack done : List NodeId}
    (h : g.Frontier (node :: stack) done) (hnode : node ∉ done) :
    g.Frontier (g.released node done ++ stack) (node :: done) where
  mem_nodes n hn := by
    rcases List.mem_append.1 hn with hreleased | hstack
    · exact (mem_nodes_of_prerequisite hg.mem_nodes (mem_released_iff.1 hreleased).1).2
    · exact h.mem_nodes n (List.mem_cons_of_mem _ hstack)
  done_subset n hn := by
    rcases List.mem_cons.1 hn with rfl | hdone
    · exact h.mem_nodes n List.mem_cons_self
    · exact h.done_subset n hdone
  nodup := List.nodup_cons.2 ⟨hnode, h.nodup⟩
  covers n hn hready := by
    by_cases hbefore : g.isReady done n = true
    · rcases h.covers n hn hbefore with hdone | hstack
      · exact .inl (List.mem_cons_of_mem _ hdone)
      · rcases List.mem_cons.1 hstack with rfl | hstack
        · exact .inl List.mem_cons_self
        · exact .inr (List.mem_append_right _ hstack)
    · exact .inr (List.mem_append_left _ (mem_released hready hbefore))

/-- When the stack is empty, no node is ready but left out. -/
lemma Frontier.emits {g : Graph} (hg : g.IsDag) {stack done all : List NodeId}
    (hemits : g.Emits stack done all) (h : g.Frontier stack done) : g.Frontier [] all := by
  induction hemits with
  | empty done => exact h
  | drop hdone _ ih => exact ih (h.skip hdone)
  | push hdone _ ih => exact ih (h.emit hg hdone)

/-! ### Completeness -/

/-- The nodes without prerequisites. -/
def sources (g : Graph) : List NodeId := g.nodes.filter fun node => (g.prerequisites node).isEmpty

/-- Before the first emission the nodes without prerequisites wait on the stack. -/
lemma frontier_sources (g : Graph) : g.Frontier g.sources.reverse [] where
  mem_nodes n hn := (List.mem_filter.1 (List.mem_reverse.1 hn)).1
  done_subset n hn := by simp at hn
  nodup := List.nodup_nil
  covers n hn hready := by
    have hnone : g.prerequisites n = [] := by
      rw [List.eq_nil_iff_forall_not_mem]
      intro u hu
      have := List.all_eq_true.1 hready u hu
      simp at this
    exact .inr (List.mem_reverse.2 (List.mem_filter.2 ⟨hn, by simp [hnone]⟩))

/-- The order is what is emitted from the nodes without prerequisites, until the stack is empty. -/
theorem emits_order (g : Graph) : g.Emits g.sources.reverse [] g.order.reverse := by
  have hfuel : g.sources.reverse.length + g.reserve [] ≤ g.nodes.length + g.listed.length := by
    rw [List.length_reverse]
    exact Nat.add_le_add (List.length_filter_le _ _) List.countP_le_length
  have hemits := g.emits_emit hfuel
  rwa [← List.reverse_reverse (g.emit _ _ _)] at hemits

/-- The emission that gives the order ends with an empty stack. -/
lemma IsDag.frontier_order {g : Graph} (hg : g.IsDag) : g.Frontier [] g.order.reverse :=
  .emits hg g.emits_order g.frontier_sources

/-- No node repeats in the order. -/
theorem nodup_order {g : Graph} (hg : g.IsDag) : g.order.Nodup :=
  List.nodup_reverse.1 hg.frontier_order.nodup

/-- The order of a graph that passed the check consists of its nodes, all of them. -/
theorem mem_order_iff {g : Graph} (hg : g.IsDag) {node : NodeId} :
    node ∈ g.order ↔ node ∈ g.nodes := by
  have hend := hg.frontier_order
  rw [← List.mem_reverse]
  set done := g.order.reverse
  refine ⟨hend.done_subset node, ?_⟩
  intro hnode
  by_contra hleft
  -- What is left out is stuck on itself.
  refine not_stuck_of_isAcyclic hg.acyclic (fun n => n ∈ g.nodes ∧ n ∉ done)
    (fun _ hn => hn.1) ?_ node ⟨hnode, hleft⟩
  rintro n ⟨hmem, hleft⟩
  have hwaits : ¬ g.isReady done n = true := by
    intro hready
    rcases hend.covers n hmem hready with h | h
    · exact hleft h
    · simp at h
  simp only [isReady, List.all_eq_true, List.contains_eq_mem, decide_eq_true_eq, not_forall]
    at hwaits
  obtain ⟨u, hu, hudone⟩ := hwaits
  exact ⟨u, hu, (mem_nodes_of_prerequisite hg.mem_nodes hu).1, hudone⟩

end Graph

/-! ### Declared nodes -/

namespace SubWorkflow

/-- What the check of the parts of a sub-workflow grants. -/
lemma Parts.of_check_eq_ok {p : Parts} (h : p.check = .ok ()) :
    Graph.IsDag ⟨p.nodeIds, p.dependencies⟩ ∧ startNodeId ∈ p.nodeIds ∧
      ∀ node, p.failureNode = some node → node.id ∉ p.nodeIds := by
  unfold Parts.check at h
  split at h
  · cases h
  · rename_i g hg
    obtain ⟨rfl, hdag⟩ := Graph.isDag_of_of_eq_ok hg
    split at h
    · cases h
    · rename_i hstart
      refine ⟨hdag, not_not.1 hstart, ?_⟩
      intro node hnode
      split at h
      · cases h
      · simp only [hnode] at h
        split at h
        · cases h
        · rename_i hmem
          exact hmem

/-- The graph of a sub-workflow passed the check. -/
lemma isDag_graph (s : SubWorkflow) : s.graph.IsDag :=
  (Parts.of_check_eq_ok s.wellFormed).1

/-- The failure node is not the start node, which belongs to the graph. -/
lemma failureNode_ne_startNode (s : SubWorkflow) {node : Node} (h : s.failureNode = some node) :
    node.id ≠ startNodeId := by
  obtain ⟨-, hstart, hfailure⟩ := Parts.of_check_eq_ok s.wellFormed
  intro heq
  exact hfailure node h (heq ▸ hstart)

/-- No declared node repeats. -/
theorem nodup_declaredNodes (s : SubWorkflow) : s.declaredNodes.Nodup := by
  obtain ⟨hdag, -, hfailure⟩ := Parts.of_check_eq_ok s.wellFormed
  refine List.nodup_append.2 ⟨Graph.nodup_order hdag, ?_, fun a ha b hb => ?_⟩
  · cases s.failureNode <;> simp
  · obtain ⟨node, hnode, rfl⟩ := List.mem_map.1 hb
    rintro rfl
    exact hfailure node (Option.mem_toList.1 hnode) ((Graph.mem_order_iff hdag).1 ha)

/-- A sub-workflow declares exactly the nodes that it can look up. -/
theorem mem_declaredNodes_iff (s : SubWorkflow) {id : NodeId} :
    id ∈ s.declaredNodes ↔ (s.node? id).isSome := by
  have horder : id ∈ s.graph.order ↔ ∃ n ∈ s.nodes, n.id = id := by
    rw [Graph.mem_order_iff s.isDag_graph]
    exact List.mem_map
  rw [declaredNodes, List.mem_append, horder, List.mem_map, node?, List.find?_isSome]
  simp only [List.mem_append, beq_iff_eq]
  constructor
  · rintro (⟨n, hn, rfl⟩ | ⟨n, hn, rfl⟩)
    · exact ⟨n, .inl hn, rfl⟩
    · exact ⟨n, .inr hn, rfl⟩
  · rintro ⟨n, hn | hn, rfl⟩
    · exact .inl ⟨n, hn, rfl⟩
    · exact .inr ⟨n, hn, rfl⟩

/-- The start node is declared. -/
lemma startNodeId_mem_declaredNodes (s : SubWorkflow) : startNodeId ∈ s.declaredNodes := by
  obtain ⟨hdag, hstart, -⟩ := Parts.of_check_eq_ok s.wellFormed
  exact List.mem_append_left _ ((Graph.mem_order_iff hdag).2 hstart)

end SubWorkflow

end NestedWorkflow
