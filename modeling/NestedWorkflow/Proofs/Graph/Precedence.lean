import NestedWorkflow.Proofs.Graph.Order

/-!
# Prerequisites come first

The order of a graph that passed its check lists every node once, and a node only behind everything
it depends on (`Graph.order_sorted`).  It comes about by emitting nodes from a stack, which ends for
every graph and in one way only (`Graph.Emits.unique`).

A node is pushed when its prerequisites are emitted, and it may be pushed several times, once for
each time a prerequisite is listed.  The invariant is that all nodes on the stack are ready: then
whichever copy is taken off first, the node is emitted onto a list that has its prerequisites
already (`Graph.Backed`).
-/

namespace NestedWorkflow

namespace Graph

/-! ### Lists that are backed -/

/-- Whatever a node of the list calls for stands behind it in the list. -/
inductive Backed (calls : NodeId → List NodeId) : List NodeId → Prop
  | nil : Backed calls []
  | cons {node : NodeId} {rest : List NodeId} (h : ∀ x ∈ calls node, x ∈ rest)
      (hrest : Backed calls rest) : Backed calls (node :: rest)

/-- What a node calls for stands behind every place of the node. -/
lemma Backed.mem_behind {calls : NodeId → List NodeId} {front back : List NodeId} {node x : NodeId}
    (h : Backed calls (front ++ node :: back)) (hx : x ∈ calls node) : x ∈ back := by
  induction front with
  | nil =>
    cases h with
    | cons hnode _ => exact hnode x hx
  | cons first front ih =>
    cases h with
    | cons _ hrest => exact ih hrest

/-! ### Emitting nodes that are ready -/

/-- Emitting comes to one end only. -/
lemma Emits.unique {g : Graph} {stack done all others : List NodeId} (h : g.Emits stack done all)
    (h' : g.Emits stack done others) : others = all := by
  induction h with
  | empty done =>
    cases h' with
    | empty _ => rfl
  | drop hdone _ ih =>
    cases h' with
    | drop _ hrest => exact ih hrest
    | push hnew _ => exact absurd hdone hnew
  | push hnew _ ih =>
    cases h' with
    | drop hdone _ => exact absurd hdone hnew
    | push _ hrest => exact ih hrest

/-- What is ready stays ready when more is emitted. -/
lemma isReady_cons {g : Graph} {done : List NodeId} {node n : NodeId}
    (h : g.isReady done n = true) : g.isReady (node :: done) n = true := by
  have hdone : ∀ u ∈ g.prerequisites n, u ∈ done := by simpa [isReady] using h
  have hmore : ∀ u ∈ g.prerequisites n, u ∈ node :: done :=
    fun u hu => List.mem_cons_of_mem node (hdone u hu)
  simpa [isReady] using hmore

/-- From a stack of nodes that are ready, every node is emitted behind its prerequisites. -/
theorem Emits.backed {g : Graph} {stack done all : List NodeId} (h : g.Emits stack done all)
    (hready : ∀ n ∈ stack, g.isReady done n = true) (hdone : Backed g.prerequisites done) :
    Backed g.prerequisites all := by
  induction h with
  | empty done => exact hdone
  | drop _ _ ih => exact ih (fun n hn => hready n (List.mem_cons_of_mem _ hn)) hdone
  | @push node stack done all _ _ ih =>
    have htop : ∀ u ∈ g.prerequisites node, u ∈ done := by
      simpa [isReady] using hready node List.mem_cons_self
    refine ih ?_ (.cons htop hdone)
    intro n hn
    rcases List.mem_append.1 hn with hreleased | hstack
    · exact (mem_released_iff.1 hreleased).2
    · exact isReady_cons (hready n (List.mem_cons_of_mem _ hstack))

/-- The order, read from its end, has every node in front of its prerequisites. -/
lemma backed_order (g : Graph) : Backed g.prerequisites g.order.reverse := by
  refine g.emits_order.backed ?_ .nil
  intro n hn
  have hnone : g.prerequisites n = [] := by
    simpa using (List.mem_filter.1 (List.mem_reverse.1 hn)).2
  simp [isReady, hnone]

/-- In the order a prerequisite has a smaller index than the node that lists it. -/
lemma idxOf_order_lt {g : Graph} (hg : g.IsDag) {u node : NodeId}
    (hu : u ∈ g.prerequisites node) : g.order.idxOf u < g.order.idxOf node := by
  have hnode : node ∈ g.order.reverse :=
    List.mem_reverse.2 ((mem_order_iff hg).2 (mem_nodes_of_prerequisite hg.mem_nodes hu).2)
  obtain ⟨front, back, hsplit⟩ := List.append_of_mem hnode
  have hbacked := g.backed_order
  rw [hsplit] at hbacked
  have hbefore : u ∈ back.reverse := List.mem_reverse.2 (hbacked.mem_behind hu)
  have horder : g.order = back.reverse ++ node :: front.reverse := by
    rw [← List.reverse_reverse g.order, hsplit]
    simp
  have hnodup := nodup_order hg
  rw [horder] at hnodup ⊢
  have hnew : node ∉ back.reverse := fun hmem =>
    (List.nodup_append.1 hnodup).2.2 node hmem node List.mem_cons_self rfl
  rw [List.idxOf_append_of_mem hbefore, List.idxOf_append_of_notMem hnew, List.idxOf_cons_self,
    Nat.add_zero]
  exact List.idxOf_lt_length_of_mem hbefore

/-- The order of a graph that passed its check: emitting nodes from a stack, first those without
prerequisites and then whatever becomes ready, comes to an end and gives the order; every node is in
it, once, and nothing else is; and everything that a node depends on comes strictly before it. -/
theorem order_sorted {nodes : List NodeId} {dependencies : Dependencies} {g : Graph}
    (h : Graph.of nodes dependencies = .ok g) :
    (∀ all, g.Emits g.sources.reverse [] all ↔ all = g.order.reverse) ∧
      g.order.Nodup ∧ (∀ id, id ∈ g.order ↔ id ∈ nodes) ∧
      ∀ node needed, dependencies.get? node = some needed → ∀ u ∈ needed,
        g.order.idxOf u < g.order.idxOf node := by
  obtain ⟨rfl, hdag⟩ := isDag_of_of_eq_ok h
  refine ⟨fun all => ⟨fun hemits => ?_, ?_⟩, nodup_order hdag, fun id => mem_order_iff hdag, ?_⟩
  · exact (emits_order _).unique hemits
  · rintro rfl
    exact emits_order _
  · intro node needed hneeded u hu
    refine idxOf_order_lt hdag (mem_prerequisites_iff.2 ⟨needed, ?_, hu⟩)
    exact Dict.mem_entries_iff.2 hneeded

end Graph

/-! ### A start node with prerequisites -/

namespace Sample

/-- Nodes of a graph in which the start node is not the first, and one stands alone. -/
def roundabout : List NodeId := ["report", startNodeId, "alone", "fetch", "login"]

/-- Prerequisites, some of them listed twice. -/
def roundaboutDependencies : Dependencies :=
  Dict.ofList [(startNodeId, ["login", "fetch", "login"]), ("fetch", ["login"]),
    ("report", ["fetch", startNodeId, "fetch", "login"])]

/-- The order of this graph. -/
theorem roundabout_sorted :
    ∃ g, Graph.of roundabout roundaboutDependencies = .ok g ∧
      g.order = ["login", "fetch", startNodeId, "report", "alone"] ∧ g.order.Nodup ∧
      g.order.idxOf "login" < g.order.idxOf startNodeId := by
  have hpasses : Graph.of roundabout roundaboutDependencies =
      .ok ⟨roundabout, roundaboutDependencies⟩ := by decide
  obtain ⟨-, hnodup, -, hfirst⟩ := Graph.order_sorted hpasses
  have hneeded : roundaboutDependencies.get? startNodeId = some ["login", "fetch", "login"] := by
    decide
  exact ⟨_, hpasses, by decide, hnodup, hfirst startNodeId _ hneeded "login" (by decide)⟩

end Sample

end NestedWorkflow
