import NestedWorkflow.Dict
import NestedWorkflow.Reference

/-!
# Dependency graphs

A graph is given by its nodes in order and, for some of them, the prerequisites they depend on.
`Graph.of` refuses what is no acyclic graph and reports the first defect.  `Graph.order` lists the
nodes so that prerequisites come first: it keeps a stack of nodes that are ready, emits the last one
pushed, and pushes every successor that has become ready through it.
-/

namespace NestedWorkflow

/-- Structural defects of a workflow graph. -/
inductive GraphError
  | duplicateNode (node : NodeId)
  | unknownNode (node : NodeId)
  | missingStartNode (subWorkflow : SubWorkflowId)
  | cycle
deriving DecidableEq

/-- The report of a defect. -/
def GraphError.message : GraphError → String
  | .duplicateNode node => "node " ++ node ++ " is defined more than once"
  | .unknownNode node => "node " ++ node ++ " is referenced but not defined"
  | .missingStartNode subWorkflow => "sub-workflow " ++ subWorkflow ++ " has no start node"
  | .cycle => "workflow contains circular dependencies"

/-- For some nodes, the prerequisites they depend on. -/
abbrev Dependencies := Dict (List NodeId)

/-- Nodes in order, and what they depend on. -/
structure Graph where
  nodes : List NodeId
  dependencies : Dependencies
deriving DecidableEq

namespace Graph

/-- The first element that occurred before. -/
def firstRepeated (seen : List NodeId) : List NodeId → Option NodeId
  | [] => none
  | x :: rest => if x ∈ seen then some x else firstRepeated (x :: seen) rest

/-- All nodes that dependencies speak of: each key, then its prerequisites. -/
def mentioned (dependencies : Dependencies) : List NodeId :=
  dependencies.entries.flatMap fun (node, needed) => node :: needed

/-- The nodes that a node depends on. -/
def prerequisites (g : Graph) (node : NodeId) : List NodeId := (g.dependencies.get? node).getD []

/-- The nodes that depend on a node, by decreasing identifier.  A node that lists it several times
occurs as often. -/
def dependents (g : Graph) (node : NodeId) : List NodeId :=
  g.dependencies.entries.reverse.flatMap fun (later, needed) =>
    List.replicate (needed.count node) later

/-! ### Acyclicity -/

/-- Those of the remaining nodes that depend on a remaining node. -/
def peel (g : Graph) (remaining : List NodeId) : List NodeId :=
  remaining.filter fun node => (g.prerequisites node).any fun u => remaining.contains u

/-- What is left after peeling a number of times. -/
def peelTimes (g : Graph) : Nat → List NodeId → List NodeId
  | 0, remaining => remaining
  | n + 1, remaining => g.peelTimes n (g.peel remaining)

/-- No dependency leads in a circle: peeling ends with nothing. -/
def isAcyclic (g : Graph) : Bool := (g.peelTimes g.nodes.length g.nodes).isEmpty

/-! ### Order -/

/-- All prerequisites are done. -/
def isReady (g : Graph) (done : List NodeId) (node : NodeId) : Bool :=
  (g.prerequisites node).all fun u => done.contains u

/-- Emit the nodes of a stack, whose top comes first, and those that become ready; `done` holds the
nodes emitted so far, the last one first.  Fuel counts the nodes taken off the stack. -/
def emit (g : Graph) : Nat → List NodeId → List NodeId → List NodeId
  | 0, _, done => done
  | _ + 1, [], done => done
  | fuel + 1, node :: stack, done =>
    if node ∈ done then g.emit fuel stack done
    else
      let done := node :: done
      g.emit fuel (((g.dependents node).filter (g.isReady done)).reverse ++ stack) done

/-- The nodes, prerequisites first.  A node enters the stack at the start or for a prerequisite that
it lists, so the fuel covers every entry. -/
def order (g : Graph) : List NodeId :=
  let sources := g.nodes.filter fun node => (g.prerequisites node).isEmpty
  let listed := (g.dependencies.entries.flatMap Prod.snd).length
  (g.emit (g.nodes.length + listed) sources.reverse []).reverse

/-! ### Construction -/

/-- The graph of nodes and their dependencies. -/
def of (nodes : List NodeId) (dependencies : Dependencies) : Except GraphError Graph :=
  match firstRepeated [] nodes with
  | some node => .error (.duplicateNode node)
  | none =>
    match (mentioned dependencies).find? fun node => !nodes.contains node with
    | some node => .error (.unknownNode node)
    | none =>
      let g : Graph := ⟨nodes, dependencies⟩
      if g.isAcyclic then .ok g else .error .cycle

/-- Whether a node belongs to the graph. -/
def contains (g : Graph) (id : NodeId) : Bool := g.nodes.contains id

end Graph

end NestedWorkflow
