import NestedWorkflow.Graph
import NestedWorkflow.Node

/-!
# Sub-workflows

A sub-workflow is a graph of nodes that a workflow node executes as its body.  Its parts are checked
once, when it is built: the graph is acyclic and has a start node, outputs are taken from nodes of
the graph, and the failure node, which stands outside the graph, has an identifier of its own.  The
check is part of the type, so every sub-workflow has its declared nodes
(`SubWorkflow.declaredNodes`); parts that were not checked have them if their graph passes its check
(`SubWorkflow.Parts.declaredNodes`).

A `WorkflowContext` is the enclosing workflow as its nodes see it: it resolves references.
-/

namespace NestedWorkflow

/-- Makes an output of one of its nodes an output of the workflow. -/
structure OutputBinding where
  var : String
  fromNode : NodeId
  fromVar : String
deriving DecidableEq

/-- The parts of a sub-workflow, not yet checked. -/
structure SubWorkflow.Parts where
  id : SubWorkflowId
  nodes : List Node
  dependencies : Dependencies
  bindings : List OutputBinding
  failureNode : Option Node
deriving DecidableEq

namespace SubWorkflow.Parts

/-- The identifiers of the nodes in the graph. -/
def nodeIds (p : Parts) : List NodeId := p.nodes.map Node.id

/-- The parts make a sub-workflow, or what is wrong with them first. -/
def check (p : Parts) : Except GraphError Unit :=
  match Graph.of p.nodeIds p.dependencies with
  | .error e => .error e
  | .ok _ =>
    if startNodeId ∉ p.nodeIds then .error (.missingStartNode p.id)
    else
      match p.bindings.find? fun b => !p.nodeIds.contains b.fromNode with
      | some b => .error (.unknownNode b.fromNode)
      | none =>
        match p.failureNode with
        | none => .ok ()
        | some node =>
          if node.id ∈ p.nodeIds then .error (.duplicateNode node.id) else .ok ()

/-- The declared nodes, if the graph passes its check once more. -/
def declaredNodes (p : Parts) : Except GraphError (List NodeId) :=
  (Graph.of p.nodeIds p.dependencies).map fun g => g.order ++ p.failureNode.toList.map Node.id

/-- Only reports name the sub-workflow: whether the check passes does not depend on its name. -/
theorem check_withId {p : Parts} (h : p.check = .ok ()) (id : SubWorkflowId) :
    check { p with id := id } = .ok () := by
  have hn : nodeIds { p with id := id } = p.nodeIds := rfl
  unfold check at *
  cases hg : Graph.of p.nodeIds p.dependencies with
  | error e => simp [hg] at h
  | ok g =>
    by_cases hs : startNodeId ∉ p.nodeIds
    · simp [hg, hs] at h
    · simp only [hg, hs, if_false] at h
      simpa only [hn, hg, hs, if_false] using h

end SubWorkflow.Parts

/-- A nested workflow graph that can be executed on its own. -/
structure SubWorkflow extends SubWorkflow.Parts where
  wellFormed :
    SubWorkflow.Parts.check ⟨id, nodes, dependencies, bindings, failureNode⟩ = .ok ()

instance : DecidableEq SubWorkflow := fun s t =>
  if h : s.toParts = t.toParts then
    isTrue (by cases s; cases t; cases h; rfl)
  else isFalse fun hst => h (congrArg SubWorkflow.toParts hst)

namespace SubWorkflow

/-! ### Construction -/

/-- Check the parts of a sub-workflow. -/
def ofParts (p : Parts) : Except GraphError SubWorkflow :=
  match h : p.check with
  | .ok () => .ok ⟨p, h⟩
  | .error e => .error e

/-- A sub-workflow without outputs and without a failure node. -/
def new (id : SubWorkflowId) (nodes : List Node) (dependencies : Dependencies) :
    Except GraphError SubWorkflow :=
  ofParts ⟨id, nodes, dependencies, [], none⟩

/-- The sub-workflow with other outputs. -/
def withBindings (s : SubWorkflow) (bindings : List OutputBinding) :
    Except GraphError SubWorkflow :=
  ofParts { s.toParts with bindings := bindings }

/-- The sub-workflow with a failure node. -/
def withFailureNode (s : SubWorkflow) (node : Node) : Except GraphError SubWorkflow :=
  ofParts { s.toParts with failureNode := some node }

/-- The sub-workflow under another name. -/
def withId (s : SubWorkflow) (id : SubWorkflowId) : SubWorkflow :=
  ⟨{ s.toParts with id := id }, Parts.check_withId s.wellFormed id⟩

/-! ### Nodes -/

/-- The exit point of the graph, if it has one. -/
def endNode? (s : SubWorkflow) : Option Node := s.nodes.find? fun n => n.id == endNodeId

/-- A node of the graph, or the failure node. -/
def node? (s : SubWorkflow) (id : NodeId) : Option Node :=
  (s.nodes ++ s.failureNode.toList).find? fun n => n.id == id

/-- The dependency graph. -/
def graph (s : SubWorkflow) : Graph := ⟨s.nodeIds, s.dependencies⟩

/-- Every node that has a status: those of the graph in dependency order, then the failure node. -/
def declaredNodes (s : SubWorkflow) : List NodeId :=
  s.graph.order ++ s.failureNode.toList.map Node.id

end SubWorkflow

/-! ### Documents -/

namespace OutputBinding

/-- The fields of an output binding. -/
inductive Field
  | var
  | fromNode
  | fromVar
deriving DecidableEq

/-- The form of output bindings in documents. -/
def shape (_nesting : Nat) : Json.Shape Field fun _ => String where
  fields := [.var, .fromNode, .fromVar]
  name
    | .var => "var"
    | .fromNode => "from_node"
    | .fromVar => "from_var"
  defaulted _ := false
  reader _ := Json.text

/-- The document of an output binding. -/
def toJson (b : OutputBinding) : Json.Value :=
  .record [("var", .text b.var), ("from_node", .text b.fromNode), ("from_var", .text b.fromVar)]

/-- Read an output binding. -/
def ofJson (nesting : Nat) (v : Json.Value) : Except Json.Error OutputBinding := do
  let d ← Json.Shape.readDraft shape nesting v
  let var ← (shape nesting).require d .var
  let fromNode ← (shape nesting).require d .fromNode
  let fromVar ← (shape nesting).require d .fromVar
  return ⟨var, fromNode, fromVar⟩

end OutputBinding

namespace SubWorkflow

/-- The fields of a sub-workflow. -/
inductive Field
  | id
  | nodes
  | dependencies
  | bindings
  | failureNode
deriving DecidableEq

/-- What the fields of a sub-workflow hold. -/
abbrev Field.Content : Field → Type
  | .id => SubWorkflowId
  | .nodes => List Node
  | .dependencies => Dependencies
  | .bindings => List OutputBinding
  | .failureNode => Option Node

/-- The form of sub-workflows in documents. -/
def shape (nesting : Nat) : Json.Shape Field Field.Content where
  fields := [.id, .nodes, .dependencies, .bindings, .failureNode]
  name
    | .id => "id"
    | .nodes => "nodes"
    | .dependencies => "dependencies"
    | .bindings => "output_bindings"
    | .failureNode => "on_failure_node"
  defaulted
    | .id => false
    | .nodes => false
    | _ => true
  reader
    | .id => Json.text
    | .nodes => Json.list Node.ofJson nesting
    | .dependencies => Json.dictionary (Json.list fun _ => Json.text) nesting
    | .bindings => Json.list OutputBinding.ofJson nesting
    | .failureNode => Json.optional (Node.ofJson nesting)

/-- The document of a sub-workflow. -/
def toJson (s : SubWorkflow) : Json.Value :=
  .record [("id", .text s.id), ("nodes", .list (s.nodes.map Node.toJson)),
    ("dependencies",
      .record (s.dependencies.entries.map fun (id, needed) => (id, .list (needed.map .text)))),
    ("output_bindings", .list (s.bindings.map OutputBinding.toJson)),
    ("on_failure_node", .nullable (s.failureNode.map Node.toJson))]

/-- Read a sub-workflow and check it. -/
def ofJson (nesting : Nat) (v : Json.Value) : Except Json.Error SubWorkflow := do
  let d ← Json.Shape.readDraft shape nesting v
  let id ← (shape nesting).require d .id
  let nodes ← (shape nesting).require d .nodes
  let parts : Parts :=
    ⟨id, nodes, (d .dependencies).getD Dict.empty, (d .bindings).getD [],
      (d .failureNode).getD none⟩
  match ofParts parts with
  | .ok s => .ok s
  | .error e => .error (.rejected e.message)

/-- The text of a sub-workflow's document. -/
def toText (s : SubWorkflow) : String := s.toJson.toText

/-- Read a sub-workflow from the text of its document. -/
def ofText (text : String) : Except Json.Error SubWorkflow := Json.decodeText ofJson text

end SubWorkflow

/-- The enclosing workflow as its nodes see it. -/
structure WorkflowContext where
  workflowId : String
  subWorkflows : Dict SubWorkflow

namespace WorkflowContext

/-- Make a sub-workflow known under its identifier, in place of an earlier one. -/
def register (c : WorkflowContext) (s : SubWorkflow) : WorkflowContext :=
  { c with subWorkflows := c.subWorkflows.insert s.id s }

/-- The sub-workflow of an identifier. -/
def find? (c : WorkflowContext) (id : SubWorkflowId) : Option SubWorkflow :=
  c.subWorkflows.get? id

end WorkflowContext

end NestedWorkflow
