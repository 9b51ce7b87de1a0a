import NestedWorkflow.Identity
import NestedWorkflow.Status
import NestedWorkflow.SubWorkflow

/-!
# Lookups

A lookup binds the nodes of a sub-workflow to the statuses kept under the node that encloses it.  It
is what an executor is given for one tick: the executor may look at everything, and change the
statuses of declared nodes (`Lookup.visit`).

`Lookup.link` gives every declared node its identity under an attempt of the enclosing node.  All
identifiers are computed before the first status is touched.  `Lookup.relink` does the same for
parts whose graph may still turn out to have a defect.
-/

namespace NestedWorkflow

/-- Why a node has no status to work with. -/
inductive LookupError
  | missingUniqueId
  | unknownNode (node : NodeId) (subWorkflow : SubWorkflowId)
  | status (e : StatusError)
  | id (e : UniqueId.Error)
deriving DecidableEq

/-- The report of an error. -/
def LookupError.message : LookupError → String
  | .missingUniqueId => "enclosing node has no unique ID"
  | .unknownNode node subWorkflow =>
    "node " ++ node ++ " is not declared in sub-workflow " ++ subWorkflow
  | .status e => e.message
  | .id e => e.message

/-- A sub-workflow and the status of the node that encloses it. -/
structure Lookup where
  subWorkflow : SubWorkflow
  status : Status

namespace Lookup

/-- The status of a declared node, whether it is there or will be created. -/
def entry (l : Lookup) (id : NodeId) : Except LookupError Status :=
  match l.subWorkflow.node? id with
  | none => .error (.unknownNode id l.subWorkflow.id)
  | some _ => (l.status.entry id).mapError .status

/-- Reach the status of a declared node and change it. -/
def visit (l : Lookup) (id : NodeId) (edit : Status → Status) : Except LookupError Lookup :=
  (l.entry id).map fun c => { l with status := l.status.withChild id (edit c) }

/-! ### Linking -/

/-- The identifiers of nodes under an attempt of their parent. -/
def identify (parent : UniqueId) (attempt length : Nat) :
    List NodeId → Except LookupError (List (NodeId × UniqueId))
  | [] => .ok []
  | node :: rest =>
    match UniqueId.compute node parent attempt length with
    | .error e => .error (.id e)
    | .ok id => (identify parent attempt length rest).map fun ids => (node, id) :: ids

/-- Link children one after the other.  Those before a child without a status stay linked. -/
def linkAll (parent : UniqueId) (attempt : Nat) :
    List (NodeId × UniqueId) → Status → Except LookupError Unit × Status
  | [], s => (.ok (), s)
  | (node, id) :: rest, s =>
    match s.visit node fun c => c.link id parent attempt with
    | .error e => (.error (.status e), s)
    | .ok s' => linkAll parent attempt rest s'

/-- Link every declared node of a sub-workflow to an attempt of the node with the given status. -/
def link (sub : SubWorkflow) (attempt length : Nat) (s : Status) :
    Except LookupError Unit × Status :=
  match s.own.uniqueId with
  | none => (.error .missingUniqueId, s)
  | some parent =>
    match identify parent attempt length sub.declaredNodes with
    | .error e => (.error e, s)
    | .ok ids => linkAll parent attempt ids s

/-- Link the declared nodes of parts whose graph is checked once more.  A defect of the graph shows
on the left. -/
def relink (p : SubWorkflow.Parts) (attempt length : Nat) (s : Status) :
    Except (GraphError ⊕ LookupError) Unit × Status :=
  match s.own.uniqueId with
  | none => (.error (.inr .missingUniqueId), s)
  | some parent =>
    match p.declaredNodes with
    | .error e => (.error (.inl e), s)
    | .ok nodes =>
      match identify parent attempt length nodes with
      | .error e => (.error (.inr e), s)
      | .ok ids =>
        ((linkAll parent attempt ids s).1.mapError .inr, (linkAll parent attempt ids s).2)

end Lookup

end NestedWorkflow
