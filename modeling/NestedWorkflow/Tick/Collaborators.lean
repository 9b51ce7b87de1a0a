import NestedWorkflow.Inputs
import NestedWorkflow.Lookup

/-!
# Collaborators of a tick

What a workflow node works with during a tick: the reader of its inputs, the recursive executor, the
artifact store, and the hook that schedules another tick.  They are functions over the state `σ` of
the world outside, which every call may read and change.

An executor gets a lookup and may change the statuses of declared nodes.  It does so by visits, so a
status that it cannot reach through the lookup is out of its hands.  A call with its answer and the
world that it left is an `Exchange`.
-/

namespace NestedWorkflow

/-- State of a whole graph after the executor went through it. -/
inductive Rollup
  | running
  /-- Some nodes are done and others became ready: another pass is due. -/
  | partiallyComplete
  | complete
  | failed (error : Option ExecutionError)
deriving DecidableEq

/-- A declared node to reach, and what to do with its status. -/
structure Visit where
  node : NodeId
  edit : Status → Status

/-- What an executor gives back: a result or the text of its failure, and the visits it made. -/
structure Answer (α : Type) where
  result : Except String α
  visits : List Visit

/-- The lookup after visits.  A visit to a node without a status changes nothing. -/
def Lookup.visitAll (l : Lookup) (visits : List Visit) : Lookup :=
  visits.foldl
    (fun l v =>
      match l.visit v.node v.edit with
      | .ok l' => l'
      | .error _ => l)
    l

/-- What a tick can call. -/
structure Collaborators (σ : Type) where
  /-- Read the inputs of the node. -/
  readInputs : σ → Except InputError LiteralMap × σ
  /-- Make literals the outputs of the start node. -/
  seed : WorkflowContext → Lookup → LiteralMap → σ → Answer Rollup × σ
  /-- Drive the graph forward from a node. -/
  drive : WorkflowContext → Lookup → NodeId → σ → Answer Rollup × σ
  /-- Abort every node that can be reached from a node, for a reason. -/
  abort : WorkflowContext → Lookup → NodeId → String → σ → Answer Unit × σ
  /-- Probe an artifact. -/
  head : Reference → σ → Except StorageError Metadata × σ
  /-- Copy an artifact. -/
  copy : Reference → Reference → σ → Except StorageError Unit × σ
  /-- Schedule another tick for the workflow that owns the node. -/
  enqueue : σ → Except String Unit × σ

/-- One call of a collaborator, and what it answered. -/
inductive Call
  | readInputs (answer : Except InputError LiteralMap)
  | seed (lookup : Lookup) (inputs : LiteralMap) (answer : Answer Rollup)
  | drive (lookup : Lookup) (start : NodeId) (answer : Answer Rollup)
  | abort (lookup : Lookup) (start : NodeId) (reason : String) (answer : Answer Unit)
  | head (path : Reference) (answer : Except StorageError Metadata)
  | copy (source destination : Reference) (answer : Except StorageError Unit)
  | enqueue (answer : Except String Unit)

/-- A call, and the world that it left. -/
structure Exchange (σ : Type) where
  call : Call
  world : σ

end NestedWorkflow
