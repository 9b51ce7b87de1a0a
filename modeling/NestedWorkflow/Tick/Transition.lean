import NestedWorkflow.Lookup
import NestedWorkflow.Artifact

/-!
# What comes of a tick

A tick ends in a transition, the phase the node is asked to move to.  A tick that ends in an error
made no such decision; the caller tries the whole tick again later.
-/

namespace NestedWorkflow

/-- The phase that a tick asks its node to move to, with the failure or outputs that go with it. -/
inductive Transition
  | running
  | failing (error : ExecutionError)
  | failed (error : ExecutionError)
  | succeeded (output : Option Reference)
deriving DecidableEq

/-- Why a tick made no decision. -/
inductive HandlerError
  | notAWorkflowNode (node : NodeId)
  | subWorkflowNotFound (id : SubWorkflowId)
  | lookup (e : LookupError)
  | executor (text : String)
  | storage (e : StorageError)
  | enqueue (text : String)
deriving DecidableEq

/-- The report of an error. -/
def HandlerError.message : HandlerError → String
  | .notAWorkflowNode node => "node " ++ node ++ " is not a workflow node"
  | .subWorkflowNotFound id => "failed to find sub workflow with ID [" ++ id ++ "]"
  | .lookup e => e.message
  | .executor text => text
  | .storage e => e.message
  | .enqueue text => "failed to enqueue owner workflow: " ++ text

end NestedWorkflow
