import NestedWorkflow.Tick.Body

/-!
# Ticks of a workflow node

A workflow node decides from its checkpoint how to spend a tick.  A checkpoint of an earlier attempt
counts for nothing: the body starts over.
-/

namespace NestedWorkflow.WorkflowNode

open Tick

variable {σ : Type}

/-- Only workflow nodes have a body. -/
def ensureWorkflowNode (node : Node) : Except HandlerError Unit :=
  match node.kind with
  | .workflow _ => .ok ()
  | _ => .error (.notAWorkflowNode node.id)

/-- The stage of the current attempt.  A checkpoint of another attempt is replaced. -/
def currentStage (site : TickSite) : Tick σ Stage := do
  let s ← status
  let recorded := s.own.checkpoint
  if recorded.attempt = s.own.attempts then return recorded.stage
  modifyStatus fun s => s.setCheckpoint ⟨.undefined, none, s.own.attempts⟩ site.now
  return .undefined

/-- Note that the body is executing, unless the start already left a note of its own. -/
def recordStart (site : TickSite) : Transition → Tick σ Unit
  | .running => do
    let s ← status
    if s.own.checkpoint.stage = .undefined then
      modifyStatus fun s => s.setCheckpoint ⟨.executing, none, s.own.attempts⟩ site.now
  | _ => return ()

/-- One tick of a workflow node. -/
def handle (site : TickSite) (c : Collaborators σ) : Tick σ Transition := do
  ensureWorkflowNode site.node
  match ← currentStage site with
  | .undefined =>
    let t ← Body.start site c
    recordStart site t
    return t
  | .executing => Body.checkStatus site c
  | .failing => Body.handleFailing site c

/-- Stop a workflow node and everything it started. -/
def abort (site : TickSite) (c : Collaborators σ) (reason : String) : Tick σ Unit := do
  ensureWorkflowNode site.node
  Body.abort site c reason

end NestedWorkflow.WorkflowNode
