import NestedWorkflow.Tick.Step

/-!
# The body of a workflow node

A workflow node executes a sub-workflow by driving its graph through the executor.  There are three
ways to spend a tick: start the body, look after it while it executes, and see it through its
failure.  Each of them is a complete tick.

A failure of the graph is recorded in the checkpoint with its error.  From then on the node fails
with that error, unless its failure node fails with one of its own.
-/

namespace NestedWorkflow.Body

open Tick

variable {σ : Type}

/-- The sub-workflow that a node refers to. -/
def resolve (site : TickSite) : Except HandlerError SubWorkflow :=
  match site.node.subWorkflowRef? with
  | none => .error (.notAWorkflowNode site.node.id)
  | some id =>
    match site.workflow.find? id with
    | none => .error (.subWorkflowNotFound id)
    | some sub => .ok sub

/-- A node whose sub-workflow cannot be found fails. -/
def unresolved (e : HandlerError) : Transition :=
  .failed (.system ExecutionError.subWorkflowCode e.message)

/-- The error of a failed graph. -/
def reportedError (error : Option ExecutionError) : ExecutionError :=
  error.getD (.system ExecutionError.subWorkflowCode
    "subworkflow failed without reporting an error")

/-- The error with which the node started to fail. -/
def recordedError (c : Checkpoint) : ExecutionError :=
  c.error.getD (.system ExecutionError.subWorkflowCode
    "subworkflow failed without a recorded error")

/-- Link the children to the current attempt. -/
def linkChildren (site : TickSite) (sub : SubWorkflow) : Tick σ Unit := do
  let s ← status
  let (result, s') := Lookup.link sub s.own.attempts site.config.uniqueIdLength s
  modifyStatus fun _ => s'
  match result with
  | .ok () => return ()
  | .error e => throw (.lookup e)

/-! ### Outputs -/

/-- A failure to bring the outputs of the graph to the enclosing node. -/
def outputFailure (message : String) : Transition :=
  .failed (.system ExecutionError.subWorkflowCode message)

/-- The file of the end node's outputs, if the graph has an end node with a status. -/
def outputSource? (site : TickSite) (sub : SubWorkflow) (s : Status) : Option Reference :=
  match sub.endNode? with
  | none => none
  | some node => (s.child? node.id).map fun c => c.own.outputDir.join site.config.outputsFile

/-- Copy the end node's outputs to where the enclosing node is expected to leave its own, if the
sub-workflow has outputs at all. -/
def propagateOutputs (site : TickSite) (c : Collaborators σ) (sub : SubWorkflow) :
    Tick σ Transition := do
  if sub.bindings.isEmpty then return .succeeded none
  let s ← status
  match outputSource? site sub s with
  | none => return outputFailure "no end node found in subworkflow"
  | some source =>
    match ← head c source with
    | .error e => throw (.storage e)
    | .ok found =>
      if found.exists? = false then
        return outputFailure
          ("subworkflow is expected to produce outputs but no outputs file was written to " ++
            source.path)
      let destination := s.own.outputDir.join site.config.outputsFile
      match ← copy c source destination with
      | .error _ =>
        return outputFailure
          ("failed to copy subworkflow outputs from [" ++ source.path ++ "] to [" ++
            destination.path ++ "]")
      | .ok () => return .succeeded (some destination)

/-! ### Ticks -/

/-- Record the failure of the graph.  A sub-workflow with a failure node gets to run it. -/
def recordFailure (site : TickSite) (sub : SubWorkflow) (error : ExecutionError) :
    Tick σ Transition := do
  let s ← status
  modifyStatus fun s' => s'.setCheckpoint ⟨.failing, some error, s.own.attempts⟩ site.now
  if sub.failureNode.isSome then return .failing error
  return .failed error

/-- Drive the graph once from its start node. -/
def advance (site : TickSite) (c : Collaborators σ) (sub : SubWorkflow) : Tick σ Transition := do
  match ← drive site c sub startNodeId with
  | .failed error => recordFailure site sub (reportedError error)
  | .complete => propagateOutputs site c sub
  | .partiallyComplete =>
    enqueue c
    return .running
  | .running => return .running

/-- Seed the start node with the node's inputs, then drive the graph. -/
def seedAndAdvance (site : TickSite) (c : Collaborators σ) (sub : SubWorkflow) :
    Tick σ Transition := do
  match ← readInputs c with
  | .error e =>
    return .failed (.system ExecutionError.runtimeCode ("failed to read input: " ++ e.report))
  | .ok inputs =>
    match ← seed site c sub inputs with
    | .failed error => return .failed (reportedError error)
    | _ => advance site c sub

/-- First tick of an attempt. -/
def start (site : TickSite) (c : Collaborators σ) : Tick σ Transition := do
  match resolve site with
  | .error e => return unresolved e
  | .ok sub =>
    linkChildren site sub
    seedAndAdvance site c sub

/-- Further ticks, while the body executes. -/
def checkStatus (site : TickSite) (c : Collaborators σ) : Tick σ Transition := do
  match resolve site with
  | .error e => return unresolved e
  | .ok sub =>
    linkChildren site sub
    advance site c sub

/-- Ticks after the body has failed: drive the failure node, if there is one.  Its success only
cleans up, its failure takes the place of the failure of the graph. -/
def handleFailing (site : TickSite) (c : Collaborators σ) : Tick σ Transition := do
  match resolve site with
  | .error e => return unresolved e
  | .ok sub =>
    let s ← status
    let cause := recordedError s.own.checkpoint
    match sub.failureNode with
    | none => return .failed cause
    | some node =>
      match ← drive site c sub node.id with
      | .running => return .running
      | .failed error => return .failed (reportedError error)
      | .partiallyComplete =>
        enqueue c
        return .failing cause
      | .complete => return .failed cause

/-- Abort the graph from its start node. -/
def abort (site : TickSite) (c : Collaborators σ) (reason : String) : Tick σ Unit := do
  match resolve site with
  | .error e => throw e
  | .ok sub => abortFrom site c sub startNodeId reason

end NestedWorkflow.Body
