import NestedWorkflow.Config
import NestedWorkflow.Tick.Collaborators
import NestedWorkflow.Tick.Transition

/-!
# Steps of a tick

A tick changes the status of its node and the world outside, and keeps the list of its exchanges
with the collaborators.  An error ends the tick; what was changed before stays changed.
-/

namespace NestedWorkflow

/-- Where a tick happens. -/
structure TickSite where
  node : Node
  workflow : WorkflowContext
  config : Config
  now : Instant

/-- What a tick works on. -/
structure TickState (σ : Type) where
  status : Status
  world : σ
  /-- The exchanges so far, the first one first. -/
  exchanges : List (Exchange σ)

/-- A step of a tick. -/
abbrev Tick (σ : Type) := ExceptT HandlerError (StateM (TickState σ))

/-- What a tick leaves behind. -/
structure TickOutcome (σ α : Type) where
  result : Except HandlerError α
  status : Status
  world : σ
  exchanges : List (Exchange σ)

namespace Tick

variable {σ α : Type}

/-- Run a tick on a status in a world. -/
def run (t : Tick σ α) (status : Status) (world : σ) : TickOutcome σ α :=
  let (result, s) := StateT.run (ExceptT.run t) ⟨status, world, []⟩
  ⟨result, s.status, s.world, s.exchanges⟩

/-- The status of the node. -/
def status : Tick σ Status := return (← get).status

/-- Change the status of the node. -/
def modifyStatus (f : Status → Status) : Tick σ Unit :=
  modify fun s => { s with status := f s.status }

/-- Note a call after which the world is another. -/
def note (world : σ) (call : Call) : Tick σ Unit :=
  modify fun s => { s with world := world, exchanges := s.exchanges ++ [⟨call, world⟩] }

/-- The answer of an executor: its visits are made, then its failure ends the tick. -/
def settle (lookup : Lookup) (a : Answer α) : Tick σ α := do
  modifyStatus fun _ => (lookup.visitAll a.visits).status
  match a.result with
  | .ok x => return x
  | .error text => throw (.executor text)

/-- A lookup that leaves the links of the children as they are. -/
def lookup (sub : SubWorkflow) : Tick σ Lookup := return ⟨sub, ← status⟩

/-- Read the inputs of the node. -/
def readInputs (c : Collaborators σ) : Tick σ (Except InputError LiteralMap) := do
  let (answer, world) := c.readInputs (← get).world
  note world (.readInputs answer)
  return answer

/-- Make literals the outputs of the start node. -/
def seed (site : TickSite) (c : Collaborators σ) (sub : SubWorkflow) (inputs : LiteralMap) :
    Tick σ Rollup := do
  let l ← lookup sub
  let (answer, world) := c.seed site.workflow l inputs (← get).world
  note world (.seed l inputs answer)
  settle l answer

/-- Drive the graph forward from a node. -/
def drive (site : TickSite) (c : Collaborators σ) (sub : SubWorkflow) (start : NodeId) :
    Tick σ Rollup := do
  let l ← lookup sub
  let (answer, world) := c.drive site.workflow l start (← get).world
  note world (.drive l start answer)
  settle l answer

/-- Abort every node that can be reached from a node. -/
def abortFrom (site : TickSite) (c : Collaborators σ) (sub : SubWorkflow) (start : NodeId)
    (reason : String) : Tick σ Unit := do
  let l ← lookup sub
  let (answer, world) := c.abort site.workflow l start reason (← get).world
  note world (.abort l start reason answer)
  settle l answer

/-- Probe an artifact. -/
def head (c : Collaborators σ) (path : Reference) : Tick σ (Except StorageError Metadata) := do
  let (answer, world) := c.head path (← get).world
  note world (.head path answer)
  return answer

/-- Copy an artifact. -/
def copy (c : Collaborators σ) (source destination : Reference) :
    Tick σ (Except StorageError Unit) := do
  let (answer, world) := c.copy source destination (← get).world
  note world (.copy source destination answer)
  return answer

/-- Schedule another tick.  A failure ends this one. -/
def enqueue (c : Collaborators σ) : Tick σ Unit := do
  let (answer, world) := c.enqueue (← get).world
  note world (.enqueue answer)
  match answer with
  | .ok () => return ()
  | .error text => throw (.enqueue text)

end Tick

end NestedWorkflow
