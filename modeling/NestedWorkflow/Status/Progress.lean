import NestedWorkflow.ExecutionError
import NestedWorkflow.Instant
import NestedWorkflow.Reference
import NestedWorkflow.Word

/-!
# What a status says of its own node

The execution record of one node, without its children: its phase and attempt, where its data lie,
how it is linked to the node that encloses it and, for workflow nodes, how far the body got
(`Checkpoint`).
-/

namespace NestedWorkflow

/-- Phase of one node execution. -/
inductive Phase
  | notYetStarted
  | queued
  | running
  | failing
  | succeeded
  | failed
  | aborted
  | skipped
deriving DecidableEq, Inhabited

/-- Nothing follows this phase. -/
def Phase.isTerminal : Phase → Bool
  | .succeeded => true
  | .failed => true
  | .aborted => true
  | .skipped => true
  | _ => false

/-- How far the body of a workflow node got. -/
inductive Stage
  | undefined
  | executing
  | failing
deriving DecidableEq, Inhabited

/-- How far a workflow node got in one of its attempts.  The error is the failure of the body with
which the node started to fail. -/
structure Checkpoint where
  stage : Stage
  error : Option ExecutionError
  attempt : Nat
deriving DecidableEq, Inhabited

/-- Nothing happened in the first attempt. -/
def Checkpoint.initial : Checkpoint := ⟨.undefined, none, 0⟩

/-- What a status says of its own node. -/
structure Progress where
  phase : Phase
  attempts : Nat
  dataDir : Reference
  outputDir : Reference
  uniqueId : Option UniqueId
  uniqueParentId : Option UniqueId
  /-- Attempt of the enclosing node that this node is linked to. -/
  parentAttempts : Option Nat
  checkpoint : Checkpoint
  error : Option ExecutionError
  updatedAt : Option Instant
deriving DecidableEq

namespace Progress

/-- The last attempt.  Attempts are counted in thirty-two bits. -/
def lastAttempt : Nat := Word.size32 - 1

/-- A node that has not started, with its data and outputs in one place. -/
def new (dataDir : Reference) : Progress :=
  ⟨.notYetStarted, 0, dataDir, dataDir, none, none, none, Checkpoint.initial, none, none⟩

instance : Inhabited Progress := ⟨new Reference.empty⟩

/-- The same progress in another phase, as of now. -/
def setPhase (p : Progress) (phase : Phase) (now : Instant) : Progress :=
  { p with phase := phase, updatedAt := some now }

/-- The same progress with another checkpoint, as of now. -/
def setCheckpoint (p : Progress) (checkpoint : Checkpoint) (now : Instant) : Progress :=
  { p with checkpoint := checkpoint, updatedAt := some now }

/-- The same progress linked to an attempt of an enclosing node. -/
def link (p : Progress) (id parent : UniqueId) (attempt : Nat) : Progress :=
  { p with uniqueId := some id, uniqueParentId := some parent, parentAttempts := some attempt }

end Progress

end NestedWorkflow
