import NestedWorkflow.ExecutionError.Document
import NestedWorkflow.Instant.Rfc3339
import NestedWorkflow.Json.Decode
import NestedWorkflow.Status

/-!
# Documents of statuses

How checkpoints and statuses are written as JSON documents and read back.  A status is two levels of
nesting, itself and the object that holds its children, so the nesting that is allowed bounds the
recursion of the reader.
-/

namespace NestedWorkflow

/-! ### Checkpoints -/

/-- Stages, by the names in documents. -/
def Stage.table : List (String × Stage) :=
  [("undefined", .undefined), ("executing", .executing), ("failing", .failing)]

/-- The name in documents. -/
def Stage.name : Stage → String
  | .undefined => "undefined"
  | .executing => "executing"
  | .failing => "failing"

namespace Checkpoint

/-- The fields of a checkpoint. -/
inductive Field
  | stage
  | error
  | attempt
deriving DecidableEq

/-- What the fields of a checkpoint hold. -/
abbrev Field.Content : Field → Type
  | .stage => Stage
  | .error => Option ExecutionError
  | .attempt => Nat

/-- The form of checkpoints in documents. -/
def shape (nesting : Nat) : Json.Shape Field Field.Content where
  fields := [.stage, .error, .attempt]
  name
    | .stage => "phase"
    | .error => "error"
    | .attempt => "attempt"
  defaulted
    | .attempt => true
    | _ => false
  reader
    | .stage => Json.variant Stage.table nesting
    | .error => Json.optional (ExecutionError.ofJson nesting)
    | .attempt => Json.counter

/-- The document of a checkpoint. -/
def toJson (c : Checkpoint) : Json.Value :=
  .record [("phase", .text c.stage.name), ("error", .nullable (c.error.map ExecutionError.toJson)),
    ("attempt", .nat c.attempt)]

/-- Read a checkpoint. -/
def ofJson (nesting : Nat) (v : Json.Value) : Except Json.Error Checkpoint := do
  let d ← Json.Shape.readDraft shape nesting v
  let stage ← (shape nesting).require d .stage
  return ⟨stage, (d .error).getD none, (d .attempt).getD 0⟩

end Checkpoint

/-! ### Statuses -/

/-- Phases, by the names in documents. -/
def Phase.table : List (String × Phase) :=
  [("not_yet_started", .notYetStarted), ("queued", .queued), ("running", .running),
    ("failing", .failing), ("succeeded", .succeeded), ("failed", .failed), ("aborted", .aborted),
    ("skipped", .skipped)]

/-- The name in documents. -/
def Phase.name : Phase → String
  | .notYetStarted => "not_yet_started"
  | .queued => "queued"
  | .running => "running"
  | .failing => "failing"
  | .succeeded => "succeeded"
  | .failed => "failed"
  | .aborted => "aborted"
  | .skipped => "skipped"

/-- Read a reference. -/
def Reference.ofJson (v : Json.Value) : Except Json.Error Reference := (Json.text v).map .mk

/-- Read an instant. -/
def Instant.ofJson (v : Json.Value) : Except Json.Error Instant :=
  match Json.text v with
  | .error e => .error e
  | .ok s =>
    match Rfc3339.read? s.toList with
    | some i => .ok i
    | none => .error .malformed

/-- The document of an instant. -/
def Instant.toJson (i : Instant) : Json.Value := .text (String.ofList (Rfc3339.render i))

namespace Status

/-- The fields of a status. -/
inductive Field
  | phase
  | attempts
  | dataDir
  | outputDir
  | uniqueId
  | uniqueParentId
  | parentAttempts
  | checkpoint
  | error
  | updatedAt
  | children
deriving DecidableEq

/-- What the fields of a status hold. -/
abbrev Field.Content : Field → Type
  | .phase => Phase
  | .attempts => Nat
  | .dataDir => Reference
  | .outputDir => Reference
  | .uniqueId => Option UniqueId
  | .uniqueParentId => Option UniqueId
  | .parentAttempts => Option Nat
  | .checkpoint => Checkpoint
  | .error => Option ExecutionError
  | .updatedAt => Option Instant
  | .children => Dict Status

/-- The form of statuses in documents, given how the children are read. -/
def shape (children : Json.Value → Except Json.Error (Dict Status)) (nesting : Nat) :
    Json.Shape Field Field.Content where
  fields := [.phase, .attempts, .dataDir, .outputDir, .uniqueId, .uniqueParentId,
    .parentAttempts, .checkpoint, .error, .updatedAt, .children]
  name
    | .phase => "phase"
    | .attempts => "attempts"
    | .dataDir => "data_dir"
    | .outputDir => "output_dir"
    | .uniqueId => "unique_node_id"
    | .uniqueParentId => "unique_parent_node_id"
    | .parentAttempts => "parent_attempts"
    | .checkpoint => "workflow_node_state"
    | .error => "error"
    | .updatedAt => "last_updated_at"
    | .children => "sub_node_status"
  defaulted
    | .checkpoint => true
    | .children => true
    | _ => false
  reader
    | .phase => Json.variant Phase.table nesting
    | .attempts => Json.counter
    | .dataDir => Reference.ofJson
    | .outputDir => Reference.ofJson
    | .uniqueId => Json.optional Json.text
    | .uniqueParentId => Json.optional Json.text
    | .parentAttempts => Json.optional Json.counter
    | .checkpoint => Checkpoint.ofJson nesting
    | .error => Json.optional (ExecutionError.ofJson nesting)
    | .updatedAt => Json.optional Instant.ofJson
    | .children => children

/-- The status of a draft; only the first four fields have to be there. -/
def ofDraft (s : Json.Shape Field Field.Content) (d : Json.Draft Field.Content) :
    Except Json.Error Status := do
  let phase ← s.require d .phase
  let attempts ← s.require d .attempts
  let dataDir ← s.require d .dataDir
  let outputDir ← s.require d .outputDir
  let own : Progress :=
    ⟨phase, attempts, dataDir, outputDir, (d .uniqueId).getD none, (d .uniqueParentId).getD none,
      (d .parentAttempts).getD none, (d .checkpoint).getD Checkpoint.initial,
      (d .error).getD none, (d .updatedAt).getD none⟩
  let children := (d .children).getD Dict.empty
  return children.entries.foldl (fun st e => st.withChild e.1 e.2) (ofProgress own)

/-- Read a status.  The nesting allowed is what is left inside the children's object of the
enclosing status. -/
def ofJson : Nat → Json.Value → Except Json.Error Status
  | 0, _ => .error .malformed
  | 1, v => do
    let s := shape (fun _ => .error .malformed)
    let d ← Json.Shape.readDraft s 1 v
    ofDraft (s 0) d
  | n + 2, v => do
    let s := shape (Json.dictionary (fun _ => ofJson n) 1)
    let d ← Json.Shape.readDraft s (n + 2) v
    ofDraft (s (n + 1)) d

/-- What a status says of its own node, as members of its document. -/
def ownMembers (p : Progress) : List (String × Json.Value) :=
  [("phase", .text p.phase.name), ("attempts", .nat p.attempts), ("data_dir", .text p.dataDir.path),
    ("output_dir", .text p.outputDir.path), ("unique_node_id", .nullable (p.uniqueId.map .text)),
    ("unique_parent_node_id", .nullable (p.uniqueParentId.map .text)),
    ("parent_attempts", .nullable (p.parentAttempts.map .nat)),
    ("workflow_node_state", p.checkpoint.toJson),
    ("error", .nullable (p.error.map ExecutionError.toJson)),
    ("last_updated_at", .nullable (p.updatedAt.map Instant.toJson))]

end Status

namespace StatusTree

mutual

/-- The document of a status. -/
def toJson : StatusTree → Json.Value
  | .node own children =>
    .record (Status.ownMembers own ++ [("sub_node_status", .record (childMembers children))])

/-- The children as members of their object. -/
def childMembers : List (String × StatusTree) → List (String × Json.Value)
  | [] => []
  | (id, t) :: rest => (id, t.toJson) :: childMembers rest

end

end StatusTree

namespace Status

/-- The document of a status. -/
def toJson (s : Status) : Json.Value := s.tree.toJson

/-- The text of a status's document. -/
def toText (s : Status) : String := s.toJson.toText

/-- Read a status from the text of its document. -/
def ofText (text : String) : Except Json.Error Status := Json.decodeText ofJson text

end Status

end NestedWorkflow
