import NestedWorkflow.Literal
import NestedWorkflow.Reference

/-!
# Nodes of a workflow

A node has an identifier, an optional name and a kind that says what it does when it is executed.
In documents the kind is a record that carries its own tag under `type`; the tag may come anywhere
among the members, so the other members are only understood once the record is complete.
-/

namespace NestedWorkflow

/-- What a node does when it is executed. -/
inductive NodeKind
  /-- Entry point; receives the workflow's inputs. -/
  | start
  /-- Exit point; gathers the workflow's outputs. -/
  | finish
  /-- A single task. -/
  | task (taskRef : String)
  /-- A whole nested workflow. -/
  | workflow (subWorkflowRef : SubWorkflowId)
deriving DecidableEq

/-- A vertex of a workflow graph. -/
structure Node where
  id : NodeId
  name : Option String
  kind : NodeKind
deriving DecidableEq

/-- The sub-workflow that a workflow node refers to. -/
def Node.subWorkflowRef? (node : Node) : Option SubWorkflowId :=
  match node.kind with
  | .workflow ref => some ref
  | _ => none

namespace NodeKind

/-- The kinds, without what belongs to them. -/
inductive Tag
  | start
  | finish
  | task
  | workflow
deriving DecidableEq

/-- Kinds by the names they have in documents. -/
def Tag.table : List (String × Tag) :=
  [("start", .start), ("end", .finish), ("task", .task), ("workflow", .workflow)]

/-- The member under which a kind keeps its reference. -/
def Tag.referenceName? : Tag → Option String
  | .start => none
  | .finish => none
  | .task => some "task_ref"
  | .workflow => some "sub_workflow_ref"

/-- The kind of a tag and a reference, which only some kinds have. -/
def Tag.kind (ref : String) : Tag → NodeKind
  | .start => .start
  | .finish => .finish
  | .task => .task ref
  | .workflow => .workflow ref

/-- The document of a kind. -/
def toJson : NodeKind → Json.Value
  | .start => .record [("type", .text "start")]
  | .finish => .record [("type", .text "end")]
  | .task ref => .record [("type", .text "task"), ("task_ref", .text ref)]
  | .workflow ref => .record [("type", .text "workflow"), ("sub_workflow_ref", .text ref)]

/-- Separate the tag from the other members, each of which has to be a proper value. -/
def collect (nesting : Nat) (tag : Option Tag) :
    List (Option String × Json.Value) → Except Json.Error (Option Tag × List (String × Json.Value))
  | [] => .ok (tag, [])
  | (none, _) :: _ => .error .malformed
  | (some key, v) :: rest =>
    if key = "type" then
      if tag.isSome then .error (.duplicateField key)
      else
        match v with
        | .string (some name) =>
          match Json.named Tag.table name with
          | .error e => .error e
          | .ok t => collect nesting (some t) rest
        | _ => .error .malformed
    else
      match Literal.ofJson nesting v with
      | .error e => .error e
      | .ok _ =>
        match collect nesting tag rest with
        | .error e => .error e
        | .ok (t, others) => .ok (t, (key, v) :: others)

/-- The text under a name, which may not repeat; other members do not matter. -/
def reference (name : String) (found : Option String) :
    List (String × Json.Value) → Except Json.Error String
  | [] =>
    match found with
    | some s => .ok s
    | none => .error (.missingField name)
  | (key, v) :: rest =>
    if key = name then
      if found.isSome then .error (.duplicateField key)
      else
        match Json.text v with
        | .error e => .error e
        | .ok s => reference name (some s) rest
    else reference name found rest

/-- The kind of a complete record. -/
def ofMembers (tag : Tag) (members : List (String × Json.Value)) : Except Json.Error NodeKind :=
  match tag.referenceName? with
  | none => .ok (tag.kind "")
  | some name => (reference name none members).map fun s => tag.kind s

/-- The kind of a complete array behind its tag: the reference and nothing else. -/
def ofItems (tag : Tag) (items : List Json.Value) : Except Json.Error NodeKind :=
  match tag.referenceName?, items with
  | none, [] => .ok (tag.kind "")
  | some _, [v] => (Json.text v).map fun s => tag.kind s
  | _, _ => .error .malformed

/-- Read a kind: an object with a tag, or an array that starts with the tag. -/
def ofJson : Nat → Json.Value → Except Json.Error NodeKind
  | n + 1, .object members closed => do
    let (tag, others) ← collect n none members
    let _ ← Json.whenClosed closed ()
    match tag with
    | none => .error (.missingField "type")
    | some t => ofMembers t others
  | _ + 1, .array [] closed => do
    let _ ← Json.whenClosed closed ()
    .error (.missingField "type")
  | n + 1, .array (v :: rest) closed => do
    let name ← Json.text v
    let tag ← Json.named Tag.table name
    let _ ← Json.readAll (Literal.ofJson n) rest
    let _ ← Json.whenClosed closed ()
    ofItems tag rest
  | _, _ => .error .malformed

end NodeKind

namespace Node

/-- The entry point of every workflow. -/
def start : Node := ⟨startNodeId, none, .start⟩

/-- The exit point of a workflow. -/
def finish : Node := ⟨endNodeId, none, .finish⟩

/-- The fields of a node. -/
inductive Field
  | id
  | name
  | kind
deriving DecidableEq

/-- What the fields of a node hold. -/
abbrev Field.Content : Field → Type
  | .id => NodeId
  | .name => Option String
  | .kind => NodeKind

/-- The form of nodes in documents. -/
def shape (nesting : Nat) : Json.Shape Field Field.Content where
  fields := [.id, .name, .kind]
  name
    | .id => "id"
    | .name => "name"
    | .kind => "kind"
  defaulted _ := false
  reader
    | .id => Json.text
    | .name => Json.optional Json.text
    | .kind => NodeKind.ofJson nesting

/-- The document of a node. -/
def toJson (node : Node) : Json.Value :=
  .record [("id", .text node.id), ("name", .nullable (node.name.map .text)),
    ("kind", node.kind.toJson)]

/-- Read a node. -/
def ofJson (nesting : Nat) (v : Json.Value) : Except Json.Error Node := do
  let d ← Json.Shape.readDraft shape nesting v
  let id ← (shape nesting).require d .id
  let kind ← (shape nesting).require d .kind
  return ⟨id, (d .name).getD none, kind⟩

end Node

end NestedWorkflow
