import NestedWorkflow.ExecutionError
import NestedWorkflow.Json.Decode

/-!
# Documents of execution errors

How execution errors are written as JSON documents and read back.
-/

namespace NestedWorkflow

/-- Whom to blame, by the names in documents. -/
def Blame.table : List (String × Blame) :=
  [("unknown", .unknown), ("user", .user), ("system", .system)]

/-- The name in documents. -/
def Blame.name : Blame → String
  | .unknown => "unknown"
  | .user => "user"
  | .system => "system"

namespace ExecutionError

/-- The fields of an execution error. -/
inductive Field
  | code
  | message
  | kind
deriving DecidableEq

/-- What the fields of an execution error hold. -/
abbrev Field.Content : Field → Type
  | .code => String
  | .message => String
  | .kind => Blame

/-- The form of execution errors in documents. -/
def shape (nesting : Nat) : Json.Shape Field Field.Content where
  fields := [.code, .message, .kind]
  name
    | .code => "code"
    | .message => "message"
    | .kind => "kind"
  defaulted _ := false
  reader
    | .code => Json.text
    | .message => Json.text
    | .kind => Json.variant Blame.table nesting

/-- The document of an execution error. -/
def toJson (e : ExecutionError) : Json.Value :=
  .record [("code", .text e.code), ("message", .text e.message), ("kind", .text e.kind.name)]

/-- Read an execution error. -/
def ofJson (nesting : Nat) (v : Json.Value) : Except Json.Error ExecutionError := do
  let d ← Json.Shape.readDraft shape nesting v
  let code ← (shape nesting).require d .code
  let message ← (shape nesting).require d .message
  let kind ← (shape nesting).require d .kind
  return ⟨code, message, kind⟩

/-- Read an execution error from the text of its document. -/
def ofText (text : String) : Except Json.Error ExecutionError := Json.decodeText ofJson text

end ExecutionError

end NestedWorkflow
