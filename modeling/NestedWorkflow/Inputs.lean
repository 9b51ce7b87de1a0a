import NestedWorkflow.Artifact
import NestedWorkflow.Json.Complaint
import NestedWorkflow.Literal

/-!
# Inputs of a node

The inputs of a node are named literals.  They are read from a file in the node's data directory, as
one JSON object; a node without such a file has no inputs.
-/

namespace NestedWorkflow

/-- Why the inputs of a node cannot be read. -/
inductive InputError
  | storage (e : StorageError)
  /-- The file is no JSON object, for the reason given. -/
  | undecodable (path : Reference) (reason : String)
  /-- Any other failure, the outermost cause first. -/
  | failure (causes : List String)
deriving DecidableEq

/-- The outermost cause. -/
def InputError.message : InputError → String
  | .storage e => e.message
  | .undecodable path _ => "failed to decode inputs at " ++ path.path
  | .failure causes => causes.headD ""

/-- All causes, from the outermost inwards. -/
def InputError.report (e : InputError) : String :=
  match e with
  | .storage cause => cause.report
  | .undecodable _ reason => e.message ++ ": " ++ reason
  | .failure causes => String.intercalate ": " causes

namespace StoredInputs

/-- The file of a node's inputs. -/
def path (dataDir : Reference) (inputsFile : String) : Reference := dataDir.join inputsFile

/-- The inputs that a store's answer for a file holds. -/
def decode (path : Reference) :
    Except StorageError (Option ByteArray) → Except InputError LiteralMap
  | .error e => .error (.storage e)
  | .ok none => .ok Dict.empty
  | .ok (some bytes) =>
    match LiteralMap.ofBytes? bytes with
    | some inputs => .ok inputs
    | none => .error (.undecodable path (Json.complaint bytes.data.toList))

/-- Read the inputs of a node from a store, given how the store answers. -/
def reader {σ : Type} (get : Reference → σ → Except StorageError (Option ByteArray) × σ)
    (dataDir : Reference) (inputsFile : String) (world : σ) :
    Except InputError LiteralMap × σ :=
  let file := path dataDir inputsFile
  let (answer, world) := get file world
  (decode file answer, world)

end StoredInputs

end NestedWorkflow
