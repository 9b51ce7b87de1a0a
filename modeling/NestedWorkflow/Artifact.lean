import NestedWorkflow.Reference

/-!
# Artifacts

Artifacts are stored under keys: lists of non-empty segments.  The key of a reference is what lies
between the slashes of its path, below the segments of the store's own prefix, so different
spellings of a path lead to one artifact.
-/

namespace NestedWorkflow

/-- Non-empty pieces of a path. -/
abbrev ArtifactKey := List String

/-- Why a store cannot do what it is asked. -/
inductive StorageError
  | notFound (path : Reference)
  /-- What went wrong below the store, the outermost cause first. -/
  | backend (path : Reference) (causes : List String)
deriving DecidableEq

/-- The report of an error: the path and the outermost cause. -/
def StorageError.message : StorageError → String
  | .notFound path => "artifact not found: " ++ path.path
  | .backend path causes =>
    "artifact store failed at " ++ path.path ++ ": " ++ causes.headD ""

/-- The report of an error with all its causes. -/
def StorageError.report (e : StorageError) : String :=
  match e with
  | .notFound _ => e.message
  | .backend _ causes => String.intercalate ": " (e.message :: causes)

/-- What a probe finds: the size of an artifact, if there is one. -/
structure Metadata where
  exists? : Bool
  size : Nat
deriving DecidableEq

namespace Metadata

/-- There is no artifact. -/
def missing : Metadata := ⟨false, 0⟩

/-- There is an artifact of the given bytes. -/
def ofBytes (bytes : ByteArray) : Metadata := ⟨true, bytes.size⟩

/-- What a probe finds, given the bytes that are stored. -/
def ofStored : Option ByteArray → Metadata
  | none => missing
  | some bytes => ofBytes bytes

end Metadata

namespace ArtifactKey

/-- The text of a reference below the prefix of a store. -/
def spelling (base : String) (r : Reference) : List Char :=
  let front := Slashed.trim base.toList
  if front = [] then r.path.toList else front ++ '/' :: Slashed.trimStart r.path.toList

/-- The key of a reference in a store with the given prefix. -/
def of (base : String) (r : Reference) : ArtifactKey :=
  (Slashed.segments (spelling base r)).map String.ofList

end ArtifactKey

/-- Artifacts by their keys. -/
abbrev Artifacts := List (ArtifactKey × ByteArray)

namespace Artifacts

/-- The bytes stored under a key. -/
def get? (a : Artifacts) (key : ArtifactKey) : Option ByteArray :=
  match a with
  | [] => none
  | (k, bytes) :: rest => if k = key then some bytes else get? rest key

/-- Store bytes under a key, in place of earlier ones. -/
def put (a : Artifacts) (key : ArtifactKey) (bytes : ByteArray) : Artifacts :=
  (key, bytes) :: a.filter fun e => e.1 ≠ key

end Artifacts

end NestedWorkflow
