import NestedWorkflow.Artifact

/-!
# Artifacts in memory

A store that keeps artifacts in memory is a finite map from keys to bytes.  Every key is as good as
any other, the one without segments included.
-/

namespace NestedWorkflow

/-- Artifacts in memory, under the keys of a store with its own prefix. -/
structure MemoryStore where
  base : String
  artifacts : Artifacts

namespace MemoryStore

/-- A store without artifacts. -/
def new (base : String) : MemoryStore := ⟨base, []⟩

/-- The key of a reference in this store. -/
def key (s : MemoryStore) (r : Reference) : ArtifactKey := ArtifactKey.of s.base r

/-- The bytes of an artifact. -/
def get? (s : MemoryStore) (r : Reference) : Option ByteArray := s.artifacts.get? (s.key r)

/-- Probe an artifact. -/
def head (s : MemoryStore) (r : Reference) : Metadata := Metadata.ofStored (s.get? r)

/-- Store an artifact. -/
def put (s : MemoryStore) (r : Reference) (bytes : ByteArray) : MemoryStore :=
  { s with artifacts := s.artifacts.put (s.key r) bytes }

/-- Store the bytes of one artifact as another. -/
def copy (s : MemoryStore) (source destination : Reference) : Except StorageError MemoryStore :=
  match s.get? source with
  | none => .error (.notFound source)
  | some bytes => .ok (s.put destination bytes)

end MemoryStore

end NestedWorkflow
