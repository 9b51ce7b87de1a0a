import NestedWorkflow.Artifact.Memory
import NestedWorkflow.Proofs.Reference.Segments

/-!
# Copying in memory

Artifacts are a map from keys to bytes (`Artifacts.get?_put`), so what was written under one
reference is read under all that have its segments (`MemoryStore.get?_put`).  A copy reads one key
and writes another, or the same one, and every other artifact stays as it is
(`MemoryStore.isUpdate_of_copy_eq_ok`).
-/

namespace NestedWorkflow

namespace Artifacts

/-- Removing the entries of other keys does not change what is stored under a key. -/
lemma get?_filter_of_ne {key other : ArtifactKey} (h : other ≠ key) (a : Artifacts) :
    get? (a.filter fun e => e.1 ≠ key) other = a.get? other := by
  induction a with
  | nil => rfl
  | cons e rest ih =>
    obtain ⟨k, bytes⟩ := e
    by_cases hk : k = key
    · have hne : k ≠ other := fun heq => h (heq.symm.trans hk)
      rw [List.filter_cons_of_neg (by simpa using hk), ih, get?, if_neg hne]
    · rw [List.filter_cons_of_pos (by simpa using hk), get?, get?, ih]

/-- Under the key that was written stands what was written, and nothing else has changed. -/
theorem get?_put (a : Artifacts) (key other : ArtifactKey) (bytes : ByteArray) :
    (a.put key bytes).get? other = if other = key then some bytes else a.get? other := by
  unfold put
  rw [get?]
  by_cases h : other = key
  · rw [if_pos h.symm, if_pos h]
  · have hne : key ≠ other := fun heq => h heq.symm
    rw [if_neg hne, if_neg h, get?_filter_of_ne h]

end Artifacts

namespace MemoryStore

/-- One artifact has these bytes in the second store, and nothing else differs from the first. -/
structure IsUpdate (m m' : MemoryStore) (r : Reference) (bytes : ByteArray) : Prop where
  base_eq : m'.base = m.base
  get?_eq : ∀ key, m'.artifacts.get? key =
    if key = m.key r then some bytes else m.artifacts.get? key

/-- Writing an artifact changes this artifact only. -/
lemma isUpdate_put (m : MemoryStore) (r : Reference) (bytes : ByteArray) :
    m.IsUpdate (m.put r bytes) r bytes :=
  ⟨rfl, fun key => m.artifacts.get?_put (m.key r) key bytes⟩

/-- References with the same segments find the same artifact. -/
lemma get?_congr (m : MemoryStore) {r r' : Reference} (h : r.segments = r'.segments) :
    m.get? r = m.get? r' :=
  congrArg m.artifacts.get? (ArtifactKey.of_inj.2 h)

/-- A reference finds what was written under another one if it has the same segments, and what was
there before if not. -/
theorem get?_put (m : MemoryStore) (r other : Reference) (bytes : ByteArray) :
    (m.put r bytes).get? other = if other.segments = r.segments then some bytes else m.get? other :=
  calc (m.put r bytes).get? other
      = if m.key other = m.key r then some bytes else m.get? other :=
        (m.isUpdate_put r bytes).get?_eq (m.key other)
    _ = if other.segments = r.segments then some bytes else m.get? other :=
        if_congr ArtifactKey.of_inj rfl rfl

/-- A copy that succeeds found its source, and wrote its bytes to the destination. -/
theorem isUpdate_of_copy_eq_ok {m m' : MemoryStore} {source destination : Reference}
    (h : m.copy source destination = .ok m') :
    ∃ bytes, m.get? source = some bytes ∧ m.IsUpdate m' destination bytes := by
  unfold copy at h
  cases hsource : m.get? source with
  | none =>
    rw [hsource] at h
    cases h
  | some bytes =>
    rw [hsource] at h
    cases h
    exact ⟨bytes, rfl, m.isUpdate_put destination bytes⟩

/-- A probe finds an artifact if there is one. -/
lemma exists?_head (m : MemoryStore) (r : Reference) :
    (m.head r).exists? = (m.get? r).isSome := by
  unfold head
  cases m.get? r <;> rfl

end MemoryStore

end NestedWorkflow
