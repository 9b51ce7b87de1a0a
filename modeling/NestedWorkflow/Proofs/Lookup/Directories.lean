import NestedWorkflow.Proofs.Artifact.Memory
import NestedWorkflow.Proofs.Lookup.Linking
import NestedWorkflow.Proofs.Reference.Segments

/-!
# Where the children keep their data

A child gets its data directory when it is first reached, one step below the directory of its
parent.  The step is the identifier of the child, and an identifier is any text, slashes included.
A sub-workflow only checks that no identifier repeats, while a store only sees the segments of a
path.  So two children share a directory exactly if their identifiers have the same segments
(`Lookup.siblings_apart`): `a` and `b` never do, `a/b` and `a//b` do.

Children that do not share a directory do not share a file of one name either: cutting the name off
two paths leaves the directories (`MemoryStore.get?_put_join`).
-/

namespace NestedWorkflow

/-- A file can be read in every directory with the same segments, and it changes no file of its name
in any other directory. -/
lemma MemoryStore.get?_put_join (m : MemoryStore) (dir other : Reference) (file : String)
    (bytes : ByteArray) :
    (m.put (dir.join file) bytes).get? (other.join file) =
      if other.segments = dir.segments then some bytes else m.get? (other.join file) := by
  rw [get?_put, Reference.segments_join, Reference.segments_join]
  simp only [List.append_cancel_right_eq]

namespace Lookup

/-- What a store sees of the identifier of a node. -/
def folder (node : NodeId) : List String := (Reference.mk node).segments

variable {sub : SubWorkflow} {attempt length : Nat} {s : Status}

/-- Linking puts the data and the outputs of new children below the data of their parent. -/
lemma dataDir_child_link (hdir : s.own.dataDir.isEmpty = false) (hnone : ∀ id, s.child? id = none)
    (hok : (link sub attempt length s).1 = .ok ()) {node : NodeId}
    (hnode : node ∈ sub.declaredNodes) :
    ∃ c, (link sub attempt length s).2.child? node = some c ∧
      c.own.dataDir = s.own.dataDir.join node ∧ c.own.outputDir = s.own.dataDir.join node := by
  obtain ⟨parent, -, hchildren⟩ := child?_link hok
  obtain ⟨c, id, hentry, -, hchild⟩ := hchildren node hnode
  have hnew : s.entry node = .ok (Status.new (s.own.dataDir.join node)) := by
    simp [Status.entry, hnone node, hdir]
  cases hentry.symm.trans hnew
  exact ⟨_, hchild, rfl, rfl⟩

/-- Two new children share a data directory exactly if a store sees the same of their identifiers.
If it does not, then writing a file for the outputs of one leaves that of the other as it is. -/
theorem siblings_apart (hdir : s.own.dataDir.isEmpty = false) (hnone : ∀ id, s.child? id = none)
    (hok : (link sub attempt length s).1 = .ok ()) {a b : NodeId} (ha : a ∈ sub.declaredNodes)
    (hb : b ∈ sub.declaredNodes) :
    ∃ ca cb, (link sub attempt length s).2.child? a = some ca ∧
      (link sub attempt length s).2.child? b = some cb ∧
      (∀ base, ArtifactKey.of base ca.own.dataDir = ArtifactKey.of base cb.own.dataDir ↔
        folder a = folder b) ∧
      (folder a ≠ folder b → ∀ (m : MemoryStore) (file : String) (bytes : ByteArray),
        (m.put (ca.own.outputDir.join file) bytes).get? (cb.own.outputDir.join file) =
          m.get? (cb.own.outputDir.join file)) := by
  obtain ⟨ca, hca, hdata, houtput⟩ := dataDir_child_link hdir hnone hok ha
  obtain ⟨cb, hcb, hdata', houtput'⟩ := dataDir_child_link hdir hnone hok hb
  have hsegments : (s.own.dataDir.join a).segments = (s.own.dataDir.join b).segments ↔
      folder a = folder b := by
    rw [Reference.segments_join, Reference.segments_join, List.append_cancel_left_eq]
    rfl
  refine ⟨ca, cb, hca, hcb, fun base => ?_, fun hne m file bytes => ?_⟩
  · rw [hdata, hdata', ArtifactKey.of_inj]
    exact hsegments
  · rw [houtput, houtput', m.get?_put_join, if_neg]
    exact fun heq => hne (hsegments.1 heq.symm)

end Lookup

namespace Sample

/-- A graph of nodes that differ in slashes. -/
def slashes : SubWorkflow :=
  ⟨⟨"slashes", [Node.start, ⟨"a/b", none, .task "left"⟩, ⟨"a//b", none, .task "right"⟩],
    Dict.empty, [], none⟩, rfl⟩

/-- The status of a node that encloses it. -/
def enclosing : Status := (Status.new ⟨"runs/r1"⟩).setUniqueId "r1"

/-- The start node keeps its outputs apart from those of a node with slashes. -/
theorem slashes_apart :
    ∃ ca cb, (Lookup.link slashes 0 20 enclosing).2.child? startNodeId = some ca ∧
      (Lookup.link slashes 0 20 enclosing).2.child? "a//b" = some cb ∧
      ArtifactKey.of "" ca.own.dataDir ≠ ArtifactKey.of "" cb.own.dataDir ∧
      ∀ (m : MemoryStore) (bytes : ByteArray),
        (m.put (ca.own.outputDir.join "outputs.json") bytes).get?
            (cb.own.outputDir.join "outputs.json") =
          m.get? (cb.own.outputDir.join "outputs.json") := by
  have hlinked : (Lookup.link slashes 0 20 enclosing).1 = .ok () := rfl
  have hstart : startNodeId ∈ slashes.declaredNodes := by decide
  have hnode : "a//b" ∈ slashes.declaredNodes := by decide
  have hfolders : Lookup.folder startNodeId ≠ Lookup.folder "a//b" := by decide
  obtain ⟨ca, cb, hca, hcb, hkeys, houtputs⟩ :=
    Lookup.siblings_apart rfl (fun _ => rfl) hlinked hstart hnode
  refine ⟨ca, cb, hca, hcb, fun heq => hfolders ((hkeys "").1 heq), fun m bytes => ?_⟩
  exact houtputs hfolders m "outputs.json" bytes

/-- The two nodes with slashes are different ones, but what one leaves as its outputs in any store
stands for the outputs of the other. -/
theorem slashes_shared :
    enclosing.own.dataDir.isEmpty = false ∧ (∀ id, enclosing.child? id = none) ∧
      (Lookup.link slashes 0 20 enclosing).1 = .ok () ∧ "a/b" ∈ slashes.declaredNodes ∧
      "a//b" ∈ slashes.declaredNodes ∧ "a/b" ≠ "a//b" ∧
      ∃ ca cb, (Lookup.link slashes 0 20 enclosing).2.child? "a/b" = some ca ∧
        (Lookup.link slashes 0 20 enclosing).2.child? "a//b" = some cb ∧
        (∀ base, ArtifactKey.of base ca.own.dataDir = ArtifactKey.of base cb.own.dataDir) ∧
        ∀ (m : MemoryStore) (bytes : ByteArray),
          (m.put (ca.own.outputDir.join "outputs.json") bytes).get?
            (cb.own.outputDir.join "outputs.json") = some bytes := by
  have hlinked : (Lookup.link slashes 0 20 enclosing).1 = .ok () := rfl
  have hone : "a/b" ∈ slashes.declaredNodes := by decide
  have hother : "a//b" ∈ slashes.declaredNodes := by decide
  obtain ⟨ca, hca, hdata, houtput⟩ := Lookup.dataDir_child_link rfl (fun _ => rfl) hlinked hone
  obtain ⟨cb, hcb, hdata', houtput'⟩ := Lookup.dataDir_child_link rfl (fun _ => rfl) hlinked hother
  have hsegments : (enclosing.own.dataDir.join "a/b").segments =
      (enclosing.own.dataDir.join "a//b").segments := by decide
  refine ⟨rfl, fun _ => rfl, hlinked, hone, hother, by decide, ca, cb, hca, hcb, fun base => ?_,
    fun m bytes => ?_⟩
  · rw [hdata, hdata']
    exact ArtifactKey.of_inj.2 hsegments
  · rw [houtput, houtput', m.get?_put_join, if_pos hsegments.symm]

end Sample

end NestedWorkflow
