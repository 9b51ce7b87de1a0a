import NestedWorkflow.Artifact.Local
import NestedWorkflow.Artifact.Memory
import NestedWorkflow.Proofs.Artifact.FileName
import NestedWorkflow.Proofs.Artifact.History

/-!
# Where stores with prefixes put artifacts

The key of a reference is a row of pieces: those of the store's prefix, of the reference, and of
every step that was taken down from it, however often slashes are written between them
(`ArtifactKey.of_foldl_join`).  So no reference leads out of the prefix, and two stores share a key
exactly if one of their prefixes lies below the other (`ArtifactKey.meet_iff`).  Prefixes are
compared piece by piece: `tenant` and `tenant-a` lie apart.

Giving each piece a name of its own changes none of this (`ArtifactKey.concatenates_map`).  So it
holds of keys in memory and of the paths of files alike (`ArtifactKey.keys_concatenate`).
-/

namespace NestedWorkflow

namespace ArtifactKey

/-- The pieces of a prefix, of a reference and of steps down from it, one behind the other. -/
lemma of_foldl_join (base : String) (r : Reference) (steps : List String) :
    of base (steps.foldl Reference.join r) =
      (Reference.mk base).pieces ++ r.pieces ++
        steps.flatMap fun step => (Reference.mk step).pieces := by
  simp only [Reference.pieces_eq_segments]
  rw [of_eq_append, Reference.segments_foldl_join, List.append_assoc]

/-- Every row of segments below a prefix is the key of some reference. -/
lemma exists_of_eq_append (base : String) {parts : List String} (h : ∀ s ∈ parts, IsSegment s) :
    ∃ r, of base r = (Reference.mk base).segments ++ parts :=
  ⟨parts.foldl Reference.join .empty, by
    rw [of_eq_append, Reference.segments_foldl_join_empty h]⟩

/-- A prefix below another one is a key of both. -/
lemma exists_of_eq_of_prefix {base base' : String}
    (h : (Reference.mk base).segments <+: (Reference.mk base').segments) :
    ∃ r r', of base r = of base' r' := by
  obtain ⟨parts, hparts⟩ := h
  have hsegment : ∀ s ∈ parts, IsSegment s := fun s hs =>
    Reference.isSegment_of_mem (hparts ▸ List.mem_append_right _ hs)
  have hempty : Reference.empty.segments = [] := Reference.segments_of_isEmpty rfl
  obtain ⟨r, hr⟩ := exists_of_eq_append base hsegment
  refine ⟨r, .empty, ?_⟩
  rw [hr, hparts, of_eq_append, hempty, List.append_nil]

/-- Two stores share a key exactly if one prefix lies below the other. -/
lemma meet_iff {base base' : String} :
    (∃ r r', of base r = of base' r') ↔
      (Reference.mk base).segments <+: (Reference.mk base').segments ∨
        (Reference.mk base').segments <+: (Reference.mk base).segments := by
  constructor
  · rintro ⟨r, r', h⟩
    rw [of_eq_append, of_eq_append] at h
    -- both prefixes lead to the same key
    have hbase : (Reference.mk base).segments <+: (Reference.mk base').segments ++ r'.segments :=
      ⟨r.segments, h⟩
    exact List.prefix_or_prefix_of_prefix hbase ⟨r'.segments, rfl⟩
  · rintro (h | h)
    · exact exists_of_eq_of_prefix h
    · obtain ⟨r', r, heq⟩ := exists_of_eq_of_prefix h
      exact ⟨r, r', heq.symm⟩

/-- References are put where the pieces of the prefix, the reference and the steps down from it
lead, with a name for each piece. -/
structure Concatenates (name : String → String) (place : String → Reference → List String) :
    Prop where
  joined : ∀ (base : String) (r : Reference) (steps : List String),
    place base (steps.foldl Reference.join r) =
      ((Reference.mk base).pieces ++ r.pieces ++
        steps.flatMap fun step => (Reference.mk step).pieces).map name
  /-- Under one prefix, spellings of one path share a place, and other paths do not. -/
  same_iff : ∀ (base : String) (r r' : Reference),
    place base r = place base r' ↔ r.pieces = r'.pieces
  /-- Nothing leads out of the prefix. -/
  below : ∀ (base : String) (r : Reference), (Reference.mk base).pieces.map name <+: place base r
  /-- Prefixes share a place only where one of them lies below the other. -/
  meet_iff : ∀ base base' : String, (∃ r r', place base r = place base' r') ↔
    (Reference.mk base).pieces <+: (Reference.mk base').pieces ∨
      (Reference.mk base').pieces <+: (Reference.mk base).pieces

/-- Keys whose segments are named apart are as good as keys. -/
theorem concatenates_map {name : String → String} (hname : Function.Injective name) :
    Concatenates name fun base r => (of base r).map name where
  joined base r steps := by rw [of_foldl_join]
  same_iff base r r' := by
    rw [(List.map_injective_iff.2 hname).eq_iff, of_inj, Reference.pieces_eq_segments,
      Reference.pieces_eq_segments]
  below base r := by
    rw [of_eq_append, Reference.pieces_eq_segments, List.map_append]
    exact List.prefix_append _ _
  meet_iff base base' := by
    simp only [(List.map_injective_iff.2 hname).eq_iff, Reference.pieces_eq_segments]
    exact ArtifactKey.meet_iff

/-- What a key is made of are segments. -/
lemma isSegment_of_mem {base : String} {r : Reference} {s : String} (h : s ∈ of base r) :
    IsSegment s := by
  rw [of_eq_append] at h
  rcases List.mem_append.1 h with hbase | hr
  · exact Reference.isSegment_of_mem hbase
  · exact Reference.isSegment_of_mem hr

/-- Keys in memory are the pieces of the prefix, the reference and the steps down from it, and paths
of files are the names of these pieces.  This holds of all prefixes before the same artifacts or the
same directory.  Every name leads one directory down, so no path of a file leads out of the
directory of the prefix either. -/
theorem keys_concatenate (artifacts : Artifacts) (root : FileTree) (written : Nat) :
    Concatenates id (fun base r => MemoryStore.key ⟨base, artifacts⟩ r) ∧
      Concatenates FileName.ofSegment (fun base r => LocalStore.path ⟨base, root, written⟩ r) ∧
      ∀ base r, ∀ name ∈ LocalStore.path ⟨base, root, written⟩ r, FileName.IsEntry name := by
  refine ⟨?_, concatenates_map FileName.ofSegment_injective, fun base r name hname => ?_⟩
  · have hkeys := concatenates_map Function.injective_id
    simp only [List.map_id] at hkeys
    exact hkeys
  · obtain ⟨s, hs, rfl⟩ := List.mem_map.1 hname
    exact FileName.isEntry_ofSegment (isSegment_of_mem hs)

end ArtifactKey

namespace Sample

/-- Steps that go nowhere, and steps that look as if they led up or held a slash. -/
def detour : List String := ["", "//", "..", "/%2F/", "/a//b"]

/-- A store in a directory goes down at every one of these steps, below its prefix.  A store whose
prefix only begins with the same characters never gets there. -/
theorem detour_stays_below :
    LocalStore.path (.new "/tenant//") (detour.foldl Reference.join ⟨"//runs/"⟩) =
        ["tenant", "runs", "%2E%2E", "%252F", "a", "b"] ∧
      FileName.IsEntry "%2E%2E" ∧
      ∀ r r', MemoryStore.key (.new "/tenant//") r ≠ MemoryStore.key (.new "tenant-a") r' := by
  obtain ⟨hkeys, hpaths, hentries⟩ := ArtifactKey.keys_concatenate [] .empty 0
  have hpath : LocalStore.path (.new "/tenant//") (detour.foldl Reference.join ⟨"//runs/"⟩) =
      ["tenant", "runs", "%2E%2E", "%252F", "a", "b"] :=
    (hpaths.joined "/tenant//" ⟨"//runs/"⟩ detour).trans (by decide)
  have hmem : "%2E%2E" ∈
      LocalStore.path (.new "/tenant//") (detour.foldl Reference.join ⟨"//runs/"⟩) := by
    rw [hpath]
    decide
  refine ⟨hpath, hentries "/tenant//" _ _ hmem, fun r r' h => ?_⟩
  exact absurd ((hkeys.meet_iff "/tenant//" "tenant-a").1 ⟨r, r', h⟩) (by decide)

end Sample

end NestedWorkflow
