import Mathlib.Data.Finmap
import NestedWorkflow.Proofs.Artifact.Memory

/-!
# Stores in memory are maps

A store in memory answers every sequence of requests as a finite map does whose keys are the
non-empty pieces of paths (`MemoryStore.answers_as_map`).  The prefix of the store cannot be told
from the answers, nor can the spelling of a path from anything but the report of a copy whose source
is missing.  A read finds what was last written under some spelling of its path
(`ArtifactMap.lookup_after`).
-/

namespace NestedWorkflow

/-- What stands between the slashes of the path, where that is not empty. -/
def Reference.pieces (r : Reference) : List String :=
  ((r.path.toList.splitOn '/').filter (· ≠ [])).map String.ofList

/-- These are the segments that a store makes of the path. -/
lemma Reference.pieces_eq_segments (r : Reference) : r.pieces = r.segments := by
  rw [pieces, segments, Slashed.segments_eq_filter]

/-- What a store of artifacts is asked for. -/
inductive StorageRequest
  | put (r : Reference) (bytes : ByteArray)
  | get (r : Reference)
  | head (r : Reference)
  | copy (source destination : Reference)

/-- What a store of artifacts answers. -/
inductive StorageAnswer
  /-- Something was written. -/
  | done
  | bytes (found : Option ByteArray)
  | probed (found : Metadata)
  | failed (e : StorageError)

/-- The answers to requests, one after the other, and what is there in the end. -/
def serveAll {σ : Type} (serve : σ → StorageRequest → StorageAnswer × σ) (s : σ) :
    List StorageRequest → List StorageAnswer × σ
  | [] => ([], s)
  | request :: later =>
    let rest := serveAll serve (serve s request).2 later
    ((serve s request).1 :: rest.1, rest.2)

section serveAll

variable {σ τ : Type} {serve : σ → StorageRequest → StorageAnswer × σ}
  {serve' : τ → StorageRequest → StorageAnswer × τ}

/-- What is there after one more request. -/
lemma serveAll_concat (s : σ) (earlier : List StorageRequest) (request : StorageRequest) :
    (serveAll serve s (earlier ++ [request])).2 =
      (serve (serveAll serve s earlier).2 request).2 := by
  induction earlier generalizing s with
  | nil => rfl
  | cons first later ih => exact ih (serve s first).2

/-- If related states give the same answer to every request, and are related after it, they give the
same answers to all requests. -/
theorem serveAll_of_related {rel : σ → τ → Prop}
    (hstep : ∀ s t request, rel s t →
      (serve s request).1 = (serve' t request).1 ∧ rel (serve s request).2 (serve' t request).2)
    {s : σ} {t : τ} (h : rel s t) (requests : List StorageRequest) :
    (serveAll serve s requests).1 = (serveAll serve' t requests).1 ∧
      rel (serveAll serve s requests).2 (serveAll serve' t requests).2 := by
  induction requests generalizing s t with
  | nil => exact ⟨rfl, h⟩
  | cons request later ih =>
    obtain ⟨hanswer, hafter⟩ := hstep s t request h
    obtain ⟨hanswers, hend⟩ := ih hafter
    exact ⟨congrArg₂ List.cons hanswer hanswers, hend⟩

end serveAll

/-! ### The map -/

/-- Bytes by the pieces of a path. -/
abbrev ArtifactMap := Finmap fun _ : List String => ByteArray

namespace ArtifactMap

/-- The answer of a map to a request, and the map after it. -/
def serve (c : ArtifactMap) : StorageRequest → StorageAnswer × ArtifactMap
  | .put r bytes => (.done, c.insert r.pieces bytes)
  | .get r => (.bytes (c.lookup r.pieces), c)
  | .head r =>
    (.probed ⟨(c.lookup r.pieces).isSome, (c.lookup r.pieces).elim 0 ByteArray.size⟩, c)
  | .copy source destination =>
    match c.lookup source.pieces with
    | none => (.failed (.notFound source), c)
    | some bytes => (.done, c.insert destination.pieces bytes)

/-- Under the key that was written stands what was written, and nothing else has changed. -/
lemma lookup_insert_eq (c : ArtifactMap) (key other : List String) (bytes : ByteArray) :
    (c.insert key bytes).lookup other = if other = key then some bytes else c.lookup other := by
  by_cases h : other = key
  · rw [if_pos h, h, Finmap.lookup_insert]
  · rw [if_neg h, Finmap.lookup_insert_of_ne c h]

/-- The bytes that were last put or copied to a key, by the requests from the latest to the first.
A copy of what was not there wrote nothing. -/
def lastWritten (key : List String) : List StorageRequest → Option ByteArray
  | [] => none
  | .put r bytes :: earlier => if key = r.pieces then some bytes else lastWritten key earlier
  | .copy source destination :: earlier =>
    if key = destination.pieces then
      (lastWritten source.pieces earlier).or (lastWritten key earlier)
    else lastWritten key earlier
  | .get _ :: earlier | .head _ :: earlier => lastWritten key earlier

/-- A map that was empty holds what was last written to each key. -/
theorem lookup_after (requests : List StorageRequest) (key : List String) :
    (serveAll serve ∅ requests).2.lookup key = lastWritten key requests.reverse := by
  induction requests using List.reverseRecOn generalizing key with
  | nil => exact Finmap.lookup_empty key
  | append_singleton earlier request ih =>
    rw [serveAll_concat, List.reverse_concat]
    generalize (serveAll serve ∅ earlier).2 = c at ih ⊢
    cases request with
    | put r bytes =>
      rw [lastWritten, ← ih key, serve, lookup_insert_eq]
    | get r => exact ih key
    | head r => exact ih key
    | copy source destination =>
      rw [lastWritten, ← ih key, ← ih source.pieces, serve]
      cases c.lookup source.pieces with
      | none => rw [Option.none_or, ite_self]
      | some bytes => rw [lookup_insert_eq, Option.some_or]

end ArtifactMap

/-! ### The store -/

namespace MemoryStore

/-- The answer of a store to a request, and the store after it. -/
def serve (m : MemoryStore) : StorageRequest → StorageAnswer × MemoryStore
  | .put r bytes => (.done, m.put r bytes)
  | .get r => (.bytes (m.get? r), m)
  | .head r => (.probed (m.head r), m)
  | .copy source destination =>
    match m.copy source destination with
    | .ok m' => (.done, m')
    | .error e => (.failed e, m)

/-- A copy whose source is missing is refused, and one whose source is there writes to its
destination. -/
lemma serve_copy (m : MemoryStore) (source destination : Reference) :
    m.serve (.copy source destination) =
      match m.get? source with
      | none => (.failed (.notFound source), m)
      | some bytes => (.done, m.put destination bytes) := by
  rw [serve, copy]
  cases m.get? source <;> rfl

/-- A store holds what a map holds, under every spelling of every path. -/
def Represents (m : MemoryStore) (c : ArtifactMap) : Prop :=
  ∀ r, m.get? r = c.lookup r.pieces

/-- A store without artifacts holds what the empty map holds. -/
lemma represents_new (base : String) : (new base).Represents ∅ := by
  intro r
  have hnone : (∅ : ArtifactMap).lookup r.pieces = none := Finmap.lookup_empty r.pieces
  exact hnone.symm

/-- A reference finds what was written under another one if their paths have the same pieces, and
what was there before if not. -/
lemma get?_put_of_pieces (m : MemoryStore) (r other : Reference) (bytes : ByteArray) :
    (m.put r bytes).get? other = if other.pieces = r.pieces then some bytes else m.get? other := by
  simp only [Reference.pieces_eq_segments, get?_put]

/-- Spellings of one path find the same artifact. -/
lemma get?_eq_of_pieces (m : MemoryStore) {r r' : Reference} (h : r.pieces = r'.pieces) :
    m.get? r = m.get? r' := by
  simp only [Reference.pieces_eq_segments] at h
  exact m.get?_congr h

variable {m : MemoryStore} {c : ArtifactMap}

/-- Writing to both leaves a store that holds what the map holds. -/
lemma Represents.put (h : m.Represents c) (r : Reference) (bytes : ByteArray) :
    (m.put r bytes).Represents (c.insert r.pieces bytes) := by
  intro other
  rw [get?_put_of_pieces, ArtifactMap.lookup_insert_eq, h]

/-- A store that holds what a map holds answers a request as the map does, and still holds what it
holds after it. -/
theorem Represents.serve (h : m.Represents c) (request : StorageRequest) :
    (m.serve request).1 = (c.serve request).1 ∧
      (m.serve request).2.Represents (c.serve request).2 := by
  cases request with
  | put r bytes => exact ⟨rfl, h.put r bytes⟩
  | get r => exact ⟨congrArg StorageAnswer.bytes (h r), h⟩
  | head r =>
    rw [MemoryStore.serve, ArtifactMap.serve, head, h r]
    cases c.lookup r.pieces with
    | none => exact ⟨rfl, h⟩
    | some bytes => exact ⟨rfl, h⟩
  | copy source destination =>
    rw [serve_copy, ArtifactMap.serve, h source]
    cases c.lookup source.pieces with
    | none => exact ⟨rfl, h⟩
    | some bytes => exact ⟨rfl, h.put destination bytes⟩

/-- After any requests a store that was empty holds what the map holds, and it has given the answers
of the map. -/
lemma represents_serveAll (base : String) (requests : List StorageRequest) :
    (serveAll serve (new base) requests).1 = (serveAll ArtifactMap.serve ∅ requests).1 ∧
      (serveAll serve (new base) requests).2.Represents
        (serveAll ArtifactMap.serve ∅ requests).2 :=
  serveAll_of_related (fun _ _ request h => h.serve request) (represents_new base) requests

/-! ### Laws of a store -/

/-- The requests of a store in terms of what is read under each spelling of a path. -/
structure ActsAsMap (m : MemoryStore) : Prop where
  get : ∀ r, m.serve (.get r) = (.bytes (m.get? r), m)
  /-- Spellings of one path cannot be told apart. -/
  get?_congr : ∀ r r', r.pieces = r'.pieces → m.get? r = m.get? r'
  head_absent : ∀ r, m.get? r = none → m.serve (.head r) = (.probed ⟨false, 0⟩, m)
  head_present : ∀ r bytes, m.get? r = some bytes →
    m.serve (.head r) = (.probed ⟨true, bytes.size⟩, m)
  put : ∀ r bytes, ∃ m', m.serve (.put r bytes) = (.done, m') ∧
    ∀ other, m'.get? other = if other.pieces = r.pieces then some bytes else m.get? other
  copy_absent : ∀ source destination, m.get? source = none →
    m.serve (.copy source destination) = (.failed (.notFound source), m)
  copy_present : ∀ source destination bytes, m.get? source = some bytes →
    ∃ m', m.serve (.copy source destination) = (.done, m') ∧
      ∀ other, m'.get? other =
        if other.pieces = destination.pieces then some bytes else m.get? other
  /-- A copy to another spelling of its source changes nothing. -/
  copy_same : ∀ source destination, source.pieces = destination.pieces →
    ∀ other, (m.serve (.copy source destination)).2.get? other = m.get? other

/-- Every store obeys the laws. -/
theorem actsAsMap (m : MemoryStore) : m.ActsAsMap where
  get _ := rfl
  get?_congr _ _ := m.get?_eq_of_pieces
  head_absent r hr := by rw [serve, head, hr]; rfl
  head_present r bytes hr := by rw [serve, head, hr]; rfl
  put r bytes := ⟨_, rfl, fun other => m.get?_put_of_pieces r other bytes⟩
  copy_absent source destination hsource := by rw [serve_copy, hsource]
  copy_present source destination bytes hsource := by
    rw [serve_copy, hsource]
    exact ⟨_, rfl, fun other => m.get?_put_of_pieces destination other bytes⟩
  copy_same source destination hpieces other := by
    rw [serve_copy]
    cases hsource : m.get? source with
    | none => rfl
    | some bytes =>
      rw [get?_put_of_pieces]
      by_cases hother : other.pieces = destination.pieces
      · rw [if_pos hother, ← hsource, m.get?_eq_of_pieces (hother.trans hpieces.symm)]
      · rw [if_neg hother]

/-- A store in memory that was empty is a map, whatever its prefix.  It gives the answers of the
finite map from pieces of paths to bytes, finds under every spelling what was last written there,
and obeys the laws of a map. -/
theorem answers_as_map (base : String) (requests : List StorageRequest) :
    (serveAll serve (new base) requests).1 = (serveAll ArtifactMap.serve ∅ requests).1 ∧
      (∀ r, (serveAll serve (new base) requests).2.get? r =
        ArtifactMap.lastWritten r.pieces requests.reverse) ∧
      (serveAll serve (new base) requests).2.ActsAsMap := by
  obtain ⟨hanswers, hend⟩ := represents_serveAll base requests
  refine ⟨hanswers, fun r => ?_, actsAsMap _⟩
  rw [hend r, ArtifactMap.lookup_after]

end MemoryStore

namespace Sample

/-- An artifact under several spellings of its path, another one that is missing, and a
directory. -/
def spellings : List StorageRequest :=
  [.put ⟨"/a//b/"⟩ ⟨#[5]⟩, .copy ⟨"a/b"⟩ ⟨"//a/b"⟩, .copy ⟨"c/"⟩ ⟨"a/b"⟩, .head ⟨"a/b/"⟩,
    .get ⟨"a"⟩]

/-- The copy of the artifact to itself is done, and that of the missing one is refused.  Neither
changes what is found under a further spelling. -/
theorem spellings_answered :
    (serveAll ArtifactMap.serve ∅ spellings).1 =
        [.done, .done, .failed (.notFound ⟨"c/"⟩), .probed ⟨true, 1⟩, .bytes none] ∧
      (serveAll MemoryStore.serve (.new "runs/") spellings).2.get? ⟨"a/b"⟩ = some ⟨#[5]⟩ := by
  obtain ⟨hanswers, -, hlaws⟩ := MemoryStore.answers_as_map "runs/" spellings
  refine ⟨hanswers.symm.trans rfl, ?_⟩
  calc (serveAll MemoryStore.serve (.new "runs/") spellings).2.get? ⟨"a/b"⟩
      = (serveAll MemoryStore.serve (.new "runs/") spellings).2.get? ⟨"/a//b/"⟩ :=
        hlaws.get?_congr _ _ (by decide)
    _ = some ⟨#[5]⟩ := by decide

end Sample

end NestedWorkflow
