import Mathlib.Data.List.Basic
import Mathlib.Data.List.Induction
import NestedWorkflow.Artifact

/-!
# Segments of references

A store sees of a reference only the segments of its path.  Putting a slash between two texts puts
their segments one behind the other (`Slashed.segmentsFrom_append_slash`), and slashes at the ends
add none (`Slashed.segments_trim`).  So a step down from a reference adds the segments of the step
(`Reference.segments_join`), and a key is the segments of the store's prefix followed by those of
the reference (`ArtifactKey.of_eq_append`), however often slashes are written.  Segments are what is
left of a text that is cut at every slash when the empty parts are left out
(`Slashed.segments_eq_filter`).  Cutting them once more changes nothing (`IsSegment.segments_eq`),
so every list of segments is that of some reference (`Reference.segments_foldl_join_empty`).
-/

namespace NestedWorkflow

namespace Slashed

/-- A slash between two texts separates their segments. -/
lemma segmentsFrom_append_slash (current front back : List Char) :
    segmentsFrom current (front ++ '/' :: back) = segmentsFrom current front ++ segments back := by
  induction front generalizing current with
  | nil =>
    by_cases h : current = []
    · simp [segmentsFrom, segments, h]
    · simp [segmentsFrom, segments, h]
  | cons c front ih =>
    simp only [List.cons_append, segmentsFrom]
    by_cases hc : c = '/'
    · by_cases h : current = []
      · simp only [hc, h, if_true]
        exact ih []
      · simp only [hc, h, if_true, if_false, List.cons_append]
        rw [ih []]
    · simp only [hc, if_false]
      exact ih (current ++ [c])

/-- Texts on both sides of a slash keep their segments. -/
lemma segments_append_slash (front back : List Char) :
    segments (front ++ '/' :: back) = segments front ++ segments back :=
  segmentsFrom_append_slash [] front back

/-- Leading slashes add no segments. -/
lemma segments_trimStart (cs : List Char) : segments (trimStart cs) = segments cs := by
  induction cs with
  | nil => rfl
  | cons c cs ih =>
    by_cases hc : c = '/'
    · subst hc
      exact ih
    · rw [trimStart, List.dropWhile_cons_of_neg (by simpa using hc)]

/-- Trailing slashes are dropped one by one. -/
lemma trimEnd_concat (cs : List Char) (c : Char) :
    trimEnd (cs ++ [c]) = if c = '/' then trimEnd cs else cs ++ [c] := by
  unfold trimEnd trimStart
  rw [List.reverse_concat]
  by_cases hc : c = '/'
  · rw [List.dropWhile_cons_of_pos (by simpa using hc), if_pos hc]
  · rw [List.dropWhile_cons_of_neg (by simpa using hc), if_neg hc, List.reverse_cons,
      List.reverse_reverse]

/-- Trailing slashes add no segments. -/
lemma segments_trimEnd (cs : List Char) : segments (trimEnd cs) = segments cs := by
  induction cs using List.reverseRecOn with
  | nil => rfl
  | append_singleton cs c ih =>
    rw [trimEnd_concat]
    by_cases hc : c = '/'
    · subst hc
      rw [if_pos rfl, ih, segments_append_slash]
      exact (List.append_nil _).symm
    · rw [if_neg hc]

/-- Slashes at the ends add no segments. -/
lemma segments_trim (cs : List Char) : segments (trim cs) = segments cs := by
  rw [trim, segments_trimEnd, segments_trimStart]

/-- Nothing in front of the first part leaves the parts as they are. -/
lemma modifyHead_nil_append (parts : List (List Char)) : parts.modifyHead ([] ++ ·) = parts :=
  congrFun List.modifyHead_id parts

/-- The first part of a text that is cut at every slash continues what comes before the text. -/
lemma segmentsFrom_eq_filter (current cs : List Char) :
    segmentsFrom current cs = ((cs.splitOn '/').modifyHead (current ++ ·)).filter (· ≠ []) := by
  induction cs generalizing current with
  | nil =>
    rw [List.splitOn_nil, List.modifyHead_cons, List.append_nil, segmentsFrom]
    by_cases h : current = []
    · rw [if_pos h, List.filter_cons_of_neg (by simpa using h), List.filter_nil]
    · rw [if_neg h, List.filter_cons_of_pos (by simpa using h), List.filter_nil]
  | cons c cs ih =>
    rw [segmentsFrom]
    by_cases hc : c = '/'
    · have hsplit : (c :: cs).splitOn '/' = [] :: cs.splitOn '/' := by
        rw [List.splitOn_cons_eq_if_modifyHead, if_pos (by simpa using hc)]
      have hrest : segmentsFrom [] cs = (cs.splitOn '/').filter (· ≠ []) := by
        rw [ih [], modifyHead_nil_append]
      rw [if_pos hc, hrest, hsplit, List.modifyHead_cons, List.append_nil]
      by_cases h : current = []
      · rw [if_pos h, List.filter_cons_of_neg (by simpa using h)]
      · rw [if_neg h, List.filter_cons_of_pos (by simpa using h)]
    · have hsplit : (c :: cs).splitOn '/' = (cs.splitOn '/').modifyHead (c :: ·) := by
        rw [List.splitOn_cons_eq_if_modifyHead, if_neg (by simpa using hc)]
      have hparts : ((c :: cs).splitOn '/').modifyHead (current ++ ·) =
          (cs.splitOn '/').modifyHead (current ++ [c] ++ ·) := by
        rw [hsplit, List.modifyHead_modifyHead]
        congr 1
        funext part
        exact (List.append_assoc current [c] part).symm
      rw [if_neg hc, ih, hparts]

/-- Segments are the parts between slashes that are not empty. -/
theorem segments_eq_filter (cs : List Char) :
    segments cs = (cs.splitOn '/').filter (· ≠ []) := by
  rw [segments, segmentsFrom_eq_filter, modifyHead_nil_append]

/-- A segment has characters, and none of them is a slash. -/
lemma of_mem_segmentsFrom {current cs part : List Char} (hcurrent : '/' ∉ current)
    (h : part ∈ segmentsFrom current cs) : part ≠ [] ∧ '/' ∉ part := by
  induction cs generalizing current with
  | nil =>
    by_cases hempty : current = []
    · rw [segmentsFrom, if_pos hempty] at h
      exact absurd h List.not_mem_nil
    · rw [segmentsFrom, if_neg hempty] at h
      rw [List.mem_singleton.1 h]
      exact ⟨hempty, hcurrent⟩
  | cons c cs ih =>
    rw [segmentsFrom] at h
    by_cases hc : c = '/'
    · rw [if_pos hc] at h
      by_cases hempty : current = []
      · rw [if_pos hempty] at h
        exact ih List.not_mem_nil h
      · rw [if_neg hempty] at h
        rcases List.mem_cons.1 h with rfl | hrest
        · exact ⟨hempty, hcurrent⟩
        · exact ih List.not_mem_nil hrest
    · rw [if_neg hc] at h
      have hlonger : '/' ∉ current ++ [c] := by
        rw [List.mem_append, List.mem_singleton, not_or]
        exact ⟨hcurrent, fun heq => hc heq.symm⟩
      exact ih hlonger h

/-- A text without slashes is one segment. -/
lemma segments_eq_singleton {cs : List Char} (hne : cs ≠ []) (hslash : '/' ∉ cs) :
    segments cs = [cs] := by
  rw [segments_eq_filter, List.splitOn_eq_singleton hslash]
  exact List.filter_cons_of_pos (by simpa using hne)

end Slashed

/-- A text that can be a segment. -/
structure IsSegment (s : String) : Prop where
  ne_empty : s ≠ ""
  slash_notMem : '/' ∉ s.toList

/-- A segment has itself as its only segment. -/
lemma IsSegment.segments_eq {s : String} (h : IsSegment s) : (Reference.mk s).segments = [s] := by
  have hne : s.toList ≠ [] := fun hnil => h.ne_empty (String.toList_eq_nil_iff.1 hnil)
  rw [Reference.segments, Slashed.segments_eq_singleton hne h.slash_notMem, List.map_singleton,
    String.ofList_toList]

namespace Reference

/-- What a store makes of a path are segments. -/
lemma isSegment_of_mem {r : Reference} {s : String} (h : s ∈ r.segments) : IsSegment s := by
  obtain ⟨part, hpart, rfl⟩ := List.mem_map.1 h
  obtain ⟨hne, hslash⟩ := Slashed.of_mem_segmentsFrom List.not_mem_nil hpart
  refine ⟨fun hempty => hne ?_, ?_⟩
  · rw [← String.toList_ofList (l := part), hempty, String.toList_empty]
  · rwa [String.toList_ofList]

/-- A reference without a path has no segments. -/
lemma segments_of_isEmpty {r : Reference} (h : r.isEmpty = true) : r.segments = [] := by
  have hpath : r.path = "" := by simpa [isEmpty] using h
  unfold segments
  rw [hpath]
  rfl

/-- A step down adds the segments of the step. -/
theorem segments_join (base : Reference) (step : String) :
    (base.join step).segments = base.segments ++ (Reference.mk step).segments := by
  have hstep : Slashed.segments (Slashed.trim step.toList) = Slashed.segments step.toList :=
    Slashed.segments_trim step.toList
  unfold join
  by_cases hbase : base.isEmpty = true
  · rw [segments_of_isEmpty hbase, if_pos hbase, List.nil_append]
    simp only [segments, String.toList_ofList, hstep]
  · rw [if_neg hbase]
    simp only [segments, String.toList_ofList]
    rw [Slashed.segments_append_slash, Slashed.segments_trimEnd, hstep, List.map_append]

/-- Steps down add their segments one behind the other. -/
theorem segments_foldl_join (r : Reference) (steps : List String) :
    (steps.foldl join r).segments =
      r.segments ++ steps.flatMap fun step => (Reference.mk step).segments := by
  induction steps generalizing r with
  | nil => rw [List.foldl_nil, List.flatMap_nil, List.append_nil]
  | cons step steps ih =>
    rw [List.foldl_cons, ih, segments_join, List.flatMap_cons, List.append_assoc]

/-- A reference with given segments. -/
lemma segments_foldl_join_empty {parts : List String} (h : ∀ s ∈ parts, IsSegment s) :
    (parts.foldl join empty).segments = parts := by
  have hparts : (parts.flatMap fun s => (Reference.mk s).segments) = parts.flatMap fun s => [s] :=
    List.flatMap_congr fun s hs => (h s hs).segments_eq
  rw [segments_foldl_join, hparts, List.flatMap_singleton', segments_of_isEmpty rfl,
    List.nil_append]

end Reference

/-- A key is made of the segments of the prefix and those of the reference. -/
theorem ArtifactKey.of_eq_append (base : String) (r : Reference) :
    ArtifactKey.of base r = (Reference.mk base).segments ++ r.segments := by
  have hbase : Slashed.segments (Slashed.trim base.toList) = Slashed.segments base.toList :=
    Slashed.segments_trim base.toList
  unfold ArtifactKey.of spelling Reference.segments
  rw [← hbase]
  by_cases hfront : Slashed.trim base.toList = []
  · rw [if_pos hfront, hfront]
    rfl
  · rw [if_neg hfront, Slashed.segments_append_slash, Slashed.segments_trimStart, List.map_append]

/-- Two references have one key in a store exactly if they have the same segments. -/
theorem ArtifactKey.of_inj {base : String} {r r' : Reference} :
    ArtifactKey.of base r = ArtifactKey.of base r' ↔ r.segments = r'.segments := by
  rw [of_eq_append, of_eq_append, List.append_cancel_left_eq]

end NestedWorkflow
