import NestedWorkflow.Proofs.Graph.DepthFirst
import NestedWorkflow.Proofs.Text.ByteOrder

/-!
# The first defect of a graph

`Graph.of` looks for three kinds of defects, in this order: a repeated node, a node that
dependencies mention and that is not there, and dependencies that lead in a circle.  `Graph.Verdict`
says which result nodes and dependencies deserve, without an algorithm: the first two kinds are
reported with the first place where they show, and for the last one a circle is a path from a node
to itself.  Here it is shown that this is what `Graph.of` returns (`Graph.of_eq_iff`).

Dependencies are gone through by key.  Keys are in the order of texts, which is the order of their
bytes (`UniqueId.bytes_lt_bytes`).
-/

namespace NestedWorkflow

/-! ### Entries in order -/

/-- What stands before a key are the entries with smaller keys. -/
lemma Entries.mem_front_iff {α : Type*} {front back : Entries α} {key : String} {value : α}
    (h : Entries.InOrder (front ++ (key, value) :: back)) {e : String × α} :
    e ∈ front ↔ e ∈ front ++ (key, value) :: back ∧ e.1 < key := by
  obtain ⟨-, hback, hcross⟩ := List.pairwise_append.1 h
  have hafter : ∀ later ∈ back, key < later.1 := (List.pairwise_cons.1 hback).1
  constructor
  · intro he
    exact ⟨List.mem_append_left _ he, hcross e he _ List.mem_cons_self⟩
  · rintro ⟨he, hlt⟩
    rcases List.mem_append.1 he with he | he
    · exact he
    rcases List.mem_cons.1 he with rfl | he
    · exact absurd hlt (String.lt_irrefl _)
    · exact absurd (String.lt_trans hlt (hafter e he)) (String.lt_irrefl _)

namespace Graph

/-! ### Repeated nodes -/

/-- The node at the first place whose node occurred before. -/
def FirstRepeat (nodes : List NodeId) (x : NodeId) : Prop :=
  ∃ front back, nodes = front ++ x :: back ∧ front.Nodup ∧ x ∈ front

/-- What is found was seen before, be it at the start or in the list, and nothing before it was. -/
lemma exists_of_firstRepeated {seen nodes : List NodeId} {x : NodeId}
    (h : firstRepeated seen nodes = some x) :
    ∃ front back, nodes = front ++ x :: back ∧ front.Nodup ∧ (∀ n ∈ front, n ∉ seen) ∧
      (x ∈ seen ∨ x ∈ front) := by
  induction nodes generalizing seen with
  | nil => cases h
  | cons first rest ih =>
    rw [firstRepeated] at h
    split at h
    · rename_i hfirst
      cases h
      exact ⟨[], rest, rfl, List.nodup_nil, by simp, .inl hfirst⟩
    · rename_i hfirst
      obtain ⟨front, back, rfl, hnodup, hnew, hx⟩ := ih h
      have hfront : first ∉ front := fun hmem => hnew first hmem List.mem_cons_self
      refine ⟨first :: front, back, rfl, List.nodup_cons.2 ⟨hfront, hnodup⟩, ?_, ?_⟩
      · intro n hn
        rcases List.mem_cons.1 hn with rfl | hn
        · exact hfirst
        · exact fun hseen => hnew n hn (List.mem_cons_of_mem _ hseen)
      · simp only [List.mem_cons] at hx ⊢
        tauto

/-- The first node that was seen before, be it at the start or in the list, is found. -/
lemma firstRepeated_append {seen front back : List NodeId} {x : NodeId} (hnodup : front.Nodup)
    (hnew : ∀ n ∈ front, n ∉ seen) (hx : x ∈ seen ∨ x ∈ front) :
    firstRepeated seen (front ++ x :: back) = some x := by
  induction front generalizing seen with
  | nil =>
    have hseen : x ∈ seen := by simpa using hx
    rw [List.nil_append, firstRepeated, if_pos hseen]
  | cons first front ih =>
    obtain ⟨hfirst, hnodup⟩ := List.nodup_cons.1 hnodup
    rw [List.cons_append, firstRepeated, if_neg (hnew first List.mem_cons_self)]
    refine ih hnodup ?_ ?_
    · intro n hn hseen
      rcases List.mem_cons.1 hseen with rfl | hseen
      · exact hfirst hn
      · exact hnew n (List.mem_cons_of_mem _ hn) hseen
    · simp only [List.mem_cons] at hx ⊢
      tauto

/-- The first repeated node is found. -/
lemma firstRepeated_eq_some_iff {nodes : List NodeId} {x : NodeId} :
    firstRepeated [] nodes = some x ↔ FirstRepeat nodes x := by
  constructor
  · intro h
    obtain ⟨front, back, hsplit, hnodup, -, hx⟩ := exists_of_firstRepeated h
    exact ⟨front, back, hsplit, hnodup, by simpa using hx⟩
  · rintro ⟨front, back, rfl, hnodup, hx⟩
    exact firstRepeated_append hnodup (by simp) (.inr hx)

/-- There is a first repeated node if and only if some node is repeated. -/
lemma exists_firstRepeat_iff {nodes : List NodeId} :
    (∃ x, FirstRepeat nodes x) ↔ ¬ nodes.Nodup := by
  constructor
  · rintro ⟨x, front, back, rfl, -, hx⟩ hnodup
    exact (List.nodup_append.1 hnodup).2.2 x hx x List.mem_cons_self rfl
  · intro hrepeats
    cases h : firstRepeated [] nodes with
    | none => exact absurd (nodup_of_firstRepeated_eq_none h).1 hrepeats
    | some x => exact ⟨x, firstRepeated_eq_some_iff.1 h⟩

/-- Nothing is found if and only if no node is repeated. -/
lemma firstRepeated_eq_none_iff {nodes : List NodeId} :
    firstRepeated [] nodes = none ↔ nodes.Nodup := by
  have hsome : (∃ x, FirstRepeat nodes x) ↔ ¬ nodes.Nodup := exists_firstRepeat_iff
  simp only [← firstRepeated_eq_some_iff, ← Option.ne_none_iff_exists'] at hsome
  exact not_iff_not.1 hsome

/-! ### Unknown nodes -/

section Unknown

variable {nodes : List NodeId} {dependencies : Dependencies} {y : NodeId}

/-- Keys and prerequisites are nodes, also keys without prerequisites. -/
def Known (nodes : List NodeId) (dependencies : Dependencies) : Prop :=
  ∀ key needed, dependencies.get? key = some needed → ∀ u ∈ key :: needed, u ∈ nodes

/-- The first that is not a node: under the keys with smaller bytes everything is, and so is what
stands before it under its own key, beginning with the key itself. -/
def FirstUnknown (nodes : List NodeId) (dependencies : Dependencies) (y : NodeId) : Prop :=
  ∃ key needed front back, dependencies.get? key = some needed ∧
    key :: needed = front ++ y :: back ∧ y ∉ nodes ∧ (∀ u ∈ front, u ∈ nodes) ∧
    ∀ smaller upstream, dependencies.get? smaller = some upstream →
      UniqueId.bytes smaller < UniqueId.bytes key → ∀ u ∈ smaller :: upstream, u ∈ nodes

/-- Everything that is mentioned is known. -/
lemma known_iff : Known nodes dependencies ↔ ∀ node ∈ mentioned dependencies, node ∈ nodes := by
  unfold Known mentioned
  simp only [List.mem_flatMap, Prod.exists, Dict.mem_entries_iff]
  constructor
  · rintro h node ⟨key, needed, hneeded, hnode⟩
    exact h key needed hneeded node hnode
  · intro h key needed hneeded u hu
    exact h u ⟨key, needed, hneeded, hu⟩

/-- The first unknown node is found. -/
lemma find?_mentioned_eq_some_iff :
    (mentioned dependencies).find? (fun node => !nodes.contains node) = some y ↔
      FirstUnknown nodes dependencies y := by
  rw [mentioned, List.find?_flatMap, List.findSome?_eq_some_iff]
  constructor
  · rintro ⟨before, ⟨key, needed⟩, after, hentries, hfound, hbefore⟩
    obtain ⟨hy, front, back, hsplit, hfront⟩ := List.find?_eq_some_iff_append.1 hfound
    have hkey : dependencies.get? key = some needed :=
      Dict.mem_entries_iff.1 (hentries ▸ List.mem_append_right _ List.mem_cons_self)
    refine ⟨key, needed, front, back, hkey, hsplit, by simpa using hy, by simpa using hfront, ?_⟩
    intro smaller upstream hupstream hbytes
    have hmem : (smaller, upstream) ∈ before := by
      refine (Entries.mem_front_iff (hentries ▸ dependencies.inOrder)).2 ⟨?_, ?_⟩
      · exact hentries ▸ Dict.mem_entries_iff.2 hupstream
      · exact UniqueId.bytes_lt_bytes.1 hbytes
    simpa using List.find?_eq_none.1 (hbefore _ hmem)
  · rintro ⟨key, needed, front, back, hkey, hsplit, hy, hfront, hsmaller⟩
    obtain ⟨before, after, hentries⟩ := List.append_of_mem (Dict.mem_entries_iff.2 hkey)
    refine ⟨before, (key, needed), after, hentries, ?_, ?_⟩
    · refine List.find?_eq_some_iff_append.2 ⟨by simpa using hy, front, back, hsplit, ?_⟩
      simpa using hfront
    · rintro ⟨smaller, upstream⟩ hmem
      obtain ⟨hentry, hlt⟩ := (Entries.mem_front_iff (hentries ▸ dependencies.inOrder)).1 hmem
      have hupstream := Dict.mem_entries_iff.1 (hentries ▸ hentry)
      refine List.find?_eq_none.2 ?_
      simpa using hsmaller smaller upstream hupstream (UniqueId.bytes_lt_bytes.2 hlt)

/-- Nothing is found if and only if all nodes are known. -/
lemma find?_mentioned_eq_none_iff :
    (mentioned dependencies).find? (fun node => !nodes.contains node) = none ↔
      Known nodes dependencies := by
  rw [known_iff, List.find?_eq_none]
  simp

/-- There is a first unknown node if and only if some node is unknown. -/
lemma exists_firstUnknown_iff :
    (∃ y, FirstUnknown nodes dependencies y) ↔ ¬ Known nodes dependencies := by
  simp only [← find?_mentioned_eq_some_iff, ← find?_mentioned_eq_none_iff]
  exact Option.ne_none_iff_exists'.symm

end Unknown

/-! ### The result -/

/-- The result that nodes and dependencies deserve. -/
inductive Verdict (nodes : List NodeId) (dependencies : Dependencies) :
    Except GraphError Graph → Prop
  | repeated {x : NodeId} (h : FirstRepeat nodes x) :
      Verdict nodes dependencies (.error (.duplicateNode x))
  | unknown {y : NodeId} (hnodup : nodes.Nodup) (h : FirstUnknown nodes dependencies y) :
      Verdict nodes dependencies (.error (.unknownNode y))
  | circular (hnodup : nodes.Nodup) (hknown : Known nodes dependencies)
      (h : Circular ⟨nodes, dependencies⟩) : Verdict nodes dependencies (.error .cycle)
  | sound (hnodup : nodes.Nodup) (hknown : Known nodes dependencies)
      (h : ¬ Circular ⟨nodes, dependencies⟩) :
      Verdict nodes dependencies (.ok ⟨nodes, dependencies⟩)

section Result

variable {nodes : List NodeId} {dependencies : Dependencies}

/-- A graph is built as its nodes and dependencies deserve. -/
lemma verdict_of (nodes : List NodeId) (dependencies : Dependencies) :
    Verdict nodes dependencies (Graph.of nodes dependencies) := by
  unfold Graph.of
  split
  · rename_i x hrepeated
    exact .repeated (firstRepeated_eq_some_iff.1 hrepeated)
  · rename_i hrepeated
    have hnodup := firstRepeated_eq_none_iff.1 hrepeated
    split
    · rename_i y hunknown
      exact .unknown hnodup (find?_mentioned_eq_some_iff.1 hunknown)
    · rename_i hunknown
      have hknown := find?_mentioned_eq_none_iff.1 hunknown
      have hacyclic := isAcyclic_iff (g := ⟨nodes, dependencies⟩) (known_iff.1 hknown)
      simp only
      split
      · rename_i h
        exact .sound hnodup hknown (hacyclic.1 h)
      · rename_i h
        exact .circular hnodup hknown (not_not.1 fun hg => h (hacyclic.2 hg))

/-- No other result is deserved. -/
lemma Verdict.of_eq {result : Except GraphError Graph} (h : Verdict nodes dependencies result) :
    Graph.of nodes dependencies = result := by
  unfold Graph.of
  cases h with
  | repeated hx => rw [firstRepeated_eq_some_iff.2 hx]
  | unknown hnodup hy =>
    rw [firstRepeated_eq_none_iff.2 hnodup]
    simp only [find?_mentioned_eq_some_iff.2 hy]
  | circular hnodup hknown hg =>
    have hcyclic : ¬ isAcyclic ⟨nodes, dependencies⟩ = true := fun h =>
      (isAcyclic_iff (known_iff.1 hknown)).1 h hg
    rw [firstRepeated_eq_none_iff.2 hnodup]
    simp only [find?_mentioned_eq_none_iff.2 hknown, if_neg hcyclic]
  | sound hnodup hknown hg =>
    have hacyclic : isAcyclic ⟨nodes, dependencies⟩ = true :=
      (isAcyclic_iff (known_iff.1 hknown)).2 hg
    rw [firstRepeated_eq_none_iff.2 hnodup]
    simp only [find?_mentioned_eq_none_iff.2 hknown, if_pos hacyclic]

/-- The check of a graph accepts what is sound and reports the first defect otherwise: `Graph.of`
returns the result that nodes and dependencies deserve, and no other.  There is a first repeated
node whenever some node is repeated, and a first unknown node whenever some node is unknown.  If all
nodes are known, a depth-first search ends, and it meets an edge back if and only if dependencies
lead in a circle.  A graph that is accepted has the listed nodes. -/
theorem of_eq_iff (nodes : List NodeId) (dependencies : Dependencies) :
    (∀ result, Graph.of nodes dependencies = result ↔ Verdict nodes dependencies result) ∧
      ((∃ x, FirstRepeat nodes x) ↔ ¬ nodes.Nodup) ∧
      ((∃ y, FirstUnknown nodes dependencies y) ↔ ¬ Known nodes dependencies) ∧
      (Known nodes dependencies →
        (Explores ⟨nodes, dependencies⟩ [] [] nodes none ↔ Circular ⟨nodes, dependencies⟩) ∧
        ((∃ all, Explores ⟨nodes, dependencies⟩ [] [] nodes (some all)) ↔
          ¬ Circular ⟨nodes, dependencies⟩)) ∧
      ∀ g, Graph.of nodes dependencies = .ok g → ∀ id, g.contains id = true ↔ id ∈ nodes := by
  refine ⟨fun result => ⟨?_, Verdict.of_eq⟩, exists_firstRepeat_iff, exists_firstUnknown_iff,
    ?_, ?_⟩
  · rintro rfl
    exact verdict_of nodes dependencies
  · intro hknown
    have hmem := known_iff.1 hknown
    exact ⟨explores_none_iff hmem, exists_explores_some_iff hmem⟩
  · intro g hg id
    obtain ⟨rfl, -⟩ := isDag_of_of_eq_ok hg
    simp [contains]

end Result

/-- Keys in order: the unknown node that is listed under `"b"` comes before the unknown key, which
lists nothing. -/
example : Graph.of ["b", "a"] (Dict.ofList [("ghost", []), ("b", ["a", "spirit"])]) =
    .error (.unknownNode "spirit") := by decide

end Graph

namespace Sample

/-- Nodes, two of which depend on each other. -/
def ring : List NodeId := [startNodeId, "fetch", "report"]

/-- Their prerequisites. -/
def ringDependencies : Dependencies :=
  Dict.ofList [("report", ["fetch"]), ("fetch", [startNodeId, "report"]), (startNodeId, [])]

/-- This graph is refused for its circle, which a depth-first search finds as well; the graph of
`roundabout` is accepted with its nodes. -/
theorem ring_circular :
    Graph.of ring ringDependencies = .error .cycle ∧ Graph.Circular ⟨ring, ringDependencies⟩ ∧
      Graph.Explores ⟨ring, ringDependencies⟩ [] [] ring none ∧
      ∃ g, Graph.of roundabout roundaboutDependencies = .ok g ∧ g.contains "alone" = true := by
  obtain ⟨hverdict, -, -, hsearch, -⟩ := Graph.of_eq_iff ring ringDependencies
  have hcycle : Graph.of ring ringDependencies = .error .cycle := by decide
  have hpasses : Graph.of roundabout roundaboutDependencies =
      .ok ⟨roundabout, roundaboutDependencies⟩ := by decide
  obtain ⟨-, -, -, -, hcontains⟩ := Graph.of_eq_iff roundabout roundaboutDependencies
  have halone := (hcontains _ hpasses "alone").2 (by decide)
  cases (hverdict _).1 hcycle with
  | circular _ hknown hcircular =>
    exact ⟨hcycle, hcircular, (hsearch hknown).1.2 hcircular, _, hpasses, halone⟩

end Sample

end NestedWorkflow
