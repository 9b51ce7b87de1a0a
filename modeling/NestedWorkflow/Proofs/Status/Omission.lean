import NestedWorkflow.Proofs.Status.Reload

/-!
# Documents with members left out

A document of a status may leave out whatever has nothing to say: an optional field that is null, a
checkpoint of a node that did nothing, the attempt of a checkpoint if it is the first, an object
without children.  The members of all its objects may come in any order.  Whatever was left out and
wherever, the same status is read (`Status.ofText_of_spells`).  The first four fields are needed: if
one of them is missing anywhere in the tree, nothing is read.

What may be written for a status is a relation (`Status.Spells`).  It goes down the tree with the
document, and with it goes the account of the fields that are missing though they are needed.
-/

namespace NestedWorkflow

open Json.Value

/-! ### Spellings of statuses -/

namespace Status

/-- The document of a status has to have this field. -/
def Field.Required (i : Field) : Prop := i ∈ [Field.phase, .attempts, .dataDir, .outputDir]

instance (i : Field) : Decidable i.Required :=
  inferInstanceAs (Decidable (i ∈ [Field.phase, .attempts, .dataDir, .outputDir]))

/-- A document of a status, the members of its objects in any order and some of them left out: those
with nothing to say, and besides, at the end of each path of identifiers, the fields that are
lost. -/
inductive Spells : (List NodeId → Field → Prop) → Status → Json.Value → Prop
  | record {lost : List NodeId → Field → Prop} {s : Status} {doc : Field → Json.Value}
      {order : List Field} {childDoc : NodeId → Json.Value} {ids : List NodeId}
      (plain : ∀ i ∉ [Field.checkpoint, .error, .children], doc i = s.fieldDoc i)
      (checkpoint : s.own.checkpoint.Spells (doc .checkpoint))
      (error : Json.OrNull ExecutionError.Spells s.own.error (doc .error))
      (children : doc .children = .record (ids.map fun id => (id, childDoc id)))
      (listed : ids.Perm (s.children.map Prod.fst))
      (below : ∀ id c, s.child? id = some c →
        Spells (fun path => lost (id :: path)) c (childDoc id))
      (nodup : order.Nodup) (omitted : ∀ i ∉ order, s.MayOmit i ∨ lost [] i)
      (missing : ∀ i, lost [] i → i ∉ order) :
      Spells lost s (.record ((shape (childrenReader 0) 0).fieldMembers doc order))

/-- No field is lost. -/
abbrev nothingLost : List NodeId → Field → Prop := fun _ _ => False

/-- The children that are listed are those that there are. -/
lemma mem_ids_iff {s : Status} {ids : List NodeId} (h : ids.Perm (s.children.map Prod.fst))
    {id : NodeId} : id ∈ ids ↔ ∃ c, s.child? id = some c := by
  rw [h.mem_iff, List.mem_map]
  constructor
  · rintro ⟨e, he, rfl⟩
    exact ⟨e.2, mem_children_iff.1 he⟩
  · rintro ⟨c, hc⟩
    exact ⟨(id, c), mem_children_iff.2 hc, rfl⟩

/-- Each document of a status can be written. -/
lemma writable_of_spells {lost : List NodeId → Field → Prop} {s : Status} {v : Json.Value}
    (h : s.Spells lost v) : v.Writable := by
  induction h with
  | @record _ s doc _ _ _ plain checkpoint error children listed _ _ _ _ ih =>
    have hdoc : ∀ i, (doc i).Writable := by
      intro i
      cases i with
      | checkpoint => exact Checkpoint.writable_of_spells checkpoint
      | error => exact writable_of_orNull error
      | children =>
        rw [children]
        refine .record (List.forall_mem_map.2 fun id hid => ?_)
        obtain ⟨c, hc⟩ := (mem_ids_iff listed).1 hid
        exact ih id c hc
      | _ =>
        rw [plain _ (by decide)]
        exact s.fieldDoc_writable (by decide)
    exact .record (List.forall_mem_map.2 fun i _ => hdoc i)

/-- The document as it is written is one of the documents. -/
lemma spells_toJson (s : Status) : s.Spells nothingLost s.toJson := by
  induction s using Status.induction with
  | step s ih =>
    -- Members are written for entries, and are documents of what the identifiers lead to.
    let childDoc : NodeId → Json.Value := fun id => ((s.child? id).map toJson).getD .null
    have hdoc : ∀ {id c}, s.child? id = some c → childDoc id = c.toJson := by
      intro id c hc
      simp only [childDoc, hc, Option.map_some, Option.getD_some]
    have hchildren : s.fieldDoc .children =
        .record ((s.children.map Prod.fst).map fun id => (id, childDoc id)) := by
      rw [List.map_map]
      refine congrArg Json.Value.record (List.map_congr_left fun e he => ?_)
      exact Prod.ext rfl (hdoc (mem_children_iff.1 he)).symm
    have hbelow : ∀ id c, s.child? id = some c → c.Spells nothingLost (childDoc id) := by
      intro id c hc
      rw [hdoc hc]
      exact ih id c hc
    rw [toJson_eq_fieldMembers]
    exact .record (fun _ _ => rfl) s.own.checkpoint.spells_toJson (orNull_nullable _) hchildren
      (.refl _) hbelow shape_proper.nodup (fun i hi => absurd (shape_proper.mem_fields i) hi)
      fun _ => False.elim

/-- Every status has a document, whichever fields are lost. -/
lemma exists_spells (s : Status) (lost : List NodeId → Field → Prop) : ∃ v, s.Spells lost v := by
  classical
  induction s using Status.induction generalizing lost with
  | step s ih =>
    have hchild : ∀ id, ∃ v, ∀ c, s.child? id = some c →
        c.Spells (fun path => lost (id :: path)) v := by
      intro id
      cases hc : s.child? id with
      | none => exact ⟨.null, nofun⟩
      | some c =>
        obtain ⟨v, hv⟩ := ih id c hc fun path => lost (id :: path)
        refine ⟨v, ?_⟩
        rintro _ ⟨⟩
        exact hv
    choose childDoc hbelow using hchild
    obtain ⟨order, hnodup, hmem⟩ : ∃ order : List Field, order.Nodup ∧
        ∀ i, i ∈ order ↔ ¬ lost [] i := by
      refine ⟨(shape (childrenReader 0) 0).fields.filter fun i => ¬ lost [] i,
        shape_proper.nodup.filter _, fun i => ?_⟩
      rw [List.mem_filter, decide_eq_true_eq]
      exact and_iff_right (shape_proper.mem_fields i)
    let children : Json.Value :=
      .record ((s.children.map Prod.fst).map fun id => (id, childDoc id))
    let doc : Field → Json.Value := Function.update s.fieldDoc .children children
    have hplain : ∀ i ∉ [Field.checkpoint, .error, .children], doc i = s.fieldDoc i := by
      intro i hi
      refine Function.update_of_ne ?_ _ _
      rintro rfl
      exact hi (by decide)
    exact ⟨_, .record hplain s.own.checkpoint.spells_toJson (orNull_nullable _)
      (Function.update_self _ _ _) (.refl _) hbelow hnodup
      (fun i hi => .inr (not_not.1 (mt (hmem i).2 hi))) fun i hi hin => (hmem i).1 hin hi⟩

/-! ### Reading what was written -/

/-- Every status of the tree has numbers of the size they have in documents. -/
def Sized (s : Status) : Prop :=
  ∀ path d, s.descendant? path = some d → d.own.Sized

/-- The statuses below a child have numbers of that size. -/
lemma Sized.child {s c : Status} {id : NodeId} (h : s.Sized) (hc : s.child? id = some c) :
    c.Sized :=
  fun path d hd => h (id :: path) d (descendant?_cons_eq_some_iff.2 ⟨c, hc, hd⟩)

/-- A status is read from each of its documents if there are two levels of nesting for each of its
levels, and one more. -/
theorem ofJson_of_spells {s : Status} (hsize : s.Sized) {levels : Nat}
    (hlevels : s.Shallow levels) {v : Json.Value} (h : s.Spells nothingLost v) :
    ofJson (2 * levels + 1) v = .ok s := by
  induction levels generalizing s v with
  | zero => exact absurd (hlevels [] s rfl) (Nat.not_lt_zero _)
  | succ levels ih =>
    obtain @⟨_, _, doc, order, childDoc, ids, plain, checkpoint, error, children, listed, below,
      nodup, omitted, -⟩ := h
    have hchildren : Json.dictionary (fun _ => ofJson (2 * levels + 1)) 1 (doc .children) =
        .ok (s.content .children) := by
      have hget : ∀ id, (s.content .children).get? id = s.child? id := s.get?_children
      rw [children]
      refine Json.dictionary_of_keys (fun id => ?_) fun id c hc => ?_
      · rw [mem_ids_iff listed, hget, Option.isSome_iff_exists]
      · rw [hget] at hc
        exact ih (hsize.child hc) (hlevels.child hc) (below id c hc)
    have hown : s.own.Sized := hsize [] s rfl
    have hread : ∀ i, (shape (childrenReader (2 * levels + 2)) (2 * levels + 2)).reader i (doc i) =
        .ok (s.content i) := by
      intro i
      cases i with
      | checkpoint => exact Checkpoint.ofJson_of_spells (2 * levels) hown.checkpoint_lt checkpoint
      | error => exact optional_error_of_spells (2 * levels + 1) error
      | children => exact hchildren
      | _ =>
        rw [plain _ (by decide)]
        exact reader_fieldDoc hown (by decide)
    exact ofJson_of_nodup nodup (fun i hi => (omitted i hi).resolve_right id) hread

/-- Nothing is read if a field is lost that is needed, whatever nesting there is. -/
theorem ofJson_ne_ok_of_lost {lost : List NodeId → Field → Prop}
    (hrequired : ∀ path i, lost path i → i.Required) {s d : Status} {path : List NodeId}
    (hd : s.descendant? path = some d) {i : Field} (hlost : lost path i) {v : Json.Value}
    (h : s.Spells lost v) (n : Nat) (t : Status) : ofJson n v ≠ .ok t := by
  induction path generalizing lost s v n t with
  | nil =>
    obtain ⟨-, -, -, -, -, -, hnodup, -, missing⟩ := h
    intro hread
    cases n with
    | zero => cases hread
    | succ n =>
      obtain ⟨draft, hdraft, -, hunknown⟩ := exists_draft_of_ofJson hnodup hread
      obtain ⟨hphase, hattempts, hdataDir, houtputDir, -⟩ := ofDraft_eq_ok hdraft
      have hnone : draft i = none := hunknown i (missing i hlost)
      have hi : i ∈ [Field.phase, .attempts, .dataDir, .outputDir] := hrequired [] i hlost
      simp only [List.mem_cons, List.not_mem_nil, or_false] at hi
      rcases hi with rfl | rfl | rfl | rfl
      · cases hphase.symm.trans hnone
      · cases hattempts.symm.trans hnone
      · cases hdataDir.symm.trans hnone
      · cases houtputDir.symm.trans hnone
  | cons id path ih =>
    obtain @⟨_, _, doc, order, childDoc, ids, -, -, -, children, listed, below, hnodup, omitted,
      -⟩ := h
    obtain ⟨c, hc, hd⟩ := descendant?_cons_eq_some_iff.1 hd
    intro hread
    -- The children cannot be left out, so the one on the path is read.
    have hmem : Field.children ∈ order := by
      by_contra hout
      rcases omitted .children hout with hnone | hgone
      · cases hc.symm.trans (hnone id)
      · have hneeded : Field.children ∈ [Field.phase, .attempts, .dataDir, .outputDir] :=
          hrequired [] .children hgone
        exact absurd hneeded (by decide)
    have hid : (id, childDoc id) ∈ ids.map fun id => (id, childDoc id) :=
      List.mem_map_of_mem ((mem_ids_iff listed).2 ⟨c, hc⟩)
    cases n with
    | zero => cases hread
    | succ n =>
      obtain ⟨_, _, htaken, _⟩ := exists_draft_of_ofJson hnodup hread
      obtain ⟨x, hx, -⟩ := htaken .children hmem
      cases n with
      | zero => cases hx
      | succ n =>
        have hdict : Json.dictionary (fun _ => ofJson n) 1
            (.record (ids.map fun id => (id, childDoc id))) = .ok x := children ▸ hx
        obtain ⟨t', ht'⟩ := Json.exists_of_dictionary_eq_ok hdict hid
        exact ih (fun path i => hrequired (id :: path) i) hd hlost (below id c hc) n t' ht'

/-- A status with no child more than 62 levels below the root is read from each of its documents:
from the one that is written for it, and from all that have their members in another order and leave
out whatever has nothing to say.  If the phase, the attempts or one of the directories of any status
in the tree is lost, then nothing is read from any document, however deep the tree is. -/
theorem ofText_of_spells {s : Status} (hsize : s.Sized) :
    ((∀ path d, s.descendant? path = some d → path.length ≤ 62) →
      s.Spells nothingLost s.toJson ∧
        ∀ v, s.Spells nothingLost v → ofText v.toText = .ok s) ∧
    ∀ lost : List NodeId → Field → Prop, (∀ path i, lost path i → i.Required) →
      (∃ path i, lost path i ∧ (s.descendant? path).isSome) →
      (∃ v, s.Spells lost v) ∧
        ∀ v, s.Spells lost v → ∃ err, ofText v.toText = .error err := by
  constructor
  · intro hlevels
    have hshallow : s.Shallow 63 := fun path d hd => Nat.lt_succ_of_le (hlevels path d hd)
    refine ⟨s.spells_toJson, fun v hv => ?_⟩
    rw [ofText, Json.decodeText_toText (writable_of_spells hv)]
    exact ofJson_of_spells hsize hshallow hv
  · rintro lost hrequired ⟨path, i, hlost, hthere⟩
    obtain ⟨d, hd⟩ := Option.isSome_iff_exists.1 hthere
    refine ⟨s.exists_spells lost, fun v hv => ?_⟩
    rw [ofText, Json.decodeText_toText (writable_of_spells hv)]
    cases hread : ofJson Json.maxNesting v with
    | error err => exact ⟨err, rfl⟩
    | ok t => exact absurd hread (ofJson_ne_ok_of_lost hrequired hd hlost hv _ t)

end Status

/-! ### A sparse document -/

namespace Sample

/-- A running graph of two nodes that have not started. -/
def pair : Status :=
  ((Status.ofProgress ⟨.running, 2, ⟨"mem://d"⟩, ⟨"mem://d"⟩, some "u", none, none,
    ⟨.executing, none, 0⟩, none, none⟩).withChild "a" (.new ⟨"mem://d/a"⟩)).withChild "b"
    (.new ⟨"mem://d/b"⟩)

/-- The least that is written for a node that has not started, or less. -/
def sparseChild (members : List (String × Json.Value)) (dir : String) : Json.Value :=
  .record (members ++ [("output_dir", .text dir), ("data_dir", .text dir)])

/-- The phase and the attempts of a node that has not started. -/
def notStarted : List (String × Json.Value) :=
  [("attempts", .nat 0), ("phase", .text "not_yet_started")]

/-- The least that is written for the graph, back to front, given what is written for its first
node. -/
def sparsePair (first : Json.Value) : Json.Value :=
  .record [("sub_node_status", .record [("b", sparseChild notStarted "mem://d/b"), ("a", first)]),
    ("workflow_node_state", .record [("phase", .text "executing")]), ("unique_node_id", .text "u"),
    ("output_dir", .text "mem://d"), ("data_dir", .text "mem://d"), ("attempts", .nat 2),
    ("phase", .text "running")]

/-- Of a node that has not started, all that is needed are the first four fields. -/
lemma spells_new {lost : List NodeId → Status.Field → Prop} {order : List Status.Field}
    (hnodup : order.Nodup) (hrequired : ∀ i : Status.Field, i.Required → i ∈ order ∨ lost [] i)
    (hmissing : ∀ i, lost [] i → i ∉ order) (dir : Reference) :
    (Status.new dir).Spells lost
      (.record ((Status.shape (Status.childrenReader 0) 0).fieldMembers
        (Status.new dir).fieldDoc order)) := by
  refine @Status.Spells.record lost (Status.new dir) (Status.new dir).fieldDoc order
    (fun _ => .null) [] (fun _ _ => rfl) (Checkpoint.spells_toJson _) .null rfl (.refl _)
    (fun id c hc => ?_) hnodup (fun i hi => ?_) hmissing
  · cases hc
  · have hlost : ∀ i : Status.Field, i.Required → i ∉ order → lost [] i :=
      fun i hi => (hrequired i hi).resolve_left
    cases i with
    | phase => exact .inr (hlost .phase (by decide) hi)
    | attempts => exact .inr (hlost .attempts (by decide) hi)
    | dataDir => exact .inr (hlost .dataDir (by decide) hi)
    | outputDir => exact .inr (hlost .outputDir (by decide) hi)
    | children => exact .inl fun id => Status.child?_ofProgress _ id
    | _ => exact .inl rfl

/-- The first four fields of a node that has not started, back to front. -/
lemma spells_sparseChild {lost : List NodeId → Status.Field → Prop} (hlost : ∀ i, ¬ lost [] i)
    (dir : Reference) : (Status.new dir).Spells lost (sparseChild notStarted dir.path) := by
  have hrequired : ∀ i ∈ [Status.Field.phase, .attempts, .dataDir, .outputDir],
      i ∈ [Status.Field.attempts, .phase, .outputDir, .dataDir] := by decide
  have h := @spells_new lost [.attempts, .phase, .outputDir, .dataDir] (by decide)
    (fun i hi => .inl (hrequired i hi)) (fun i hi => absurd hi (hlost i)) dir
  exact h

/-- The graph has two nodes. -/
lemma pair_child? {id : NodeId} {c : Status} (h : pair.child? id = some c) :
    id = "b" ∧ c = .new ⟨"mem://d/b"⟩ ∨ id = "a" ∧ c = .new ⟨"mem://d/a"⟩ := by
  rw [pair, Status.child?_withChild, Status.child?_withChild, Status.child?_ofProgress] at h
  split_ifs at h with hb ha
  · exact .inl ⟨hb, (Option.some.inj h).symm⟩
  · exact .inr ⟨ha, (Option.some.inj h).symm⟩

/-- What is written for the graph is one of its documents, if what is written for its first node is
one of that node's documents. -/
lemma spells_sparsePair {lost : List NodeId → Status.Field → Prop} {first : Json.Value}
    (hlost : ∀ path i, lost path i → path = ["a"])
    (hfirst : (Status.new ⟨"mem://d/a"⟩).Spells (fun path => lost ("a" :: path)) first) :
    pair.Spells lost (sparsePair first) := by
  have hkept : ∀ path, path ≠ ["a"] → ∀ i, ¬ lost path i :=
    fun path hpath i hi => hpath (hlost path i hi)
  let doc : Status.Field → Json.Value :=
    Function.update (Function.update pair.fieldDoc .checkpoint
      (.record [("phase", .text "executing")])) .children
      (.record [("b", sparseChild notStarted "mem://d/b"), ("a", first)])
  let childDoc : NodeId → Json.Value := fun id =>
    if id = "b" then sparseChild notStarted "mem://d/b" else first
  have hcheckpoint : pair.own.checkpoint.Spells (doc .checkpoint) := by
    refine @Checkpoint.Spells.record pair.own.checkpoint pair.own.checkpoint.fieldDoc [.stage] rfl
      .null rfl (by decide) fun i hi => ?_
    cases i with
    | stage => exact absurd (by decide) hi
    | error => rfl
    | attempt => rfl
  have hbelow : ∀ id c, pair.child? id = some c →
      c.Spells (fun path => lost (id :: path)) (childDoc id) := by
    intro id c hc
    rcases pair_child? hc with ⟨rfl, rfl⟩ | ⟨rfl, rfl⟩
    · exact spells_sparseChild (hkept ["b"] (by decide)) _
    · exact hfirst
  have h := @Status.Spells.record lost pair doc [.children, .checkpoint, .uniqueId, .outputDir,
    .dataDir, .attempts, .phase] childDoc ["b", "a"] ?_ hcheckpoint .null rfl
    (.swap "a" "b" []) hbelow (by decide) ?_ fun i hi => absurd hi (hkept [] (by decide) i)
  · exact h
  · intro i hi
    cases i with
    | checkpoint => exact absurd (by decide) hi
    | children => exact absurd (by decide) hi
    | _ => rfl
  · intro i hi
    cases i with
    | uniqueParentId => exact .inl rfl
    | parentAttempts => exact .inl rfl
    | error => exact .inl rfl
    | updatedAt => exact .inl rfl
    | _ => exact absurd (by decide) hi

/-- There is nothing below the two nodes, and all numbers are small. -/
lemma pair_descendant? {path : List NodeId} {d : Status} (h : pair.descendant? path = some d) :
    path.length ≤ 1 ∧ d.own.Sized := by
  cases path with
  | nil =>
    obtain rfl := Option.some.inj h
    exact ⟨Nat.zero_le _, by decide, nofun, by decide⟩
  | cons id path =>
    obtain ⟨c, hc, hd⟩ := Status.descendant?_cons_eq_some_iff.1 h
    obtain ⟨dir, rfl⟩ : ∃ dir, c = .new dir := by
      rcases pair_child? hc with ⟨-, rfl⟩ | ⟨-, rfl⟩
      · exact ⟨_, rfl⟩
      · exact ⟨_, rfl⟩
    cases path with
    | nil =>
      obtain rfl := Option.some.inj hd
      have hzero : 0 < Word.size32 := by decide
      exact ⟨Nat.le_refl _, hzero, nofun, hzero⟩
    | cons _ _ => cases hd

/-- The graph is read from the least that is written for it, but not without the phase of its first
node. -/
theorem pair_sparse :
    Status.ofText (sparsePair (sparseChild notStarted "mem://d/a")).toText = .ok pair ∧
      ∃ err, Status.ofText
        (sparsePair (sparseChild [("attempts", .nat 0)] "mem://d/a")).toText = .error err := by
  obtain ⟨hread, hrefuse⟩ := Status.ofText_of_spells (s := pair)
    fun path d hd => (pair_descendant? hd).2
  constructor
  · have hlevels : ∀ path d, pair.descendant? path = some d → path.length ≤ 62 :=
      fun path d hd => (pair_descendant? hd).1.trans (by decide)
    exact (hread hlevels).2 _ (spells_sparsePair (fun _ _ => False.elim)
      (spells_sparseChild (fun _ => id) _))
  · let lost : List NodeId → Status.Field → Prop := fun path i => path = ["a"] ∧ i = .phase
    have hfirst : (Status.new ⟨"mem://d/a"⟩).Spells (fun path => lost ("a" :: path))
        (sparseChild [("attempts", .nat 0)] "mem://d/a") := by
      have hthere : ∀ i ∈ [Status.Field.phase, .attempts, .dataDir, .outputDir],
          i ∈ [Status.Field.attempts, .outputDir, .dataDir] ∨ i = .phase := by decide
      have hgone : ∀ i, lost ["a"] i → i ∉ [Status.Field.attempts, .outputDir, .dataDir] := by
        rintro _ ⟨-, rfl⟩
        decide
      have h := @spells_new (fun path => lost ("a" :: path)) [.attempts, .outputDir, .dataDir]
        (by decide) (fun i hi => (hthere i hi).imp_right fun hphase => ⟨rfl, hphase⟩) hgone
        ⟨"mem://d/a"⟩
      exact h
    have hrequired : ∀ path i, lost path i → i.Required := by
      rintro _ _ ⟨-, rfl⟩
      decide
    exact (hrefuse lost hrequired ⟨["a"], .phase, ⟨rfl, rfl⟩, rfl⟩).2 _
      (spells_sparsePair (fun path i h => h.1) hfirst)

end Sample

end NestedWorkflow
