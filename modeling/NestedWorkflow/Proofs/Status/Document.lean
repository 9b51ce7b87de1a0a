import NestedWorkflow.Proofs.Instant.Rfc3339
import NestedWorkflow.Proofs.Status.Checkpoint

/-!
# Documents of statuses, one level at a time

A status is put together from the fields that are there, in whatever order they come, if those that
are missing have nothing to say (`Status.ofJson_of_nodup`).  What it says of its own node is read
back from its document, given enough nesting for the checkpoint and the error in it, and so are the
children if each of them is (`Status.ofJson_toJson_of_children`).  Nothing is read if one of the
children is not (`Status.ofJson_toJson_error`), or if there is no nesting left for the checkpoint
(`Status.ofJson_one_toJson`).
-/

namespace NestedWorkflow

open Json.Value

/-! ### Children as members -/

/-- The children have a member each. -/
lemma StatusTree.childMembers_eq (ts : List (String × StatusTree)) :
    StatusTree.childMembers ts = ts.map fun e => (e.1, e.2.toJson) := by
  induction ts with
  | nil => rw [StatusTree.childMembers, List.map_nil]
  | cons e ts ih => rw [StatusTree.childMembers, List.map_cons, ih]

/-! ### What a status says of its own node -/

/-- The numbers have the size they have in documents, and the time of the last change, if there is
one, lies in a year of four digits. -/
structure Progress.Storable (p : Progress) : Prop where
  attempts_lt : p.attempts < Word.size32
  parentAttempts_lt : ∀ n ∈ p.parentAttempts, n < Word.size32
  checkpoint_lt : p.checkpoint.attempt < Word.size32
  year_nonneg : ∀ i ∈ p.updatedAt, 0 ≤ i.date.year
  year_le : ∀ i ∈ p.updatedAt, i.date.year ≤ 9999

/-- The numbers have the size they have in documents. -/
structure Progress.Sized (p : Progress) : Prop where
  attempts_lt : p.attempts < Word.size32
  parentAttempts_lt : ∀ n ∈ p.parentAttempts, n < Word.size32
  checkpoint_lt : p.checkpoint.attempt < Word.size32

/-- What can be stored has numbers of the size they have in documents. -/
lemma Progress.Storable.sized {p : Progress} (h : p.Storable) : p.Sized :=
  ⟨h.attempts_lt, h.parentAttempts_lt, h.checkpoint_lt⟩

/-- An instant is read back. -/
lemma Instant.ofJson_toJson (i : Instant) : Instant.ofJson i.toJson = .ok i := by
  have hread := Rfc3339.read?_render i
  simp only [Instant.ofJson, Instant.toJson, Json.text, text, String.toList_ofList, hread]

namespace Status

/-- The name of a phase is read back. -/
lemma variant_phase (n : Nat) (p : Phase) : Json.variant Phase.table n (.text p.name) = .ok p := by
  cases p <;> rfl

/-- A counter that may be missing is read back. -/
lemma optional_counter {o : Option Nat} (h : ∀ n ∈ o, n < Word.size32) :
    Json.optional Json.counter (nullable (o.map nat)) = .ok o := by
  refine Json.optional_nullable (fun n _ => ?_) fun n hn => Json.counter_nat (h n hn)
  intro hnull
  cases hnull

/-- An instant that may be missing is read back. -/
lemma optional_instant (o : Option Instant) :
    Json.optional Instant.ofJson (nullable (o.map Instant.toJson)) = .ok o := by
  refine Json.optional_nullable (fun i _ => ?_) fun i _ => i.ofJson_toJson
  intro hnull
  cases hnull

/-! ### Children -/

/-- What holds of a status whenever it holds of all its children holds of every status. -/
theorem induction {motive : Status → Prop}
    (step : ∀ s, (∀ id c, s.child? id = some c → motive c) → motive s) (s : Status) : motive s := by
  obtain ⟨t, ht⟩ := s
  induction ht with
  | @node p cs here below ih =>
    refine step _ fun id c hc => ?_
    exact ih (id, c.tree) (Entries.mem_of_get? (child?_eq_some_iff.1 hc))

/-- Children are found where they are listed. -/
lemma mem_children_iff {s c : Status} {id : NodeId} :
    (id, c) ∈ s.children ↔ s.child? id = some c := by
  have hmem : (id, c) ∈ s.children ↔ (id, c.tree) ∈ s.tree.children := by
    constructor
    · intro h
      obtain ⟨e, -, he⟩ := List.mem_map.1 h
      cases he
      exact e.2
    · intro h
      exact List.mem_map.2 ⟨⟨_, h⟩, List.mem_attach _ _, rfl⟩
  rw [hmem, child?_eq_some_iff]
  exact ⟨Entries.get?_of_mem s.inOrder.children_inOrder, Entries.mem_of_get?⟩

/-- Children are listed in the order of their identifiers. -/
lemma children_inOrder (s : Status) : Entries.InOrder s.children := by
  have h := s.inOrder.children_inOrder
  rw [Entries.InOrder, ← List.attach_map_subtype_val s.tree.children, List.pairwise_map] at h
  exact List.pairwise_map.2 h

/-- The list of children leads where the status leads. -/
lemma get?_children (s : Status) (id : NodeId) : Entries.get? id s.children = s.child? id := by
  refine Option.ext fun c => ?_
  rw [← mem_children_iff]
  exact ⟨Entries.mem_of_get?, Entries.get?_of_mem s.children_inOrder⟩

/-- Putting children in leaves what the status says of its own node as it is. -/
lemma own_foldl_withChild (entries : Entries Status) (s : Status) :
    (entries.foldl (fun t e => t.withChild e.1 e.2) s).own = s.own := by
  induction entries generalizing s with
  | nil => rfl
  | cons e entries ih => exact ih _

/-- The children that were put in are found. -/
lemma child?_foldl_withChild {entries : Entries Status} (h : entries.InOrder) (p : Progress)
    (id : NodeId) :
    child? (entries.foldl (fun t e => t.withChild e.1 e.2) (ofProgress p)) id =
      Entries.get? id entries := by
  have hlook : child? (entries.foldl (fun t e => t.withChild e.1 e.2) (ofProgress p)) id =
      (Entries.get? id entries).or (child? (ofProgress p) id) :=
    Entries.look_foldl child?_withChild h (ofProgress p) id
  rw [hlook, child?_ofProgress, Option.or_none]

/-- A status is put together again from its progress and its children. -/
lemma foldl_withChild_children (s : Status) :
    s.children.foldl (fun t e => t.withChild e.1 e.2) (ofProgress s.own) = s := by
  refine Status.ext (own_foldl_withChild _ _) fun id => ?_
  rw [child?_foldl_withChild s.children_inOrder, get?_children]

/-! ### Whole statuses -/

/-- The document has the members of the node's own, and one for all children. -/
lemma toJson_eq (s : Status) : s.toJson =
    .record (ownMembers s.own ++
      [("sub_node_status", .record (Json.entryMembers toJson s.children))]) := by
  obtain ⟨⟨p, cs⟩, h⟩ := s
  have hchildren : Json.entryMembers toJson (children ⟨.node p cs, h⟩) =
      StatusTree.childMembers cs := by
    rw [Json.entryMembers, children, List.map_map, StatusTree.childMembers_eq]
    exact List.attach_map_val (l := cs) (f := fun e : String × StatusTree => (e.1, e.2.toJson))
  rw [hchildren]
  exact StatusTree.toJson.eq_1 p cs

/-- What the fields of a status hold. -/
def content (s : Status) : (i : Field) → Field.Content i
  | .phase => s.own.phase
  | .attempts => s.own.attempts
  | .dataDir => s.own.dataDir
  | .outputDir => s.own.outputDir
  | .uniqueId => s.own.uniqueId
  | .uniqueParentId => s.own.uniqueParentId
  | .parentAttempts => s.own.parentAttempts
  | .checkpoint => s.own.checkpoint
  | .error => s.own.error
  | .updatedAt => s.own.updatedAt
  | .children => ⟨s.children, s.children_inOrder⟩

/-- The documents of the fields. -/
def fieldDoc (s : Status) : Field → Json.Value
  | .phase => .text s.own.phase.name
  | .attempts => .nat s.own.attempts
  | .dataDir => .text s.own.dataDir.path
  | .outputDir => .text s.own.outputDir.path
  | .uniqueId => .nullable (s.own.uniqueId.map .text)
  | .uniqueParentId => .nullable (s.own.uniqueParentId.map .text)
  | .parentAttempts => .nullable (s.own.parentAttempts.map .nat)
  | .checkpoint => s.own.checkpoint.toJson
  | .error => .nullable (s.own.error.map ExecutionError.toJson)
  | .updatedAt => .nullable (s.own.updatedAt.map Instant.toJson)
  | .children => .record (Json.entryMembers toJson s.children)

variable {reader : Json.Value → Except Json.Error (Dict Status)} {n : Nat}

/-- The fields of statuses are told apart by their names. -/
lemma shape_proper : (shape reader n).Proper where
  mem_fields i := by cases i <;> simp [shape]
  nodup := by simp [shape]
  field?_name i := by cases i <;> rfl

/-- The document has a member for each field. -/
lemma toJson_eq_fieldMembers (s : Status) : s.toJson =
    .record ((shape reader n).fieldMembers s.fieldDoc (shape reader n).fields) :=
  s.toJson_eq

/-- What a status says of its own node can be written. -/
lemma fieldDoc_writable (s : Status) {i : Field} (hi : i ≠ .children) :
    (s.fieldDoc i).Writable := by
  cases i with
  | phase => exact .text _
  | attempts => exact writable_nat _
  | dataDir => exact .text _
  | outputDir => exact .text _
  | uniqueId => exact writable_nullable .text _
  | uniqueParentId => exact writable_nullable .text _
  | parentAttempts => exact writable_nullable writable_nat _
  | checkpoint => exact Checkpoint.writable_of_spells s.own.checkpoint.spells_toJson
  | error => exact writable_of_orNull (orNull_nullable _)
  | updatedAt => exact writable_nullable (fun _ => .text _) _
  | children => exact absurd rfl hi

/-- A field with nothing to say: it may be missing from the document. -/
def MayOmit (s : Status) : Field → Prop
  | .uniqueId => s.own.uniqueId = none
  | .uniqueParentId => s.own.uniqueParentId = none
  | .parentAttempts => s.own.parentAttempts = none
  | .checkpoint => s.own.checkpoint = Checkpoint.initial
  | .error => s.own.error = none
  | .updatedAt => s.own.updatedAt = none
  | .children => ∀ id, s.child? id = none
  | _ => False

/-- A status is put together from a draft that leaves out nothing but what has nothing to say. -/
lemma ofDraft_eq_ok_of_tells {s : Status} {d : Json.Draft Field.Content}
    (h : d.Tells s.content s.MayOmit) : ofDraft (shape reader n) d = .ok s := by
  have hchildren : (d .children).getD Dict.empty = s.content .children := by
    refine h.getD fun hnone => Dict.ext_get? fun id => ?_
    exact (s.get?_children id).trans (hnone id)
  simp only [ofDraft, Json.Shape.require, h.eq_some (i := .phase) id,
    h.eq_some (i := .attempts) id, h.eq_some (i := .dataDir) id, h.eq_some (i := .outputDir) id,
    h.getD (i := .uniqueId) id, h.getD (i := .uniqueParentId) id, h.getD (i := .parentAttempts) id,
    h.getD (i := .checkpoint) id, h.getD (i := .error) id, h.getD (i := .updatedAt) id, hchildren]
  exact congrArg Except.ok s.foldl_withChild_children

/-- How children are read inside a status that has so many levels of nesting for its fields. -/
def childrenReader : Nat → Json.Value → Except Json.Error (Dict Status)
  | 0 => fun _ => .error .malformed
  | n + 1 => Json.dictionary (fun _ => ofJson n) 1

/-- The document of a status can be written. -/
theorem toJson_writable (s : Status) : s.toJson.Writable := by
  induction s using Status.induction with
  | step s ih =>
    have hdoc : s.toJson = .record ((shape (childrenReader 0) 0).fieldMembers s.fieldDoc
        (shape (childrenReader 0) 0).fields) := s.toJson_eq_fieldMembers
    rw [hdoc]
    refine .record (List.forall_mem_map.2 fun i _ => ?_)
    by_cases hi : i = .children
    · subst hi
      exact .record (List.forall_mem_map.2 fun e he => ih e.1 e.2 (mem_children_iff.1 he))
    · exact s.fieldDoc_writable hi

/-- A status is read field by field. -/
lemma ofJson_succ (n : Nat) (v : Json.Value) :
    ofJson (n + 1) v =
      (Json.Shape.readDraft (shape (childrenReader n)) (n + 1) v).bind
        (ofDraft (shape (childrenReader n) n)) := by
  cases n <;> rfl

/-- What a draft must say, and what it says of the children of the status that it becomes. -/
lemma ofDraft_eq_ok {d : Json.Draft Field.Content} {s : Status}
    (h : ofDraft (shape reader n) d = .ok s) :
    d .phase = some s.own.phase ∧ d .attempts = some s.own.attempts ∧
      d .dataDir = some s.own.dataDir ∧ d .outputDir = some s.own.outputDir ∧
      ∀ id, s.child? id = ((d .children).getD Dict.empty).get? id := by
  unfold ofDraft at h
  cases hphase : d .phase with
  | none => simp [Json.Shape.require, hphase, bind, Except.bind] at h
  | some phase =>
    cases hattempts : d .attempts with
    | none => simp [Json.Shape.require, hphase, hattempts, bind, Except.bind] at h
    | some attempts =>
      cases hdata : d .dataDir with
      | none => simp [Json.Shape.require, hphase, hattempts, hdata, bind, Except.bind] at h
      | some dataDir =>
        cases hout : d .outputDir with
        | none => simp [Json.Shape.require, hphase, hattempts, hdata, hout, bind, Except.bind] at h
        | some outputDir =>
          simp only [Json.Shape.require, hphase, hattempts, hdata, hout, bind, Except.bind, pure,
            Except.pure, Except.ok.injEq] at h
          subst h
          rw [own_foldl_withChild]
          exact ⟨rfl, rfl, rfl, rfl, child?_foldl_withChild (Dict.inOrder _) _⟩

/-- A status that was read has been put together from the fields that are there. -/
lemma exists_draft_of_ofJson {doc : Field → Json.Value} {order : List Field} (hnodup : order.Nodup)
    {s : Status}
    (h : ofJson (n + 1) (.record ((shape (childrenReader n) n).fieldMembers doc order)) = .ok s) :
    ∃ d, ofDraft (shape (childrenReader n) n) d = .ok s ∧
      (∀ i ∈ order, ∃ x, (shape (childrenReader n) n).reader i (doc i) = .ok x ∧ d i = some x) ∧
      ∀ i ∉ order, d i = none := by
  rw [ofJson_succ, Json.Shape.readDraft_record] at h
  cases hread : (shape (childrenReader n) n).readMembers Json.Draft.empty
      (Json.Value.written ((shape (childrenReader n) n).fieldMembers doc order)) with
  | error err =>
    rw [hread] at h
    cases h
  | ok d =>
    rw [hread] at h
    obtain ⟨htaken, hothers⟩ := Json.Shape.readMembers_eq_ok shape_proper hnodup hread
    exact ⟨d, h, htaken, hothers⟩

/-- A status is read back from the fields that are there, in whatever order they come. -/
theorem ofJson_of_nodup {s : Status} {doc : Field → Json.Value} {order : List Field}
    (hnodup : order.Nodup) (homit : ∀ i ∉ order, s.MayOmit i)
    (h : ∀ i, (shape (childrenReader n) n).reader i (doc i) = .ok (s.content i)) :
    ofJson (n + 1) (.record ((shape (childrenReader n) n).fieldMembers doc order)) = .ok s := by
  obtain ⟨d, hread, hd⟩ :
      ∃ d : Json.Draft Field.Content, Json.Shape.readDraft (shape (childrenReader n)) (n + 1)
        (.record ((shape (childrenReader n) n).fieldMembers doc order)) = .ok d ∧
        d.Tells s.content s.MayOmit :=
    Json.Shape.exists_readDraft_eq_ok shape_proper hnodup homit h
  rw [ofJson_succ, hread]
  exact ofDraft_eq_ok_of_tells hd

/-- What a status says of its own node is read back wherever two levels of nesting are left for the
fields. -/
lemma reader_fieldDoc {s : Status} (h : s.own.Sized) {i : Field} (hi : i ≠ .children) :
    (shape reader (n + 2)).reader i (s.fieldDoc i) = .ok (s.content i) := by
  cases i with
  | phase => exact variant_phase (n + 2) s.own.phase
  | attempts => exact Json.counter_nat h.attempts_lt
  | dataDir => rfl
  | outputDir => rfl
  | uniqueId => exact Json.optional_text _
  | uniqueParentId => exact Json.optional_text _
  | parentAttempts => exact optional_counter h.parentAttempts_lt
  | checkpoint => exact Checkpoint.ofJson_toJson n h.checkpoint_lt
  | error => exact optional_error_of_spells (n + 1) (orNull_nullable _)
  | updatedAt => exact optional_instant _
  | children => exact absurd rfl hi

/-- A status is read back if its children are, and three levels of nesting are left. -/
theorem ofJson_toJson_of_children {s : Status} (h : s.own.Sized)
    (hchildren : ∀ id c, s.child? id = some c → ofJson (n + 1) c.toJson = .ok c) :
    ofJson (n + 3) s.toJson = .ok s := by
  have hread : ∀ i, (shape (childrenReader (n + 2)) (n + 2)).reader i (s.fieldDoc i) =
      .ok (s.content i) := by
    intro i
    by_cases hi : i = .children
    · subst hi
      exact Json.dictionary_written s.children_inOrder fun e he =>
        hchildren e.1 e.2 (mem_children_iff.1 he)
    · exact reader_fieldDoc h hi
  rw [toJson_eq_fieldMembers]
  exact ofJson_of_nodup shape_proper.nodup
    (fun i hi => absurd (shape_proper.mem_fields i) hi) hread

/-- A status is refused if one of its fields cannot be read. -/
lemma ofJson_toJson_of_field_error {s : Status} {i : Field}
    (hfail : ∃ err, (shape (childrenReader n) n).reader i (s.fieldDoc i) = .error err) :
    ∃ err, ofJson (n + 1) s.toJson = .error err := by
  obtain ⟨err, hread⟩ := Json.Shape.readDraft_error shape_proper hfail
  rw [← toJson_eq_fieldMembers] at hread
  rw [ofJson_succ, hread]
  exact ⟨err, rfl⟩

/-- A status is refused if one of its children is. -/
theorem ofJson_toJson_error {s c : Status} {id : NodeId} (hc : s.child? id = some c)
    (hfail : ∃ err, ofJson n c.toJson = .error err) :
    ∃ err, ofJson (n + 2) s.toJson = .error err :=
  ofJson_toJson_of_field_error (i := .children)
    (Json.dictionary_error (mem_children_iff.2 hc) hfail)

/-- No status is read where only one level of nesting is left: there is none for the checkpoint. -/
theorem ofJson_one_toJson (s : Status) : ∃ err, ofJson 1 s.toJson = .error err :=
  ofJson_toJson_of_field_error (i := .checkpoint) ⟨.malformed, Checkpoint.ofJson_zero _⟩

end Status

end NestedWorkflow
