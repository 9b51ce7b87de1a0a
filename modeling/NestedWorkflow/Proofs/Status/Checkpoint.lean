import NestedWorkflow.Proofs.Json.Decode
import NestedWorkflow.Status.Document

/-!
# Documents of execution errors and checkpoints

A document has its members in any order and may leave out what has nothing to say: an error that is
null, and the attempt of a checkpoint if it is the first.  Which documents there are is a relation
(`ExecutionError.Spells`, `Checkpoint.Spells`), and what is written is one of them.  Errors are read
from each of their documents wherever one level of nesting is left, checkpoints wherever there are
two.
-/

namespace NestedWorkflow

open Json.Value

/-! ### Execution errors -/

namespace ExecutionError

/-- What the fields of an execution error hold. -/
def content (e : ExecutionError) : (i : Field) → Field.Content i
  | .code => e.code
  | .message => e.message
  | .kind => e.kind

/-- The documents of the fields. -/
def fieldDoc (e : ExecutionError) : Field → Json.Value
  | .code => .text e.code
  | .message => .text e.message
  | .kind => .text e.kind.name

/-- The fields of execution errors are told apart by their names. -/
lemma shape_proper (n : Nat) : (shape n).Proper where
  mem_fields i := by cases i <;> simp [shape]
  nodup := by simp [shape]
  field?_name i := by cases i <;> rfl

/-- The name of whom to blame is read back. -/
lemma variant_kind (n : Nat) (b : Blame) : Json.variant Blame.table n (.text b.name) = .ok b := by
  cases b <;> rfl

/-- What an execution error says is read back field by field. -/
lemma reader_fieldDoc (n : Nat) (e : ExecutionError) (i : Field) :
    (shape n).reader i (e.fieldDoc i) = .ok (e.content i) := by
  cases i with
  | code => rfl
  | message => rfl
  | kind => exact variant_kind n e.kind

/-- A document of an execution error, its members in any order. -/
inductive Spells (e : ExecutionError) : Json.Value → Prop
  | record {order : List Field} (all : order.Perm [.code, .message, .kind]) :
      Spells e (.record ((shape 0).fieldMembers e.fieldDoc order))

/-- Null is no execution error. -/
lemma not_spells_null (e : ExecutionError) : ¬ e.Spells .null := nofun

/-- An execution error is read from each of its documents, wherever one level of nesting is left. -/
lemma ofJson_of_spells (n : Nat) {e : ExecutionError} {v : Json.Value} (h : e.Spells v) :
    ofJson (n + 1) v = .ok e := by
  obtain @⟨order, all⟩ := h
  have hnodup : order.Nodup := all.nodup_iff.2 (by decide)
  have hmem : ∀ i, i ∈ order := by
    intro i
    cases i <;> simp [all.mem_iff]
  obtain ⟨d, hread, hd⟩ : ∃ d : Json.Draft Field.Content, Json.Shape.readDraft shape (n + 1)
      (.record ((shape 0).fieldMembers e.fieldDoc order)) = .ok d ∧
      d.Tells e.content fun _ => False :=
    Json.Shape.exists_readDraft_eq_ok (shape_proper n) hnodup (fun i hi => hi (hmem i))
      (e.reader_fieldDoc n)
  rw [ofJson, hread]
  simp only [bind, Except.bind, Json.Shape.require, hd.eq_some id]
  rfl

/-- Each document of an execution error can be written. -/
lemma writable_of_spells {e : ExecutionError} {v : Json.Value} (h : e.Spells v) : v.Writable := by
  obtain ⟨-⟩ := h
  refine .record (List.forall_mem_map.2 fun i _ => ?_)
  cases i <;> exact .text _

/-- The document as it is written is one of the documents. -/
lemma spells_toJson (e : ExecutionError) : e.Spells e.toJson := .record (.refl _)

end ExecutionError

/-! ### Errors that may be missing -/

/-- An error that may be missing is read from each of its documents. -/
lemma optional_error_of_spells (n : Nat) {o : Option ExecutionError} {v : Json.Value}
    (h : Json.OrNull ExecutionError.Spells o v) :
    Json.optional (ExecutionError.ofJson (n + 1)) v = .ok o :=
  Json.optional_orNull ExecutionError.not_spells_null
    (fun _ _ => ExecutionError.ofJson_of_spells n) h

/-- Each document of an error that may be missing can be written. -/
lemma writable_of_orNull {o : Option ExecutionError} {v : Json.Value}
    (h : Json.OrNull ExecutionError.Spells o v) : v.Writable := by
  cases h with
  | null => exact .null
  | some h => exact ExecutionError.writable_of_spells h

/-- An error that may be missing is written as one of its documents. -/
lemma orNull_nullable (o : Option ExecutionError) :
    Json.OrNull ExecutionError.Spells o (nullable (o.map ExecutionError.toJson)) := by
  cases o with
  | none => exact .null
  | some e => exact .some e.spells_toJson

/-! ### Checkpoints -/

namespace Checkpoint

/-- What the fields of a checkpoint hold. -/
def content (c : Checkpoint) : (i : Field) → Field.Content i
  | .stage => c.stage
  | .error => c.error
  | .attempt => c.attempt

/-- The documents of the fields. -/
def fieldDoc (c : Checkpoint) : Field → Json.Value
  | .stage => .text c.stage.name
  | .error => .nullable (c.error.map ExecutionError.toJson)
  | .attempt => .nat c.attempt

/-- The fields of checkpoints are told apart by their names. -/
lemma shape_proper (n : Nat) : (shape n).Proper where
  mem_fields i := by cases i <;> simp [shape]
  nodup := by simp [shape]
  field?_name i := by cases i <;> rfl

/-- The name of a stage is read back. -/
lemma variant_stage (n : Nat) (s : Stage) : Json.variant Stage.table n (.text s.name) = .ok s := by
  cases s <;> rfl

/-- A field with nothing to say: it may be missing from the document. -/
def MayOmit (c : Checkpoint) : Field → Prop
  | .stage => False
  | .error => c.error = none
  | .attempt => c.attempt = 0

/-- A document of a checkpoint, its members in any order and some of them left out. -/
inductive Spells (c : Checkpoint) : Json.Value → Prop
  | record {doc : Field → Json.Value} {order : List Field}
      (stage : doc .stage = .text c.stage.name)
      (error : Json.OrNull ExecutionError.Spells c.error (doc .error))
      (attempt : doc .attempt = .nat c.attempt)
      (nodup : order.Nodup) (omitted : ∀ i ∉ order, c.MayOmit i) :
      Spells c (.record ((shape 0).fieldMembers doc order))

/-- A checkpoint is read from each of its documents, wherever two levels of nesting are left. -/
lemma ofJson_of_spells (n : Nat) {c : Checkpoint} (hsize : c.attempt < Word.size32)
    {v : Json.Value} (h : c.Spells v) : ofJson (n + 2) v = .ok c := by
  obtain @⟨doc, order, hstage, herror, hattempt, hnodup, homit⟩ := h
  have hread : ∀ i, (shape (n + 1)).reader i (doc i) = .ok (c.content i) := by
    intro i
    cases i with
    | stage =>
      rw [hstage]
      exact variant_stage (n + 1) c.stage
    | error => exact optional_error_of_spells n herror
    | attempt =>
      rw [hattempt]
      exact Json.counter_nat hsize
  obtain ⟨d, hread, hd⟩ : ∃ d : Json.Draft Field.Content, Json.Shape.readDraft shape (n + 2)
      (.record ((shape 0).fieldMembers doc order)) = .ok d ∧ d.Tells c.content c.MayOmit :=
    Json.Shape.exists_readDraft_eq_ok (shape_proper (n + 1)) hnodup homit hread
  rw [ofJson, hread]
  simp only [bind, Except.bind, Json.Shape.require, hd.eq_some (i := .stage) id,
    hd.getD (i := .error) id, hd.getD (i := .attempt) id]
  rfl

/-- Each document of a checkpoint can be written. -/
lemma writable_of_spells {c : Checkpoint} {v : Json.Value} (h : c.Spells v) : v.Writable := by
  obtain ⟨hstage, herror, hattempt, -, -⟩ := h
  refine .record (List.forall_mem_map.2 fun i _ => ?_)
  cases i with
  | stage => exact hstage ▸ .text _
  | error => exact writable_of_orNull herror
  | attempt => exact hattempt ▸ writable_nat _

/-- The document as it is written is one of the documents. -/
lemma spells_toJson (c : Checkpoint) : c.Spells c.toJson := by
  have h : c.Spells (.record ((shape 0).fieldMembers c.fieldDoc (shape 0).fields)) :=
    .record rfl (orNull_nullable c.error) rfl (shape_proper 0).nodup
      fun i hi => absurd ((shape_proper 0).mem_fields i) hi
  exact h

/-- A checkpoint is read back wherever two levels of nesting are left. -/
theorem ofJson_toJson (n : Nat) {c : Checkpoint} (h : c.attempt < Word.size32) :
    ofJson (n + 2) c.toJson = .ok c :=
  ofJson_of_spells n h c.spells_toJson

/-- No checkpoint is read where no nesting is left. -/
lemma ofJson_zero (v : Json.Value) : ofJson 0 v = .error .malformed := rfl

end Checkpoint

end NestedWorkflow
