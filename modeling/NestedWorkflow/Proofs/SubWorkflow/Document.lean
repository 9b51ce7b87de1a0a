import NestedWorkflow.Proofs.Json.Decode
import NestedWorkflow.Proofs.SubWorkflow.Building

/-!
# Sub-workflows survive their documents

A sub-workflow that is written and read again is the same one, in all its parts
(`SubWorkflow.survives_text`).  There are no strings attached: it nests no deeper than four levels,
which is far below the limit, its texts are arbitrary, and reading checks the parts once more, which
cannot fail, as a sub-workflow carries the proof of its check.

The document is taken apart from the inside out: kinds, nodes, outputs, the whole.  Of a kind, the
tag and the other members are set apart before the tag decides what the others mean
(`NodeKind.collect_reference`).
-/

namespace NestedWorkflow

open Json.Value

/-! ### Kinds -/

namespace NodeKind

/-- Behind its tag, the reference of a kind is kept for later. -/
lemma collect_reference (n : Nat) (tagName : String) {tag : Tag}
    (htag : Json.named Tag.table tagName = .ok tag) {name : String} (hname : name ≠ "type")
    (ref : String) :
    collect n none [(some "type", .text tagName), (some name, .text ref)] =
      .ok (some tag, [(name, .text ref)]) := by
  have hliteral : Literal.ofJson n (.text ref) = .ok (.text ref) := by
    rw [text, Literal.ofJson]
  simp only [collect, text, if_true, Option.isSome_none, Bool.false_eq_true, if_false, htag, hname]
  rw [text] at hliteral
  rw [hliteral]

/-- A kind is read back wherever one level of nesting is left. -/
theorem ofJson_toJson (n : Nat) (kind : NodeKind) : ofJson (n + 1) kind.toJson = .ok kind := by
  cases kind with
  | start => rfl
  | finish => rfl
  | task ref =>
    have hcollect := collect_reference n "task" rfl
      (by decide : "task_ref" ≠ "type") ref
    change (collect n none [(some "type", .text "task"), (some "task_ref", .text ref)] >>= _) = _
    rw [hcollect]
    rfl
  | workflow ref =>
    have hcollect := collect_reference n "workflow" rfl
      (by decide : "sub_workflow_ref" ≠ "type") ref
    change (collect n none
      [(some "type", .text "workflow"), (some "sub_workflow_ref", .text ref)] >>= _) = _
    rw [hcollect]
    rfl

/-- The document of a kind can be written. -/
lemma toJson_writable (kind : NodeKind) : kind.toJson.Writable := by
  cases kind with
  | start | finish =>
    refine .record ?_
    simp only [List.forall_mem_cons]
    exact ⟨.text _, by simp⟩
  | task ref | workflow ref =>
    refine .record ?_
    simp only [List.forall_mem_cons]
    exact ⟨.text _, .text _, by simp⟩

end NodeKind

/-! ### Nodes -/

namespace Node

/-- What the fields of a node hold. -/
def content (node : Node) : (i : Field) → Field.Content i
  | .id => node.id
  | .name => node.name
  | .kind => node.kind

/-- The documents of the fields. -/
def fieldDoc (node : Node) : Field → Json.Value
  | .id => .text node.id
  | .name => .nullable (node.name.map .text)
  | .kind => node.kind.toJson

/-- The fields of nodes are told apart by their names. -/
lemma shape_proper (n : Nat) : (shape n).Proper where
  mem_fields i := by cases i <;> simp [shape]
  nodup := by simp [shape]
  field?_name i := by cases i <;> rfl

/-- A node is read back wherever two levels of nesting are left. -/
theorem ofJson_toJson (n : Nat) (node : Node) : ofJson (n + 2) node.toJson = .ok node := by
  have hread : ∀ i, (shape (n + 1)).reader i (node.fieldDoc i) = .ok (node.content i) := by
    intro i
    cases i with
    | id => rfl
    | name => exact Json.optional_text node.name
    | kind => exact node.kind.ofJson_toJson n
  have hdraft := Json.Shape.readDraft_written (shape_proper (n + 1)) hread
  change Json.Shape.readDraft shape (n + 2) node.toJson = _ at hdraft
  rw [ofJson, hdraft]
  rfl

/-- The document of a node can be written. -/
lemma toJson_writable (node : Node) : node.toJson.Writable := by
  refine .record ?_
  simp only [List.forall_mem_cons]
  exact ⟨.text _, writable_nullable .text _, node.kind.toJson_writable, by simp⟩

end Node

/-! ### Outputs -/

namespace OutputBinding

/-- What the fields of an output hold. -/
def content (b : OutputBinding) : Field → String
  | .var => b.var
  | .fromNode => b.fromNode
  | .fromVar => b.fromVar

/-- The fields of outputs are told apart by their names. -/
lemma shape_proper (n : Nat) : (shape n).Proper where
  mem_fields i := by cases i <;> simp [shape]
  nodup := by simp [shape]
  field?_name i := by cases i <;> rfl

/-- An output is read back wherever one level of nesting is left. -/
theorem ofJson_toJson (n : Nat) (b : OutputBinding) : ofJson (n + 1) b.toJson = .ok b := by
  have hread : ∀ i, (shape n).reader i (.text (b.content i)) = .ok (b.content i) := fun _ => rfl
  have hdraft := Json.Shape.readDraft_written (shape_proper n) hread
  change Json.Shape.readDraft shape (n + 1) b.toJson = _ at hdraft
  rw [ofJson, hdraft]
  rfl

/-- The document of an output can be written. -/
lemma toJson_writable (b : OutputBinding) : b.toJson.Writable := by
  refine .record ?_
  simp only [List.forall_mem_cons]
  exact ⟨.text _, .text _, .text _, by simp⟩

end OutputBinding

/-! ### Whole sub-workflows -/

namespace SubWorkflow

/-- The document of a list of prerequisites. -/
def neededDoc (needed : List NodeId) : Json.Value := .list (needed.map .text)

/-- What the fields of a sub-workflow hold. -/
def content (s : SubWorkflow) : (i : Field) → Field.Content i
  | .id => s.id
  | .nodes => s.nodes
  | .dependencies => s.dependencies
  | .bindings => s.bindings
  | .failureNode => s.failureNode

/-- The documents of the fields. -/
def fieldDoc (s : SubWorkflow) : Field → Json.Value
  | .id => .text s.id
  | .nodes => .list (s.nodes.map Node.toJson)
  | .dependencies => .record (Json.entryMembers neededDoc s.dependencies.entries)
  | .bindings => .list (s.bindings.map OutputBinding.toJson)
  | .failureNode => .nullable (s.failureNode.map Node.toJson)

/-- The fields of sub-workflows are told apart by their names. -/
lemma shape_proper (n : Nat) : (shape n).Proper where
  mem_fields i := by cases i <;> simp [shape]
  nodup := by simp [shape]
  field?_name i := by cases i <;> rfl

/-- The prerequisites of all nodes are read back, with their repetitions. -/
lemma dictionary_dependencies (n : Nat) (d : Dependencies) :
    Json.dictionary (Json.list fun _ => Json.text) (n + 2)
      (.record (Json.entryMembers neededDoc d.entries)) = .ok d := by
  refine Json.dictionary_written d.inOrder fun e _ => ?_
  exact Json.list_written fun u _ => rfl

/-- A failure node that may be missing is read back. -/
lemma optional_failureNode (n : Nat) (node? : Option Node) :
    Json.optional (Node.ofJson (n + 2)) (nullable (node?.map Node.toJson)) = .ok node? := by
  refine Json.optional_nullable (fun node _ => ?_) fun node _ => node.ofJson_toJson n
  intro hnull
  cases hnull

/-- A sub-workflow is read back wherever four levels of nesting are left. -/
theorem ofJson_toJson (n : Nat) (s : SubWorkflow) : ofJson (n + 4) s.toJson = .ok s := by
  have hread : ∀ i, (shape (n + 3)).reader i (s.fieldDoc i) = .ok (s.content i) := by
    intro i
    cases i with
    | id => rfl
    | nodes => exact Json.list_written fun node _ => node.ofJson_toJson n
    | dependencies => exact dictionary_dependencies (n + 1) s.dependencies
    | bindings => exact Json.list_written fun b _ => b.ofJson_toJson (n + 1)
    | failureNode => exact optional_failureNode (n + 1) s.failureNode
  have hdraft := Json.Shape.readDraft_written (shape_proper (n + 3)) hread
  change Json.Shape.readDraft shape (n + 4) s.toJson = _ at hdraft
  have hid : (shape (n + 4)).require (fun i => some (s.content i)) .id = .ok s.id := rfl
  have hnodes : (shape (n + 4)).require (fun i => some (s.content i)) .nodes = .ok s.nodes := rfl
  -- The parts that were read are those of the sub-workflow, so they pass the check.
  have hchecked : ofParts ⟨s.id, s.nodes, (some (s.content .dependencies)).getD Dict.empty,
      (some (s.content .bindings)).getD [], (some (s.content .failureNode)).getD none⟩ = .ok s :=
    ofParts_eq_ok_iff.2 rfl
  simp only [ofJson, hdraft, bind, Except.bind, hid, hnodes, hchecked]

/-- The document of a sub-workflow can be written. -/
theorem toJson_writable (s : SubWorkflow) : s.toJson.Writable := by
  have hnodes : (list (s.nodes.map Node.toJson)).Writable :=
    .list (List.forall_mem_map.2 fun node _ => node.toJson_writable)
  have hneeded : ∀ needed : List NodeId, (neededDoc needed).Writable :=
    fun _ => .list (List.forall_mem_map.2 fun _ _ => .text _)
  have hdependencies : (record (Json.entryMembers neededDoc s.dependencies.entries)).Writable :=
    .record (List.forall_mem_map.2 fun e _ => hneeded e.2)
  have hbindings : (list (s.bindings.map OutputBinding.toJson)).Writable :=
    .list (List.forall_mem_map.2 fun b _ => b.toJson_writable)
  refine .record ?_
  simp only [List.forall_mem_cons]
  exact ⟨.text _, hnodes, hdependencies, hbindings, writable_nullable Node.toJson_writable _,
    by simp⟩

/-- A sub-workflow, however it came about, is read back from its text: with the same name, the same
nodes in their order, the same dependencies down to nodes that depend on nothing and prerequisites
that are listed twice, the same outputs and the same failure node.  So it has the same text again
and declares the same nodes. -/
theorem survives_text (s : SubWorkflow) :
    ∃ t, ofText s.toText = .ok t ∧ t = s ∧ t.toText = s.toText ∧
      t.declaredNodes = s.declaredNodes := by
  have hread : ofText s.toText = ofJson (123 + 4) s.toJson :=
    Json.decodeText_toText s.toJson_writable
  refine ⟨s, ?_, rfl, rfl, rfl⟩
  rw [hread]
  exact s.ofJson_toJson 123

end SubWorkflow

end NestedWorkflow
