import NestedWorkflow.Proofs.Lookup.Linking

/-!
# Ways to build a sub-workflow

A sub-workflow can be built of all its parts at once, as a document is read, or step by step: the
graph first, then its outputs, then a failure node.  Every step checks everything again, with what
is there so far.  The result is the same, down to the defect that is reported
(`SubWorkflow.assemble_eq_ofParts`), because the check looks at the graph, at the outputs and at the
failure node in this order (`Parts.check_eq_bind`), and leaving out a later part hides no earlier
defect.  With the last two steps swapped the same sub-workflows come out, but where there are two
defects the other one may be reported.

What was built can be used without further checks.  A graph is checked once more when its nodes are
listed (`Parts.declaredNodes`) and when they are linked (`Lookup.relink`); for a sub-workflow these
checks always pass (`SubWorkflow.Usable`).
-/

namespace NestedWorkflow

namespace SubWorkflow

namespace Parts

/-! ### The stages of the check -/

/-- What is wrong with the graph. -/
def checkGraph (p : Parts) : Except GraphError Unit :=
  match Graph.of p.nodeIds p.dependencies with
  | .error e => .error e
  | .ok _ => if startNodeId ∉ p.nodeIds then .error (.missingStartNode p.id) else .ok ()

/-- What is wrong with the outputs. -/
def checkBindings (p : Parts) : Except GraphError Unit :=
  match p.bindings.find? fun b => !p.nodeIds.contains b.fromNode with
  | some b => .error (.unknownNode b.fromNode)
  | none => .ok ()

/-- What is wrong with the failure node. -/
def checkFailureNode (p : Parts) : Except GraphError Unit :=
  match p.failureNode with
  | none => .ok ()
  | some node => if node.id ∈ p.nodeIds then .error (.duplicateNode node.id) else .ok ()

variable {p : Parts} {e : GraphError}

/-- The check looks at the graph, then at the outputs, then at the failure node. -/
lemma check_eq_bind (p : Parts) :
    p.check = p.checkGraph >>= fun _ => p.checkBindings >>= fun _ => p.checkFailureNode := by
  unfold check checkGraph checkBindings checkFailureNode
  cases Graph.of p.nodeIds p.dependencies with
  | error e => rfl
  | ok g =>
    by_cases hstart : startNodeId ∉ p.nodeIds
    · simp only [if_pos hstart]
      rfl
    · simp only [if_neg hstart]
      cases p.bindings.find? fun b => !p.nodeIds.contains b.fromNode <;> rfl

/-- The check passes if every stage does. -/
lemma check_eq_ok_iff : p.check = .ok () ↔
    p.checkGraph = .ok () ∧ p.checkBindings = .ok () ∧ p.checkFailureNode = .ok () := by
  rw [check_eq_bind]
  cases p.checkGraph with
  | error e => simp [bind, Except.bind]
  | ok _ => cases p.checkBindings <;> simp [bind, Except.bind]

/-- A defect of a bare graph shows as well when it has outputs. -/
lemma check_bindings_of_error
    (h : check { p with bindings := [], failureNode := none } = .error e) :
    check { p with failureNode := none } = .error e := by
  rw [check_eq_bind] at h ⊢
  change (p.checkGraph >>= _) = _ at h
  change (p.checkGraph >>= _) = _
  cases hgraph : p.checkGraph with
  | error e' =>
    rw [hgraph] at h
    exact h
  | ok _ =>
    -- Without outputs and a failure node there is nothing else to report.
    rw [hgraph] at h
    cases h

/-- A defect that shows without a failure node shows with it as well. -/
lemma check_of_error (h : check { p with failureNode := none } = .error e) :
    p.check = .error e := by
  rw [check_eq_bind] at h ⊢
  change (p.checkGraph >>= fun _ => p.checkBindings >>= _) = _ at h
  cases hgraph : p.checkGraph with
  | error e' =>
    rw [hgraph] at h
    exact h
  | ok _ =>
    rw [hgraph] at h
    cases hbindings : p.checkBindings with
    | error e' =>
      rw [hbindings] at h
      exact h
    | ok _ =>
      rw [hbindings] at h
      cases h

/-- What has no defect has none without its outputs. -/
lemma check_without_bindings (h : p.check = .ok ()) : check { p with bindings := [] } = .ok () := by
  obtain ⟨hgraph, -, hfailureNode⟩ := check_eq_ok_iff.1 h
  exact check_eq_ok_iff.2 ⟨hgraph, rfl, hfailureNode⟩

end Parts

/-! ### Building -/

variable {p q : Parts} {s : SubWorkflow} {e : GraphError}

/-- Building of parts that pass the check gives a sub-workflow of these parts. -/
lemma ofParts_of_ok (h : p.check = .ok ()) : ofParts p = .ok ⟨p, h⟩ := by
  unfold ofParts
  split
  · rfl
  · rename_i e he
    cases h.symm.trans he

/-- Building of parts with a defect reports it. -/
lemma ofParts_of_error (h : p.check = .error e) : ofParts p = .error e := by
  unfold ofParts
  split
  · rename_i hok
    cases h.symm.trans hok
  · rename_i e' he
    exact congrArg Except.error (Except.error.inj (he.symm.trans h))

/-- A sub-workflow is built of its parts, and of no others. -/
lemma ofParts_eq_ok_iff : ofParts p = .ok s ↔ s.toParts = p := by
  constructor
  · intro h
    cases hcheck : p.check with
    | error e => cases (ofParts_of_error hcheck).symm.trans h
    | ok _ =>
      cases (ofParts_of_ok hcheck).symm.trans h
      rfl
  · rintro rfl
    exact ofParts_of_ok s.wellFormed

/-- A step that hides no defect can as well be taken on the parts. -/
lemma ofParts_bind {f : Parts → Parts} (h : ∀ e, q.check = .error e → (f q).check = .error e) :
    (ofParts q >>= fun s => ofParts (f s.toParts)) = ofParts (f q) := by
  cases hcheck : q.check with
  | error e =>
    rw [ofParts_of_error hcheck, ofParts_of_error (h e hcheck)]
    rfl
  | ok _ =>
    rw [ofParts_of_ok hcheck]
    rfl

/-- A step that adds no correctness can as well be taken on the parts, as far as it succeeds. -/
lemma ofParts_bind_eq_ok_iff {f : Parts → Parts} (h : (f q).check = .ok () → q.check = .ok ()) :
    (ofParts q >>= fun s => ofParts (f s.toParts)) = .ok s ↔ ofParts (f q) = .ok s := by
  cases hcheck : q.check with
  | error e =>
    rw [ofParts_of_error hcheck]
    refine iff_of_false (fun hok => by cases hok) fun hok => ?_
    have hf : (f q).check = .ok () := (ofParts_eq_ok_iff.1 hok) ▸ s.wellFormed
    cases hcheck.symm.trans (h hf)
  | ok _ =>
    rw [ofParts_of_ok hcheck]
    rfl

/-- The sub-workflow with a failure node, if there is one. -/
def withFailureNode? (s : SubWorkflow) : Option Node → Except GraphError SubWorkflow
  | none => .ok s
  | some node => s.withFailureNode node

/-- Build a sub-workflow step by step: the graph, its outputs, its failure node. -/
def assemble (p : Parts) : Except GraphError SubWorkflow := do
  let s ← new p.id p.nodes p.dependencies
  let s ← s.withBindings p.bindings
  s.withFailureNode? p.failureNode

/-- Build a sub-workflow with the last two steps swapped. -/
def assembleFailureFirst (p : Parts) : Except GraphError SubWorkflow := do
  let s ← new p.id p.nodes p.dependencies
  let s ← s.withFailureNode? p.failureNode
  s.withBindings p.bindings

/-- Without a failure node there is nothing to do. -/
lemma withFailureNode?_eq (s : SubWorkflow) (node? : Option Node) :
    s.withFailureNode? node? =
      ofParts { s.toParts with failureNode := node?.or s.failureNode } := by
  cases node? with
  | none => exact (ofParts_of_ok s.wellFormed).symm
  | some node => rfl

/-- A failure node is put onto parts that have none. -/
lemma ofParts_bind_withFailureNode? (p : Parts) :
    (ofParts { p with failureNode := none } >>= fun s => s.withFailureNode? p.failureNode) =
      ofParts p := by
  have hput : ({ p with failureNode := p.failureNode.or none } : Parts) = p := by
    rw [Option.or_none]
  have hstep := ofParts_bind (q := { p with failureNode := none })
    (f := fun q => { q with failureNode := p.failureNode.or q.failureNode }) fun e he =>
      (congrArg Parts.check hput).trans (Parts.check_of_error he)
  simp only [withFailureNode?_eq]
  exact hstep.trans (congrArg ofParts hput)

/-- Step by step or all at once is the same. -/
theorem assemble_eq_ofParts (p : Parts) : assemble p = ofParts p := by
  have hbindings : (new p.id p.nodes p.dependencies >>= fun s => s.withBindings p.bindings) =
      ofParts { p with failureNode := none } :=
    ofParts_bind (q := { p with bindings := [], failureNode := none })
      (f := fun q => { q with bindings := p.bindings }) fun _ => Parts.check_bindings_of_error
  calc assemble p
      = (new p.id p.nodes p.dependencies >>= fun s => s.withBindings p.bindings) >>=
          fun s => s.withFailureNode? p.failureNode := (bind_assoc _ _ _).symm
    _ = ofParts { p with failureNode := none } >>= fun s => s.withFailureNode? p.failureNode := by
        rw [hbindings]
    _ = ofParts p := ofParts_bind_withFailureNode? p

/-- With the last two steps swapped the same sub-workflows are built. -/
theorem assembleFailureFirst_eq_ok_iff : assembleFailureFirst p = .ok s ↔ ofParts p = .ok s := by
  have hfailureNode : (new p.id p.nodes p.dependencies >>= fun s =>
      s.withFailureNode? p.failureNode) = ofParts { p with bindings := [] } :=
    ofParts_bind_withFailureNode? { p with bindings := [] }
  calc assembleFailureFirst p = .ok s
      ↔ ((new p.id p.nodes p.dependencies >>= fun s => s.withFailureNode? p.failureNode) >>=
          fun s => s.withBindings p.bindings) = .ok s := by
        rw [bind_assoc]
        rfl
    _ ↔ (ofParts { p with bindings := [] } >>= fun s => s.withBindings p.bindings) = .ok s := by
        rw [hfailureNode]
    _ ↔ ofParts p = .ok s :=
        ofParts_bind_eq_ok_iff (q := { p with bindings := [] })
          (f := fun q => { q with bindings := p.bindings }) Parts.check_without_bindings

/-- A graph with two defects: which one is reported depends on the order of the steps. -/
example :
    let p : Parts := ⟨"two-defects", [Node.start], Dict.empty, [⟨"result", "nowhere", "result"⟩],
      some Node.start⟩
    assemble p = .error (.unknownNode "nowhere") ∧
      assembleFailureFirst p = .error (.duplicateNode startNodeId) := ⟨rfl, rfl⟩

end SubWorkflow

/-! ### What was built can be used -/

namespace Lookup

/-- A node is unknown to a lookup if its sub-workflow does not declare it. -/
lemma entry_eq_unknownNode_iff {l : Lookup} {id node : NodeId} {ref : SubWorkflowId} :
    l.entry id = .error (.unknownNode node ref) ↔
      id ∉ l.subWorkflow.declaredNodes ∧ node = id ∧ ref = l.subWorkflow.id := by
  rw [SubWorkflow.mem_declaredNodes_iff]
  unfold entry
  cases l.subWorkflow.node? id with
  | none => simp [eq_comm]
  | some n => cases l.status.entry id <;> simp [Except.mapError]

/-- A node that is unknown cannot be visited, and all others are known. -/
lemma visit_eq_unknownNode_iff {l : Lookup} {id node : NodeId} {ref : SubWorkflowId}
    {edit : Status → Status} :
    l.visit id edit = .error (.unknownNode node ref) ↔
      id ∉ l.subWorkflow.declaredNodes ∧ node = id ∧ ref = l.subWorkflow.id := by
  rw [← entry_eq_unknownNode_iff]
  unfold visit
  cases l.entry id <;> simp [Except.map]

end Lookup

namespace SubWorkflow

/-- A sub-workflow is as useful as its check promises: it passes every further check, its declared
nodes are the ones that can be looked up, and nothing that works with them meets a defect. -/
structure Usable (s : SubWorkflow) : Prop where
  valid : s.toParts.check = .ok ()
  declaredNodes_eq : s.toParts.declaredNodes = .ok s.declaredNodes
  nodup : s.declaredNodes.Nodup
  mem_iff : ∀ id, id ∈ s.declaredNodes ↔ (s.node? id).isSome
  failureNode_last : ∀ node, s.failureNode = some node → s.declaredNodes.getLast? = some node.id
  relink_eq : ∀ attempt length status, Lookup.relink s.toParts attempt length status =
    ((Lookup.link s attempt length status).1.mapError .inr, (Lookup.link s attempt length status).2)
  relink_ne : ∀ attempt length status e,
    (Lookup.relink s.toParts attempt length status).1 ≠ .error (.inl e)
  unknown_iff : ∀ status id edit node ref,
    Lookup.visit ⟨s, status⟩ id edit = .error (.unknownNode node ref) ↔
      id ∉ s.declaredNodes ∧ node = id ∧ ref = s.id

/-- The graph of a sub-workflow passes its check again. -/
lemma graph_of_eq_ok (s : SubWorkflow) : Graph.of s.nodeIds s.dependencies = .ok s.graph := by
  have hcheck := s.wellFormed
  unfold Parts.check at hcheck
  split at hcheck
  · cases hcheck
  · rename_i g hg
    obtain ⟨rfl, -⟩ := Graph.isDag_of_of_eq_ok hg
    exact hg

/-- The declared nodes are found by checking the graph again. -/
lemma declaredNodes_toParts (s : SubWorkflow) : s.toParts.declaredNodes = .ok s.declaredNodes := by
  unfold Parts.declaredNodes
  rw [s.graph_of_eq_ok]
  rfl

/-- Linking with the graph checked again is linking. -/
lemma relink_toParts (s : SubWorkflow) (attempt length : Nat) (status : Status) :
    Lookup.relink s.toParts attempt length status =
      ((Lookup.link s attempt length status).1.mapError .inr,
        (Lookup.link s attempt length status).2) := by
  unfold Lookup.relink Lookup.link
  rw [s.declaredNodes_toParts]
  cases status.own.uniqueId with
  | none => rfl
  | some parent =>
    cases hids : Lookup.identify parent attempt length s.declaredNodes with
    | error e =>
      simp only [hids]
      rfl
    | ok ids => simp only [hids]

/-- Every sub-workflow is usable. -/
lemma usable (s : SubWorkflow) : s.Usable where
  valid := s.wellFormed
  declaredNodes_eq := s.declaredNodes_toParts
  nodup := s.nodup_declaredNodes
  mem_iff _ := s.mem_declaredNodes_iff
  failureNode_last node hnode := by
    unfold declaredNodes
    rw [hnode]
    exact List.getLast?_concat
  relink_eq := s.relink_toParts
  relink_ne attempt length status e := by
    rw [s.relink_toParts]
    cases (Lookup.link s attempt length status).1 <;> simp [Except.mapError]
  unknown_iff _ _ _ _ _ := Lookup.visit_eq_unknownNode_iff

/-- Built step by step or all at once, a sub-workflow is the same, or the same defect is reported;
with the last two steps swapped it is still the same.  What is built has the given parts and is
usable, under any name. -/
theorem assemble_usable (p : Parts) :
    assemble p = ofParts p ∧ (∀ s, assembleFailureFirst p = .ok s ↔ ofParts p = .ok s) ∧
      ∀ s, ofParts p = .ok s → s.toParts = p ∧ s.Usable ∧
        ∀ id, (s.withId id).toParts = { p with id := id } ∧ (s.withId id).Usable := by
  refine ⟨assemble_eq_ofParts p, fun s => assembleFailureFirst_eq_ok_iff, fun s hs => ?_⟩
  have hparts := ofParts_eq_ok_iff.1 hs
  refine ⟨hparts, s.usable, fun id => ⟨?_, (s.withId id).usable⟩⟩
  rw [← hparts]
  rfl

end SubWorkflow

namespace Sample

/-- Parts of every kind. -/
def twoStep : SubWorkflow.Parts :=
  ⟨"two-step", [Node.start, Node.finish], Dict.empty.insert endNodeId [startNodeId],
    [⟨"result", endNodeId, "result"⟩], some ⟨"sweeper", none, .task "sweep"⟩⟩

/-- They make a usable sub-workflow, which may be renamed. -/
theorem twoStep_usable :
    ∃ s, SubWorkflow.assemble twoStep = .ok s ∧ SubWorkflow.assembleFailureFirst twoStep = .ok s ∧
      s.toParts = twoStep ∧ s.declaredNodes = [startNodeId, endNodeId, "sweeper"] ∧
        (s.withId "renamed").Usable := by
  obtain ⟨hassemble, hswapped, husable⟩ := SubWorkflow.assemble_usable twoStep
  have hbuilt : SubWorkflow.ofParts twoStep = .ok ⟨twoStep, rfl⟩ := rfl
  obtain ⟨hparts, -, hrenamed⟩ := husable _ hbuilt
  exact ⟨_, hassemble.trans hbuilt, (hswapped _).2 hbuilt, hparts, rfl, (hrenamed "renamed").2⟩

end Sample

end NestedWorkflow
