import NestedWorkflow.Proofs.Artifact.Memory
import NestedWorkflow.Proofs.Tick.Passes

/-!
# Outputs are propagated right, and once

A sub-workflow with outputs leaves them with its end node.  Once a pass from the start node reports
that the graph is complete, the tick looks for them there and copies them to the enclosing node.
The node succeeds exactly if this goes well; it fails if there is nothing to copy or the copy fails,
and a tick that cannot even look decides nothing.

The store keeps artifacts in memory, and each of its answers may be a failure instead
(`Collaborators.InMemory`).  What the executor does with the store during its passes is not
restricted, so artifacts are compared with those that the pass left.
-/

namespace NestedWorkflow

variable {σ : Type}

/-- The store keeps artifacts in memory.  A call that fails changes none of them. -/
structure Collaborators.InMemory (c : Collaborators σ) (store : σ → MemoryStore) : Prop where
  store_head : ∀ path w, store (c.head path w).2 = store w
  head_cases : ∀ path w, (c.head path w).1 = .ok ((store w).head path) ∨
    ∃ e, (c.head path w).1 = .error e
  copy_cases : ∀ source destination w,
    (c.copy source destination w).1 = .ok () ∧
        (store w).copy source destination = .ok (store (c.copy source destination w).2) ∨
      (∃ e, (c.copy source destination w).1 = .error e) ∧
        store (c.copy source destination w).2 = store w

namespace Collaborators.InMemory

variable {c : Collaborators σ} {store : σ → MemoryStore} {w w' : σ}

/-- A probe that is answered tells what is stored. -/
lemma head_eq_ok (hc : c.InMemory store) {path : Reference} {found : Metadata}
    (h : c.head path w = (.ok found, w')) :
    found = (store w).head path ∧ store w' = store w := by
  have hkept := hc.store_head path w
  have hcases := hc.head_cases path w
  rw [h] at hkept hcases
  rcases hcases with heq | ⟨e, heq⟩
  · exact ⟨Except.ok.inj heq, hkept⟩
  · cases heq

/-- A copy that is reported has been made. -/
lemma copy_eq_ok (hc : c.InMemory store) {source destination : Reference}
    (h : c.copy source destination w = (.ok (), w')) :
    (store w).copy source destination = .ok (store w') := by
  have hcases := hc.copy_cases source destination w
  rw [h] at hcases
  rcases hcases with ⟨-, hcopy⟩ | ⟨⟨e, heq⟩, -⟩
  · exact hcopy
  · cases heq

/-- A copy that failed has changed nothing. -/
lemma copy_eq_error (hc : c.InMemory store) {source destination : Reference} {e : StorageError}
    (h : c.copy source destination w = (.error e, w')) : store w' = store w := by
  have hcases := hc.copy_cases source destination w
  rw [h] at hcases
  rcases hcases with ⟨heq, -⟩ | ⟨-, hkept⟩
  · cases heq
  · exact hkept

end Collaborators.InMemory

/-! ### Calls of the store -/

/-- What a call probes, and the answer. -/
def Call.probe? : Call → Option (Reference × Except StorageError Metadata)
  | .head path answer => some (path, answer)
  | _ => none

/-- What a call copies and where to, and the answer. -/
def Call.copy? : Call → Option (Reference × Reference × Except StorageError Unit)
  | .copy source destination answer => some (source, destination, answer)
  | _ => none

/-- Nothing is probed before the pass from the start node. -/
lemma Call.Prepares.probe?_eq {call : Call} (h : call.Prepares) : call.probe? = none := by
  cases h <;> rfl

/-- Nothing is copied before the pass from the start node. -/
lemma Call.Prepares.copy?_eq {call : Call} (h : call.Prepares) : call.copy? = none := by
  cases h <;> rfl

namespace TickOutcome

/-- The probes of a tick with their answers. -/
def probes (o : TickOutcome σ Transition) : List (Reference × Except StorageError Metadata) :=
  o.exchanges.filterMap fun x => x.call.probe?

/-- The copies of a tick with their answers. -/
def copies (o : TickOutcome σ Transition) :
    List (Reference × Reference × Except StorageError Unit) :=
  o.exchanges.filterMap fun x => x.call.copy?

/-- The tick made this pass from the start node, and the pass reported that the graph is complete.
-/
structure Completes (o : TickOutcome σ Transition) (p : Pass σ) : Prop where
  pass_mem : p.exchange ∈ o.exchanges
  start_eq : p.start = startNodeId
  complete : p.answer.result = .ok .complete

end TickOutcome

/-- The graph of a pass has an end node, whose outputs are expected here after the pass. -/
def Pass.HasOutputsAt (site : TickSite) (p : Pass σ) (source : Reference) : Prop :=
  ∃ node child, p.lookup.subWorkflow.endNode? = some node ∧
    p.status.child? node.id = some child ∧
      child.own.outputDir.join site.config.outputsFile = source

/-! ### The statement -/

/-- What comes of a tick after a pass that reported that the graph is complete, where the enclosing
node is expected to have its outputs at a target. -/
inductive Propagation (site : TickSite) (store : σ → MemoryStore) (target : Reference)
    (p : Pass σ) (o : TickOutcome σ Transition) : Prop
  | noEndNode (hend : p.lookup.subWorkflow.endNode? = none)
      (result : o.result = .ok (Body.outputFailure "no end node found in subworkflow"))
      (probes : o.probes = []) (copies : o.copies = []) (kept : store o.world = store p.world)
  | notProbed {source : Reference} {e : StorageError} (hsource : p.HasOutputsAt site source)
      (result : o.result = .error (.storage e))
      (probes : o.probes = [(source, .error e)]) (copies : o.copies = [])
      (kept : store o.world = store p.world)
  | absent {source : Reference} (hsource : p.HasOutputsAt site source)
      (hbytes : (store p.world).get? source = none)
      (result : o.result = .ok (Body.outputFailure
        ("subworkflow is expected to produce outputs but no outputs file was written to " ++
          source.path)))
      (probes : o.probes = [(source, .ok ((store p.world).head source))]) (copies : o.copies = [])
      (kept : store o.world = store p.world)
  | notCopied {source : Reference} {bytes : ByteArray} {e : StorageError}
      (hsource : p.HasOutputsAt site source) (hbytes : (store p.world).get? source = some bytes)
      (result : o.result = .ok (Body.outputFailure
        ("failed to copy subworkflow outputs from [" ++ source.path ++ "] to [" ++
          target.path ++ "]")))
      (probes : o.probes = [(source, .ok ((store p.world).head source))])
      (copies : o.copies = [(source, target, .error e)])
      (kept : store o.world = store p.world)
  | copied {source : Reference} {bytes : ByteArray} (hsource : p.HasOutputsAt site source)
      (hbytes : (store p.world).get? source = some bytes)
      (result : o.result = .ok (.succeeded (some target)))
      (probes : o.probes = [(source, .ok ((store p.world).head source))])
      (copies : o.copies = [(source, target, .ok ())])
      (updated : (store p.world).IsUpdate (store o.world) target bytes)

/-- Outputs are propagated by a tick on a status, with this outcome, as they should be. -/
structure OutputsPropagated (site : TickSite) (store : σ → MemoryStore) (s : Status)
    (o : TickOutcome σ Transition) : Prop where
  /-- Success takes a complete graph with an end node, outputs found there, and a copy of them. -/
  succeeds_iff : (∃ output, o.result = .ok (.succeeded output)) ↔
    ∃ p source found, o.Completes p ∧ p.HasOutputsAt site source ∧
      (source, .ok found) ∈ o.probes ∧ found.exists? = true ∧
        (source, site.outputTarget s, .ok ()) ∈ o.copies
  /-- A complete graph leads to one of five outcomes. -/
  propagation : ∀ p, o.Completes p → Propagation site store (site.outputTarget s) p o
  /-- There is at most one copy, and only of outputs that were found after a complete pass. -/
  copied_once : o.copies.length ≤ 1
  copied_only : ∀ source destination answer, (source, destination, answer) ∈ o.copies →
    ∃ p bytes, o.Completes p ∧ p.HasOutputsAt site source ∧
      (store p.world).get? source = some bytes ∧ destination = site.outputTarget s
  /-- Without a complete graph the store is left alone. -/
  probed_only : (∀ p, ¬ o.Completes p) → o.probes = []

namespace Propagation

variable {site : TickSite} {store : σ → MemoryStore} {target : Reference} {p : Pass σ}
  {o o' : TickOutcome σ Transition}

/-- Only the result, the world that is left and the calls of the store count. -/
lemma of_eq (h : Propagation site store target p o) (hresult : o'.result = o.result)
    (hworld : o'.world = o.world) (hprobes : o'.probes = o.probes)
    (hcopies : o'.copies = o.copies) : Propagation site store target p o' := by
  cases h with
  | noEndNode hend hr hpr hco hkept =>
    exact .noEndNode hend (hresult.trans hr) (hprobes.trans hpr) (hcopies.trans hco)
      ((congrArg store hworld).trans hkept)
  | notProbed hsource hr hpr hco hkept =>
    exact .notProbed hsource (hresult.trans hr) (hprobes.trans hpr) (hcopies.trans hco)
      ((congrArg store hworld).trans hkept)
  | absent hsource hbytes hr hpr hco hkept =>
    exact .absent hsource hbytes (hresult.trans hr) (hprobes.trans hpr) (hcopies.trans hco)
      ((congrArg store hworld).trans hkept)
  | notCopied hsource hbytes hr hpr hco hkept =>
    exact .notCopied hsource hbytes (hresult.trans hr) (hprobes.trans hpr) (hcopies.trans hco)
      ((congrArg store hworld).trans hkept)
  | copied hsource hbytes hr hpr hco hupdated =>
    rw [← hworld] at hupdated
    exact .copied hsource hbytes (hresult.trans hr) (hprobes.trans hpr) (hcopies.trans hco) hupdated

/-- There is at most one copy after a complete graph, and it is the one of the outputs. -/
lemma copies_cases (h : Propagation site store target p o) :
    o.copies = [] ∨ ∃ source bytes answer, p.HasOutputsAt site source ∧
      (store p.world).get? source = some bytes ∧ o.copies = [(source, target, answer)] := by
  cases h with
  | noEndNode _ _ _ hcopies _ | notProbed _ _ _ hcopies _ | absent _ _ _ _ hcopies _ =>
    exact .inl hcopies
  | notCopied hsource hbytes _ _ hcopies _ | copied hsource hbytes _ _ hcopies _ =>
    exact .inr ⟨_, _, _, hsource, hbytes, hcopies⟩

/-- A tick succeeds after a complete graph exactly if outputs are found and copied. -/
lemma succeeds_iff (h : Propagation site store target p o) :
    (∃ output, o.result = .ok (.succeeded output)) ↔
      ∃ source found, p.HasOutputsAt site source ∧ (source, .ok found) ∈ o.probes ∧
        found.exists? = true ∧ (source, target, .ok ()) ∈ o.copies := by
  cases h with
  | noEndNode _ hr _ hcopies _ | absent _ _ hr _ hcopies _ | notCopied _ _ hr _ hcopies _ =>
    simp [hr, hcopies, Body.outputFailure]
  | notProbed _ hr _ hcopies _ => simp [hr, hcopies]
  | @copied source bytes hsource hbytes hr hprobes hcopies _ =>
    have hfound : ((store p.world).head source).exists? = true := by
      rw [MemoryStore.exists?_head, hbytes]
      rfl
    have hprobed : (source, .ok ((store p.world).head source)) ∈ o.probes := by
      rw [hprobes]
      exact List.mem_singleton_self _
    have hcopied : (source, target, .ok ()) ∈ o.copies := by
      rw [hcopies]
      exact List.mem_singleton_self _
    exact ⟨fun _ => ⟨source, _, hsource, hprobed, hfound, hcopied⟩, fun _ => ⟨_, hr⟩⟩

end Propagation

/-! ### After a complete pass -/

namespace Body

variable {site : TickSite} {c : Collaborators σ} {o : TickOutcome σ Transition} {p : Pass σ}

/-- Outputs are looked for where the end node has them. -/
lemma hasOutputsAt_of_outputSource? {source : Reference}
    (h : outputSource? site p.lookup.subWorkflow p.status = some source) :
    p.HasOutputsAt site source := by
  unfold outputSource? at h
  split at h
  · cases h
  · rename_i node hnode
    obtain ⟨child, hchild, rfl⟩ := Option.map_eq_some_iff.1 h
    exact ⟨node, child, hnode, hchild, rfl⟩

/-- An end node that has been reached has a place for its outputs. -/
lemma endNode?_of_outputSource?
    (hreached : ∀ node, p.lookup.subWorkflow.endNode? = some node →
      (p.status.child? node.id).isSome)
    (h : outputSource? site p.lookup.subWorkflow p.status = none) :
    p.lookup.subWorkflow.endNode? = none := by
  unfold outputSource? at h
  split at h
  · rename_i hend
    exact hend
  · rename_i node hnode
    obtain ⟨child, hchild⟩ := Option.isSome_iff_exists.1 (hreached node hnode)
    rw [hchild] at h
    cases h

/-- Propagating the outputs of a complete graph has one of the five outcomes. -/
lemma Propagates.propagation (h : Propagates site c p.lookup.subWorkflow p.status p.world o)
    {store : σ → MemoryStore} (hc : c.InMemory store)
    (hb : p.lookup.subWorkflow.bindings.isEmpty = false)
    (hreached : ∀ node, p.lookup.subWorkflow.endNode? = some node →
      (p.status.child? node.id).isSome) :
    Propagation site store (site.outputTarget p.status) p o := by
  cases h with
  | undeclared hb' => cases hb.symm.trans hb'
  | noEndNode _ hs =>
    exact .noEndNode (endNode?_of_outputSource? hreached hs) rfl rfl rfl rfl
  | @probeFailed source e w' _ hs hhead =>
    have hkept := hc.store_head source p.world
    rw [hhead] at hkept
    exact .notProbed (hasOutputsAt_of_outputSource? hs) rfl rfl rfl hkept
  | @absent source found w' _ hs hhead hfound =>
    obtain ⟨rfl, hkept⟩ := hc.head_eq_ok hhead
    rw [MemoryStore.exists?_head] at hfound
    have hnone := Option.isSome_eq_false_iff.1 hfound
    exact .absent (hasOutputsAt_of_outputSource? hs) (Option.isNone_iff_eq_none.1 hnone) rfl rfl rfl
      hkept
  | @copyFailed source found e w' w'' _ hs hhead hfound hcopy =>
    obtain ⟨rfl, hprobed⟩ := hc.head_eq_ok hhead
    rw [MemoryStore.exists?_head] at hfound
    obtain ⟨bytes, hbytes⟩ := Option.isSome_iff_exists.1 hfound
    have hkept := (hc.copy_eq_error hcopy).trans hprobed
    exact .notCopied (hasOutputsAt_of_outputSource? hs) hbytes rfl rfl rfl hkept
  | @copied source found w' w'' _ hs hhead hfound hcopy =>
    obtain ⟨rfl, hprobed⟩ := hc.head_eq_ok hhead
    have hstore := hc.copy_eq_ok hcopy
    rw [hprobed] at hstore
    obtain ⟨bytes, hbytes, hupdate⟩ := MemoryStore.isUpdate_of_copy_eq_ok hstore
    exact .copied (hasOutputsAt_of_outputSource? hs) hbytes rfl rfl rfl hupdate

end Body

/-! ### Ticks -/

/-- The end node of a sub-workflow is one of its declared nodes. -/
lemma SubWorkflow.isSome_node?_of_endNode? {sub : SubWorkflow} {node : Node}
    (h : sub.endNode? = some node) : (sub.node? node.id).isSome := by
  unfold endNode? at h
  rw [node?, List.find?_isSome]
  exact ⟨node, List.mem_append_left _ (List.mem_of_find?_eq_some h), by simp⟩

namespace Driven

variable {site : TickSite} {c : Collaborators σ} {s : Status} {o : TickOutcome σ Transition}
  {p : Pass σ}

/-- The pass of a tick has reached the end node. -/
lemma isSome_child?_endNode (h : Driven site c s o p) {node : Node}
    (hnode : p.lookup.subWorkflow.endNode? = some node) : (p.status.child? node.id).isSome :=
  Lookup.isSome_child?_leftBy _ _ (h.reached node.id (SubWorkflow.isSome_node?_of_endNode? hnode))

/-- The outputs of the enclosing node are expected where its status says, before and after the pass.
-/
lemma outputTarget_eq (h : Driven site c s o p) :
    site.outputTarget p.status = site.outputTarget s := by
  have hrecord : p.status.own.unrecorded = s.own.unrecorded := by
    rw [p.own_status, h.own_eq, s.unrecorded_renewed]
  unfold TickSite.outputTarget
  rw [Progress.outputDir_eq_of_unrecorded_eq hrecord]

/-- The calls of the store in a tick are those after the pass. -/
lemma store_calls_eq {past : List (Exchange σ)} (hpast : ∀ x ∈ past, x.call.Prepares)
    (o' : TickOutcome σ Transition) (now : Instant) :
    ((o'.after past).recordingStart now).probes = o'.probes ∧
      ((o'.after past).recordingStart now).copies = o'.copies := by
  have hprobes : (past.filterMap fun x => x.call.probe?) = [] :=
    List.filterMap_eq_nil_iff.2 fun x hx => (hpast x hx).probe?_eq
  have hcopies : (past.filterMap fun x => x.call.copy?) = [] :=
    List.filterMap_eq_nil_iff.2 fun x hx => (hpast x hx).copy?_eq
  unfold TickOutcome.probes TickOutcome.copies
  rw [TickOutcome.exchanges_recordingStart, TickOutcome.after, List.filterMap_append,
    List.filterMap_append, hprobes, hcopies]
  exact ⟨rfl, rfl⟩

/-- Only a complete graph lets a tick succeed or turn to the store. -/
lemma not_succeeded_of_not_complete (h : Driven site c s o p)
    (hp : p.answer.result ≠ .ok .complete) :
    o.probes = [] ∧ o.copies = [] ∧ ∀ output, o.result ≠ .ok (.succeeded output) := by
  obtain ⟨past, o', hpast, ho', rfl⟩ := h.followed
  obtain ⟨hprobes, hcopies⟩ := store_calls_eq hpast o' site.now
  rw [hprobes, hcopies, TickOutcome.result_recordingStart]
  cases ho' with
  | completed hr _ => exact absurd hr hp
  | failed _ =>
    refine ⟨rfl, rfl, ?_⟩
    intro output hresult
    simp only [TickOutcome.after, Except.ok.injEq, Body.graphFailure] at hresult
    split at hresult <;> cases hresult
  | halted _ | running _ | enqueued _ _ | notEnqueued _ _ =>
    exact ⟨rfl, rfl, by simp [TickOutcome.after]⟩

/-- A complete graph leads to one of the five outcomes. -/
lemma propagation (h : Driven site c s o p) {store : σ → MemoryStore} (hc : c.InMemory store)
    (hb : p.lookup.subWorkflow.bindings.isEmpty = false)
    (hp : p.answer.result = .ok .complete) :
    Propagation site store (site.outputTarget s) p o := by
  rw [← h.outputTarget_eq]
  have hreached : ∀ node, p.lookup.subWorkflow.endNode? = some node →
      (p.status.child? node.id).isSome := fun _ => h.isSome_child?_endNode
  obtain ⟨past, o', hpast, ho', rfl⟩ := h.followed
  obtain ⟨hprobes, hcopies⟩ := store_calls_eq hpast o' site.now
  cases ho' with
  | @completed o' _ ho =>
    refine (ho.propagation hc hb hreached).of_eq ?_ ?_ hprobes hcopies
    · rw [TickOutcome.result_recordingStart]
      rfl
    · rw [TickOutcome.world_recordingStart]
      rfl
  | halted hr | running hr | failed hr | enqueued hr _ | notEnqueued hr _ => cases hr.symm.trans hp

end Driven

/-- A tick that is withheld leaves the store alone. -/
lemma Withheld.store_calls_eq {o : TickOutcome σ Transition} (h : Withheld o) :
    o.probes = [] ∧ o.copies = [] := by
  constructor
  · refine List.filterMap_eq_nil_iff.2 fun x hx => ?_
    cases hcall : x.call with
    | head path a => exact absurd hcall (h.not_probed x hx path a)
    | _ => rfl
  · refine List.filterMap_eq_nil_iff.2 fun x hx => ?_
    cases hcall : x.call with
    | copy source destination a => exact absurd hcall (h.not_copied x hx source destination a)
    | _ => rfl

namespace OutputsPropagated

variable {site : TickSite} {store : σ → MemoryStore} {s : Status} {o : TickOutcome σ Transition}

/-- A tick with one complete graph propagates its outputs by one of the five outcomes. -/
lemma of_completes {p : Pass σ} (hp : o.Completes p) (hunique : ∀ q, o.Completes q → q = p)
    (h : Propagation site store (site.outputTarget s) p o) :
    OutputsPropagated site store s o where
  succeeds_iff := by
    rw [h.succeeds_iff]
    constructor
    · rintro ⟨source, found, hsource, hrest⟩
      exact ⟨p, source, found, hp, hsource, hrest⟩
    · rintro ⟨q, source, found, hq, hsource, hrest⟩
      exact ⟨source, found, hunique q hq ▸ hsource, hrest⟩
  propagation q hq := by
    rw [hunique q hq]
    exact h
  copied_once := by
    rcases h.copies_cases with hcopies | ⟨_, _, _, _, _, hcopies⟩
    · rw [hcopies]
      exact Nat.zero_le 1
    · rw [hcopies]
      exact Nat.le_refl 1
  copied_only source destination answer hmem := by
    rcases h.copies_cases with hcopies | ⟨_, bytes, _, hsource, hbytes, hcopies⟩
    · rw [hcopies] at hmem
      cases hmem
    · rw [hcopies] at hmem
      cases List.mem_singleton.1 hmem
      exact ⟨p, bytes, hp, hsource, hbytes, rfl⟩
  probed_only hnone := absurd hp (hnone p)

/-- A tick without a complete graph has no outputs to propagate. -/
lemma of_not_completes (hnone : ∀ p, ¬ o.Completes p) (hprobes : o.probes = [])
    (hcopies : o.copies = []) (hresult : ∀ output, o.result ≠ .ok (.succeeded output)) :
    OutputsPropagated site store s o where
  succeeds_iff := by
    constructor
    · rintro ⟨output, houtput⟩
      exact absurd houtput (hresult output)
    · rintro ⟨p, source, found, hp, -⟩
      exact absurd hp (hnone p)
  propagation p hp := absurd hp (hnone p)
  copied_once := by
    rw [hcopies]
    exact Nat.zero_le 1
  copied_only source destination answer hmem := by
    rw [hcopies] at hmem
    cases hmem
  probed_only _ := hprobes

end OutputsPropagated

/-- Every tick of a node whose sub-workflow has outputs propagates them as it should, over a store
in memory. -/
theorem WorkflowNode.handle_propagates_outputs {site : TickSite} {c : Collaborators σ}
    {store : σ → MemoryStore} (hc : c.InMemory store) {sub : SubWorkflow}
    (hs : Body.resolve site = .ok sub) (hb : sub.bindings ≠ []) (s : Status) (w : σ) :
    OutputsPropagated site store s ((handle site c).run s w) := by
  have h := handles_run site c s w
  set o := (handle site c).run s w
  by_cases hcomplete : ∃ p, o.Completes p
  · obtain ⟨p, hp⟩ := hcomplete
    have hdriven := h.driven_of_pass_mem hp.pass_mem hp.start_eq
    have hsub : p.lookup.subWorkflow = sub := Except.ok.inj (hdriven.resolved.symm.trans hs)
    have hbindings : p.lookup.subWorkflow.bindings.isEmpty = false := by
      rw [hsub, List.isEmpty_eq_false_iff]
      exact hb
    refine .of_completes hp (fun q hq => hdriven.eq_of_pass_mem hq.pass_mem) ?_
    exact hdriven.propagation hc hbindings hp.complete
  · have hnone := not_exists.1 hcomplete
    rcases h.driven_or_withheld with ⟨p, hp⟩ | hwithheld
    · have hincomplete : p.answer.result ≠ .ok .complete :=
        fun hr => hnone p ⟨hp.pass_mem, hp.start_eq, hr⟩
      obtain ⟨hprobes, hcopies, hresult⟩ := hp.not_succeeded_of_not_complete hincomplete
      exact .of_not_completes hnone hprobes hcopies hresult
    · obtain ⟨hprobes, hcopies⟩ := hwithheld.store_calls_eq
      exact .of_not_completes hnone hprobes hcopies hwithheld.not_succeeded

namespace Sample

/-- Collaborators over a store in memory.  The graph completes in one pass, which leaves the outputs
of its end node in the store. -/
def archiving : Collaborators MemoryStore :=
  { idle with
    drive := fun _ _ _ m =>
      (⟨.ok .complete, []⟩, m.put ⟨"data/outer/end-node/outputs.json"⟩ "21".toUTF8)
    head := fun path m => (.ok (m.head path), m)
    copy := fun source destination m =>
      match m.copy source destination with
      | .ok m' => (.ok (), m')
      | .error e => (.error e, m) }

/-- These collaborators do answer from memory. -/
lemma archiving_inMemory : archiving.InMemory id where
  store_head _ _ := rfl
  head_cases _ _ := .inl rfl
  copy_cases source destination m := by
    simp only [archiving, id]
    cases m.copy source destination with
    | ok m' => exact .inl ⟨rfl, rfl⟩
    | error e => exact .inr ⟨⟨e, rfl⟩, rfl⟩

/-- The tick in which the graph completes. -/
def archivingTick : TickOutcome MemoryStore Transition :=
  (WorkflowNode.handle site archiving).run status (MemoryStore.new "")

/-- The outputs of the sample end up beside its data. -/
theorem archivingTick_propagates_outputs :
    OutputsPropagated site id status archivingTick ∧
      archivingTick.result = .ok (.succeeded (some ⟨"data/outer/outputs.json"⟩)) ∧
      archivingTick.world.get? ⟨"data/outer/outputs.json"⟩ = some "21".toUTF8 :=
  ⟨WorkflowNode.handle_propagates_outputs archiving_inMemory rfl (by decide) status _, rfl, rfl⟩

end Sample

end NestedWorkflow
