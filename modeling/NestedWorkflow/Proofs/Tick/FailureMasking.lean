import NestedWorkflow.Proofs.Tick.Passes

/-!
# A failure of the graph stays the failure of the node

Once a pass from the start node has failed, the error it reported is what the node fails with.  The
failure node may run, over as many ticks as it takes, but only a failure of its own takes the place
of the error; whatever else it does cleans up.  This lasts until the node is tried once more.

The error is kept in the checkpoint (`Status.FailsWith`).  A failed pass puts it there
(`WorkflowNode.Handles.failsWith_of_failed_pass`), ticks and aborts keep it there
(`Step.failsWith`), and a tick that finds it there is masked by it (`WorkflowNode.Handles.masked`).
-/

namespace NestedWorkflow

variable {σ : Type}

/-- In its current attempt the node fails, and this is the error with which it started to fail. -/
def Status.FailsWith (s : Status) (error : ExecutionError) : Prop :=
  s.own.checkpoint = ⟨.failing, some error, s.own.attempts⟩

/-- The errors with which a tick may end a node that fails with an error already. -/
inductive FinalError (site : TickSite) (exchanges : List (Exchange σ)) (error : ExecutionError) :
    ExecutionError → Prop
  /-- The first error, unless the failure node failed in this tick. -/
  | kept {sub : SubWorkflow} (hs : Body.resolve site = .ok sub)
      (h : ∀ p : Pass σ, p.exchange ∈ exchanges → ∀ e, p.answer.result ≠ .ok (.failed e)) :
      FinalError site exchanges error error
  /-- The error of the failure node, if it failed in this tick. -/
  | replaced {sub : SubWorkflow} {node : Node} {p : Pass σ} {own : Option ExecutionError}
      (hs : Body.resolve site = .ok sub) (hn : sub.failureNode = some node)
      (hstart : p.start = node.id) (hp : p.exchange ∈ exchanges)
      (h : p.answer.result = .ok (.failed own)) :
      FinalError site exchanges error (Body.reportedError own)
  /-- There is no sub-workflow any more. -/
  | unresolved {e : HandlerError} (hs : Body.resolve site = .error e) :
      FinalError site exchanges error (.system ExecutionError.subWorkflowCode e.message)

/-- What a tick may do to a node that fails with an error already. -/
structure Masked (site : TickSite) (error : ExecutionError) (o : TickOutcome σ Transition) : Prop
    extends Withheld o where
  not_seeded : ∀ x ∈ o.exchanges, ∀ l inputs a, x.call ≠ .seed l inputs a
  failing : ∀ e, o.result = .ok (.failing e) → e = error
  failed : ∀ e, o.result = .ok (.failed e) → FinalError site o.exchanges error e

/-! ### The failed pass -/

namespace Body

variable {site : TickSite} {c : Collaborators σ} {s : Status} {w : σ}
  {o : TickOutcome σ Transition}

/-- A failed pass from the start node fails the tick and is written down. -/
lemma Advances.failsWith {sub : SubWorkflow} {p : Pass σ} {error : Option ExecutionError}
    (h : Advances site c sub p o) (hfailed : p.answer.result = .ok (.failed error)) :
    o.result = .ok (graphFailure sub (reportedError error)) ∧
      o.status.FailsWith (reportedError error) := by
  cases h with
  | failed hr =>
    cases hr.symm.trans hfailed
    exact ⟨rfl, rfl⟩
  | halted hr | running hr | enqueued hr _ | notEnqueued hr _ | completed hr _ =>
    cases hr.symm.trans hfailed

/-- The transition for a failed graph is not the one for a graph that runs. -/
lemma graphFailure_ne_running (sub : SubWorkflow) (error : ExecutionError) :
    graphFailure sub error ≠ .running := by
  unfold graphFailure
  split <;> simp

end Body

/-- A failed pass from the start node fails the tick and is written down. -/
lemma Driven.failsWith {site : TickSite} {c : Collaborators σ} {s : Status}
    {o : TickOutcome σ Transition} {p : Pass σ} (h : Driven site c s o p)
    {error : Option ExecutionError} (hfailed : p.answer.result = .ok (.failed error)) :
    o.result = .ok (Body.graphFailure p.lookup.subWorkflow (Body.reportedError error)) ∧
      o.status.FailsWith (Body.reportedError error) := by
  obtain ⟨past, o', -, ho', rfl⟩ := h.followed
  obtain ⟨hresult, hstatus⟩ := ho'.failsWith hfailed
  have hrunning : (o'.after past).result ≠ .ok .running := by
    intro hrun
    exact Body.graphFailure_ne_running _ _ (Except.ok.inj (hresult.symm.trans hrun))
  rw [TickOutcome.recordingStart_of_ne_running hrunning]
  exact ⟨hresult, hstatus⟩

/-! ### The ticks after it -/

namespace WorkflowNode

open Body

variable {site : TickSite} {c : Collaborators σ} {s : Status} {w : σ} {error : ExecutionError}

/-- A node that fails spends its ticks on its failure node. -/
lemma Handles.fails_of_failsWith {o : TickOutcome σ Transition} (h : Handles site c s w o)
    (hs : s.FailsWith error) :
    (∃ e, o = ⟨.error e, s, w, []⟩) ∨ Fails site c s w o := by
  have hrenewed : s.renewed site.now = s :=
    Status.renewed_of_isCurrent (congrArg Checkpoint.attempt hs) site.now
  have hstage : (s.renewed site.now).own.checkpoint.stage = .failing := by
    rw [hrenewed, hs]
  cases h with
  | refused _ => exact .inl ⟨_, rfl⟩
  | started _ hother _ => cases hstage.symm.trans hother
  | checked _ hother _ => cases hstage.symm.trans hother
  | failed _ _ ho =>
    rw [hrenewed] at ho
    exact .inr ho

/-- The error with which the node fails is the recorded one. -/
lemma recordedError_of_failsWith (hs : s.FailsWith error) :
    recordedError s.own.checkpoint = error := by
  rw [hs]
  rfl

/-- A tick keeps the error with which its node fails. -/
lemma Handles.failsWith {o : TickOutcome σ Transition} (h : Handles site c s w o)
    (hs : s.FailsWith error) : o.status.FailsWith error := by
  rcases h.fails_of_failsWith hs with ⟨e, rfl⟩ | hfails
  · exact hs
  · unfold Status.FailsWith
    rw [hfails.own_eq]
    exact hs

/-- An abort keeps the error with which its node fails. -/
lemma Aborts.failsWith {reason : String} {o : TickOutcome σ Unit}
    (h : Aborts site c reason s w o) (hs : s.FailsWith error) : o.status.FailsWith error := by
  unfold Status.FailsWith
  rw [h.own_eq]
  exact hs

end WorkflowNode

namespace Body

variable {site : TickSite} {c : Collaborators σ} {s : Status} {w : σ} {error : ExecutionError}
  {o : TickOutcome σ Transition}

/-- A tick goes on failing only with the error that is recorded. -/
lemma Fails.error_of_failing (h : Fails site c s w o) {e : ExecutionError}
    (he : o.result = .ok (.failing e)) : e = recordedError s.own.checkpoint := by
  cases h <;> cases he
  rfl

/-- A pass that is noted after the body has failed is the one from the failure node. -/
lemma Fails.eq_of_pass_mem (h : Fails site c s w o) {sub : SubWorkflow} {node : Node}
    (hs : resolve site = .ok sub) (hn : sub.failureNode = some node) {p : Pass σ}
    (hp : p.exchange ∈ o.exchanges) : p = site.pass c sub node.id s w := by
  rcases h.call_cases hp with ⟨sub', node', hs', hn', heq⟩ | ⟨answer, hcall⟩
  · cases hs.symm.trans hs'
    cases hn.symm.trans hn'
    exact Pass.exchange_inj.1 heq
  · simp [Pass.exchange] at hcall

/-- A tick ends in failure with the recorded error, or with one of the failure node. -/
lemma Fails.finalError (h : Fails site c s w o) {e : ExecutionError}
    (he : o.result = .ok (.failed e)) :
    FinalError site o.exchanges (recordedError s.own.checkpoint) e := by
  have hpass := h
  cases h with
  | unresolved hs =>
    cases he
    exact .unresolved hs
  | withoutFailureNode hs hn =>
    cases he
    exact .kept hs (by simp)
  | failed hs hn hp hr =>
    cases he
    subst hp
    exact .replaced hs hn rfl List.mem_cons_self hr
  | completed hs hn hp hr =>
    cases he
    refine .kept hs fun q hq own hfailed => ?_
    rw [hpass.eq_of_pass_mem hs hn hq, hp] at hfailed
    cases hr.symm.trans hfailed
  | halted _ _ _ _ | running _ _ _ _ | enqueued _ _ _ _ _ | notEnqueued _ _ _ _ _ => cases he

end Body

/-- A tick of a node that fails with an error already is masked by it. -/
lemma WorkflowNode.Handles.masked {site : TickSite} {c : Collaborators σ} {s : Status} {w : σ}
    {o : TickOutcome σ Transition} (h : Handles site c s w o) {error : ExecutionError}
    (hs : s.FailsWith error) : Masked site error o := by
  rcases h.fails_of_failsWith hs with ⟨e, rfl⟩ | hfails
  · exact ⟨⟨by simp, by simp, by simp, by simp⟩, by simp, by simp, by simp⟩
  · have hrecorded := recordedError_of_failsWith hs
    refine ⟨hfails.withheld, fun x hx l inputs a => ?_, fun e he => ?_, fun e he => ?_⟩
    · rcases hfails.call_cases hx with ⟨sub, node, -, -, rfl⟩ | ⟨answer, hcall⟩
      · simp [Pass.exchange]
      · rw [hcall]
        simp
    · rw [← hrecorded]
      exact hfails.error_of_failing he
    · rw [← hrecorded]
      exact hfails.finalError he

/-! ### Runs -/

/-- Until the node is tried once more, the error with which it fails stays. -/
lemma Step.failsWith {node : Node} {config : Config} {x : Step σ} (hx : x.Happens node config)
    (hretry : x.isRetry = false) {error : ExecutionError} (h : x.before.FailsWith error) :
    x.after.FailsWith error := by
  cases hx with
  | tick workflow now c s w => exact (WorkflowNode.handles_run _ c s w).failsWith h
  | abort workflow now c reason s w => exact (WorkflowNode.aborts_run _ c reason s w).failsWith h
  | retry _ => cases hretry

/-- A tick with a failed pass from the start node fails the node with the error of the pass, and
masks every later tick until the node is tried once more. -/
theorem Run.failure_masks {node : Node} {config : Config} {s t : Status}
    {earlier rest : List (Step σ)} {site : TickSite} {before : Status}
    {o : TickOutcome σ Transition}
    (hrun : Run node config s (earlier ++ .tick site before o :: rest) t) {p : Pass σ}
    {error : Option ExecutionError} (hp : p.exchange ∈ o.exchanges)
    (hstart : p.start = startNodeId) (hfailed : p.answer.result = .ok (.failed error)) :
    (∃ sub, Body.resolve site = .ok sub ∧
      o.result = .ok (if sub.failureNode.isSome then .failing (Body.reportedError error)
        else .failed (Body.reportedError error))) ∧
    ∀ between site' before' o' later, rest = between ++ .tick site' before' o' :: later →
      (∀ x ∈ between, x.isRetry = false) → Masked site' (Body.reportedError error) o' := by
  obtain ⟨m, -, hback⟩ := append_iff.1 hrun
  obtain ⟨-, hfirst, hrest⟩ := cons_iff.1 hback
  obtain ⟨-, -, c, w, hhandles⟩ := hfirst.handles
  have hdriven := hhandles.driven_of_pass_mem hp hstart
  obtain ⟨hresult, hfails⟩ := hdriven.failsWith hfailed
  refine ⟨⟨p.lookup.subWorkflow, hdriven.resolved, hresult⟩, ?_⟩
  rintro between site' before' o' later rfl hretry
  obtain ⟨m', hbetween, hlater⟩ := append_iff.1 hrest
  obtain ⟨rfl, hlast, -⟩ := cons_iff.1 hlater
  obtain ⟨-, -, c', w', hhandles'⟩ := hlast.handles
  have hkept : m'.FailsWith (Body.reportedError error) :=
    hbetween.invariant (I := fun s => s.FailsWith (Body.reportedError error))
      (fun x hx hhappens => Step.failsWith hhappens (hretry x hx)) hfails
  exact hhandles'.masked hkept

namespace Sample

/-- A failure of the graph. -/
def broken : ExecutionError := .user "Broken" "a task broke"

/-- Collaborators under which the graph fails, and the failure node completes. -/
def breaking : Collaborators Unit := reporting (.failed (some broken)) .complete

/-- The tick in which the graph fails. -/
def brokenTick : TickOutcome Unit Transition := (WorkflowNode.handle site breaking).run status ()

/-- The tick after it. -/
def sweepingTick : TickOutcome Unit Transition :=
  (WorkflowNode.handle site breaking).run brokenTick.status ()

/-- The failed pass. -/
def brokenPass : Pass Unit := site.pass breaking body startNodeId (site.linking body status).2 ()

/-- After the graph failed, a tick in which the failure node completes is masked. -/
theorem sweepingTick_masked :
    brokenPass.exchange ∈ brokenTick.exchanges ∧
      brokenTick.result = .ok (.failing broken) ∧
      sweepingTick.result = .ok (.failed broken) ∧
      Masked site broken sweepingTick := by
  have hrun : Run node Config.default status
      ([] ++ [.tick site status brokenTick, .tick site brokenTick.status sweepingTick])
      sweepingTick.status :=
    .cons (.tick _ _ breaking status ()) (.cons (.tick _ _ breaking _ ()) (.nil _))
  have hmem : brokenPass.exchange ∈ brokenTick.exchanges := .tail _ (.tail _ (.head _))
  have hfailed : brokenPass.answer.result = .ok (.failed (some broken)) := rfl
  obtain ⟨-, hmasks⟩ := Run.failure_masks hrun hmem rfl hfailed
  exact ⟨hmem, rfl, rfl, hmasks [] site brokenTick.status sweepingTick [] rfl (by simp)⟩

end Sample

end NestedWorkflow
