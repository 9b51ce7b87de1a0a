import NestedWorkflow.Proofs.Tick.Passes
import NestedWorkflow.Proofs.Tick.Undated

/-!
# Retrying after an error

A tick that ends in an error decided nothing, and the caller tries it again.  Such a tick leaves
hardly a trace (`Invisible`): nothing was copied, and of what the enclosing status says of its own
node only an outdated checkpoint was replaced.  It may have linked the children, all of them or
those before one that could not be reached.  The retry links them again, with the same effect
(`WorkflowNode.handle_linking`), so it goes as it would have gone without the failed tick, as long
as the executor left the children as they were.
-/

namespace NestedWorkflow

variable {σ : Type}

/-! ### Linking twice -/

/-- Linking once more ends the same way and changes nothing. -/
lemma TickSite.linking_linking (site : TickSite) (sub : SubWorkflow) (s : Status) :
    site.linking sub (site.linking sub s).2 = site.linking sub s := by
  change Lookup.link sub (site.linking sub s).2.own.attempts site.config.uniqueIdLength
    (site.linking sub s).2 = _
  rw [site.own_linking]
  exact Lookup.link_link sub s.own.attempts s.own.attempts site.config.uniqueIdLength s

namespace Body

open Tick

variable {site : TickSite} {sub : SubWorkflow}

lemma exec_linkChildren_linking (s : Status) (w : σ) (past : List (Exchange σ)) :
    exec (linkChildren site sub) ⟨(site.linking sub s).2, w, past⟩ =
      exec (linkChildren site sub) ⟨s, w, past⟩ := by
  rw [yields_linkChildren site sub (site.linking sub s).2 w past,
    yields_linkChildren site sub s w past, site.linking_linking]

/-- A first tick does the same whether its children were linked before or not. -/
lemma exec_start_linking (hs : resolve site = .ok sub) (c : Collaborators σ) (s : Status) (w : σ)
    (past : List (Exchange σ)) :
    exec (start site c) ⟨(site.linking sub s).2, w, past⟩ = exec (start site c) ⟨s, w, past⟩ := by
  unfold start
  rw [hs]
  exact exec_bind_congr _ (exec_linkChildren_linking s w past)

/-- A tick that looks after the body does the same whether its children were linked before or not.
-/
lemma exec_checkStatus_linking (hs : resolve site = .ok sub) (c : Collaborators σ) (s : Status)
    (w : σ) (past : List (Exchange σ)) :
    exec (checkStatus site c) ⟨(site.linking sub s).2, w, past⟩ =
      exec (checkStatus site c) ⟨s, w, past⟩ := by
  unfold checkStatus
  rw [hs]
  exact exec_bind_congr _ (exec_linkChildren_linking s w past)

end Body

namespace WorkflowNode

open Tick

/-- Unless the body has failed, a tick does the same whether its children were linked before or not.
-/
theorem handle_linking {site : TickSite} {sub : SubWorkflow}
    (hnode : ensureWorkflowNode site.node = .ok ()) (hs : Body.resolve site = .ok sub)
    {s : Status} (hcurrent : s.IsCurrent) (hstage : s.own.checkpoint.stage ≠ .failing)
    (c : Collaborators σ) (w : σ) :
    (handle site c).run (site.linking sub s).2 w = (handle site c).run s w := by
  have hlinked := hcurrent.of_own_eq (site.own_linking sub s)
  have hexec : exec (handle site c) ⟨(site.linking sub s).2, w, []⟩ =
      exec (handle site c) ⟨s, w, []⟩ := by
    rw [exec_handle site c hnode, exec_handle site c hnode, Status.renewed_of_isCurrent hlinked,
      Status.renewed_of_isCurrent hcurrent, site.own_linking]
    cases h : s.own.checkpoint.stage with
    | undefined => exact exec_bind_congr _ (Body.exec_start_linking hs c s w [])
    | executing => exact Body.exec_checkStatus_linking hs c s w []
    | failing => exact absurd h hstage
  rw [run_eq_exec, run_eq_exec, hexec]

end WorkflowNode

/-! ### What an error leaves -/

/-- An executor that is called leaves the children as they are. -/
def Call.LeavesChildren : Call → Prop
  | .seed l _ a => l.leftBy a = l.status
  | .drive l _ a => l.leftBy a = l.status
  | .abort l _ _ a => l.leftBy a = l.status
  | _ => True

namespace Body

variable {site : TickSite} {c : Collaborators σ} {s : Status} {w : σ}
  {o : TickOutcome σ Transition} {e : HandlerError}

/-- An error after a pass comes without a copy, and with the status that the pass left. -/
lemma Advances.of_error {sub : SubWorkflow} {p : Pass σ} (h : Advances site c sub p o)
    (he : o.result = .error e) : o.status = p.status ∧
      ∀ x ∈ o.exchanges, ∀ source destination a, x.call ≠ .copy source destination a := by
  cases h with
  | halted _ => exact ⟨rfl, by simp [Pass.exchange]⟩
  | notEnqueued _ _ => exact ⟨rfl, by simp [Pass.exchange]⟩
  | completed _ ho =>
    cases ho with
    | probeFailed _ _ _ => exact ⟨rfl, by simp [TickOutcome.after, Pass.exchange]⟩
    | _ => cases he
  | running _ | failed _ | enqueued _ _ => cases he

/-- A first tick that ends in an error has linked the children, as far as it got, and changed
nothing else except through the executor. -/
lemma Starts.of_error (h : Starts site c s w o) (he : o.result = .error e) :
    ∃ sub, resolve site = .ok sub ∧ o.status.own = s.own ∧
      ((∀ x ∈ o.exchanges, x.call.LeavesChildren) → o.status = (site.linking sub s).2) := by
  cases h with
  | unlinked hs _ => exact ⟨_, hs, site.own_linking _ s, fun _ => rfl⟩
  | @seedHalted sub inputs w' q _ hs _ _ hq _ =>
    subst hq
    refine ⟨sub, hs, site.own_seeded c sub inputs s w', ?_⟩
    intro hleaves
    exact hleaves _ (List.mem_cons_of_mem _ List.mem_cons_self)
  | @advanced sub inputs w' q _ o' hs _ _ hq _ _ ho =>
    obtain ⟨hstatus, -⟩ := ho.of_error he
    have hown : q.status.own = s.own := by
      rw [← hq]
      exact site.own_seeded c sub inputs s w'
    refine ⟨sub, hs, ?_, fun hleaves => ?_⟩
    · exact (congrArg Status.own hstatus).trans ((Pass.own_status _).trans hown)
    · have hpass : (site.pass c sub startNodeId q.status q.world).status = q.status :=
        hleaves _ (List.mem_append_right _ ho.pass_mem)
      have hseed : q.status = (site.linking sub s).2 := by
        subst hq
        exact hleaves _ (List.mem_cons_of_mem _ List.mem_cons_self)
      exact hstatus.trans (hpass.trans hseed)
  | unresolved _ | unread _ _ _ | seedFailed _ _ _ _ _ => cases he

/-- A tick that looks after the body and ends in an error has linked the children, as far as it got,
and changed nothing else except through the executor. -/
lemma Checks.of_error (h : Checks site c s w o) (he : o.result = .error e) :
    ∃ sub, resolve site = .ok sub ∧ o.status.own = s.own ∧
      ((∀ x ∈ o.exchanges, x.call.LeavesChildren) → o.status = (site.linking sub s).2) := by
  cases h with
  | unlinked hs _ => exact ⟨_, hs, site.own_linking _ s, fun _ => rfl⟩
  | @advanced sub o hs _ ho =>
    obtain ⟨hstatus, -⟩ := ho.of_error he
    refine ⟨sub, hs, ?_, fun hleaves => ?_⟩
    · rw [hstatus, Pass.own_status]
      exact site.own_linking sub s
    · have hpass : (site.pass c sub startNodeId (site.linking sub s).2 w).status =
          (site.linking sub s).2 := hleaves _ ho.pass_mem
      exact hstatus.trans hpass
  | unresolved _ => cases he

/-- A tick of a failing body that ends in an error changes nothing except through the executor. -/
lemma Fails.of_error (h : Fails site c s w o) (he : o.result = .error e)
    (hleaves : ∀ x ∈ o.exchanges, x.call.LeavesChildren) : o.status = s := by
  cases h with
  | halted _ _ hp _ | notEnqueued _ _ hp _ _ =>
    subst hp
    exact hleaves _ List.mem_cons_self
  | unresolved _ | withoutFailureNode _ _ | running _ _ _ _ | failed _ _ _ _ | enqueued _ _ _ _ _
  | completed _ _ _ _ => cases he

end Body

/-! ### Ticks -/

/-- A node is a workflow node if it refers to a sub-workflow. -/
lemma WorkflowNode.ensureWorkflowNode_eq_ok_iff {node : Node} :
    ensureWorkflowNode node = .ok () ↔ node.subWorkflowRef? ≠ none := by
  unfold ensureWorkflowNode Node.subWorkflowRef?
  cases node.kind <;> simp

/-- A tick on a status that ended in an error can be tried again as if it had not been. -/
structure Invisible (site : TickSite) (s : Status) (o : TickOutcome σ Transition) : Prop where
  not_copied : ∀ x ∈ o.exchanges, ∀ source destination a, x.call ≠ .copy source destination a
  unrecorded_eq : o.status.own.unrecorded = s.own.unrecorded
  checkpoint_kept : site.node.subWorkflowRef? = none ∨ s.IsCurrent →
    o.status.own.checkpoint = s.own.checkpoint
  checkpoint_replaced : site.node.subWorkflowRef? ≠ none → ¬ s.IsCurrent →
    o.status.own.checkpoint = ⟨.undefined, none, s.own.attempts⟩
  /-- Up to dates, a later tick does the same as on the status before, under any collaborators. -/
  retried : (∀ x ∈ o.exchanges, x.call.LeavesChildren) →
    ∀ {τ : Type} (c : Collaborators τ), c.IgnoresDate → ∀ now w,
      ((WorkflowNode.handle (site.at now) c).run o.status w).undated =
        ((WorkflowNode.handle (site.at now) c).run s w).undated

namespace WorkflowNode

variable {site : TickSite} {c : Collaborators σ} {s : Status} {w : σ}
  {o : TickOutcome σ Transition} {e : HandlerError}

/-- A tick that ends in an error has copied nothing. -/
lemma Handles.not_copied_of_error (h : Handles site c s w o) (he : o.result = .error e) :
    ∀ x ∈ o.exchanges, ∀ source destination a, x.call ≠ .copy source destination a := by
  rcases h.driven_or_withheld with ⟨p, hp⟩ | hwithheld
  · obtain ⟨past, o', hpast, ho', rfl⟩ := hp.followed
    rw [TickOutcome.result_recordingStart] at he
    rw [TickOutcome.exchanges_recordingStart]
    intro x hx source destination a hcall
    rcases List.mem_append.1 hx with hx | hx
    · have hprepares := hpast x hx
      rw [hcall] at hprepares
      cases hprepares
    · exact (ho'.of_error he).2 x hx source destination a hcall
  · exact hwithheld.not_copied

/-- What is left of the status after an error. -/
lemma Handles.of_error (h : Handles site c s w o) (he : o.result = .error e) :
    (site.node.subWorkflowRef? = none ∧ o.status = s) ∨
      ensureWorkflowNode site.node = .ok () ∧ o.status.own = (s.renewed site.now).own ∧
        ((∀ x ∈ o.exchanges, x.call.LeavesChildren) → o.status = s ∨
          ∃ sub, Body.resolve site = .ok sub ∧
            (s.renewed site.now).own.checkpoint.stage ≠ .failing ∧
              o.status = (site.linking sub (s.renewed site.now)).2) := by
  cases h with
  | refused hnode =>
    refine .inl ⟨?_, rfl⟩
    by_contra hworkflow
    cases hnode.symm.trans (ensureWorkflowNode_eq_ok_iff.2 hworkflow)
  | started hnode hstage ho =>
    rw [TickOutcome.result_recordingStart] at he
    have hrunning : ∀ o : TickOutcome σ Transition, o.result = .error e → o.result ≠ .ok .running :=
      fun o he hrun => by cases he.symm.trans hrun
    rw [TickOutcome.recordingStart_of_ne_running (hrunning _ he)]
    obtain ⟨sub, hs, hown, hstatus⟩ := ho.of_error he
    refine .inr ⟨hnode, hown, fun hleaves => .inr ⟨sub, hs, ?_, hstatus hleaves⟩⟩
    rw [hstage]
    decide
  | checked hnode hstage ho =>
    obtain ⟨sub, hs, hown, hstatus⟩ := ho.of_error he
    refine .inr ⟨hnode, hown, fun hleaves => .inr ⟨sub, hs, ?_, hstatus hleaves⟩⟩
    rw [hstage]
    decide
  | failed hnode hstage ho =>
    refine .inr ⟨hnode, ho.own_eq, fun hleaves => .inl ?_⟩
    rw [Status.renewed_of_isCurrent (Status.isCurrent_of_failing hstage)] at ho
    exact ho.of_error he hleaves

/-- Replacing an outdated checkpoint earlier than needed makes a difference in the date only. -/
lemma undated_renewed_renewed (s : Status) (now later : Instant) :
    ((s.renewed now).renewed later).undated = (s.renewed later).undated := by
  rw [Status.renewed_of_isCurrent (s.isCurrent_renewed now)]
  by_cases hcurrent : s.IsCurrent
  · rw [Status.renewed_of_isCurrent hcurrent, Status.renewed_of_isCurrent hcurrent]
  · rw [Status.renewed_of_not_isCurrent hcurrent, Status.renewed_of_not_isCurrent hcurrent]
    exact Status.undated_setCheckpoint rfl _ now later

/-- After a tick that linked the children and left it at that, the next one goes as without it. -/
lemma undated_handle_linking {τ : Type} {c : Collaborators τ} (hc : c.IgnoresDate)
    (hnode : ensureWorkflowNode site.node = .ok ()) {sub : SubWorkflow}
    (hs : Body.resolve site = .ok sub)
    (hstage : (s.renewed site.now).own.checkpoint.stage ≠ .failing) (now : Instant) (w : τ) :
    ((handle (site.at now) c).run (site.linking sub (s.renewed site.now)).2 w).undated =
      ((handle (site.at now) c).run s w).undated := by
  have hnode' : ensureWorkflowNode (site.at now).node = .ok () := hnode
  have hs' : Body.resolve (site.at now) = .ok sub := hs
  have hrenewed : ((s.renewed site.now).renewed (site.at now).now).undated =
      (s.renewed now).undated := undated_renewed_renewed s site.now now
  have hlinking := handle_linking hnode' hs' (s.isCurrent_renewed site.now) hstage c w
  exact (congrArg TickOutcome.undated hlinking).trans (undated_handle hc hnode' now w hrenewed)

/-- A tick that ends in an error is invisible to the retry. -/
theorem handle_error_invisible {site : TickSite} {c : Collaborators σ} {s : Status} {w : σ}
    {e : HandlerError} (he : ((handle site c).run s w).result = .error e) :
    Invisible site s ((handle site c).run s w) := by
  have h := handles_run site c s w
  have hcopies := h.not_copied_of_error he
  rcases h.of_error he with ⟨hnode, hstatus⟩ | ⟨hnode, hown, hstatus⟩
  · refine ⟨hcopies, h.unrecorded_own, fun _ => by rw [hstatus], fun hworkflow => ?_, ?_⟩
    · exact absurd hnode hworkflow
    · intro _ τ c' _ now w'
      rw [hstatus]
  · have hworkflow := ensureWorkflowNode_eq_ok_iff.1 hnode
    refine ⟨hcopies, h.unrecorded_own, fun hcurrent => ?_, fun _ hcurrent => ?_, ?_⟩
    · rw [hown, Status.renewed_of_isCurrent (hcurrent.resolve_left hworkflow)]
    · rw [hown, Status.renewed_of_not_isCurrent hcurrent]
      rfl
    · intro hleaves τ c' hc' now w'
      rcases hstatus hleaves with heq | ⟨sub, hs, hstage, heq⟩
      · rw [heq]
      · rw [heq]
        exact undated_handle_linking hc' hnode hs hstage now w'

end WorkflowNode

namespace Sample

/-- The status of the sample with an end node that has lost the place of its data. -/
def corrupted : Status := status.withChild endNodeId (Status.new Reference.empty)

/-- A tick on it, which links the start node and then breaks off. -/
def corruptedTick : TickOutcome Unit Transition := (WorkflowNode.handle site idle).run corrupted ()

/-- The executor of the sample does not look at anything. -/
lemma idle_ignoresDate : (idle : Collaborators Unit).IgnoresDate :=
  ⟨fun _ _ _ _ => rfl, fun _ _ _ _ => rfl⟩

/-- The retry goes as if the tick that broke off had not been. -/
theorem corruptedTick_invisible :
    corruptedTick.result = .error (.lookup (.status (.corrupted endNodeId))) ∧
      (corruptedTick.status.child? startNodeId).isSome ∧ (corrupted.child? startNodeId) = none ∧
        ((WorkflowNode.handle site idle).run corruptedTick.status ()).undated =
          ((WorkflowNode.handle site (idle : Collaborators Unit)).run corrupted ()).undated := by
  have hresult : corruptedTick.result = .error (.lookup (.status (.corrupted endNodeId))) := rfl
  have hinvisible : Invisible site corrupted corruptedTick :=
    WorkflowNode.handle_error_invisible hresult
  have hexchanges : corruptedTick.exchanges = [] := rfl
  refine ⟨hresult, rfl, rfl, hinvisible.retried ?_ idle idle_ignoresDate site.now ()⟩
  rw [hexchanges]
  simp

end Sample

end NestedWorkflow
