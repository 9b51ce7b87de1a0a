import NestedWorkflow.Proofs.Tick.History
import NestedWorkflow.Proofs.Tick.Undated

/-!
# A new attempt knows nothing of the one before

The checkpoint of an earlier attempt stays on the status until the first tick of the next one.  That
tick must not let any of it through: neither the stage, which decides how the tick is spent, nor the
error, which the node would fail with.

This is a statement about two ticks.  Take two statuses that differ in their checkpoints and dates
only (`Status.unrecorded`), where nothing was recorded in the current attempt
(`Status.IsUnstarted`).  Replacing the outdated checkpoint makes them equal up to dates before
anything else looks at them, so the ticks on them do the same up to dates
(`WorkflowNode.handle_forgets`).

What this means for errors can also be said of one tick.  An error that the tick reports, or leaves
in the checkpoint, comes from the tick itself: from one of its calls, or from the node, whose
sub-workflow or end node is missing (`Raised`).
-/

namespace NestedWorkflow

variable {σ : Type}

/-! ### Statuses without a record of the attempt -/

namespace Status

/-- The status without what a tick writes into it.  The children stay as they are. -/
def unrecorded (s : Status) : Status := s.modifyOwn Progress.unrecorded

/-- Nothing was recorded in the current attempt: the checkpoint is one of another attempt, or it
says nothing. -/
def IsUnstarted (s : Status) : Prop :=
  s.own.checkpoint.attempt ≠ s.own.attempts ∨
    s.own.checkpoint = ⟨.undefined, none, s.own.attempts⟩

variable {s t : Status}

/-- Where nothing was recorded, nothing counts. -/
lemma IsUnstarted.effectiveCheckpoint_eq (h : s.IsUnstarted) :
    s.effectiveCheckpoint = ⟨.undefined, none, s.own.attempts⟩ := by
  rcases h with hother | hnothing
  · exact effectiveCheckpoint_of_not_isCurrent hother
  · have hcurrent : s.IsCurrent := congrArg Checkpoint.attempt hnothing
    rw [effectiveCheckpoint_of_isCurrent hcurrent]
    exact hnothing

/-- The checkpoint is all that can tell statuses apart that agree without it, dates left aside. -/
lemma undated_eq_of_unrecorded_eq (h : s.unrecorded = t.unrecorded)
    (hcheckpoint : s.own.checkpoint = t.own.checkpoint) : s.undated = t.undated := by
  have hown : s.own.unrecorded = t.own.unrecorded := congrArg own h
  have hput : ∀ p : Progress, p.undated = { p.unrecorded with checkpoint := p.checkpoint } :=
    fun _ => rfl
  refine Status.ext ?_ fun id => ?_
  · change s.own.undated = t.own.undated
    rw [hput, hput, hown, hcheckpoint]
  · have hchild := congrArg (fun u => u.child? id) h
    simpa [unrecorded] using hchild

/-- A checkpoint is a record of a tick. -/
lemma unrecorded_setCheckpoint (s : Status) (checkpoint : Checkpoint) (now : Instant) :
    (s.setCheckpoint checkpoint now).unrecorded = s.unrecorded :=
  Status.ext rfl fun id => by simp [unrecorded]

/-- Replacing an outdated checkpoint is a record of a tick. -/
lemma unrecorded_renewed_eq (s : Status) (now : Instant) :
    (s.renewed now).unrecorded = s.unrecorded := by
  by_cases h : s.IsCurrent
  · rw [renewed_of_isCurrent h]
  · rw [renewed_of_not_isCurrent h, unrecorded_setCheckpoint]

/-- Once outdated checkpoints are replaced, the records of other attempts make no difference. -/
lemma undated_renewed_eq (h : s.unrecorded = t.unrecorded) (hs : s.IsUnstarted)
    (ht : t.IsUnstarted) (now later : Instant) :
    (s.renewed now).undated = (t.renewed later).undated := by
  have hown : s.own.unrecorded = t.own.unrecorded := congrArg own h
  have hattempts := Progress.attempts_eq_of_unrecorded_eq hown
  refine undated_eq_of_unrecorded_eq ?_ ?_
  · rw [unrecorded_renewed_eq, unrecorded_renewed_eq, h]
  · rw [checkpoint_renewed, checkpoint_renewed, hs.effectiveCheckpoint_eq,
      ht.effectiveCheckpoint_eq, hattempts]

end Status

/-! ### Errors of a tick -/

/-- The error that a transition carries. -/
def Transition.error? : Transition → Option ExecutionError
  | .failing error => some error
  | .failed error => some error
  | _ => none

/-- The error that a tick reports: the one of its transition, if it came to one. -/
def TickOutcome.error? (o : TickOutcome σ Transition) : Option ExecutionError :=
  match o.result with
  | .ok t => t.error?
  | .error _ => none

/-- A tick with these exchanges brings up this error by itself. -/
inductive Raised (site : TickSite) (exchanges : List (Exchange σ)) : ExecutionError → Prop
  | unresolved {e : HandlerError} (hs : Body.resolve site = .error e) :
      Raised site exchanges (.system ExecutionError.subWorkflowCode e.message)
  | unread {e : InputError} {w : σ} (hmem : ⟨.readInputs (.error e), w⟩ ∈ exchanges) :
      Raised site exchanges
        (.system ExecutionError.runtimeCode ("failed to read input: " ++ e.report))
  | notSeeded {q : Seeding σ} {error : Option ExecutionError} (hmem : q.exchange ∈ exchanges)
      (h : q.answer.result = .ok (.failed error)) :
      Raised site exchanges (Body.reportedError error)
  | graphFailed {p : Pass σ} {error : Option ExecutionError} (hmem : p.exchange ∈ exchanges)
      (h : p.answer.result = .ok (.failed error)) :
      Raised site exchanges (Body.reportedError error)
  | noEndNode {sub : SubWorkflow} {p : Pass σ} (hs : Body.resolve site = .ok sub)
      (hmem : p.exchange ∈ exchanges) (hnone : Body.outputSource? site sub p.status = none) :
      Raised site exchanges
        (.system ExecutionError.subWorkflowCode "no end node found in subworkflow")
  | absent {source : Reference} {found : Metadata} {w : σ}
      (hmem : ⟨.head source (.ok found), w⟩ ∈ exchanges) (hfound : found.exists? = false) :
      Raised site exchanges
        (.system ExecutionError.subWorkflowCode
          ("subworkflow is expected to produce outputs but no outputs file was written to " ++
            source.path))
  | notCopied {source destination : Reference} {e : StorageError} {w : σ}
      (hmem : ⟨.copy source destination (.error e), w⟩ ∈ exchanges) :
      Raised site exchanges
        (.system ExecutionError.subWorkflowCode
          ("failed to copy subworkflow outputs from [" ++ source.path ++ "] to [" ++
            destination.path ++ "]"))

/-- More exchanges do not take an error back. -/
lemma Raised.mono {site : TickSite} {xs ys : List (Exchange σ)} {error : ExecutionError}
    (h : Raised site xs error) (hsub : xs ⊆ ys) : Raised site ys error := by
  cases h with
  | unresolved hs => exact .unresolved hs
  | unread hmem => exact .unread (hsub hmem)
  | notSeeded hmem hr => exact .notSeeded (hsub hmem) hr
  | graphFailed hmem hr => exact .graphFailed (hsub hmem) hr
  | noEndNode hs hmem hnone => exact .noEndNode hs (hsub hmem) hnone
  | absent hmem hfound => exact .absent (hsub hmem) hfound
  | notCopied hmem => exact .notCopied (hsub hmem)

namespace Body

variable {site : TickSite} {c : Collaborators σ} {s : Status} {w : σ}
  {o : TickOutcome σ Transition} {error : ExecutionError}

/-- Errors while outputs are propagated say what is missing. -/
lemma Propagates.raised {sub : SubWorkflow} {p : Pass σ}
    (h : Propagates site c sub p.status p.world o) (hs : resolve site = .ok sub)
    (he : o.error? = some error) : Raised site (p.exchange :: o.exchanges) error := by
  cases h with
  | noEndNode _ hnone =>
    cases Option.some.inj he
    exact .noEndNode hs List.mem_cons_self hnone
  | absent _ _ _ hfound =>
    cases Option.some.inj he
    exact .absent (List.mem_cons_of_mem _ List.mem_cons_self) hfound
  | copyFailed _ _ _ _ _ =>
    cases Option.some.inj he
    exact .notCopied (List.mem_cons_of_mem _ (List.mem_cons_of_mem _ List.mem_cons_self))
  | undeclared _ | probeFailed _ _ _ | copied _ _ _ _ _ => cases he

/-- The transition for a failed graph carries the error of the graph. -/
lemma error?_graphFailure (sub : SubWorkflow) (error : ExecutionError) :
    (graphFailure sub error).error? = some error := by
  unfold graphFailure
  split <;> rfl

/-- Errors after a pass are reported by it, or say that its outputs are missing. -/
lemma Advances.raised {sub : SubWorkflow} {p : Pass σ} (h : Advances site c sub p o)
    (hs : resolve site = .ok sub) (he : o.error? = some error) :
    Raised site o.exchanges error := by
  cases h with
  | failed hr =>
    have hreported := error?_graphFailure sub
    cases Option.some.inj ((hreported _).symm.trans he)
    exact .graphFailed List.mem_cons_self hr
  | completed _ ho => exact ho.raised hs he
  | halted _ | running _ | enqueued _ _ | notEnqueued _ _ => cases he

/-- Errors of a first tick come from its calls, or from a node without a sub-workflow. -/
lemma Starts.raised (h : Starts site c s w o) (he : o.error? = some error) :
    Raised site o.exchanges error := by
  cases h with
  | unresolved hs =>
    cases Option.some.inj he
    exact .unresolved hs
  | unread _ _ _ =>
    cases Option.some.inj he
    exact .unread List.mem_cons_self
  | seedFailed _ _ _ _ hr =>
    cases Option.some.inj he
    exact .notSeeded (List.mem_cons_of_mem _ List.mem_cons_self) hr
  | advanced hs _ _ _ _ _ ho =>
    have hraised := ho.raised hs he
    exact hraised.mono (List.subset_append_right _ _)
  | unlinked _ _ | seedHalted _ _ _ _ _ => cases he

end Body

namespace WorkflowNode

variable {site : TickSite} {c : Collaborators σ} {s : Status} {w : σ}
  {o : TickOutcome σ Transition} {error : ExecutionError}

/-- Where nothing was recorded, a tick of a workflow node starts the body. -/
lemma Handles.starts_of_isUnstarted (h : Handles site c s w o)
    (hnode : ensureWorkflowNode site.node = .ok ()) (hs : s.IsUnstarted) :
    ∃ o', Body.Starts site c (s.renewed site.now) w o' ∧ o = o'.recordingStart site.now := by
  have hundefined : (s.renewed site.now).own.checkpoint.stage = .undefined := by
    rw [s.checkpoint_renewed, hs.effectiveCheckpoint_eq]
  cases h with
  | refused hrefused => cases hnode.symm.trans hrefused
  | started _ _ ho => exact ⟨_, ho, rfl⟩
  | checked _ hstage _ | failed _ hstage _ => cases hundefined.symm.trans hstage

/-- Where nothing was recorded, the error that a tick reports is its own. -/
lemma Handles.raised_of_reported (h : Handles site c s w o)
    (hnode : ensureWorkflowNode site.node = .ok ()) (hs : s.IsUnstarted)
    (he : o.error? = some error) : Raised site o.exchanges error := by
  obtain ⟨o', ho', rfl⟩ := h.starts_of_isUnstarted hnode hs
  have hsame : (o'.recordingStart site.now).error? = o'.error? := by
    unfold TickOutcome.error?
    rw [TickOutcome.result_recordingStart]
  rw [TickOutcome.exchanges_recordingStart]
  exact ho'.raised (hsame.symm.trans he)

/-- Where nothing was recorded, the error that a tick records is its own. -/
lemma Handles.raised_of_recorded (h : Handles site c s w o)
    (hnode : ensureWorkflowNode site.node = .ok ()) (hs : s.IsUnstarted)
    (he : o.status.own.checkpoint.error = some error) : Raised site o.exchanges error := by
  have hcurrent : o.status.IsCurrent := by
    obtain ⟨o', ho', rfl⟩ := h.starts_of_isUnstarted hnode hs
    have hrenewed := s.isCurrent_renewed site.now
    exact TickOutcome.isCurrent_recordingStart (ho'.isCurrent hrenewed) _
  have hnothing : s.Tells ([] : List (Step σ)) := .of_nil hs.effectiveCheckpoint_eq
  have htells := h.tells hnothing
  rw [← Status.effectiveCheckpoint_of_isCurrent hcurrent] at he
  -- The tick is the whole story of the attempt, so a failure in it is one of this tick.
  cases htells with
  | nothing _ _ hcheckpoint | running _ _ _ hcheckpoint =>
    rw [hcheckpoint] at he
    cases he
  | failed hx hfailed _ hfails =>
    rw [Status.failsWith_iff.1 hfails] at he
    cases Option.some.inj he
    obtain ⟨p, reported, hp, -, hresult, rfl⟩ := hfailed
    rw [List.mem_singleton.1 hx] at hp
    exact .graphFailed hp hresult

/-- The tick of a workflow node in whose attempt nothing was recorded does not depend on the records
of other attempts: on statuses that differ only in them it has the same result, makes the same calls
and leaves the same status, all up to dates.  The errors that it reports and records are its own. -/
theorem handle_forgets {site : TickSite} {c : Collaborators σ} (hc : c.IgnoresDate)
    {ref : SubWorkflowId} (hnode : site.node.kind = .workflow ref) {s t : Status}
    (h : s.unrecorded = t.unrecorded) (hs : s.IsUnstarted) (ht : t.IsUnstarted)
    (later : Instant) (w : σ) :
    ((handle site c).run s w).undated = ((handle (site.at later) c).run t w).undated ∧
      ∀ error, ((handle site c).run s w).error? = some error ∨
          ((handle site c).run s w).status.own.checkpoint.error = some error →
        Raised site ((handle site c).run s w).exchanges error := by
  have hensure : ensureWorkflowNode site.node = .ok () := by
    unfold ensureWorkflowNode
    rw [hnode]
  have hhandles := handles_run site c s w
  have hrenewed := Status.undated_renewed_eq h hs ht site.now later
  refine ⟨undated_handle hc hensure later w hrenewed, ?_⟩
  rintro error (hreported | hrecorded)
  · exact hhandles.raised_of_reported hensure hs hreported
  · exact hhandles.raised_of_recorded hensure hs hrecorded

end WorkflowNode

namespace Sample

/-- The status of the sample after its graph failed and the node was tried once more. -/
def relapsed : Status := brokenTick.status.incrementAttempts?.getD brokenTick.status

/-- The same status with nothing recorded. -/
def recovered : Status := relapsed.setCheckpoint ⟨.undefined, none, 1⟩ site.now

/-- Collaborators under which the graph fails without an error. -/
def silent : Collaborators Unit := reporting (.failed none) .complete

/-- The tick of the second attempt. -/
def relapsedTick : TickOutcome Unit Transition := (WorkflowNode.handle site silent).run relapsed ()

/-- The graph fails in both attempts, and the error of the first one does not come back. -/
theorem relapsedTick_forgets :
    relapsed.own.checkpoint = ⟨.failing, some broken, 0⟩ ∧
      relapsedTick.result = .ok (.failing (Body.reportedError none)) ∧
      relapsedTick.undated = ((WorkflowNode.handle site silent).run recovered ()).undated ∧
      Raised site relapsedTick.exchanges (Body.reportedError none) := by
  have hignores : silent.IgnoresDate := ⟨fun _ _ _ _ => rfl, fun _ _ _ _ => rfl⟩
  have hnode : site.node.kind = .workflow "body" := rfl
  have hsame : relapsed.unrecorded = recovered.unrecorded :=
    (Status.unrecorded_setCheckpoint relapsed _ _).symm
  have hrelapsed : relapsed.IsUnstarted := .inl (by decide)
  have hrecovered : recovered.IsUnstarted := .inr rfl
  obtain ⟨hagree, hraised⟩ :=
    WorkflowNode.handle_forgets hignores hnode hsame hrelapsed hrecovered site.now ()
  exact ⟨rfl, rfl, hagree, hraised _ (.inl rfl)⟩

end Sample

end NestedWorkflow
