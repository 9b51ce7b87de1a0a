import NestedWorkflow.Proofs.Lookup.Linking
import NestedWorkflow.Proofs.Tick.Run

/-!
# What a tick leaves alone

A tick writes down how far the body got, in the checkpoint, and when it did.  Everything else that
the enclosing status says of its own node is out of reach for it
(`WorkflowNode.Handles.unrecorded_own`), and an abort does not touch any of it
(`WorkflowNode.Aborts.own_eq`).  What a tick writes down belongs to the current attempt
(`WorkflowNode.Handles.isCurrent`).
-/

namespace NestedWorkflow

variable {σ : Type}

/-- The progress without what a tick writes into it: the checkpoint and the time of the last change.
-/
def Progress.unrecorded (p : Progress) : Progress :=
  { p with checkpoint := Checkpoint.initial, updatedAt := none }

namespace Progress

variable {p q : Progress}

/-- A tick does not write into the number of attempts. -/
lemma attempts_eq_of_unrecorded_eq (h : p.unrecorded = q.unrecorded) : p.attempts = q.attempts := by
  have hattempts := congrArg attempts h
  exact hattempts

/-- A tick does not write into the unique identifier. -/
lemma uniqueId_eq_of_unrecorded_eq (h : p.unrecorded = q.unrecorded) : p.uniqueId = q.uniqueId := by
  have hid := congrArg uniqueId h
  exact hid

/-- A tick does not write into the place of the outputs. -/
lemma outputDir_eq_of_unrecorded_eq (h : p.unrecorded = q.unrecorded) :
    p.outputDir = q.outputDir := by
  have hdir := congrArg outputDir h
  exact hdir

end Progress

namespace Status

/-- A new checkpoint changes nothing but the checkpoint and the time of the last change. -/
lemma own_setCheckpoint (s : Status) (checkpoint : Checkpoint) (now : Instant) :
    (s.setCheckpoint checkpoint now).own =
      { s.own with checkpoint := checkpoint, updatedAt := some now } := rfl

@[simp] lemma child?_setCheckpoint (s : Status) (checkpoint : Checkpoint) (now : Instant)
    (id : NodeId) : (s.setCheckpoint checkpoint now).child? id = s.child? id :=
  s.child?_modifyOwn _ id

@[simp] lemma unrecorded_renewed (s : Status) (now : Instant) :
    (s.renewed now).own.unrecorded = s.own.unrecorded := by
  unfold renewed
  split <;> rfl

/-- The checkpoint is one of the current attempt. -/
def IsCurrent (s : Status) : Prop := s.own.checkpoint.attempt = s.own.attempts

/-- Whether a checkpoint is current does not depend on the children. -/
lemma IsCurrent.of_own_eq {s t : Status} (h : s.IsCurrent) (hown : t.own = s.own) :
    t.IsCurrent := by
  unfold IsCurrent
  rw [hown]
  exact h

/-- A checkpoint of the current attempt stays. -/
lemma renewed_of_isCurrent {s : Status} (h : s.IsCurrent) (now : Instant) : s.renewed now = s :=
  if_pos h

/-- A checkpoint of another attempt is replaced. -/
lemma renewed_of_not_isCurrent {s : Status} (h : ¬ s.IsCurrent) (now : Instant) :
    s.renewed now = s.setCheckpoint ⟨.undefined, none, s.own.attempts⟩ now :=
  if_neg h

/-- After the replacement the checkpoint is one of the current attempt. -/
lemma isCurrent_renewed (s : Status) (now : Instant) : (s.renewed now).IsCurrent := by
  by_cases h : s.IsCurrent
  · rw [renewed_of_isCurrent h now]
    exact h
  · rw [renewed_of_not_isCurrent h]
    rfl

/-- Only a checkpoint that was one of the current attempt already can say that the body failed. -/
lemma isCurrent_of_failing {s : Status} {now : Instant}
    (h : (s.renewed now).own.checkpoint.stage = .failing) : s.IsCurrent := by
  by_contra hcurrent
  rw [renewed_of_not_isCurrent hcurrent] at h
  cases h

end Status

@[simp] lemma Pass.own_status (p : Pass σ) : p.status.own = p.lookup.status.own :=
  p.lookup.own_leftBy p.answer

@[simp] lemma Seeding.own_status (q : Seeding σ) : q.status.own = q.lookup.status.own :=
  q.lookup.own_leftBy q.answer

@[simp] lemma TickSite.own_linking (site : TickSite) (sub : SubWorkflow) (s : Status) :
    (site.linking sub s).2.own = s.own :=
  Lookup.own_link sub _ _ s

/-- Linking and seeding leave the progress of the enclosing node as it is. -/
lemma TickSite.own_seeded (site : TickSite) (c : Collaborators σ) (sub : SubWorkflow)
    (inputs : LiteralMap) (s : Status) (w : σ) :
    (site.seeding c sub inputs (site.linking sub s).2 w).status.own = s.own :=
  (Seeding.own_status _).trans (site.own_linking sub s)

/-- Noting the start writes into the checkpoint only. -/
@[simp] lemma TickOutcome.unrecorded_recordingStart (o : TickOutcome σ Transition)
    (now : Instant) : (o.recordingStart now).status.own.unrecorded = o.status.own.unrecorded := by
  unfold recordingStart
  split
  · split <;> rfl
  · rfl

/-- A note of the start is one of the current attempt. -/
lemma TickOutcome.isCurrent_recordingStart {o : TickOutcome σ Transition}
    (h : o.status.IsCurrent) (now : Instant) : (o.recordingStart now).status.IsCurrent := by
  unfold recordingStart
  split
  · split
    · rfl
    · exact h
  · exact h

/-! ### Ticks of the body -/

namespace Body

variable {site : TickSite} {c : Collaborators σ} {s : Status} {w : σ}
  {o : TickOutcome σ Transition}

/-- Propagating outputs does not touch the status. -/
lemma Propagates.status_eq {sub : SubWorkflow} (h : Propagates site c sub s w o) :
    o.status = s := by
  cases h <;> rfl

lemma Advances.unrecorded_own {sub : SubWorkflow} {p : Pass σ} (h : Advances site c sub p o) :
    o.status.own.unrecorded = p.lookup.status.own.unrecorded := by
  rw [← p.own_status]
  cases h with
  | failed _ => rfl
  | completed _ ho =>
    have hstatus := ho.status_eq
    exact congrArg (fun s => s.own.unrecorded) hstatus
  | _ => rfl

lemma Advances.isCurrent {sub : SubWorkflow} {p : Pass σ} (h : Advances site c sub p o)
    (hp : p.lookup.status.IsCurrent) : o.status.IsCurrent := by
  have hstatus : p.status.IsCurrent := hp.of_own_eq p.own_status
  cases h with
  | failed _ => rfl
  | completed _ ho =>
    have heq := ho.status_eq
    exact heq ▸ hstatus
  | _ => exact hstatus

lemma Starts.unrecorded_own (h : Starts site c s w o) :
    o.status.own.unrecorded = s.own.unrecorded := by
  cases h with
  | unresolved _ => rfl
  | unlinked _ _ | unread _ _ _ => rw [site.own_linking]
  | seedHalted _ _ _ hq _ | seedFailed _ _ _ hq _ =>
    subst hq
    exact congrArg Progress.unrecorded (site.own_seeded c _ _ s _)
  | advanced _ _ _ hq _ _ ho =>
    subst hq
    exact ho.unrecorded_own.trans (congrArg Progress.unrecorded (site.own_seeded c _ _ s _))

lemma Checks.unrecorded_own (h : Checks site c s w o) :
    o.status.own.unrecorded = s.own.unrecorded := by
  cases h with
  | unresolved _ => rfl
  | unlinked _ _ => rw [site.own_linking]
  | advanced _ _ ho =>
    refine ho.unrecorded_own.trans ?_
    exact congrArg Progress.unrecorded (site.own_linking _ s)

lemma Starts.isCurrent (h : Starts site c s w o) (hs : s.IsCurrent) : o.status.IsCurrent := by
  have hlinking := fun sub => hs.of_own_eq (site.own_linking sub s)
  have hseeding := fun sub inputs w' => hs.of_own_eq (site.own_seeded c sub inputs s w')
  cases h with
  | unresolved _ => exact hs
  | unlinked _ _ => exact hlinking _
  | unread _ _ _ => exact hlinking _
  | seedHalted _ _ _ hq _ | seedFailed _ _ _ hq _ => exact hq ▸ hseeding _ _ _
  | advanced _ _ _ hq _ _ ho => exact ho.isCurrent (hq ▸ hseeding _ _ _)

lemma Checks.isCurrent (h : Checks site c s w o) (hs : s.IsCurrent) : o.status.IsCurrent := by
  have hlinking := fun sub => hs.of_own_eq (site.own_linking sub s)
  cases h with
  | unresolved _ => exact hs
  | unlinked _ _ => exact hlinking _
  | advanced _ _ ho => exact ho.isCurrent (hlinking _)

/-- After the body has failed, nothing that the status says of its own node changes any more. -/
lemma Fails.own_eq (h : Fails site c s w o) : o.status.own = s.own := by
  cases h with
  | unresolved _ => rfl
  | withoutFailureNode _ _ => rfl
  | _ _ _ hp =>
    subst hp
    exact Pass.own_status _

end Body

/-! ### Ticks and aborts of a node -/

namespace WorkflowNode

variable {site : TickSite} {c : Collaborators σ} {s : Status} {w : σ}

/-- A tick changes nothing but the checkpoint and the time of the last change. -/
theorem Handles.unrecorded_own {o : TickOutcome σ Transition} (h : Handles site c s w o) :
    o.status.own.unrecorded = s.own.unrecorded := by
  cases h with
  | refused _ => rfl
  | started _ _ ho =>
    rw [TickOutcome.unrecorded_recordingStart, ho.unrecorded_own, Status.unrecorded_renewed]
  | checked _ _ ho => rw [ho.unrecorded_own, Status.unrecorded_renewed]
  | failed _ _ ho => rw [ho.own_eq, Status.unrecorded_renewed]

/-- An abort changes nothing that the status says of its own node. -/
theorem Aborts.own_eq {reason : String} {o : TickOutcome σ Unit}
    (h : Aborts site c reason s w o) : o.status.own = s.own := by
  cases h with
  | refused _ => rfl
  | unresolved _ _ => rfl
  | settled _ _ _ => exact Lookup.own_leftBy _ _

/-- A tick that is not refused leaves a checkpoint of the current attempt. -/
theorem Handles.isCurrent {o : TickOutcome σ Transition} (h : Handles site c s w o) :
    (∃ e, o = ⟨.error e, s, w, []⟩) ∨ o.status.IsCurrent := by
  have hrenewed := s.isCurrent_renewed site.now
  cases h with
  | refused _ => exact .inl ⟨_, rfl⟩
  | started _ _ ho => exact .inr (TickOutcome.isCurrent_recordingStart (ho.isCurrent hrenewed) _)
  | checked _ _ ho => exact .inr (ho.isCurrent hrenewed)
  | failed _ _ ho => exact .inr (hrenewed.of_own_eq ho.own_eq)

end WorkflowNode

end NestedWorkflow
