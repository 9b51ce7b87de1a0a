import Mathlib.Data.List.DropRight
import NestedWorkflow.Proofs.Tick.FailureMasking

/-!
# The checkpoint tells the history of the attempt

A checkpoint is written in three places: when an outdated one is replaced, when the body is noted to
execute, and when the graph fails.  What it says can nevertheless be told without looking at any of
them, from what happened since the node was last tried anew: a pass from the start node failed, or
none failed but a tick left the node running, or neither (`Run.checkpoint_told`).

The checkpoint on a status may be one of an earlier attempt, which counts for nothing.  The laws are
about the one that counts (`Status.effectiveCheckpoint`).  Ticks that are refused, that end in an
error, or that come after an abort are steps like any others, so the proof is an induction on the
run with one case for each thing that can have happened so far (`Status.Tells`).  The attempt itself
is counted by the retries of the run (`Run.attempts_eq_add`), never past the last
(`Run.attempts_le`).
-/

namespace NestedWorkflow

variable {σ : Type}

/-! ### The checkpoint that counts -/

namespace Status

/-- The checkpoint that counts in the current attempt: one of another attempt counts for nothing. -/
def effectiveCheckpoint (s : Status) : Checkpoint :=
  if s.own.checkpoint.attempt = s.own.attempts then s.own.checkpoint
  else ⟨.undefined, none, s.own.attempts⟩

variable {s t : Status}

/-- A checkpoint of the current attempt counts as it is. -/
lemma effectiveCheckpoint_of_isCurrent (h : s.IsCurrent) :
    s.effectiveCheckpoint = s.own.checkpoint := if_pos h

/-- A checkpoint of another attempt counts for nothing. -/
lemma effectiveCheckpoint_of_not_isCurrent (h : ¬ s.IsCurrent) :
    s.effectiveCheckpoint = ⟨.undefined, none, s.own.attempts⟩ := if_neg h

/-- What counts does not depend on the children. -/
lemma effectiveCheckpoint_congr (h : t.own = s.own) :
    t.effectiveCheckpoint = s.effectiveCheckpoint := by
  unfold effectiveCheckpoint
  rw [h]

/-- At the start of a tick the checkpoint that counts is put in place. -/
lemma checkpoint_renewed (s : Status) (now : Instant) :
    (s.renewed now).own.checkpoint = s.effectiveCheckpoint := by
  by_cases h : s.IsCurrent
  · rw [renewed_of_isCurrent h, effectiveCheckpoint_of_isCurrent h]
  · rw [renewed_of_not_isCurrent h, effectiveCheckpoint_of_not_isCurrent h]
    rfl

/-- Putting it in place does not change what counts. -/
lemma effectiveCheckpoint_renewed (s : Status) (now : Instant) :
    (s.renewed now).effectiveCheckpoint = s.effectiveCheckpoint := by
  have hcurrent := s.isCurrent_renewed now
  rw [effectiveCheckpoint_of_isCurrent hcurrent, checkpoint_renewed]

/-- A node that fails has the error in the checkpoint that counts. -/
lemma failsWith_iff {error : ExecutionError} :
    s.FailsWith error ↔ s.effectiveCheckpoint = ⟨.failing, some error, s.own.attempts⟩ := by
  constructor
  · intro h
    have hcurrent : s.IsCurrent := congrArg Checkpoint.attempt h
    rw [effectiveCheckpoint_of_isCurrent hcurrent]
    exact h
  · intro h
    by_cases hcurrent : s.IsCurrent
    · rw [effectiveCheckpoint_of_isCurrent hcurrent] at h
      exact h
    · rw [effectiveCheckpoint_of_not_isCurrent hcurrent] at h
      cases h

/-- Nothing counts yet in a new attempt, unless a checkpoint was ahead of its time. -/
lemma effectiveCheckpoint_incrementAttempts (hcount : s.incrementAttempts? = some t)
    (h : s.own.checkpoint.attempt ≤ s.own.attempts) :
    t.effectiveCheckpoint = ⟨.undefined, none, t.own.attempts⟩ := by
  refine effectiveCheckpoint_of_not_isCurrent ?_
  have hlt : s.own.checkpoint.attempt < s.own.attempts + 1 := Nat.lt_succ_of_le h
  rw [(incrementAttempts?_eq_some_iff.1 hcount).2]
  exact Nat.ne_of_lt hlt

end Status

/-! ### What happened in an attempt -/

/-- The steps since the node was last tried anew. -/
def currentAttempt (steps : List (Step σ)) : List (Step σ) := steps.rtakeWhile fun x => !x.isRetry

/-- A retry begins an attempt in which nothing happened yet. -/
lemma currentAttempt_concat_of_retry (past : List (Step σ)) {x : Step σ} (h : x.isRetry = true) :
    currentAttempt (past ++ [x]) = [] :=
  List.rtakeWhile_concat_neg _ _ x (by simp [h])

/-- A step that is no retry adds to the attempt. -/
lemma currentAttempt_concat_of_not_retry (past : List (Step σ)) {x : Step σ}
    (h : x.isRetry = false) : currentAttempt (past ++ [x]) = currentAttempt past ++ [x] :=
  List.rtakeWhile_concat_pos _ _ x (by simp [h])

/-- Steps that are no retries add to the attempt. -/
lemma currentAttempt_append (past : List (Step σ)) {steps : List (Step σ)}
    (h : ∀ x ∈ steps, x.isRetry = false) :
    currentAttempt (past ++ steps) = currentAttempt past ++ steps := by
  induction steps using List.reverseRecOn with
  | nil => rw [List.append_nil, List.append_nil]
  | append_singleton steps x ih =>
    have hx : x.isRetry = false := h x (List.mem_append_right _ List.mem_cons_self)
    have hsteps := ih fun y hy => h y (List.mem_append_left _ hy)
    rw [← List.append_assoc, currentAttempt_concat_of_not_retry _ hx, hsteps, List.append_assoc]

namespace Step

/-- In this step a pass from the start node failed, and this is the error it reported. -/
def GraphFailed (x : Step σ) (error : ExecutionError) : Prop :=
  ∃ (p : Pass σ) (reported : Option ExecutionError), p.exchange ∈ x.exchanges ∧
    p.start = startNodeId ∧ p.answer.result = .ok (.failed reported) ∧
      error = Body.reportedError reported

/-- The step is a tick that left the node running. -/
def LeftRunning : Step σ → Prop
  | .tick _ _ o => o.result = .ok .running
  | _ => False

end Step

/-- An abort among the steps took one of its courses. -/
lemma Step.Happens.aborts {node : Node} {config : Config} {site : TickSite} {reason : String}
    {s : Status} {o : TickOutcome σ Unit} (h : (Step.abort site reason s o).Happens node config) :
    ∃ c w, WorkflowNode.Aborts site c reason s w o := by
  cases h with
  | abort workflow now c _ _ w => exact ⟨c, w, WorkflowNode.aborts_run _ c reason s w⟩

/-- What every step carries on, from the history before it to the history with it, holds of the
whole run. -/
lemma Run.historic {node : Node} {config : Config} {s t : Status} {steps : List (Step σ)}
    {I : List (Step σ) → Status → Prop} (hrun : Run node config s steps t)
    (hstep : ∀ past (x : Step σ), x.Happens node config → I past x.before →
      I (past ++ [x]) x.after) (hs : I [] s) : I steps t := by
  suffices hpast : ∀ past, I past s → I (past ++ steps) t from hpast [] hs
  clear hs
  induction hrun with
  | nil s =>
    intro past h
    rw [List.append_nil]
    exact h
  | @cons x rest t hx _ ih =>
    intro past h
    rw [List.append_cons]
    exact ih (past ++ [x]) (hstep past x hx h)

/-! ### What a tick makes of the checkpoint -/

namespace Body

variable {site : TickSite} {c : Collaborators σ} {s : Status} {w : σ}
  {o : TickOutcome σ Transition}

/-- A pass from the start node that did not fail leaves the progress of the node as it is. -/
lemma Advances.own_eq {sub : SubWorkflow} {p : Pass σ} (h : Advances site c sub p o)
    (hp : ∀ error, p.answer.result ≠ .ok (.failed error)) :
    o.status.own = p.lookup.status.own := by
  rw [← p.own_status]
  cases h with
  | failed hr => exact absurd hr (hp _)
  | completed _ ho =>
    have hstatus := ho.status_eq
    exact congrArg Status.own hstatus
  | _ => rfl

/-- Unless the graph fails, the first tick of an attempt leaves the progress of its node alone. -/
lemma Starts.own_eq (h : Starts site c s w o)
    (hpass : ∀ p : Pass σ, p.exchange ∈ o.exchanges → p.start = startNodeId →
      ∀ error, p.answer.result ≠ .ok (.failed error)) : o.status.own = s.own := by
  cases h with
  | unresolved _ => rfl
  | unlinked _ _ | unread _ _ _ => exact site.own_linking _ s
  | seedHalted _ _ _ hq _ | seedFailed _ _ _ hq _ =>
    subst hq
    exact site.own_seeded c _ _ s _
  | advanced _ _ _ hq _ _ ho =>
    subst hq
    refine (ho.own_eq ?_).trans (site.own_seeded c _ _ s _)
    exact hpass _ (List.mem_append_right _ ho.pass_mem) rfl

/-- Unless the graph fails, a tick that looks after the body leaves the progress of its node
alone. -/
lemma Checks.own_eq (h : Checks site c s w o)
    (hpass : ∀ p : Pass σ, p.exchange ∈ o.exchanges → p.start = startNodeId →
      ∀ error, p.answer.result ≠ .ok (.failed error)) : o.status.own = s.own := by
  cases h with
  | unresolved _ => rfl
  | unlinked _ _ => exact site.own_linking _ s
  | advanced _ _ ho => exact (ho.own_eq (hpass _ ho.pass_mem rfl)).trans (site.own_linking _ s)

end Body

namespace WorkflowNode

open Body

variable {site : TickSite} {c : Collaborators σ} {s : Status} {w : σ}

/-- Noting the start changes the checkpoint of a first tick that left the node running, and no
other. -/
lemma effectiveCheckpoint_recordingStart {o : TickOutcome σ Transition}
    (hstage : o.status.own.checkpoint.stage = .undefined) (now : Instant) :
    (o.result = .ok .running ∧ (o.recordingStart now).status.effectiveCheckpoint =
      ⟨.executing, none, o.status.own.attempts⟩) ∨
    (o.result ≠ .ok .running ∧ o.recordingStart now = o) := by
  by_cases hrunning : o.result = .ok .running
  · refine .inl ⟨hrunning, ?_⟩
    have hnoted : o.recordingStart now = { o with
        status := o.status.setCheckpoint ⟨.executing, none, o.status.own.attempts⟩ now } := by
      simp only [TickOutcome.recordingStart, hrunning, hstage, if_true]
    rw [hnoted]
    exact Status.effectiveCheckpoint_of_isCurrent rfl
  · exact .inr ⟨hrunning, TickOutcome.recordingStart_of_ne_running hrunning now⟩

/-- Unless the graph fails, a tick leaves what counts as it is, or notes that the body executes. -/
lemma Handles.effectiveCheckpoint_cases {o : TickOutcome σ Transition} (h : Handles site c s w o)
    (hpass : ∀ p : Pass σ, p.exchange ∈ o.exchanges → p.start = startNodeId →
      ∀ error, p.answer.result ≠ .ok (.failed error)) :
    (o.result = .ok .running ∧ s.effectiveCheckpoint.stage = .undefined ∧
      o.status.effectiveCheckpoint = ⟨.executing, none, s.own.attempts⟩) ∨
    ((o.result = .ok .running → s.effectiveCheckpoint.stage ≠ .undefined) ∧
      o.status.effectiveCheckpoint = s.effectiveCheckpoint) := by
  have hcheckpoint := s.checkpoint_renewed site.now
  have hrenewed := s.effectiveCheckpoint_renewed site.now
  cases h with
  | refused _ =>
    refine .inr ⟨fun h => ?_, rfl⟩
    cases h
  | @started o' _ hstage ho =>
    rw [TickOutcome.exchanges_recordingStart] at hpass
    have hown := ho.own_eq hpass
    have hattempts : (s.renewed site.now).own.attempts = s.own.attempts :=
      Progress.attempts_eq_of_unrecorded_eq (s.unrecorded_renewed site.now)
    have hundefined : o'.status.own.checkpoint.stage = .undefined := by
      rw [hown]
      exact hstage
    rw [TickOutcome.result_recordingStart]
    rcases effectiveCheckpoint_recordingStart hundefined site.now with
      ⟨hrunning, hnoted⟩ | ⟨hrunning, hsame⟩
    · refine .inl ⟨hrunning, hcheckpoint ▸ hstage, ?_⟩
      rw [hnoted, hown, hattempts]
    · refine .inr ⟨fun h => absurd h hrunning, ?_⟩
      rw [hsame, Status.effectiveCheckpoint_congr hown, hrenewed]
  | checked _ hstage ho =>
    rw [hcheckpoint] at hstage
    refine .inr ⟨fun _ => by simp [hstage], ?_⟩
    rw [Status.effectiveCheckpoint_congr (ho.own_eq hpass), hrenewed]
  | failed _ hstage ho =>
    rw [hcheckpoint] at hstage
    refine .inr ⟨fun _ => by simp [hstage], ?_⟩
    rw [Status.effectiveCheckpoint_congr ho.own_eq, hrenewed]

end WorkflowNode

/-! ### The invariant -/

/-- Within an attempt a checkpoint moves on in these ways only. -/
inductive Checkpoint.LeadsTo : Checkpoint → Checkpoint → Prop
  | stays (c : Checkpoint) : LeadsTo c c
  | starts (attempt : Nat) : LeadsTo ⟨.undefined, none, attempt⟩ ⟨.executing, none, attempt⟩
  | fails (stage : Stage) (error : ExecutionError) (attempt : Nat) (h : stage ≠ .failing) :
      LeadsTo ⟨stage, none, attempt⟩ ⟨.failing, some error, attempt⟩

/-- What the checkpoint that counts says, for each thing that can have happened in the attempt. -/
inductive Status.Tells (s : Status) (attempt : List (Step σ)) : Prop
  | nothing (hfailed : ∀ x ∈ attempt, ∀ e, ¬ x.GraphFailed e)
      (hrunning : ∀ x ∈ attempt, ¬ x.LeftRunning)
      (h : s.effectiveCheckpoint = ⟨.undefined, none, s.own.attempts⟩)
  | running {x : Step σ} (hfailed : ∀ x ∈ attempt, ∀ e, ¬ x.GraphFailed e) (hx : x ∈ attempt)
      (hrunning : x.LeftRunning) (h : s.effectiveCheckpoint = ⟨.executing, none, s.own.attempts⟩)
  | failed {x : Step σ} {error : ExecutionError} (hx : x ∈ attempt) (hfailed : x.GraphFailed error)
      (honly : ∀ y ∈ attempt, ∀ e, y.GraphFailed e → e = error) (h : s.FailsWith error)

namespace Status.Tells

variable {s t : Status} {attempt : List (Step σ)}

/-- A step in which the graph did not fail, and after which the same counts as before, changes
nothing of the story. -/
lemma kept (h : s.Tells attempt) {x : Step σ} (hfailed : ∀ e, ¬ x.GraphFailed e)
    (hrunning : x.LeftRunning → s.effectiveCheckpoint.stage ≠ .undefined)
    (hattempts : t.own.attempts = s.own.attempts)
    (hsame : t.effectiveCheckpoint = s.effectiveCheckpoint) : t.Tells (attempt ++ [x]) := by
  have hall : (∀ y ∈ attempt, ∀ e, ¬ y.GraphFailed e) →
      ∀ y ∈ attempt ++ [x], ∀ e, ¬ y.GraphFailed e := by
    intro hbefore y hy
    rcases List.mem_append.1 hy with hy | hy
    · exact hbefore y hy
    · rw [List.mem_singleton.1 hy]
      exact hfailed
  cases h with
  | nothing hbefore hnot hs =>
    refine .nothing (hall hbefore) (fun y hy => ?_) (by rw [hsame, hs, hattempts])
    rcases List.mem_append.1 hy with hy | hy
    · exact hnot y hy
    · rw [List.mem_singleton.1 hy]
      intro hx
      exact hrunning hx (by rw [hs])
  | running hbefore hy hleft hs =>
    exact .running (hall hbefore) (List.mem_append_left _ hy) hleft (by rw [hsame, hs, hattempts])
  | failed hy hyfailed honly hs =>
    refine .failed (List.mem_append_left _ hy) hyfailed (fun z hz e he => ?_) ?_
    · rcases List.mem_append.1 hz with hz | hz
      · exact honly z hz e he
      · rw [List.mem_singleton.1 hz] at he
        exact absurd he (hfailed e)
    · rw [failsWith_iff, hsame, hattempts]
      exact failsWith_iff.1 hs

/-- Nothing happened in an attempt that has no steps yet. -/
lemma of_nil (h : s.effectiveCheckpoint = ⟨.undefined, none, s.own.attempts⟩) :
    s.Tells ([] : List (Step σ)) := by
  refine .nothing ?_ ?_ h
  · intro x hx
    cases hx
  · intro x hx
    cases hx

/-- The checkpoint that counts holds an error exactly while the node fails. -/
lemma error_iff (h : s.Tells attempt) :
    s.effectiveCheckpoint.error.isSome ↔ s.effectiveCheckpoint.stage = .failing := by
  cases h with
  | nothing _ _ hs | running _ _ _ hs =>
    rw [hs]
    simp
  | failed _ _ _ hs =>
    rw [failsWith_iff.1 hs]
    simp

/-- The checkpoint that counts holds the error of the failed pass. -/
lemma failing_iff (h : s.Tells attempt) (error : ExecutionError) :
    s.effectiveCheckpoint = ⟨.failing, some error, s.own.attempts⟩ ↔
      ∃ x ∈ attempt, x.GraphFailed error := by
  cases h with
  | nothing hnone _ hs | running hnone _ _ hs =>
    constructor
    · intro heq
      cases hs.symm.trans heq
    · rintro ⟨x, hx, hfailed⟩
      exact absurd hfailed (hnone x hx error)
  | failed hx hfailed honly hs =>
    have hcounts := failsWith_iff.1 hs
    constructor
    · intro heq
      cases hcounts.symm.trans heq
      exact ⟨_, hx, hfailed⟩
    · rintro ⟨y, hy, hyfailed⟩
      rw [honly y hy error hyfailed]
      exact hcounts

/-- The checkpoint that counts says that the body executes if a tick left the node running. -/
lemma executing_iff (h : s.Tells attempt) :
    s.effectiveCheckpoint = ⟨.executing, none, s.own.attempts⟩ ↔
      (∀ x ∈ attempt, ∀ error, ¬ x.GraphFailed error) ∧ ∃ x ∈ attempt, x.LeftRunning := by
  cases h with
  | nothing _ hnot hs =>
    constructor
    · intro heq
      cases hs.symm.trans heq
    · rintro ⟨-, x, hx, hleft⟩
      exact absurd hleft (hnot x hx)
  | running hnone hx hleft hs => exact ⟨fun _ => ⟨hnone, _, hx, hleft⟩, fun _ => hs⟩
  | failed hx hfailed _ hs =>
    constructor
    · intro heq
      cases (failsWith_iff.1 hs).symm.trans heq
    · rintro ⟨hnone, -⟩
      exact absurd hfailed (hnone _ hx _)

/-- The checkpoint that counts says nothing if nothing happened. -/
lemma undefined_iff (h : s.Tells attempt) :
    s.effectiveCheckpoint = ⟨.undefined, none, s.own.attempts⟩ ↔
      (∀ x ∈ attempt, ∀ error, ¬ x.GraphFailed error) ∧ ∀ x ∈ attempt, ¬ x.LeftRunning := by
  cases h with
  | nothing hnone hnot hs => exact ⟨fun _ => ⟨hnone, hnot⟩, fun _ => hs⟩
  | running _ hx hleft hs =>
    constructor
    · intro heq
      cases hs.symm.trans heq
    · rintro ⟨-, hnot⟩
      exact absurd hleft (hnot _ hx)
  | failed hx hfailed _ hs =>
    constructor
    · intro heq
      cases (failsWith_iff.1 hs).symm.trans heq
    · rintro ⟨hnone, -⟩
      exact absurd hfailed (hnone _ hx _)

/-- With more steps of the attempt the checkpoint moves on. -/
lemma leadsTo (h : s.Tells attempt) {more : List (Step σ)} (ht : t.Tells (attempt ++ more))
    (hattempts : t.own.attempts = s.own.attempts) :
    s.effectiveCheckpoint.LeadsTo t.effectiveCheckpoint := by
  cases h with
  | nothing _ _ hs =>
    rw [hs, ← hattempts]
    cases ht with
    | nothing _ _ ht =>
      rw [ht]
      exact .stays _
    | running _ _ _ ht =>
      rw [ht]
      exact .starts _
    | failed _ _ _ ht =>
      rw [failsWith_iff.1 ht]
      exact .fails _ _ _ (by decide)
  | running _ hx hleft hs =>
    rw [hs, ← hattempts]
    cases ht with
    | nothing _ hnot _ => exact absurd hleft (hnot _ (List.mem_append_left _ hx))
    | running _ _ _ ht =>
      rw [ht]
      exact .stays _
    | failed _ _ _ ht =>
      rw [failsWith_iff.1 ht]
      exact .fails _ _ _ (by decide)
  | failed hx hfailed _ hs =>
    have hcounts := (ht.failing_iff _).2 ⟨_, List.mem_append_left _ hx, hfailed⟩
    rw [failsWith_iff.1 hs, hcounts, hattempts]
    exact .stays _

end Status.Tells

namespace WorkflowNode

variable {site : TickSite} {c : Collaborators σ} {s : Status} {w : σ}
  {o : TickOutcome σ Transition} {attempt : List (Step σ)}

/-- A tick changes the story as it changes the checkpoint. -/
lemma Handles.tells (h : Handles site c s w o) (hs : s.Tells attempt) :
    o.status.Tells (attempt ++ [.tick site s o]) := by
  have hattempts : o.status.own.attempts = s.own.attempts :=
    Progress.attempts_eq_of_unrecorded_eq h.unrecorded_own
  have hmem : Step.tick site s o ∈ attempt ++ [.tick site s o] :=
    List.mem_append_right _ List.mem_cons_self
  by_cases hgraph : ∃ e, (Step.tick site s o).GraphFailed e
  · obtain ⟨error, p, reported, hp, hstart, hresult, rfl⟩ := hgraph
    have hdriven := h.driven_of_pass_mem hp hstart
    have hfails := (hdriven.failsWith hresult).2
    refine .failed hmem ⟨p, reported, hp, hstart, hresult, rfl⟩ (fun y hy e he => ?_) hfails
    rcases List.mem_append.1 hy with hy | hy
    · -- A node that failed before does not drive the graph.
      cases hs with
      | nothing hnone _ _ | running hnone _ _ _ => exact absurd he (hnone y hy e)
      | failed _ _ _ hbefore =>
        have hcall : p.exchange.call = .drive p.lookup startNodeId p.answer := hstart ▸ rfl
        exact absurd hcall ((h.masked hbefore).not_driven _ hp _ _)
    · rw [List.mem_singleton.1 hy] at he
      obtain ⟨q, reported', hq, -, hresult', rfl⟩ := he
      cases hdriven.eq_of_pass_mem hq
      cases hresult.symm.trans hresult'
      rfl
  · have hnot : ∀ e, ¬ (Step.tick site s o).GraphFailed e := fun e he => hgraph ⟨e, he⟩
    have hpass : ∀ p : Pass σ, p.exchange ∈ o.exchanges → p.start = startNodeId →
        ∀ error, p.answer.result ≠ .ok (.failed error) :=
      fun p hp hstart error hresult => hnot _ ⟨p, error, hp, hstart, hresult, rfl⟩
    rcases h.effectiveCheckpoint_cases hpass with
      ⟨hrunning, hundefined, hnoted⟩ | ⟨hrunning, hsame⟩
    · cases hs with
      | nothing hnone _ _ =>
        refine .running (fun y hy => ?_) hmem hrunning (by rw [hnoted, hattempts])
        rcases List.mem_append.1 hy with hy | hy
        · exact hnone y hy
        · rw [List.mem_singleton.1 hy]
          exact hnot
      | running _ _ _ hexecuting =>
        rw [hexecuting] at hundefined
        cases hundefined
      | failed _ _ _ hfails =>
        rw [Status.failsWith_iff.1 hfails] at hundefined
        cases hundefined
    · exact hs.kept hnot hrunning hattempts hsame

/-- An abort makes no pass. -/
lemma Aborts.pass_notMem {reason : String} {o : TickOutcome σ Unit}
    (h : Aborts site c reason s w o) (p : Pass σ) : p.exchange ∉ o.exchanges := by
  cases h with
  | refused _ | unresolved _ _ => simp
  | settled _ _ _ => simp [Pass.exchange]

end WorkflowNode

/-- The checkpoint of a status is in step with the history so far. -/
structure Status.InStep (s : Status) (past : List (Step σ)) : Prop where
  attempt_le : s.own.checkpoint.attempt ≤ s.own.attempts
  error_iff : s.own.checkpoint.error.isSome ↔ s.own.checkpoint.stage = .failing
  tells : s.Tells (currentAttempt past)

/-- A step keeps the checkpoint in step with the history. -/
lemma Step.inStep {node : Node} {config : Config} {x : Step σ} (hx : x.Happens node config)
    {past : List (Step σ)} (h : x.before.InStep past) : x.after.InStep (past ++ [x]) := by
  obtain ⟨hattempt, herror, htells⟩ := h
  cases x with
  | tick site s o =>
    obtain ⟨-, -, c, w, hhandles⟩ := hx.handles
    have hafter := hhandles.tells htells
    rw [← currentAttempt_concat_of_not_retry past rfl] at hafter
    rcases hhandles.isCurrent with ⟨e, rfl⟩ | hcurrent
    · exact ⟨hattempt, herror, hafter⟩
    · have herror' := hafter.error_iff
      rw [Status.effectiveCheckpoint_of_isCurrent hcurrent] at herror'
      exact ⟨Nat.le_of_eq hcurrent, herror', hafter⟩
  | abort site reason s o =>
    obtain ⟨c, w, haborts⟩ := hx.aborts
    have hown : (Step.abort site reason s o).after.own = s.own := haborts.own_eq
    have hfailed : ∀ e, ¬ (Step.abort site reason s o).GraphFailed e :=
      fun e ⟨p, _, hp, _⟩ => haborts.pass_notMem p hp
    have hafter := htells.kept hfailed (fun h => h.elim)
      (congrArg Progress.attempts hown) (Status.effectiveCheckpoint_congr hown)
    rw [← currentAttempt_concat_of_not_retry past rfl] at hafter
    refine ⟨?_, ?_, hafter⟩
    · rw [hown]
      exact hattempt
    · rw [hown]
      exact herror
  | retry s t =>
    have hnothing := Status.effectiveCheckpoint_incrementAttempts hx.counts hattempt
    obtain ⟨-, rfl⟩ := Status.incrementAttempts?_eq_some_iff.1 hx.counts
    refine ⟨Nat.le_succ_of_le hattempt, herror, ?_⟩
    rw [currentAttempt_concat_of_retry past rfl]
    exact .of_nil hnothing

/-- A run that began with no checkpoint keeps its checkpoint in step with its history. -/
lemma Run.inStep {node : Node} {config : Config} {s t : Status} {steps : List (Step σ)}
    (hrun : Run node config s steps t) (hs : s.own.checkpoint = Checkpoint.initial) :
    t.InStep steps := by
  refine hrun.historic (I := fun past m => m.InStep past) (fun past x hx h => Step.inStep hx h) ?_
  have hnothing : s.effectiveCheckpoint = ⟨.undefined, none, s.own.attempts⟩ := by
    by_cases hcurrent : s.IsCurrent
    · rw [Status.effectiveCheckpoint_of_isCurrent hcurrent, ← hcurrent, hs]
      rfl
    · exact Status.effectiveCheckpoint_of_not_isCurrent hcurrent
  refine ⟨?_, ?_, .of_nil hnothing⟩
  · rw [hs]
    exact Nat.zero_le _
  · rw [hs]
    decide

/-! ### Counting attempts -/

/-- A retry counts one attempt more and does not count past the last; nothing else counts. -/
lemma Step.Happens.attempts_after {node : Node} {config : Config} {x : Step σ}
    (hx : x.Happens node config) :
    x.after.own.attempts = x.before.own.attempts + (if x.isRetry then 1 else 0) ∧
      (x.isRetry = true → x.after.own.attempts ≤ Progress.lastAttempt) := by
  cases x with
  | tick site s o =>
    obtain ⟨-, -, c, w, hhandles⟩ := hx.handles
    refine ⟨Progress.attempts_eq_of_unrecorded_eq hhandles.unrecorded_own, fun h => ?_⟩
    cases h
  | abort site reason s o =>
    obtain ⟨c, w, haborts⟩ := hx.aborts
    refine ⟨congrArg Progress.attempts haborts.own_eq, fun h => ?_⟩
    cases h
  | retry s t =>
    obtain ⟨hlt, rfl⟩ := Status.incrementAttempts?_eq_some_iff.1 hx.counts
    exact ⟨rfl, fun _ => hlt⟩

/-- A run counts its retries. -/
lemma Run.attempts_eq_add {node : Node} {config : Config} {s t : Status} {steps : List (Step σ)}
    (hrun : Run node config s steps t) :
    t.own.attempts = s.own.attempts + steps.countP Step.isRetry := by
  induction hrun with
  | nil s => rfl
  | @cons x rest t hx _ ih =>
    rw [ih, hx.attempts_after.1, List.countP_cons]
    omega

/-- No run counts past the last attempt. -/
lemma Run.attempts_le {node : Node} {config : Config} {s t : Status} {steps : List (Step σ)}
    (hrun : Run node config s steps t) (hs : s.own.attempts ≤ Progress.lastAttempt) :
    t.own.attempts ≤ Progress.lastAttempt := by
  refine hrun.invariant (I := fun m => m.own.attempts ≤ Progress.lastAttempt) ?_ hs
  intro x _ hx hbefore
  obtain ⟨hcounted, hlast⟩ := hx.attempts_after
  cases hretry : x.isRetry with
  | true => exact hlast hretry
  | false =>
    rw [hcounted, hretry]
    exact hbefore

/-- Without a retry the attempt stays the same. -/
lemma Run.attempts_eq {node : Node} {config : Config} {s t : Status} {steps : List (Step σ)}
    (hrun : Run node config s steps t) (hretry : ∀ x ∈ steps, x.isRetry = false) :
    t.own.attempts = s.own.attempts := by
  have hnone : steps.countP Step.isRetry = 0 :=
    List.countP_eq_zero.2 fun x hx => Bool.not_eq_true _ ▸ hretry x hx
  rw [hrun.attempts_eq_add, hnone, Nat.add_zero]

/-! ### The checkpoint from the history -/

/-- The checkpoint of a status says what the steps of the attempt did, no more and no less. -/
structure Status.ToldBy (s : Status) (attempt : List (Step σ)) : Prop where
  /-- It holds an error exactly if a pass from the start node failed with that error. -/
  failing_iff : ∀ error, s.effectiveCheckpoint = ⟨.failing, some error, s.own.attempts⟩ ↔
    ∃ x ∈ attempt, x.GraphFailed error
  executing_iff : s.effectiveCheckpoint = ⟨.executing, none, s.own.attempts⟩ ↔
    (∀ x ∈ attempt, ∀ error, ¬ x.GraphFailed error) ∧ ∃ x ∈ attempt, x.LeftRunning
  undefined_iff : s.effectiveCheckpoint = ⟨.undefined, none, s.own.attempts⟩ ↔
    (∀ x ∈ attempt, ∀ error, ¬ x.GraphFailed error) ∧ ∀ x ∈ attempt, ¬ x.LeftRunning
  /-- There is an error in the checkpoint exactly while the node fails. -/
  error_iff : s.own.checkpoint.error.isSome ↔ s.own.checkpoint.stage = .failing
  attempt_le : s.own.checkpoint.attempt ≤ s.own.attempts

/-- After a run that began with no checkpoint, the checkpoint that counts is the one that the steps
since the last retry call for; the attempt is counted by the retries, within thirty-two bits; and
between two points of one attempt the checkpoint only moves on.  Every beginning of a run is a run,
so this holds after every step. -/
theorem Run.checkpoint_told {node : Node} {config : Config} {s t : Status} {steps : List (Step σ)}
    (hrun : Run node config s steps t) (hs : s.own.checkpoint = Checkpoint.initial) :
    t.ToldBy (currentAttempt steps) ∧
      t.own.attempts = s.own.attempts + steps.countP Step.isRetry ∧
      (s.own.attempts ≤ Progress.lastAttempt → t.own.attempts ≤ Progress.lastAttempt) ∧
      ∀ front back m, steps = front ++ back → Run node config s front m →
        Run node config m back t → (∀ x ∈ back, x.isRetry = false) →
          m.effectiveCheckpoint.LeadsTo t.effectiveCheckpoint := by
  have hend := hrun.inStep hs
  refine ⟨⟨hend.tells.failing_iff, hend.tells.executing_iff, hend.tells.undefined_iff,
    hend.error_iff, hend.attempt_le⟩, hrun.attempts_eq_add, hrun.attempts_le, ?_⟩
  rintro front back m rfl hfront hback hretry
  have hmiddle := hfront.inStep hs
  have hattempts := hback.attempts_eq hretry
  have htells := hend.tells
  rw [currentAttempt_append front hretry] at htells
  exact hmiddle.tells.leadsTo htells hattempts

namespace Sample

/-- A tick after which the body executes. -/
def startedTick : TickOutcome Unit Transition :=
  (WorkflowNode.handle site (reporting .running .running)).run status ()

/-- The status in the next attempt, with the checkpoint of the one before. -/
def retriedStatus : Status :=
  startedTick.status.incrementAttempts?.getD startedTick.status

/-- The tick of the next attempt, in which the graph fails. -/
def brokenRetry : TickOutcome Unit Transition :=
  (WorkflowNode.handle site breaking).run retriedStatus ()

/-- An abort after that. -/
def brokenAbort : TickOutcome Unit Unit :=
  (WorkflowNode.abort site breaking "stop").run brokenRetry.status ()

/-- The body executes in one attempt, and the graph fails in the next one, which is aborted then. -/
def brokenHistory : List (Step Unit) :=
  [.tick site status startedTick, .retry startedTick.status retriedStatus,
    .tick site retriedStatus brokenRetry, .abort site "stop" brokenRetry.status brokenAbort]

/-- The retry leaves an outdated checkpoint behind; the one that counts in the end is that of the
failure, to which nothing led in its attempt. -/
theorem brokenHistory_told :
    retriedStatus.own.checkpoint = ⟨.executing, none, 0⟩ ∧
      brokenAbort.status.own.checkpoint = ⟨.failing, some broken, 1⟩ ∧
      brokenAbort.status.ToldBy (currentAttempt brokenHistory) ∧
      brokenAbort.status.own.attempts = 1 ∧
      brokenAbort.status.own.attempts ≤ Progress.lastAttempt ∧
      Checkpoint.LeadsTo ⟨.undefined, none, 1⟩ ⟨.failing, some broken, 1⟩ := by
  have hfront : Run node Config.default status
      [.tick site status startedTick, .retry startedTick.status retriedStatus] retriedStatus :=
    .cons (.tick _ _ _ status ()) (.cons (.retry rfl) (.nil _))
  have hback : Run node Config.default retriedStatus
      [.tick site retriedStatus brokenRetry, .abort site "stop" brokenRetry.status brokenAbort]
      brokenAbort.status :=
    .cons (.tick _ _ breaking _ ()) (.cons (.abort _ _ breaking "stop" _ ()) (.nil _))
  have hrun : Run node Config.default status brokenHistory brokenAbort.status :=
    Run.append_iff.2 ⟨_, hfront, hback⟩
  obtain ⟨htold, hcounted, hlast, hleads⟩ := Run.checkpoint_told hrun rfl
  refine ⟨rfl, rfl, htold, hcounted, hlast (Nat.zero_le _), ?_⟩
  exact hleads [_, _] [_, _] retriedStatus rfl hfront hback (by simp [Step.isRetry])

end Sample

end NestedWorkflow
