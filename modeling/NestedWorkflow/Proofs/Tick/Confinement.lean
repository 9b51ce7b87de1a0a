import NestedWorkflow.Proofs.SubWorkflow.Building
import NestedWorkflow.Proofs.Tick.Frame
import NestedWorkflow.Proofs.Tick.Run

/-!
# How far a tick reaches

A tick of a workflow node can write into its own record of progress and into the statuses of the
nodes that its body declares.  Nothing else of the status it is given is within its reach, whatever
the executor tries (`WorkflowNode.frame`): a status that is kept under any other identifier stays as
it is, no such status comes into being, and none is lost.

Every writer is confined on its own (`Status.Confined`): visits, because a lookup refuses
identifiers that its sub-workflow does not declare (`Lookup.visitAll_eq_filter`); linking, because
it goes through the declared nodes; and a new checkpoint, because it is no change of a child.  Ticks
and aborts put these writers one after the other.
-/

namespace NestedWorkflow

variable {σ : Type}

/-! ### Confined changes -/

/-- From one status to the other children changed or appeared under certain identifiers only, and
none was lost. -/
structure Status.Confined (reach : NodeId → Prop) (s t : Status) : Prop where
  foreign : ∀ id, ¬ reach id → t.child? id = s.child? id
  kept : ∀ id, (s.child? id).isSome → (t.child? id).isSome

namespace Status.Confined

variable {reach : NodeId → Prop} {s t u : Status}

/-- Without a change nothing is out of bounds. -/
lemma refl (reach : NodeId → Prop) (s : Status) : Confined reach s s :=
  ⟨fun _ _ => rfl, fun _ h => h⟩

/-- Changes can follow one another. -/
lemma trans (h : Confined reach s t) (h' : Confined reach t u) : Confined reach s u where
  foreign id hid := (h'.foreign id hid).trans (h.foreign id hid)
  kept id hid := h'.kept id (h.kept id hid)

/-- What stays within narrow bounds stays within wider ones. -/
lemma mono {wider : NodeId → Prop} (h : Confined reach s t) (hwider : ∀ id, reach id → wider id) :
    Confined wider s t where
  foreign id hid := h.foreign id fun hreach => hid (hwider id hreach)
  kept := h.kept

/-- Only children count. -/
lemma of_child?_eq (h : ∀ id, t.child? id = s.child? id) : Confined reach s t where
  foreign id _ := h id
  kept id hid := by
    rw [h id]
    exact hid

/-- A child that is put in changes nothing under other identifiers. -/
lemma withChild {id : NodeId} (h : reach id) (s c : Status) :
    Confined reach s (s.withChild id c) where
  foreign other hother := by
    have hne : other ≠ id := by
      rintro rfl
      exact hother h
    exact s.child?_withChild_of_ne c hne
  kept other hother := by
    rw [child?_withChild]
    split
    · rfl
    · exact hother

/-- A new checkpoint changes no child. -/
lemma setCheckpoint (reach : NodeId → Prop) (s : Status) (checkpoint : Checkpoint)
    (now : Instant) : Confined reach s (s.setCheckpoint checkpoint now) :=
  of_child?_eq fun id => s.child?_setCheckpoint checkpoint now id

/-- Replacing an outdated checkpoint changes no child. -/
lemma renewed (reach : NodeId → Prop) (s : Status) (now : Instant) :
    Confined reach s (s.renewed now) := by
  unfold Status.renewed
  split
  · exact refl reach s
  · exact setCheckpoint reach s _ now

end Status.Confined

/-! ### Visits and links -/

namespace Lookup

/-- A visit that succeeds puts in the status of a declared node. -/
lemma exists_of_visit_eq_ok {l l' : Lookup} {id : NodeId} {edit : Status → Status}
    (h : l.visit id edit = .ok l') : id ∈ l.subWorkflow.declaredNodes ∧
      ∃ c, l' = { l with status := l.status.withChild id c } := by
  have hdeclared : id ∈ l.subWorkflow.declaredNodes := by
    by_contra hid
    have hrefused : l.visit id edit = .error (.unknownNode id l.subWorkflow.id) :=
      visit_eq_unknownNode_iff.2 ⟨hid, rfl, rfl⟩
    rw [h] at hrefused
    cases hrefused
  refine ⟨hdeclared, ?_⟩
  unfold visit at h
  cases hentry : l.entry id with
  | error e =>
    rw [hentry] at h
    cases h
  | ok c =>
    rw [hentry] at h
    exact ⟨edit c, (Except.ok.inj h).symm⟩

/-- Visits to nodes that are not declared come to nothing. -/
theorem visitAll_eq_filter (l : Lookup) (visits : List Visit) :
    l.visitAll visits =
      l.visitAll (visits.filter fun v => v.node ∈ l.subWorkflow.declaredNodes) := by
  induction visits generalizing l with
  | nil => rfl
  | cons v rest ih =>
    by_cases hv : v.node ∈ l.subWorkflow.declaredNodes
    · rw [List.filter_cons_of_pos (by simpa using hv)]
      cases hvisit : l.visit v.node v.edit with
      | error e =>
        rw [visitAll_cons_of_error hvisit, visitAll_cons_of_error hvisit]
        exact ih l
      | ok l' =>
        rw [visitAll_cons_of_ok hvisit, visitAll_cons_of_ok hvisit]
        obtain ⟨-, c, rfl⟩ := exists_of_visit_eq_ok hvisit
        exact ih _
    · have hrefused : l.visit v.node v.edit = .error (.unknownNode v.node l.subWorkflow.id) :=
        visit_eq_unknownNode_iff.2 ⟨hv, rfl, rfl⟩
      rw [List.filter_cons_of_neg (by simpa using hv), visitAll_cons_of_error hrefused]
      exact ih l

/-- Visits reach declared nodes only. -/
lemma confined_visitAll (l : Lookup) (visits : List Visit) :
    Status.Confined (· ∈ l.subWorkflow.declaredNodes) l.status (l.visitAll visits).status := by
  induction visits generalizing l with
  | nil => exact .refl _ _
  | cons v rest ih =>
    cases hvisit : l.visit v.node v.edit with
    | error e =>
      rw [visitAll_cons_of_error hvisit]
      exact ih l
    | ok l' =>
      rw [visitAll_cons_of_ok hvisit]
      obtain ⟨hdeclared, c, rfl⟩ := exists_of_visit_eq_ok hvisit
      have hfirst : Status.Confined (· ∈ l.subWorkflow.declaredNodes) l.status
          (l.status.withChild v.node c) := .withChild hdeclared l.status c
      exact hfirst.trans (ih { l with status := l.status.withChild v.node c })

/-- Children that are linked one after the other are the only ones that change. -/
lemma confined_linkAll (parent : UniqueId) (attempt : Nat) (ids : List (NodeId × UniqueId))
    (s : Status) :
    Status.Confined (· ∈ ids.map Prod.fst) s (linkAll parent attempt ids s).2 := by
  induction ids generalizing s with
  | nil => exact .refl _ s
  | cons pair rest ih =>
    obtain ⟨node, id⟩ := pair
    cases hc : s.entry node with
    | error e =>
      rw [linkAll_cons_of_entry_error hc]
      exact .refl _ s
    | ok c =>
      simp only [linkAll, Status.visit, hc, Except.map]
      have hfirst : Status.Confined (· ∈ ((node, id) :: rest).map Prod.fst) s
          (s.withChild node (c.link id parent attempt)) := .withChild List.mem_cons_self s _
      exact hfirst.trans ((ih _).mono fun _ hmem => List.mem_cons_of_mem _ hmem)

/-- Linking reaches declared nodes only, also where it breaks off. -/
lemma confined_link (sub : SubWorkflow) (attempt length : Nat) (s : Status) :
    Status.Confined (· ∈ sub.declaredNodes) s (link sub attempt length s).2 := by
  unfold link
  cases s.own.uniqueId with
  | none => exact .refl _ s
  | some parent =>
    cases hids : identify parent attempt length sub.declaredNodes with
    | error e =>
      simp only [hids]
      exact .refl _ s
    | ok ids =>
      simp only [hids]
      rw [← map_fst_identify hids]
      exact confined_linkAll parent attempt ids s

end Lookup

/-! ### Ticks of the body -/

/-- The sub-workflow that the node refers to is there and declares a node of this identifier. -/
def TickSite.Declares (site : TickSite) (id : NodeId) : Prop :=
  ∃ sub, Body.resolve site = .ok sub ∧ id ∈ sub.declaredNodes

namespace TickSite

variable {site : TickSite} {sub : SubWorkflow} (hs : Body.resolve site = .ok sub)

include hs

/-- What the executor does to the statuses that a lookup into the body gives it is confined. -/
lemma confined_leftBy {α : Type} (s : Status) (a : Answer α) :
    Status.Confined site.Declares s (Lookup.leftBy ⟨sub, s⟩ a) := by
  have hvisits := Lookup.confined_visitAll ⟨sub, s⟩ a.visits
  exact hvisits.mono fun _ hid => ⟨sub, hs, hid⟩

/-- What linking leaves is confined. -/
lemma confined_linking (s : Status) : Status.Confined site.Declares s (site.linking sub s).2 := by
  have hlink := Lookup.confined_link sub s.own.attempts site.config.uniqueIdLength s
  exact hlink.mono fun _ hid => ⟨sub, hs, hid⟩

/-- What linking and seeding leave is confined. -/
lemma confined_seeded (c : Collaborators σ) (inputs : LiteralMap) (s : Status) (w : σ) :
    Status.Confined site.Declares s
      (site.seeding c sub inputs (site.linking sub s).2 w).status :=
  (confined_linking hs s).trans (confined_leftBy hs _ _)

end TickSite

namespace Body

variable {site : TickSite} {c : Collaborators σ} {s : Status} {w : σ}
  {o : TickOutcome σ Transition}

/-- A tick that goes on after a pass stays within the bounds that the pass kept. -/
lemma Advances.confined {reach : NodeId → Prop} {sub : SubWorkflow} {p : Pass σ}
    (h : Advances site c sub p o) (hp : Status.Confined reach s p.status) :
    Status.Confined reach s o.status := by
  cases h with
  | failed _ => exact hp.trans (.setCheckpoint _ _ _ _)
  | completed _ ho =>
    have hstatus := ho.status_eq
    exact hstatus.symm ▸ hp
  | _ => exact hp

lemma Starts.confined (h : Starts site c s w o) : Status.Confined site.Declares s o.status := by
  cases h with
  | unresolved _ => exact .refl _ s
  | unlinked hs _ | unread hs _ _ => exact TickSite.confined_linking hs s
  | seedHalted hs _ _ hq _ | seedFailed hs _ _ hq _ =>
    subst hq
    exact TickSite.confined_seeded hs c _ s _
  | @advanced sub inputs w' q r o hs _ _ hq _ _ ho =>
    subst hq
    have hseeded := TickSite.confined_seeded hs c inputs s w'
    exact ho.confined (hseeded.trans (TickSite.confined_leftBy hs _ _))

lemma Checks.confined (h : Checks site c s w o) : Status.Confined site.Declares s o.status := by
  cases h with
  | unresolved _ => exact .refl _ s
  | unlinked hs _ => exact TickSite.confined_linking hs s
  | advanced hs _ ho =>
    have hlinked := TickSite.confined_linking hs s
    exact ho.confined (hlinked.trans (TickSite.confined_leftBy hs _ _))

lemma Fails.confined (h : Fails site c s w o) : Status.Confined site.Declares s o.status := by
  cases h with
  | unresolved _ | withoutFailureNode _ _ => exact .refl _ s
  | halted hs _ hp _ | running hs _ hp _ | failed hs _ hp _ | completed hs _ hp _ =>
    subst hp
    exact TickSite.confined_leftBy hs s _
  | enqueued hs _ hp _ _ | notEnqueued hs _ hp _ _ =>
    subst hp
    exact TickSite.confined_leftBy hs s _

end Body

/-! ### Ticks and aborts of a node -/

namespace WorkflowNode

variable {site : TickSite} {c : Collaborators σ} {s : Status} {w : σ}

/-- Noting a start changes no child. -/
lemma confined_recordingStart {o : TickOutcome σ Transition}
    (h : Status.Confined site.Declares s o.status) (now : Instant) :
    Status.Confined site.Declares s (o.recordingStart now).status := by
  unfold TickOutcome.recordingStart
  split
  · split
    · exact h.trans (.setCheckpoint _ _ _ _)
    · exact h
  · exact h

/-- A tick changes the statuses of declared nodes only, and loses none. -/
theorem Handles.confined {o : TickOutcome σ Transition} (h : Handles site c s w o) :
    Status.Confined site.Declares s o.status := by
  have hrenewed : Status.Confined site.Declares s (s.renewed site.now) := .renewed _ s site.now
  cases h with
  | refused _ => exact .refl _ s
  | started _ _ ho => exact confined_recordingStart (hrenewed.trans ho.confined) site.now
  | checked _ _ ho => exact hrenewed.trans ho.confined
  | failed _ _ ho => exact hrenewed.trans ho.confined

/-- An abort changes the statuses of declared nodes only, and loses none. -/
theorem Aborts.confined {reason : String} {o : TickOutcome σ Unit}
    (h : Aborts site c reason s w o) : Status.Confined site.Declares s o.status := by
  cases h with
  | refused _ | unresolved _ _ => exact .refl _ s
  | settled _ hs _ => exact TickSite.confined_leftBy hs s _

end WorkflowNode

/-- What a tick or an abort keeps of a status: all that the status says of its own node, but for the
checkpoint and the time of the last change, and everything under identifiers that are not
declared. -/
structure TickSite.Keeps (site : TickSite) (s t : Status) : Prop where
  own : t.own.unrecorded = s.own.unrecorded
  confined : Status.Confined site.Declares s t

/-- However a tick or an abort ends, it keeps what does not belong to the body; an abort does not
even touch the checkpoint and the time of the last change.  A visit to a node that is not declared
is refused, and leaves everything as if it had not been made. -/
theorem WorkflowNode.frame (site : TickSite) (c : Collaborators σ) (reason : String) (s : Status)
    (w : σ) :
    site.Keeps s ((handle site c).run s w).status ∧
      site.Keeps s ((abort site c reason).run s w).status ∧
      ((abort site c reason).run s w).status.own = s.own ∧
      ∀ l : Lookup,
        (∀ id edit, id ∉ l.subWorkflow.declaredNodes →
          l.visit id edit = .error (.unknownNode id l.subWorkflow.id)) ∧
        ∀ visits, l.visitAll visits =
          l.visitAll (visits.filter fun v => v.node ∈ l.subWorkflow.declaredNodes) := by
  have hhandle := handles_run site c s w
  have habort := aborts_run site c reason s w
  have hown : ((abort site c reason).run s w).status.own = s.own := habort.own_eq
  refine ⟨⟨hhandle.unrecorded_own, hhandle.confined⟩,
    ⟨congrArg Progress.unrecorded hown, habort.confined⟩, hown, fun l => ⟨?_, ?_⟩⟩
  · intro id edit hid
    exact Lookup.visit_eq_unknownNode_iff.2 ⟨hid, rfl, rfl⟩
  · exact l.visitAll_eq_filter

/-- Along a run, a status under an identifier that is never declared stays as it is, and none is
lost. -/
theorem Run.confined {node : Node} {config : Config} {s t : Status} {steps : List (Step σ)}
    (h : Run node config s steps t) {reach : NodeId → Prop}
    (hreach : ∀ x ∈ steps, ∀ site ∈ x.site?, ∀ id, site.Declares id → reach id) :
    Status.Confined reach s t := by
  refine h.invariant (I := fun u => Status.Confined reach s u) ?_ (.refl reach s)
  intro x hx hhappens hbefore
  refine hbefore.trans ?_
  cases hhappens with
  | tick workflow now c s w =>
    have hstep := (WorkflowNode.handles_run ⟨node, workflow, config, now⟩ c s w).confined
    exact hstep.mono (hreach _ hx _ rfl)
  | abort workflow now c reason s w =>
    have hstep := (WorkflowNode.aborts_run ⟨node, workflow, config, now⟩ c reason s w).confined
    exact hstep.mono (hreach _ hx _ rfl)
  | @retry s t hcount =>
    rw [Step.after, (Status.incrementAttempts?_eq_some_iff.1 hcount).2]
    exact .of_child?_eq fun id => s.child?_modifyOwn _ id

/-! ### An executor out of bounds -/

namespace Sample

/-- The status of a node that has nothing to do with the body. -/
def stranger : Status := (Status.new ⟨"elsewhere"⟩).setPhase .running site.now

/-- The status of the sample with the stranger among the children. -/
def lodging : Status := status.withChild "stranger" stranger

/-- Collaborators whose passes change the stranger, a node that is nowhere, and the end node. -/
def meddling : Collaborators Unit where
  __ := idle
  drive _ _ _ w := (⟨.ok .running, [⟨"stranger", fun s => s.setPhase .failed site.now⟩,
    ⟨"nobody", fun s => s.incrementAttempts?.getD s⟩,
    ⟨endNodeId, fun s => s.setOutputDir ⟨"moved"⟩⟩]⟩, w)

/-- The tick that they are called in. -/
def meddledTick : TickOutcome Unit Transition := (WorkflowNode.handle site meddling).run lodging ()

/-- Of the three changes only that of the end node is made. -/
theorem meddledTick_keeps :
    meddledTick.result = .ok .running ∧ site.Keeps lodging meddledTick.status ∧
      meddledTick.status.child? "stranger" = some stranger ∧
      meddledTick.status.child? "nobody" = none ∧
      (meddledTick.status.child? endNodeId).map (fun c => c.own.outputDir) = some ⟨"moved"⟩ ∧
      Lookup.visit ⟨body, lodging⟩ "stranger" (fun s => s.incrementAttempts?.getD s) =
        .error (.unknownNode "stranger" "body") := by
  obtain ⟨hkeeps, -, -, hvisits⟩ := WorkflowNode.frame site meddling "never" lodging ()
  have hundeclared : ∀ id, id ∉ body.declaredNodes → ¬ site.Declares id := by
    rintro id hid ⟨sub, hs, hmem⟩
    have hbody : Body.resolve site = .ok body := rfl
    rw [hbody] at hs
    obtain rfl := Except.ok.inj hs
    exact hid hmem
  have hstranger := hkeeps.confined.foreign "stranger" (hundeclared _ (by decide))
  have hnobody := hkeeps.confined.foreign "nobody" (hundeclared _ (by decide))
  refine ⟨rfl, hkeeps, hstranger, hnobody, rfl, ?_⟩
  exact (hvisits ⟨body, lodging⟩).1 _ _ (by decide)

end Sample

end NestedWorkflow
