import NestedWorkflow.Proofs.Tick.Passes

/-!
# The executor gets linked children

Whenever a tick calls the executor, every declared node has a status that is linked to the current
attempt of the enclosing node (`Run.children_linked`).

A tick that starts the body or looks after it links the children itself.  A tick of a failing body
does not, and has to rely on the tick that wrote the failure down.  This is what the invariant
`Status.KeptLinked` is about: where a checkpoint of the current attempt says that the body failed,
the children are linked to this attempt.  It also says that no checkpoint is ahead of the attempts,
so one attempt more makes every checkpoint outdated.
-/

namespace NestedWorkflow

variable {σ : Type}

/-- How a node is linked to the node that encloses it. -/
def Progress.linkage (p : Progress) : Option UniqueId × Option UniqueId × Option Nat :=
  (p.uniqueId, p.uniqueParentId, p.parentAttempts)

/-- Every child of the first status is a child of the second with the same links. -/
def Status.KeepsLinks (s t : Status) : Prop :=
  ∀ node child, s.child? node = some child →
    ∃ child', t.child? node = some child' ∧ child'.own.linkage = child.own.linkage

/-- Links are a matter of the linkage alone. -/
lemma Status.LinkedTo.of_linkage_eq {s t : Status} {id parent : UniqueId} {attempt : Nat}
    (h : s.LinkedTo id parent attempt) (heq : t.own.linkage = s.own.linkage) :
    t.LinkedTo id parent attempt := by
  obtain ⟨hid, hparent, hattempt⟩ := h
  simp only [Progress.linkage, Prod.mk.injEq] at heq
  obtain ⟨hid', hparent', hattempt'⟩ := heq
  exact ⟨hid'.trans hid, hparent'.trans hparent, hattempt'.trans hattempt⟩

/-- Children stay linked as long as their links and the attempt stay. -/
lemma Lookup.Linked.of_keepsLinks {sub : SubWorkflow} {length : Nat} {s t : Status}
    (h : Linked sub length s) (hid : t.own.uniqueId = s.own.uniqueId)
    (hattempts : t.own.attempts = s.own.attempts) (hkeeps : s.KeepsLinks t) :
    Linked sub length t := by
  obtain ⟨parent, hparent, hlinked⟩ := h
  refine ⟨parent, hid.trans hparent, ?_⟩
  intro node hnode
  obtain ⟨child, id, hchild, hcompute, hlink⟩ := hlinked node hnode
  obtain ⟨child', hchild', heq⟩ := hkeeps node child hchild
  rw [hattempts]
  exact ⟨child', id, hchild', hcompute, hlink.of_linkage_eq heq⟩

/-- A new checkpoint keeps the children linked. -/
lemma Lookup.Linked.setCheckpoint {sub : SubWorkflow} {length : Nat} {s : Status}
    (h : Linked sub length s) (checkpoint : Checkpoint) (now : Instant) :
    Linked sub length (s.setCheckpoint checkpoint now) :=
  h.of_keepsLinks rfl rfl fun node child hchild =>
    ⟨child, (s.child?_setCheckpoint checkpoint now node).trans hchild, rfl⟩

/-- An executor that leaves the links of children alone keeps them linked. -/
lemma Lookup.Linked.leftBy {α : Type} {sub : SubWorkflow} {length : Nat} {l : Lookup} {a : Answer α}
    (h : Linked sub length l.status) (hkeeps : l.status.KeepsLinks (l.leftBy a)) :
    Linked sub length (l.leftBy a) :=
  h.of_keepsLinks (congrArg Progress.uniqueId (l.own_leftBy a))
    (congrArg Progress.attempts (l.own_leftBy a)) hkeeps

/-! ### Calls of the executor -/

/-- The lookup that a call hands to the executor. -/
def Call.lookup? : Call → Option Lookup
  | .seed l _ _ => some l
  | .drive l _ _ => some l
  | .abort l _ _ _ => some l
  | _ => none

/-- An executor that is called leaves the links of the children alone. -/
def Call.KeepsLinks : Call → Prop
  | .seed l _ a => l.status.KeepsLinks (l.leftBy a)
  | .drive l _ a => l.status.KeepsLinks (l.leftBy a)
  | .abort l _ _ a => l.status.KeepsLinks (l.leftBy a)
  | _ => True

/-- Whenever the executor is called, the enclosing node has made this progress and the children of
the sub-workflow are linked. -/
def LinkedCalls (sub : SubWorkflow) (length : Nat) (own : Progress) (xs : List (Exchange σ)) :
    Prop :=
  ∀ x ∈ xs, ∀ l, x.call.lookup? = some l →
    l.subWorkflow = sub ∧ l.status.own = own ∧ Lookup.Linked sub length l.status

namespace LinkedCalls

variable {sub : SubWorkflow} {length : Nat} {own : Progress} {x : Exchange σ}
  {xs : List (Exchange σ)}

lemma nil : LinkedCalls (σ := σ) sub length own [] := by
  intro x hx
  cases hx

/-- A call that does not go to the executor does not count. -/
lemma cons_of_none (hx : x.call.lookup? = none) (h : LinkedCalls sub length own xs) :
    LinkedCalls sub length own (x :: xs) := by
  intro y hy l hl
  rcases List.mem_cons.1 hy with rfl | hy
  · cases hx.symm.trans hl
  · exact h y hy l hl

/-- A call with linked children comes first. -/
lemma cons {l : Lookup} (hx : x.call.lookup? = some l) (hsub : l.subWorkflow = sub)
    (hown : l.status.own = own) (hlinked : Lookup.Linked sub length l.status)
    (h : LinkedCalls sub length own xs) : LinkedCalls sub length own (x :: xs) := by
  intro y hy l' hl'
  rcases List.mem_cons.1 hy with rfl | hy
  · cases hx.symm.trans hl'
    exact ⟨hsub, hown, hlinked⟩
  · exact h y hy l' hl'

end LinkedCalls

namespace Body

variable {site : TickSite} {c : Collaborators σ} {s : Status} {w : σ} {sub : SubWorkflow}
  {length : Nat} {o : TickOutcome σ Transition}

/-- The executor is not called while outputs are propagated. -/
lemma Propagates.linkedCalls (h : Propagates site c sub s w o) (own : Progress) :
    LinkedCalls sub length own o.exchanges := by
  intro x hx l hl
  cases h with
  | undeclared _ | noEndNode _ _ => cases hx
  | probeFailed _ _ _ | absent _ _ _ _ =>
    cases List.mem_singleton.1 hx
    cases hl
  | copyFailed _ _ _ _ _ | copied _ _ _ _ _ =>
    rcases List.mem_pair.1 hx with rfl | rfl <;> cases hl

/-- After a pass the children are linked if they were before it. -/
lemma Advances.linked {p : Pass σ} (h : Advances site c sub p o) (hsub : p.lookup.subWorkflow = sub)
    (hlinked : Lookup.Linked sub length p.lookup.status)
    (hkeeps : ∀ x ∈ o.exchanges, x.call.KeepsLinks) :
    LinkedCalls sub length p.lookup.status.own o.exchanges ∧ Lookup.Linked sub length o.status := by
  have hafter : Lookup.Linked sub length p.status := hlinked.leftBy (hkeeps _ h.pass_mem)
  have hcall : p.exchange.call.lookup? = some p.lookup := rfl
  cases h with
  | halted _ | running _ => exact ⟨.cons hcall hsub rfl hlinked .nil, hafter⟩
  | failed _ => exact ⟨.cons hcall hsub rfl hlinked .nil, hafter.setCheckpoint _ _⟩
  | enqueued _ _ | notEnqueued _ _ =>
    exact ⟨.cons hcall hsub rfl hlinked (.cons_of_none rfl .nil), hafter⟩
  | completed _ ho =>
    have hstatus := ho.status_eq
    exact ⟨.cons hcall hsub rfl hlinked (ho.linkedCalls _), hstatus ▸ hafter⟩

/-- Children are linked after a linking that succeeds. -/
lemma linked_linking (hl : (site.linking sub s).1 = .ok ()) :
    Lookup.Linked sub site.config.uniqueIdLength (site.linking sub s).2 :=
  Lookup.linked_of_link_eq_ok hl

/-- A first tick links the children before it calls the executor.  If it does not get that far, it
leaves the progress of the enclosing node as it is. -/
lemma Starts.linked (h : Starts site c s w o) (hsub : ∀ sub', resolve site = .ok sub' → sub' = sub)
    (hkeeps : ∀ x ∈ o.exchanges, x.call.KeepsLinks) :
    LinkedCalls sub site.config.uniqueIdLength s.own o.exchanges ∧
      (Lookup.Linked sub site.config.uniqueIdLength o.status ∨ o.status.own = s.own) := by
  cases h with
  | unresolved _ => exact ⟨.nil, .inr rfl⟩
  | unlinked _ _ => exact ⟨.nil, .inr (site.own_linking _ s)⟩
  | unread hs hl _ =>
    cases hsub _ hs
    exact ⟨.cons_of_none rfl .nil, .inl (linked_linking hl)⟩
  | @seedHalted _ inputs w' q _ hs hl _ hq _ | @seedFailed _ inputs w' q _ hs hl _ hq _ =>
    cases hsub _ hs
    subst hq
    have hcalls : LinkedCalls _ _ _ [(site.seeding c sub inputs _ w').exchange] :=
      .cons rfl rfl (site.own_linking sub s) (linked_linking hl) .nil
    refine ⟨.cons_of_none rfl hcalls, .inl ((linked_linking hl).leftBy ?_)⟩
    exact hkeeps _ (List.mem_cons_of_mem _ List.mem_cons_self)
  | @advanced _ inputs w' q _ o' hs hl _ hq _ _ ho =>
    cases hsub _ hs
    subst hq
    have hseeded := (linked_linking hl).leftBy
      (hkeeps _ (List.mem_cons_of_mem _ List.mem_cons_self))
    have hown := site.own_seeded c sub inputs s w'
    obtain ⟨hcalls, hafter⟩ := ho.linked rfl hseeded fun x hx =>
      hkeeps x (List.mem_append_right _ hx)
    have hcalls' : LinkedCalls sub _ s.own o'.exchanges := hown ▸ hcalls
    refine ⟨.cons_of_none rfl ?_, .inl hafter⟩
    exact .cons rfl rfl (site.own_linking sub s) (linked_linking hl) hcalls'

/-- A tick that looks after the body links the children before it calls the executor.  If it does
not get that far, it leaves the progress of the enclosing node as it is. -/
lemma Checks.linked (h : Checks site c s w o) (hsub : ∀ sub', resolve site = .ok sub' → sub' = sub)
    (hkeeps : ∀ x ∈ o.exchanges, x.call.KeepsLinks) :
    LinkedCalls sub site.config.uniqueIdLength s.own o.exchanges ∧
      (Lookup.Linked sub site.config.uniqueIdLength o.status ∨ o.status.own = s.own) := by
  cases h with
  | unresolved _ => exact ⟨.nil, .inr rfl⟩
  | unlinked _ _ => exact ⟨.nil, .inr (site.own_linking _ s)⟩
  | advanced hs hl ho =>
    cases hsub _ hs
    obtain ⟨hcalls, hafter⟩ := ho.linked rfl (linked_linking hl) hkeeps
    rw [show (site.pass c sub startNodeId (site.linking sub s).2 w).lookup.status.own = s.own from
      site.own_linking sub s] at hcalls
    exact ⟨hcalls, .inl hafter⟩

/-- A tick of a failing body does not link the children, but keeps them linked. -/
lemma Fails.linked (h : Fails site c s w o) (hsub : ∀ sub', resolve site = .ok sub' → sub' = sub)
    (hlinked : Lookup.Linked sub length s) (hkeeps : ∀ x ∈ o.exchanges, x.call.KeepsLinks) :
    LinkedCalls sub length s.own o.exchanges ∧ Lookup.Linked sub length o.status := by
  cases h with
  | unresolved _ | withoutFailureNode _ _ => exact ⟨.nil, hlinked⟩
  | halted hs _ hp _ | running hs _ hp _ | failed hs _ hp _ | completed hs _ hp _ =>
    cases hsub _ hs
    subst hp
    exact ⟨.cons rfl rfl rfl hlinked .nil, hlinked.leftBy (hkeeps _ List.mem_cons_self)⟩
  | enqueued hs _ hp _ _ | notEnqueued hs _ hp _ _ =>
    cases hsub _ hs
    subst hp
    exact ⟨.cons rfl rfl rfl hlinked (.cons_of_none rfl .nil),
      hlinked.leftBy (hkeeps _ List.mem_cons_self)⟩

end Body

/-! ### The invariant -/

/-- No checkpoint is ahead of the attempts, and where the checkpoint of the current attempt says
that the body failed, the children are linked to this attempt. -/
structure Status.KeptLinked (sub : SubWorkflow) (length : Nat) (s : Status) : Prop where
  attempt_le : s.own.checkpoint.attempt ≤ s.own.attempts
  linked : s.IsCurrent → s.own.checkpoint.stage = .failing → Lookup.Linked sub length s

namespace WorkflowNode

variable {site : TickSite} {c : Collaborators σ} {s : Status} {w : σ} {sub : SubWorkflow}

/-- A note of the start does not say that the body failed. -/
lemma recordingStart_of_failing {o : TickOutcome σ Transition} {now : Instant}
    (h : (o.recordingStart now).status.own.checkpoint.stage = .failing) :
    o.recordingStart now = o := by
  unfold TickOutcome.recordingStart at h ⊢
  split
  · split
    · simp_all [Status.own_setCheckpoint]
    · rfl
  · rfl

/-- Whenever a tick calls the executor, the children are linked to the current attempt. -/
lemma Handles.linked {o : TickOutcome σ Transition} (h : Handles site c s w o)
    (hsub : ∀ sub', Body.resolve site = .ok sub' → sub' = sub)
    (hkept : s.KeptLinked sub site.config.uniqueIdLength)
    (hkeeps : ∀ x ∈ o.exchanges, x.call.KeepsLinks) :
    LinkedCalls sub site.config.uniqueIdLength (s.renewed site.now).own o.exchanges ∧
      o.status.KeptLinked sub site.config.uniqueIdLength := by
  have hattempt : o.status.own.checkpoint.attempt ≤ o.status.own.attempts := by
    rcases h.isCurrent with ⟨e, rfl⟩ | hcurrent
    · exact hkept.attempt_le
    · exact Nat.le_of_eq hcurrent
  cases h with
  | refused _ => exact ⟨.nil, hkept⟩
  | started _ hstage ho =>
    rw [TickOutcome.exchanges_recordingStart] at hkeeps ⊢
    obtain ⟨hcalls, hafter⟩ := ho.linked hsub hkeeps
    refine ⟨hcalls, hattempt, ?_⟩
    intro _ hfailing
    have hnote := recordingStart_of_failing hfailing
    rw [hnote] at hfailing ⊢
    rcases hafter with hlinked | hown
    · exact hlinked
    · rw [hown, hstage] at hfailing
      cases hfailing
  | checked _ hstage ho =>
    obtain ⟨hcalls, hafter⟩ := ho.linked hsub hkeeps
    refine ⟨hcalls, hattempt, ?_⟩
    intro _ hfailing
    rcases hafter with hlinked | hown
    · exact hlinked
    · rw [hown, hstage] at hfailing
      cases hfailing
  | failed _ hstage ho =>
    have hcurrent := Status.isCurrent_of_failing hstage
    rw [Status.renewed_of_isCurrent hcurrent] at hstage ho ⊢
    obtain ⟨hcalls, hafter⟩ := ho.linked hsub (hkept.linked hcurrent hstage) hkeeps
    exact ⟨hcalls, hattempt, fun _ _ => hafter⟩

/-- An abort keeps the children of a failing body linked. -/
lemma Aborts.keptLinked {reason : String} {o : TickOutcome σ Unit} {length : Nat}
    (h : Aborts site c reason s w o) (hkept : s.KeptLinked sub length)
    (hkeeps : ∀ x ∈ o.exchanges, x.call.KeepsLinks) : o.status.KeptLinked sub length := by
  have hown := h.own_eq
  cases h with
  | refused _ | unresolved _ _ => exact hkept
  | @settled _ a _ _ _ _ =>
    refine ⟨hown ▸ hkept.attempt_le, ?_⟩
    intro hcurrent hfailing
    have hlinked := hkept.linked (hcurrent.of_own_eq hown.symm) (hown ▸ hfailing)
    exact hlinked.leftBy (hkeeps _ List.mem_cons_self)

end WorkflowNode

/-! ### Runs -/

/-- No step breaks the invariant or changes the unique identifier of the enclosing node. -/
lemma Step.keptLinked {node : Node} {config : Config} {sub : SubWorkflow} {x : Step σ}
    (hx : x.Happens node config)
    (hsub : ∀ site sub', x.site? = some site → Body.resolve site = .ok sub' → sub' = sub)
    (hkeeps : ∀ y ∈ x.exchanges, y.call.KeepsLinks)
    (h : x.before.KeptLinked sub config.uniqueIdLength) :
    x.after.KeptLinked sub config.uniqueIdLength ∧
      x.after.own.uniqueId = x.before.own.uniqueId := by
  cases hx with
  | tick workflow now c s w =>
    have hhandles := WorkflowNode.handles_run ⟨node, workflow, config, now⟩ c s w
    refine ⟨(hhandles.linked (fun sub' => hsub _ sub' rfl) h hkeeps).2, ?_⟩
    exact Progress.uniqueId_eq_of_unrecorded_eq hhandles.unrecorded_own
  | abort workflow now c reason s w =>
    have haborts := WorkflowNode.aborts_run ⟨node, workflow, config, now⟩ c reason s w
    exact ⟨haborts.keptLinked h hkeeps, congrArg Progress.uniqueId haborts.own_eq⟩
  | @retry s t hcount =>
    obtain ⟨-, rfl⟩ := Status.incrementAttempts?_eq_some_iff.1 hcount
    have hlt : s.own.checkpoint.attempt < s.own.attempts + 1 := Nat.lt_succ_of_le h.attempt_le
    exact ⟨⟨Nat.le_of_lt hlt, fun hcurrent => absurd hcurrent (Nat.ne_of_lt hlt)⟩, rfl⟩

/-- In a run that began with no checkpoint, in which the executor leaves the links of children alone
and the sub-workflow stays the same, every call of the executor by a tick finds all children linked:
their identifiers are those under the current attempt of the enclosing node. -/
theorem Run.children_linked {node : Node} {config : Config} {sub : SubWorkflow} {s t : Status}
    {steps : List (Step σ)} (hrun : Run node config s steps t)
    (hs : s.own.checkpoint = Checkpoint.initial)
    (hsub : ∀ x ∈ steps, ∀ site sub', x.site? = some site → Body.resolve site = .ok sub' →
      sub' = sub)
    (hkeeps : ∀ x ∈ steps, ∀ y ∈ x.exchanges, y.call.KeepsLinks)
    {site : TickSite} {before : Status} {o : TickOutcome σ Transition}
    (hmem : .tick site before o ∈ steps) {y : Exchange σ} (hy : y ∈ o.exchanges) {l : Lookup}
    (hl : y.call.lookup? = some l) :
    l.subWorkflow = sub ∧ l.status.own.attempts = before.own.attempts ∧
      l.status.own.uniqueId = s.own.uniqueId ∧
        Lookup.Linked sub config.uniqueIdLength l.status := by
  have hinitial : s.KeptLinked sub config.uniqueIdLength := by
    refine ⟨?_, fun _ hfailing => ?_⟩
    · rw [hs]
      exact Nat.zero_le _
    · rw [hs] at hfailing
      cases hfailing
  obtain ⟨hhappens, hkept, hid⟩ := hrun.invariant_before
    (I := fun m => m.KeptLinked sub config.uniqueIdLength ∧ m.own.uniqueId = s.own.uniqueId)
    (fun x hx hhappens hI => by
      obtain ⟨hkept, hid⟩ := Step.keptLinked hhappens (hsub x hx) (hkeeps x hx) hI.1
      exact ⟨hkept, hid.trans hI.2⟩)
    ⟨hinitial, rfl⟩ hmem
  obtain ⟨rfl, rfl, c, w, hhandles⟩ := hhappens.handles
  obtain ⟨hcalls, -⟩ := hhandles.linked (fun sub' => hsub _ hmem _ sub' rfl) hkept (hkeeps _ hmem)
  obtain ⟨hlsub, hlown, hlinked⟩ := hcalls y hy l hl
  have hrecord : l.status.own.unrecorded = before.own.unrecorded := by
    rw [hlown, Status.unrecorded_renewed]
  exact ⟨hlsub, Progress.attempts_eq_of_unrecorded_eq hrecord,
    (Progress.uniqueId_eq_of_unrecorded_eq hrecord).trans hid, hlinked⟩

namespace Sample

/-- The tick in which the graph fails. -/
def failedTick : TickOutcome Unit Transition :=
  (WorkflowNode.handle site (reporting (.failed none) .complete)).run status ()

/-- The tick after it, in which the failure node runs. -/
def cleaningTick : TickOutcome Unit Transition :=
  (WorkflowNode.handle site (reporting (.failed none) .complete)).run failedTick.status ()

/-- The lookup that the failure node gets, although its tick did not link the children. -/
def cleaningLookup : Lookup := ⟨body, failedTick.status⟩

/-- The executor of the sample makes no visits, so it leaves all links alone. -/
lemma keepsLinks_of_failedTick :
    ∀ x ∈ [Step.tick site status failedTick, .tick site failedTick.status cleaningTick],
      ∀ y ∈ x.exchanges, y.call.KeepsLinks := by
  intro x hx y hy
  rcases List.mem_pair.1 hx with rfl | rfl
  · change y ∈ [⟨.readInputs _, ()⟩, ⟨.seed _ _ ⟨_, []⟩, ()⟩, ⟨.drive _ _ ⟨_, []⟩, ()⟩] at hy
    rcases List.mem_cons.1 hy with rfl | hy
    · exact trivial
    · rcases List.mem_pair.1 hy with rfl | rfl <;> exact fun node child h => ⟨child, h, rfl⟩
  · change y ∈ [⟨.drive _ _ ⟨_, []⟩, ()⟩] at hy
    cases List.mem_singleton.1 hy
    exact fun node child h => ⟨child, h, rfl⟩

/-- The failure node of the sample finds its status linked to the current attempt. -/
theorem cleaningLookup_linked :
    cleaningLookup.status.own.attempts = 0 ∧
      Lookup.Linked body Config.default.uniqueIdLength cleaningLookup.status := by
  have hrun : Run node Config.default status
      [.tick site status failedTick, .tick site failedTick.status cleaningTick]
      cleaningTick.status :=
    .cons (.tick _ _ _ status ()) (.cons (.tick _ _ _ _ ()) (.nil _))
  have hsub : ∀ x ∈ [Step.tick site status failedTick, .tick site failedTick.status cleaningTick],
      ∀ site' sub', x.site? = some site' → Body.resolve site' = .ok sub' → sub' = body := by
    intro x hx site' sub' hsite hresolve
    have hsame : site' = site := by
      rcases List.mem_pair.1 hx with rfl | rfl <;> exact (Option.some.inj hsite).symm
    subst hsame
    exact (Except.ok.inj hresolve).symm
  have hmem : .tick site failedTick.status cleaningTick ∈
      [Step.tick site status failedTick, .tick site failedTick.status cleaningTick] :=
    .tail _ (.head _)
  obtain ⟨-, hattempts, -, hlinked⟩ := Run.children_linked hrun rfl hsub keepsLinks_of_failedTick
    hmem (.head _) (l := cleaningLookup) rfl
  exact ⟨hattempts, hlinked⟩

end Sample

end NestedWorkflow
