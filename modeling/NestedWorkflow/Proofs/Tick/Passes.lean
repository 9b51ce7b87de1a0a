import NestedWorkflow.Proofs.Graph.Order
import NestedWorkflow.Proofs.Tick.Frame

/-!
# Ticks that drive the graph

A tick either makes one pass from the start node, with all declared nodes reached, and goes on with
what the pass reported (`Driven`), or it neither makes such a pass nor turns to the store nor
succeeds (`Withheld`).  There is nothing else (`WorkflowNode.Handles.driven_or_withheld`), and a
tick makes no second pass after one from the start node (`Driven.eq_of_pass_mem`).
-/

namespace NestedWorkflow

variable {σ : Type}

/-- What a tick may call before it makes a pass from the start node. -/
inductive Call.Prepares : Call → Prop
  | readInputs (answer : Except InputError LiteralMap) : Prepares (.readInputs answer)
  | seed (lookup : Lookup) (inputs : LiteralMap) (answer : Answer Rollup) :
      Prepares (.seed lookup inputs answer)

/-- A tick on a status made this pass from the start node, and its outcome is what came of it. -/
structure Driven (site : TickSite) (c : Collaborators σ) (s : Status)
    (o : TickOutcome σ Transition) (p : Pass σ) : Prop where
  resolved : Body.resolve site = .ok p.lookup.subWorkflow
  start_eq : p.start = startNodeId
  own_eq : p.lookup.status.own = (s.renewed site.now).own
  reached : ∀ node, (p.lookup.subWorkflow.node? node).isSome →
    (p.lookup.status.child? node).isSome
  followed : ∃ past o', (∀ x ∈ past, x.call.Prepares) ∧
    Body.Advances site c p.lookup.subWorkflow p o' ∧
      o = (o'.after past).recordingStart site.now

/-- A tick that does not drive the graph from its start node neither probes nor copies anything, and
it does not succeed. -/
structure Withheld (o : TickOutcome σ Transition) : Prop where
  not_driven : ∀ x ∈ o.exchanges, ∀ l a, x.call ≠ .drive l startNodeId a
  not_probed : ∀ x ∈ o.exchanges, ∀ path a, x.call ≠ .head path a
  not_copied : ∀ x ∈ o.exchanges, ∀ source destination a, x.call ≠ .copy source destination a
  not_succeeded : ∀ output, o.result ≠ .ok (.succeeded output)

/-! ### After a pass -/

namespace Body

variable {site : TickSite} {c : Collaborators σ} {s : Status} {w : σ}
  {o : TickOutcome σ Transition}

/-- No graph is driven while outputs are propagated. -/
lemma Propagates.pass_notMem {sub : SubWorkflow} (h : Propagates site c sub s w o) (p : Pass σ) :
    p.exchange ∉ o.exchanges := by
  cases h <;> simp [Pass.exchange]

/-- A tick that goes on after a pass makes no other pass. -/
lemma Advances.eq_of_pass_mem {sub : SubWorkflow} {p q : Pass σ} (h : Advances site c sub q o)
    (hp : p.exchange ∈ o.exchanges) : p = q := by
  rw [← Pass.exchange_inj]
  cases h with
  | halted _ => simpa using hp
  | running _ => simpa using hp
  | failed _ => simpa using hp
  | enqueued _ _ => simpa [Pass.exchange] using hp
  | notEnqueued _ _ => simpa [Pass.exchange] using hp
  | completed _ ho =>
    rcases List.mem_cons.1 hp with heq | hmem
    · exact heq
    · exact absurd hmem (ho.pass_notMem p)

/-- The pass itself is noted. -/
lemma Advances.pass_mem {sub : SubWorkflow} {p : Pass σ} (h : Advances site c sub p o) :
    p.exchange ∈ o.exchanges := by
  cases h <;> simp [TickOutcome.after]

/-- Only a body that has not been noted to execute can be noted to have started. -/
lemma Advances.recordingStart_eq {sub : SubWorkflow} {p : Pass σ} (h : Advances site c sub p o)
    (hstage : p.lookup.status.own.checkpoint.stage ≠ .undefined) (now : Instant) :
    o.recordingStart now = o := by
  rw [← p.own_status] at hstage
  cases h with
  | halted _ => rfl
  | running _ => simp only [TickOutcome.recordingStart, hstage, if_false]
  | failed _ =>
    refine TickOutcome.recordingStart_of_ne_running (fun h => ?_) now
    simp only [Except.ok.injEq, graphFailure] at h
    split at h <;> cases h
  | enqueued _ _ => simp only [TickOutcome.recordingStart, hstage, if_false]
  | notEnqueued _ _ => rfl
  | completed _ ho => cases ho <;> rfl

end Body

/-! ### The shapes of a tick -/

/-- Noting a start keeps a tick withheld. -/
lemma Withheld.recordingStart {o : TickOutcome σ Transition} (h : Withheld o) (now : Instant) :
    Withheld (o.recordingStart now) where
  not_driven := by
    rw [TickOutcome.exchanges_recordingStart]
    exact h.not_driven
  not_probed := by
    rw [TickOutcome.exchanges_recordingStart]
    exact h.not_probed
  not_copied := by
    rw [TickOutcome.exchanges_recordingStart]
    exact h.not_copied
  not_succeeded := by
    rw [TickOutcome.result_recordingStart]
    exact h.not_succeeded

/-- A linking that succeeds reaches every declared node. -/
lemma TickSite.isSome_child?_linking {site : TickSite} {sub : SubWorkflow} {s : Status}
    (hl : (site.linking sub s).1 = .ok ()) {node : NodeId} (hnode : (sub.node? node).isSome) :
    ((site.linking sub s).2.child? node).isSome := by
  obtain ⟨parent, -, hlinked⟩ := Lookup.linked_of_link_eq_ok hl
  obtain ⟨child, id, hchild, -⟩ := hlinked node hnode
  exact Option.isSome_of_mem hchild

namespace Body

variable {site : TickSite} {c : Collaborators σ} {s : Status} {w : σ}
  {o : TickOutcome σ Transition}

/-- After the body has failed a tick calls nothing but a pass from the failure node, and the hook
for another tick. -/
lemma Fails.call_cases (h : Fails site c s w o) {x : Exchange σ} (hx : x ∈ o.exchanges) :
    (∃ (sub : SubWorkflow) (node : Node), resolve site = .ok sub ∧ sub.failureNode = some node ∧
      x = (site.pass c sub node.id s w).exchange) ∨ ∃ answer, x.call = .enqueue answer := by
  cases h with
  | unresolved _ => simp at hx
  | withoutFailureNode _ _ => simp at hx
  | halted hs hn hp _ | running hs hn hp _ | failed hs hn hp _ | completed hs hn hp _ =>
    exact .inl ⟨_, _, hs, hn, hp ▸ List.mem_singleton.1 hx⟩
  | enqueued hs hn hp _ _ | notEnqueued hs hn hp _ _ =>
    rcases List.mem_pair.1 hx with hx | hx
    · exact .inl ⟨_, _, hs, hn, hp ▸ hx⟩
    · exact .inr ⟨_, congrArg Exchange.call hx⟩

/-- After the body has failed a tick does not drive the graph from its start node. -/
lemma Fails.withheld (h : Fails site c s w o) : Withheld o where
  not_driven x hx l a := by
    rcases h.call_cases hx with ⟨sub, node, -, hn, rfl⟩ | ⟨answer, hcall⟩
    · intro heq
      exact sub.failureNode_ne_startNode hn (Call.drive.inj heq).2.1
    · rw [hcall]
      simp
  not_probed x hx path a := by
    rcases h.call_cases hx with ⟨sub, node, -, -, rfl⟩ | ⟨answer, hcall⟩
    · simp [Pass.exchange]
    · rw [hcall]
      simp
  not_copied x hx source destination a := by
    rcases h.call_cases hx with ⟨sub, node, -, -, rfl⟩ | ⟨answer, hcall⟩
    · simp [Pass.exchange]
    · rw [hcall]
      simp
  not_succeeded output := by
    cases h <;> simp [Body.unresolved]

/-- A first tick comes to a pass with the declared nodes reached, or it is withheld. -/
lemma Starts.advances_or_withheld (h : Starts site c s w o) :
    (∃ (sub : SubWorkflow) (past : List (Exchange σ)) (p : Pass σ)
        (o' : TickOutcome σ Transition), resolve site = .ok sub ∧
      p.lookup.subWorkflow = sub ∧ p.start = startNodeId ∧ p.lookup.status.own = s.own ∧
      (∀ node, (sub.node? node).isSome → (p.lookup.status.child? node).isSome) ∧
      (∀ x ∈ past, x.call.Prepares) ∧ Advances site c sub p o' ∧ o = o'.after past) ∨
    Withheld o := by
  cases h with
  | unresolved _ => exact .inr ⟨by simp, by simp, by simp, by simp [Body.unresolved]⟩
  | unlinked _ _ => exact .inr ⟨by simp, by simp, by simp, by simp⟩
  | unread _ _ _ => exact .inr ⟨by simp, by simp, by simp, by simp⟩
  | seedHalted _ _ _ _ _ =>
    exact .inr ⟨by simp [Seeding.exchange], by simp [Seeding.exchange], by simp [Seeding.exchange],
      by simp⟩
  | seedFailed _ _ _ _ _ =>
    exact .inr ⟨by simp [Seeding.exchange], by simp [Seeding.exchange], by simp [Seeding.exchange],
      by simp⟩
  | @advanced sub inputs w' q r o hs hl read hq _ _ ho =>
    have hown : q.status.own = s.own := by
      rw [← hq]
      exact site.own_seeded c sub inputs s w'
    have hreached : ∀ node, (sub.node? node).isSome → (q.status.child? node).isSome := by
      intro node hnode
      subst hq
      exact Lookup.isSome_child?_leftBy _ _ (site.isSome_child?_linking hl hnode)
    refine .inl ⟨sub, _, _, o, hs, rfl, rfl, hown, hreached, ?_, ho, rfl⟩
    rintro x hx
    rcases List.mem_pair.1 hx with rfl | rfl
    · exact .readInputs _
    · exact .seed _ _ _

end Body

namespace WorkflowNode

open Body

variable {site : TickSite} {c : Collaborators σ} {s : Status} {w : σ}
  {o : TickOutcome σ Transition}

/-- A tick drives the graph from its start node and goes on from there, or does nothing of it. -/
theorem Handles.driven_or_withheld (h : Handles site c s w o) :
    (∃ p, Driven site c s o p) ∨ Withheld o := by
  cases h with
  | refused _ => exact .inr ⟨by simp, by simp, by simp, by simp⟩
  | started _ _ ho =>
    rcases ho.advances_or_withheld with
      ⟨sub, past, p, o', hs, rfl, hstart, hown, hreached, hpast, ho', rfl⟩ | hwithheld
    · exact .inl ⟨p, hs, hstart, hown, hreached, past, o', hpast, ho', rfl⟩
    · exact .inr (hwithheld.recordingStart site.now)
  | checked _ hstage ho =>
    cases ho with
    | unresolved _ => exact .inr ⟨by simp, by simp, by simp, by simp [Body.unresolved]⟩
    | unlinked _ _ => exact .inr ⟨by simp, by simp, by simp, by simp⟩
    | @advanced sub o hs hl ho =>
      have hown : (site.linking sub (s.renewed site.now)).2.own = (s.renewed site.now).own :=
        site.own_linking sub _
      -- The body is noted to execute already, so there is no start to be noted.
      have hexecuting : (site.linking sub (s.renewed site.now)).2.own.checkpoint.stage
          ≠ .undefined := by
        rw [hown, hstage]
        decide
      have hreached : ∀ node, (sub.node? node).isSome →
          ((site.linking sub (s.renewed site.now)).2.child? node).isSome :=
        fun node hnode => site.isSome_child?_linking hl hnode
      refine .inl ⟨site.pass c sub startNodeId _ w, hs, rfl, hown, hreached, ?_⟩
      exact ⟨[], o, by simp, ho, (ho.recordingStart_eq hexecuting site.now).symm⟩
  | failed _ _ ho => exact .inr ho.withheld

end WorkflowNode

namespace Driven

variable {site : TickSite} {c : Collaborators σ} {s : Status} {o : TickOutcome σ Transition}
  {p q : Pass σ}

/-- The pass is noted. -/
lemma pass_mem (h : Driven site c s o p) : p.exchange ∈ o.exchanges := by
  obtain ⟨past, o', -, ho', rfl⟩ := h.followed
  rw [TickOutcome.exchanges_recordingStart]
  exact List.mem_append_right _ ho'.pass_mem

/-- The tick makes no other pass. -/
lemma eq_of_pass_mem (h : Driven site c s o q) (hp : p.exchange ∈ o.exchanges) : p = q := by
  obtain ⟨past, o', hpast, ho', rfl⟩ := h.followed
  rw [TickOutcome.exchanges_recordingStart] at hp
  rcases List.mem_append.1 hp with hmem | hmem
  · cases hpast _ hmem
  · exact ho'.eq_of_pass_mem hmem

end Driven

/-- A tick that noted a pass from the start node went on from there. -/
theorem WorkflowNode.Handles.driven_of_pass_mem {site : TickSite} {c : Collaborators σ}
    {s : Status} {w : σ} {o : TickOutcome σ Transition} (h : Handles site c s w o) {p : Pass σ}
    (hp : p.exchange ∈ o.exchanges) (hstart : p.start = startNodeId) : Driven site c s o p := by
  rcases h.driven_or_withheld with ⟨q, hq⟩ | hwithheld
  · rw [hq.eq_of_pass_mem hp]
    exact hq
  · have hcall : p.exchange.call = .drive p.lookup startNodeId p.answer := hstart ▸ rfl
    exact absurd hcall (hwithheld.not_driven _ hp _ _)

end NestedWorkflow
