import NestedWorkflow.Proofs.Lookup.Undated
import NestedWorkflow.Proofs.Tick.Frame

/-!
# No tick depends on a date

Two ticks *agree* in two states if they have the same result and leave states that differ in dates
only (`Tick.Agree`).  Agreement goes through sequences, so it is enough to look at the steps one by
one.  The outcome: ticks that start from checkpoints of the current attempt which agree up to dates
do the same, make the same calls and leave the same, all up to dates
(`WorkflowNode.undated_handle`), as long as the executor does not look at dates either
(`Collaborators.IgnoresDate`).  The times at which the two ticks happen may differ.
-/

namespace NestedWorkflow

variable {σ α β : Type}

/-- The same place at another time. -/
def TickSite.at (site : TickSite) (now : Instant) : TickSite := { site with now := now }

/-! ### Leaving dates out -/

/-- The call without the date of the status that was handed on. -/
def Call.undated : Call → Call
  | .seed l inputs a => .seed l.undated inputs a
  | .drive l start a => .drive l.undated start a
  | .abort l start reason a => .abort l.undated start reason a
  | call => call

/-- The exchange without the date of the status that was handed on. -/
def Exchange.undated (x : Exchange σ) : Exchange σ := { x with call := x.call.undated }

/-- The state of a tick without dates of the enclosing status. -/
def TickState.undated (st : TickState σ) : TickState σ :=
  ⟨st.status.undated, st.world, st.exchanges.map Exchange.undated⟩

/-- The outcome of a tick without dates of the enclosing status. -/
def TickOutcome.undated (o : TickOutcome σ α) : TickOutcome σ α :=
  ⟨o.result, o.status.undated, o.world, o.exchanges.map Exchange.undated⟩

/-- The executor does not look at the date of the enclosing status. -/
structure Collaborators.IgnoresDate (c : Collaborators σ) : Prop where
  seed_undated : ∀ workflow l inputs w,
    c.seed workflow (Lookup.undated l) inputs w = c.seed workflow l inputs w
  drive_undated : ∀ workflow l start w,
    c.drive workflow (Lookup.undated l) start w = c.drive workflow l start w

namespace Tick

/-! ### Agreement -/

/-- From these states the ticks come to the same result, and to states that differ in dates only. -/
def Agree (t t' : Tick σ α) (st st' : TickState σ) : Prop :=
  (exec t st).1 = (exec t' st').1 ∧ (exec t st).2.undated = (exec t' st').2.undated

variable {st st' : TickState σ}

/-- Sequences agree if their first steps do and what follows does. -/
lemma Agree.bind {t t' : Tick σ α} {f f' : α → Tick σ β} (ht : Agree t t' st st')
    (hf : ∀ a st₁ st₁', st₁.undated = st₁'.undated → Agree (f a) (f' a) st₁ st₁') :
    Agree (t >>= f) (t' >>= f') st st' := by
  obtain ⟨hresult, hstate⟩ := ht
  unfold Agree
  rw [exec_bind, exec_bind]
  rcases h : exec t st with ⟨r, st₁⟩
  rcases h' : exec t' st' with ⟨r', st₁'⟩
  rw [h, h'] at hresult hstate
  cases hresult
  cases r with
  | error e => exact ⟨rfl, hstate⟩
  | ok a => exact hf a st₁ st₁' hstate

/-- A step without calls that succeeds in both states hands on its value. -/
lemma Agree.bind_yields {t t' : Tick σ α} {f f' : α → Tick σ β} {s₁ s₁' : Status} {a a' : α}
    (ht : t.Yields st.status st.world ⟨.ok a, s₁, st.world, []⟩)
    (ht' : t'.Yields st'.status st'.world ⟨.ok a', s₁', st'.world, []⟩)
    (hf : Agree (f a) (f' a') { st with status := s₁ } { st' with status := s₁' }) :
    Agree (t >>= f) (t' >>= f') st st' := by
  unfold Agree
  rw [exec_bind, exec_bind, ht st.exchanges, ht' st'.exchanges]
  simp only [List.append_nil]
  exact hf

lemma agree_pure (a : α) (h : st.undated = st'.undated) : Agree (pure a) (pure a) st st' :=
  ⟨rfl, h⟩

lemma agree_throw (e : HandlerError) (h : st.undated = st'.undated) :
    Agree (throw e : Tick σ α) (throw e) st st' :=
  ⟨rfl, h⟩

/-- Equal states agree apart from dates in the status, the world and the exchanges. -/
lemma undated_eq_iff : st.undated = st'.undated ↔
    st.status.undated = st'.status.undated ∧ st.world = st'.world ∧
      st.exchanges.map Exchange.undated = st'.exchanges.map Exchange.undated := by
  simp only [TickState.undated, TickState.mk.injEq]

/-- Steps with outcomes that differ in dates only agree. -/
lemma agree_of_yields {t t' : Tick σ α} {o o' : TickOutcome σ α} (h : st.undated = st'.undated)
    (ht : t.Yields st.status st.world o) (ht' : t'.Yields st'.status st'.world o')
    (ho : o.undated = o'.undated) : Agree t t' st st' := by
  obtain ⟨-, -, hpast⟩ := undated_eq_iff.1 h
  simp only [TickOutcome.undated, TickOutcome.mk.injEq] at ho
  obtain ⟨hresult, hstatus, hworld, hexchanges⟩ := ho
  unfold Agree
  rw [ht st.exchanges, ht' st'.exchanges]
  refine ⟨hresult, undated_eq_iff.2 ⟨hstatus, hworld, ?_⟩⟩
  rw [List.map_append, List.map_append, hpast, hexchanges]

/-- Changes of the status agree if they come to the same up to dates. -/
lemma agree_modifyStatus {f f' : Status → Status} (h : st.undated = st'.undated)
    (hf : (f st.status).undated = (f' st'.status).undated) :
    Agree (modifyStatus f) (modifyStatus f') st st' := by
  obtain ⟨-, hw, hpast⟩ := undated_eq_iff.1 h
  exact ⟨rfl, undated_eq_iff.2 ⟨hf, hw, hpast⟩⟩

/-! ### Calls -/

/-- A call that does not concern the status is answered alike. -/
lemma agree_of_yields_answer {t : Tick σ α} {result : σ → Except HandlerError α} {next : σ → σ}
    {noted : σ → List (Exchange σ)} (h : st.undated = st'.undated)
    (ht : ∀ s w, t.Yields s w ⟨result w, s, next w, noted w⟩) : Agree t t st st' := by
  obtain ⟨hs, hw, -⟩ := undated_eq_iff.1 h
  refine agree_of_yields h (ht _ _) (ht _ _) ?_
  unfold TickOutcome.undated
  rw [hs, hw]

lemma agree_readInputs (c : Collaborators σ) (h : st.undated = st'.undated) :
    Agree (readInputs c) (readInputs c) st st' :=
  agree_of_yields_answer h fun _ _ => yields_readInputs c rfl

lemma agree_head (c : Collaborators σ) (path : Reference) (h : st.undated = st'.undated) :
    Agree (head c path) (head c path) st st' :=
  agree_of_yields_answer h fun _ _ => yields_head c rfl

lemma agree_copy (c : Collaborators σ) (source destination : Reference)
    (h : st.undated = st'.undated) :
    Agree (copy c source destination) (copy c source destination) st st' :=
  agree_of_yields_answer h fun _ _ => yields_copy c rfl

lemma agree_enqueue (c : Collaborators σ) (h : st.undated = st'.undated) :
    Agree (enqueue c) (enqueue c) st st' :=
  agree_of_yields_answer h fun _ _ => yields_enqueue c rfl

/-- An executor that ignores the date is asked the same, and leaves the same. -/
lemma agree_of_yields_settled {t t' : Tick σ Rollup} (sub : SubWorkflow)
    (call : Lookup → σ → Answer Rollup × σ) (note : Lookup → Answer Rollup → Call)
    (h : st.undated = st'.undated) (hcall : ∀ l w, call (Lookup.undated l) w = call l w)
    (hnote : ∀ l a, (note l a).undated = note (Lookup.undated l) a)
    (ht : ∀ s w a w', call ⟨sub, s⟩ w = (a, w') →
      t.Yields s w ⟨a.result.mapError .executor, Lookup.leftBy ⟨sub, s⟩ a, w',
        [⟨note ⟨sub, s⟩ a, w'⟩]⟩)
    (ht' : ∀ s w a w', call ⟨sub, s⟩ w = (a, w') →
      t'.Yields s w ⟨a.result.mapError .executor, Lookup.leftBy ⟨sub, s⟩ a, w',
        [⟨note ⟨sub, s⟩ a, w'⟩]⟩) : Agree t t' st st' := by
  obtain ⟨hs, hw, -⟩ := undated_eq_iff.1 h
  have hl : Lookup.undated ⟨sub, st.status⟩ = Lookup.undated ⟨sub, st'.status⟩ :=
    congrArg (Lookup.mk sub) hs
  rcases ha : call ⟨sub, st.status⟩ st.world with ⟨a, w⟩
  have ha' : call ⟨sub, st'.status⟩ st'.world = (a, w) := by
    rw [← hcall, ← hl, hcall, ← hw, ha]
  refine agree_of_yields h (ht _ _ a w ha) (ht' _ _ a w ha') ?_
  simp only [TickOutcome.undated, List.map_cons, List.map_nil, Exchange.undated, hnote,
    ← Lookup.leftBy_undated, hl]

variable {site : TickSite} {c : Collaborators σ}

lemma agree_seed (hc : c.IgnoresDate) (later : Instant) (sub : SubWorkflow) (inputs : LiteralMap)
    (h : st.undated = st'.undated) :
    Agree (seed site c sub inputs) (seed (site.at later) c sub inputs) st st' :=
  agree_of_yields_settled sub (fun l w => c.seed site.workflow l inputs w)
    (fun l a => .seed l inputs a) h (fun l w => hc.seed_undated site.workflow l inputs w)
    (fun _ _ => rfl) (fun _ _ _ _ => yields_seed site c sub inputs)
    (fun _ _ _ _ => yields_seed (site.at later) c sub inputs)

lemma agree_drive (hc : c.IgnoresDate) (later : Instant) (sub : SubWorkflow) (start : NodeId)
    (h : st.undated = st'.undated) :
    Agree (drive site c sub start) (drive (site.at later) c sub start) st st' :=
  agree_of_yields_settled sub (fun l w => c.drive site.workflow l start w)
    (fun l a => .drive l start a) h (fun l w => hc.drive_undated site.workflow l start w)
    (fun _ _ => rfl) (fun _ _ _ _ => yields_drive site c sub start)
    (fun _ _ _ _ => yields_drive (site.at later) c sub start)

end Tick

/-! ### The body -/

namespace Body

open Tick

variable {site : TickSite} {c : Collaborators σ} {st st' : TickState σ}

/-- Where the outputs are does not depend on the date. -/
lemma outputSource?_undated (site : TickSite) (sub : SubWorkflow) (s : Status) :
    outputSource? site sub s.undated = outputSource? site sub s := by
  unfold outputSource?
  simp only [Status.child?_undated]

lemma agree_linkChildren (later : Instant) (sub : SubWorkflow) (h : st.undated = st'.undated) :
    Agree (linkChildren site sub) (linkChildren (site.at later) sub) st st' := by
  obtain ⟨hs, hw, -⟩ := undated_eq_iff.1 h
  have hlink : ∀ s : Status, site.linking sub s.undated =
      ((site.linking sub s).1, (site.linking sub s).2.undated) :=
    fun s => Lookup.link_undated sub s.own.attempts site.config.uniqueIdLength s
  have heq := congrArg (site.linking sub) hs
  rw [hlink, hlink] at heq
  obtain ⟨hresult, hstatus⟩ := Prod.mk.inj heq
  refine agree_of_yields h (yields_linkChildren site sub st.status st.world)
    (yields_linkChildren (site.at later) sub st'.status st'.world) ?_
  unfold TickOutcome.undated
  change (⟨(site.linking sub st.status).1.mapError _, _, _, _⟩ : TickOutcome σ Unit) =
    ⟨(site.linking sub st'.status).1.mapError _, (site.linking sub st'.status).2.undated, _, _⟩
  rw [hresult, hstatus, hw]

lemma agree_propagateOutputs (c : Collaborators σ) (later : Instant) (sub : SubWorkflow)
    (h : st.undated = st'.undated) :
    Agree (propagateOutputs site c sub) (propagateOutputs (site.at later) c sub) st st' := by
  obtain ⟨hs, -, -⟩ := undated_eq_iff.1 h
  have hsource : outputSource? site sub st.status =
      outputSource? (site.at later) sub st'.status := by
    rw [← outputSource?_undated, hs, outputSource?_undated]
    rfl
  have htarget : st.status.own.outputDir = st'.status.own.outputDir :=
    congrArg (fun s => s.own.outputDir) hs
  unfold propagateOutputs
  cases sub.bindings.isEmpty with
  | true => exact agree_pure _ h
  | false =>
    simp only [Bool.false_eq_true, if_false]
    refine Agree.bind_yields (yields_status _ _) (yields_status _ _) ?_
    rw [hsource, htarget]
    cases outputSource? (site.at later) sub st'.status with
    | none => exact agree_pure _ h
    | some source =>
      refine (agree_head c source h).bind fun found st₁ st₁' h₁ => ?_
      cases found with
      | error e => exact agree_throw _ h₁
      | ok found =>
        by_cases hfound : found.exists? = false
        · simp only [hfound, if_true]
          exact agree_pure _ h₁
        · simp only [hfound]
          refine (agree_copy c _ _ h₁).bind fun done st₂ st₂' h₂ => ?_
          cases done with
          | error e => exact agree_pure _ h₂
          | ok _ => exact agree_pure _ h₂

lemma agree_recordFailure (later : Instant) (sub : SubWorkflow) (error : ExecutionError)
    (h : st.undated = st'.undated) :
    Agree (recordFailure site sub error) (recordFailure (site.at later) sub error) st st' := by
  obtain ⟨hs, -, -⟩ := undated_eq_iff.1 h
  have hattempts : st.status.own.attempts = st'.status.own.attempts :=
    congrArg (fun s => s.own.attempts) hs
  unfold recordFailure
  refine Agree.bind_yields (yields_status _ _) (yields_status _ _) ?_
  rw [hattempts]
  refine (agree_modifyStatus h (Status.undated_setCheckpoint hs _ site.now later)).bind
    fun _ st₁ st₁' h₁ => ?_
  cases sub.failureNode.isSome with
  | true => exact agree_pure _ h₁
  | false => exact agree_pure _ h₁

lemma agree_advance (hc : c.IgnoresDate) (later : Instant) (sub : SubWorkflow)
    (h : st.undated = st'.undated) :
    Agree (advance site c sub) (advance (site.at later) c sub) st st' := by
  unfold advance
  refine (agree_drive hc later sub startNodeId h).bind fun r st₁ st₁' h₁ => ?_
  cases r with
  | running => exact agree_pure _ h₁
  | failed error => exact agree_recordFailure later sub _ h₁
  | complete => exact agree_propagateOutputs c later sub h₁
  | partiallyComplete =>
    exact (agree_enqueue c h₁).bind fun _ st₂ st₂' h₂ => agree_pure _ h₂

lemma agree_start (hc : c.IgnoresDate) (later : Instant) (h : st.undated = st'.undated) :
    Agree (start site c) (start (site.at later) c) st st' := by
  have hresolve : resolve (site.at later) = resolve site := rfl
  unfold start
  rw [hresolve]
  cases resolve site with
  | error e => exact agree_pure _ h
  | ok sub =>
    refine (agree_linkChildren later sub h).bind fun _ st₁ st₁' h₁ => ?_
    refine (agree_readInputs c h₁).bind fun read st₂ st₂' h₂ => ?_
    cases read with
    | error e => exact agree_pure _ h₂
    | ok inputs =>
      refine (agree_seed hc later sub inputs h₂).bind fun r st₃ st₃' h₃ => ?_
      cases r with
      | failed error => exact agree_pure _ h₃
      | running | partiallyComplete | complete => exact agree_advance hc later sub h₃

lemma agree_checkStatus (hc : c.IgnoresDate) (later : Instant) (h : st.undated = st'.undated) :
    Agree (checkStatus site c) (checkStatus (site.at later) c) st st' := by
  have hresolve : resolve (site.at later) = resolve site := rfl
  unfold checkStatus
  rw [hresolve]
  cases resolve site with
  | error e => exact agree_pure _ h
  | ok sub =>
    exact (agree_linkChildren later sub h).bind fun _ st₁ st₁' h₁ => agree_advance hc later sub h₁

lemma agree_handleFailing (hc : c.IgnoresDate) (later : Instant) (h : st.undated = st'.undated) :
    Agree (handleFailing site c) (handleFailing (site.at later) c) st st' := by
  obtain ⟨hs, -, -⟩ := undated_eq_iff.1 h
  have hcheckpoint : st.status.own.checkpoint = st'.status.own.checkpoint :=
    congrArg (fun s => s.own.checkpoint) hs
  have hresolve : resolve (site.at later) = resolve site := rfl
  unfold handleFailing
  rw [hresolve]
  cases resolve site with
  | error e => exact agree_pure _ h
  | ok sub =>
    refine Agree.bind_yields (yields_status _ _) (yields_status _ _) ?_
    rw [hcheckpoint]
    cases sub.failureNode with
    | none => exact agree_pure _ h
    | some node =>
      refine (agree_drive hc later sub node.id h).bind fun r st₁ st₁' h₁ => ?_
      cases r with
      | running | failed _ | complete => exact agree_pure _ h₁
      | partiallyComplete =>
        exact (agree_enqueue c h₁).bind fun _ st₂ st₂' h₂ => agree_pure _ h₂

end Body

/-! ### The node -/

namespace WorkflowNode

open Tick

variable {site : TickSite} {c : Collaborators σ} {st st' : TickState σ}

lemma agree_recordStart (later : Instant) (a : Transition) (h : st.undated = st'.undated) :
    Agree (recordStart site a) (recordStart (site.at later) a) st st' := by
  obtain ⟨hs, -, -⟩ := undated_eq_iff.1 h
  have hstage : st.status.own.checkpoint.stage = st'.status.own.checkpoint.stage :=
    congrArg (fun s => s.own.checkpoint.stage) hs
  have hattempts : st.status.own.attempts = st'.status.own.attempts :=
    congrArg (fun s => s.own.attempts) hs
  cases a with
  | running =>
    unfold recordStart
    refine Agree.bind_yields (yields_status _ _) (yields_status _ _) ?_
    rw [hstage]
    by_cases hundefined : st'.status.own.checkpoint.stage = .undefined
    · have hnoted :
          (st.status.setCheckpoint ⟨.executing, none, st.status.own.attempts⟩ site.now).undated =
            (st'.status.setCheckpoint ⟨.executing, none, st'.status.own.attempts⟩
              later).undated := by
        rw [hattempts]
        exact Status.undated_setCheckpoint hs _ site.now later
      simp only [hundefined, if_true]
      exact agree_modifyStatus h hnoted
    · simp only [hundefined]
      exact agree_pure _ h
  | failing _ | failed _ | succeeded _ => exact agree_pure _ h

lemma agree_resume (hc : c.IgnoresDate) (later : Instant) (stage : Stage)
    (h : st.undated = st'.undated) :
    Agree (resume site c stage) (resume (site.at later) c stage) st st' := by
  cases stage with
  | undefined =>
    refine (Body.agree_start hc later h).bind fun a st₁ st₁' h₁ => ?_
    exact (agree_recordStart later a h₁).bind fun _ st₂ st₂' h₂ => agree_pure a h₂
  | executing => exact Body.agree_checkStatus hc later h
  | failing => exact Body.agree_handleFailing hc later h

/-- Ticks at any two times do the same up to dates, on statuses that are the same up to dates once
their outdated checkpoints are replaced. -/
theorem undated_handle (hc : c.IgnoresDate) (hnode : ensureWorkflowNode site.node = .ok ())
    (later : Instant) {s s' : Status} (w : σ)
    (hs : (s.renewed site.now).undated = (s'.renewed later).undated) :
    ((handle site c).run s w).undated = ((handle (site.at later) c).run s' w).undated := by
  have hstage : (s.renewed site.now).own.checkpoint.stage =
      (s'.renewed later).own.checkpoint.stage :=
    congrArg (fun s => s.own.checkpoint.stage) hs
  have hagree : Agree (handle site c) (handle (site.at later) c) ⟨s, w, []⟩ ⟨s', w, []⟩ := by
    unfold Agree
    rw [exec_handle site c hnode, exec_handle (site.at later) c hnode, hstage]
    exact agree_resume hc later _ (undated_eq_iff.2 ⟨hs, rfl, rfl⟩)
  obtain ⟨hresult, hstate⟩ := hagree
  obtain ⟨hstatus, hworld, hexchanges⟩ := undated_eq_iff.1 hstate
  simp only [TickOutcome.undated, TickOutcome.mk.injEq]
  exact ⟨hresult, hstatus, hworld, hexchanges⟩

end WorkflowNode

end NestedWorkflow
