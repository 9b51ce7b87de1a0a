import Mathlib.Tactic.Set
import NestedWorkflow.Proofs.Tick.Execution

/-!
# The courses that a tick can take

A tick of a workflow node goes one of finitely many ways, depending on what its collaborators
answer. Each inductive relation below lists the ways of one part of a tick together with the outcome
of each: the result, the status and the world that are left, and the exchanges.  Proofs about ticks
go through these lists case by case and never look at the program again.

The main statement is `WorkflowNode.handles_run`: whatever a tick does, it follows one of these
courses.  `WorkflowNode.aborts_run` says the same of an abort.
-/

namespace NestedWorkflow

variable {σ : Type}

/-! ### Calls of the executor -/

/-- One pass of the executor over a graph: what it was handed, its answer, and the world it left. -/
structure Pass (σ : Type) where
  lookup : Lookup
  start : NodeId
  answer : Answer Rollup
  world : σ

/-- One seeding of a start node: what the executor was handed, its answer, and the world it left. -/
structure Seeding (σ : Type) where
  lookup : Lookup
  inputs : LiteralMap
  answer : Answer Rollup
  world : σ

namespace Pass

/-- The exchange that notes a pass. -/
def exchange (p : Pass σ) : Exchange σ := ⟨.drive p.lookup p.start p.answer, p.world⟩

/-- The exchange says everything of the pass. -/
lemma exchange_inj {p q : Pass σ} : p.exchange = q.exchange ↔ p = q := by
  obtain ⟨l, start, a, w⟩ := p
  obtain ⟨l', start', a', w'⟩ := q
  simp only [exchange, Exchange.mk.injEq, Call.drive.injEq, Pass.mk.injEq, and_assoc]

/-- The status that a pass leaves. -/
def status (p : Pass σ) : Status := p.lookup.leftBy p.answer

end Pass

namespace Seeding

/-- The exchange that notes a seeding. -/
def exchange (q : Seeding σ) : Exchange σ := ⟨.seed q.lookup q.inputs q.answer, q.world⟩

/-- The status that a seeding leaves. -/
def status (q : Seeding σ) : Status := q.lookup.leftBy q.answer

end Seeding

namespace TickSite

/-- The pass from a node in a status and a world. -/
def pass (site : TickSite) (c : Collaborators σ) (sub : SubWorkflow) (start : NodeId) (s : Status)
    (w : σ) : Pass σ :=
  ⟨⟨sub, s⟩, start, (c.drive site.workflow ⟨sub, s⟩ start w).1,
    (c.drive site.workflow ⟨sub, s⟩ start w).2⟩

/-- The seeding in a status and a world. -/
def seeding (site : TickSite) (c : Collaborators σ) (sub : SubWorkflow) (inputs : LiteralMap)
    (s : Status) (w : σ) : Seeding σ :=
  ⟨⟨sub, s⟩, inputs, (c.seed site.workflow ⟨sub, s⟩ inputs w).1,
    (c.seed site.workflow ⟨sub, s⟩ inputs w).2⟩

/-- The linking of the children to the current attempt. -/
def linking (site : TickSite) (sub : SubWorkflow) (s : Status) : Except LookupError Unit × Status :=
  Lookup.link sub s.own.attempts site.config.uniqueIdLength s

/-- Where the outputs of the enclosing node are expected. -/
def outputTarget (site : TickSite) (s : Status) : Reference :=
  s.own.outputDir.join site.config.outputsFile

end TickSite

namespace Tick

lemma yields_pass (site : TickSite) (c : Collaborators σ) (sub : SubWorkflow) (start : NodeId)
    (s : Status) (w : σ) :
    (drive site c sub start).Yields s w
      ⟨(site.pass c sub start s w).answer.result.mapError .executor,
        (site.pass c sub start s w).status, (site.pass c sub start s w).world,
        [(site.pass c sub start s w).exchange]⟩ :=
  yields_drive site c sub start rfl

lemma yields_seeding (site : TickSite) (c : Collaborators σ) (sub : SubWorkflow)
    (inputs : LiteralMap) (s : Status) (w : σ) :
    (seed site c sub inputs).Yields s w
      ⟨(site.seeding c sub inputs s w).answer.result.mapError .executor,
        (site.seeding c sub inputs s w).status, (site.seeding c sub inputs s w).world,
        [(site.seeding c sub inputs s w).exchange]⟩ :=
  yields_seed site c sub inputs rfl

lemma yields_linkChildren (site : TickSite) (sub : SubWorkflow) (s : Status) (w : σ) :
    (Body.linkChildren site sub : Tick σ Unit).Yields s w
      ⟨(site.linking sub s).1.mapError .lookup, (site.linking sub s).2, w, []⟩ := by
  rcases hlink : site.linking sub s with ⟨result, s'⟩
  have hlink' : Lookup.link sub s.own.attempts site.config.uniqueIdLength s = (result, s') := hlink
  unfold Body.linkChildren
  refine (yields_status s w).bind ?_
  rw [hlink']
  refine (yields_modifyStatus _ s w).bind ?_
  cases result with
  | ok _ => exact yields_pure () _ w
  | error e => exact yields_throw _ _ w

end Tick

namespace Body

open Tick

variable (site : TickSite) (c : Collaborators σ)

/-! ### Outputs -/

/-- The ways in which outputs are propagated, in a status and a world. -/
inductive Propagates (sub : SubWorkflow) (s : Status) (w : σ) : TickOutcome σ Transition → Prop
  | undeclared (hb : sub.bindings.isEmpty = true) :
      Propagates sub s w ⟨.ok (.succeeded none), s, w, []⟩
  | noEndNode (hb : sub.bindings.isEmpty = false) (hs : outputSource? site sub s = none) :
      Propagates sub s w ⟨.ok (outputFailure "no end node found in subworkflow"), s, w, []⟩
  | probeFailed {source : Reference} {e : StorageError} {w' : σ}
      (hb : sub.bindings.isEmpty = false) (hs : outputSource? site sub s = some source)
      (head : c.head source w = (.error e, w')) :
      Propagates sub s w ⟨.error (.storage e), s, w', [⟨.head source (.error e), w'⟩]⟩
  | absent {source : Reference} {found : Metadata} {w' : σ}
      (hb : sub.bindings.isEmpty = false) (hs : outputSource? site sub s = some source)
      (head : c.head source w = (.ok found, w')) (hfound : found.exists? = false) :
      Propagates sub s w
        ⟨.ok (outputFailure
          ("subworkflow is expected to produce outputs but no outputs file was written to " ++
            source.path)), s, w', [⟨.head source (.ok found), w'⟩]⟩
  | copyFailed {source : Reference} {found : Metadata} {e : StorageError} {w' w'' : σ}
      (hb : sub.bindings.isEmpty = false) (hs : outputSource? site sub s = some source)
      (head : c.head source w = (.ok found, w')) (hfound : found.exists? = true)
      (copy : c.copy source (site.outputTarget s) w' = (.error e, w'')) :
      Propagates sub s w
        ⟨.ok (outputFailure
          ("failed to copy subworkflow outputs from [" ++ source.path ++ "] to [" ++
            (site.outputTarget s).path ++ "]")), s, w'',
          [⟨.head source (.ok found), w'⟩,
            ⟨.copy source (site.outputTarget s) (.error e), w''⟩]⟩
  | copied {source : Reference} {found : Metadata} {w' w'' : σ}
      (hb : sub.bindings.isEmpty = false) (hs : outputSource? site sub s = some source)
      (head : c.head source w = (.ok found, w')) (hfound : found.exists? = true)
      (copy : c.copy source (site.outputTarget s) w' = (.ok (), w'')) :
      Propagates sub s w
        ⟨.ok (.succeeded (some (site.outputTarget s))), s, w'',
          [⟨.head source (.ok found), w'⟩, ⟨.copy source (site.outputTarget s) (.ok ()), w''⟩]⟩

lemma propagateOutputs_yields (sub : SubWorkflow) (s : Status) (w : σ) :
    ∃ o, Propagates site c sub s w o ∧ (propagateOutputs site c sub).Yields s w o := by
  unfold propagateOutputs
  cases hb : sub.bindings.isEmpty with
  | true => exact ⟨_, .undeclared hb, yields_pure _ s w⟩
  | false =>
    simp only [Bool.false_eq_true, if_false]
    cases hs : outputSource? site sub s with
    | none =>
      refine ⟨_, .noEndNode hb hs, (yields_status s w).bind ?_⟩
      rw [hs]
      exact yields_pure _ s w
    | some source =>
      rcases hhead : c.head source w with ⟨answer, w'⟩
      cases answer with
      | error e =>
        refine ⟨_, .probeFailed hb hs hhead, (yields_status s w).bind ?_⟩
        rw [hs]
        refine (yields_head c hhead).bind_noted ?_
        exact yields_throw _ s w'
      | ok found =>
        cases hfound : found.exists? with
        | false =>
          refine ⟨_, .absent hb hs hhead hfound, (yields_status s w).bind ?_⟩
          rw [hs]
          refine (yields_head c hhead).bind_noted ?_
          simp only [hfound, if_true]
          exact yields_pure _ s w'
        | true =>
          rcases hcopy : c.copy source (site.outputTarget s) w' with ⟨done, w''⟩
          cases done with
          | error e =>
            refine ⟨_, .copyFailed hb hs hhead hfound hcopy, (yields_status s w).bind ?_⟩
            rw [hs]
            refine (yields_head c hhead).bind_noted ?_
            simp only [hfound, Bool.true_eq_false, if_false]
            refine (yields_copy c hcopy).bind_noted ?_
            exact yields_pure _ s w''
          | ok _ =>
            refine ⟨_, .copied hb hs hhead hfound hcopy, (yields_status s w).bind ?_⟩
            rw [hs]
            refine (yields_head c hhead).bind_noted ?_
            simp only [hfound, Bool.true_eq_false, if_false]
            refine (yields_copy c hcopy).bind_noted ?_
            exact yields_pure _ s w''

/-! ### Driving the graph -/

/-- The transition for a failed graph: a failure node gets to run. -/
def graphFailure (sub : SubWorkflow) (error : ExecutionError) : Transition :=
  if sub.failureNode.isSome then .failing error else .failed error

/-- The ways in which a tick goes on after a pass from the start node. -/
inductive Advances (sub : SubWorkflow) (p : Pass σ) : TickOutcome σ Transition → Prop
  | halted {text : String} (h : p.answer.result = .error text) :
      Advances sub p ⟨.error (.executor text), p.status, p.world, [p.exchange]⟩
  | running (h : p.answer.result = .ok .running) :
      Advances sub p ⟨.ok .running, p.status, p.world, [p.exchange]⟩
  | failed {error : Option ExecutionError} (h : p.answer.result = .ok (.failed error)) :
      Advances sub p
        ⟨.ok (graphFailure sub (reportedError error)),
          p.status.setCheckpoint ⟨.failing, some (reportedError error), p.status.own.attempts⟩
            site.now, p.world, [p.exchange]⟩
  | enqueued {w' : σ} (h : p.answer.result = .ok .partiallyComplete)
      (enqueue : c.enqueue p.world = (.ok (), w')) :
      Advances sub p
        ⟨.ok .running, p.status, w', [p.exchange, ⟨.enqueue (.ok ()), w'⟩]⟩
  | notEnqueued {text : String} {w' : σ} (h : p.answer.result = .ok .partiallyComplete)
      (enqueue : c.enqueue p.world = (.error text, w')) :
      Advances sub p
        ⟨.error (.enqueue text), p.status, w', [p.exchange, ⟨.enqueue (.error text), w'⟩]⟩
  | completed {o : TickOutcome σ Transition} (h : p.answer.result = .ok .complete)
      (ho : Propagates site c sub p.status p.world o) : Advances sub p (o.after [p.exchange])

lemma recordFailure_yields (sub : SubWorkflow) (error : ExecutionError) (s : Status) (w : σ) :
    (recordFailure site sub error).Yields s w
      ⟨.ok (graphFailure sub error),
        s.setCheckpoint ⟨.failing, some error, s.own.attempts⟩ site.now, w, []⟩ := by
  unfold recordFailure graphFailure
  refine (yields_status s w).bind ?_
  refine (yields_modifyStatus _ s w).bind ?_
  cases sub.failureNode.isSome with
  | true => exact yields_pure _ _ w
  | false => exact yields_pure _ _ w

lemma advance_yields (sub : SubWorkflow) (s : Status) (w : σ) :
    ∃ o, Advances site c sub (site.pass c sub startNodeId s w) o ∧
      (advance site c sub).Yields s w o := by
  have hpass := yields_pass site c sub startNodeId s w
  set p := site.pass c sub startNodeId s w
  unfold advance
  cases hr : p.answer.result with
  | error text =>
    rw [hr] at hpass
    exact ⟨_, .halted hr, hpass.bind_error⟩
  | ok r =>
    rw [hr] at hpass
    cases r with
    | running => exact ⟨_, .running hr, hpass.bind_noted (yields_pure _ p.status p.world)⟩
    | failed error =>
      exact ⟨_, .failed hr, hpass.bind_noted (recordFailure_yields site sub _ p.status p.world)⟩
    | partiallyComplete =>
      rcases henqueue : c.enqueue p.world with ⟨answer, w'⟩
      have hstep := yields_enqueue c (s := p.status) henqueue
      cases answer with
      | error text =>
        refine ⟨_, .notEnqueued hr henqueue, hpass.bind_noted ?_⟩
        exact hstep.bind_error
      | ok _ =>
        refine ⟨_, .enqueued hr henqueue, hpass.bind_noted ?_⟩
        exact hstep.bind_noted (yields_pure _ p.status w')
    | complete =>
      obtain ⟨o, ho, hyields⟩ := propagateOutputs_yields site c sub p.status p.world
      exact ⟨_, .completed hr ho, hpass.bind_noted hyields⟩

/-! ### Ticks of the body -/

/-- The ways in which the first tick of an attempt goes. -/
inductive Starts (s : Status) (w : σ) : TickOutcome σ Transition → Prop
  | unresolved {e : HandlerError} (hs : resolve site = .error e) :
      Starts s w ⟨.ok (unresolved e), s, w, []⟩
  | unlinked {sub : SubWorkflow} {e : LookupError} (hs : resolve site = .ok sub)
      (hl : (site.linking sub s).1 = .error e) :
      Starts s w ⟨.error (.lookup e), (site.linking sub s).2, w, []⟩
  | unread {sub : SubWorkflow} {e : InputError} {w' : σ} (hs : resolve site = .ok sub)
      (hl : (site.linking sub s).1 = .ok ()) (read : c.readInputs w = (.error e, w')) :
      Starts s w
        ⟨.ok (.failed (.system ExecutionError.runtimeCode ("failed to read input: " ++ e.report))),
          (site.linking sub s).2, w', [⟨.readInputs (.error e), w'⟩]⟩
  | seedHalted {sub : SubWorkflow} {inputs : LiteralMap} {w' : σ} {q : Seeding σ} {text : String}
      (hs : resolve site = .ok sub) (hl : (site.linking sub s).1 = .ok ())
      (read : c.readInputs w = (.ok inputs, w'))
      (hq : site.seeding c sub inputs (site.linking sub s).2 w' = q)
      (h : q.answer.result = .error text) :
      Starts s w
        ⟨.error (.executor text), q.status, q.world,
          [⟨.readInputs (.ok inputs), w'⟩, q.exchange]⟩
  | seedFailed {sub : SubWorkflow} {inputs : LiteralMap} {w' : σ} {q : Seeding σ}
      {error : Option ExecutionError}
      (hs : resolve site = .ok sub) (hl : (site.linking sub s).1 = .ok ())
      (read : c.readInputs w = (.ok inputs, w'))
      (hq : site.seeding c sub inputs (site.linking sub s).2 w' = q)
      (h : q.answer.result = .ok (.failed error)) :
      Starts s w
        ⟨.ok (.failed (reportedError error)), q.status, q.world,
          [⟨.readInputs (.ok inputs), w'⟩, q.exchange]⟩
  | advanced {sub : SubWorkflow} {inputs : LiteralMap} {w' : σ} {q : Seeding σ} {r : Rollup}
      {o : TickOutcome σ Transition}
      (hs : resolve site = .ok sub) (hl : (site.linking sub s).1 = .ok ())
      (read : c.readInputs w = (.ok inputs, w'))
      (hq : site.seeding c sub inputs (site.linking sub s).2 w' = q)
      (h : q.answer.result = .ok r) (hr : ∀ error, r ≠ .failed error)
      (ho : Advances site c sub (site.pass c sub startNodeId q.status q.world) o) :
      Starts s w (o.after [⟨.readInputs (.ok inputs), w'⟩, q.exchange])

/-- The ways in which a tick goes while the body executes. -/
inductive Checks (s : Status) (w : σ) : TickOutcome σ Transition → Prop
  | unresolved {e : HandlerError} (hs : resolve site = .error e) :
      Checks s w ⟨.ok (unresolved e), s, w, []⟩
  | unlinked {sub : SubWorkflow} {e : LookupError} (hs : resolve site = .ok sub)
      (hl : (site.linking sub s).1 = .error e) :
      Checks s w ⟨.error (.lookup e), (site.linking sub s).2, w, []⟩
  | advanced {sub : SubWorkflow} {o : TickOutcome σ Transition} (hs : resolve site = .ok sub)
      (hl : (site.linking sub s).1 = .ok ())
      (ho : Advances site c sub (site.pass c sub startNodeId (site.linking sub s).2 w) o) :
      Checks s w o

/-- The ways in which a tick goes after the body has failed. -/
inductive Fails (s : Status) (w : σ) : TickOutcome σ Transition → Prop
  | unresolved {e : HandlerError} (hs : resolve site = .error e) :
      Fails s w ⟨.ok (unresolved e), s, w, []⟩
  | withoutFailureNode {sub : SubWorkflow} (hs : resolve site = .ok sub)
      (hn : sub.failureNode = none) :
      Fails s w ⟨.ok (.failed (recordedError s.own.checkpoint)), s, w, []⟩
  | halted {sub : SubWorkflow} {node : Node} {p : Pass σ} {text : String}
      (hs : resolve site = .ok sub) (hn : sub.failureNode = some node)
      (hp : site.pass c sub node.id s w = p) (h : p.answer.result = .error text) :
      Fails s w ⟨.error (.executor text), p.status, p.world, [p.exchange]⟩
  | running {sub : SubWorkflow} {node : Node} {p : Pass σ}
      (hs : resolve site = .ok sub) (hn : sub.failureNode = some node)
      (hp : site.pass c sub node.id s w = p) (h : p.answer.result = .ok .running) :
      Fails s w ⟨.ok .running, p.status, p.world, [p.exchange]⟩
  | failed {sub : SubWorkflow} {node : Node} {p : Pass σ} {error : Option ExecutionError}
      (hs : resolve site = .ok sub) (hn : sub.failureNode = some node)
      (hp : site.pass c sub node.id s w = p) (h : p.answer.result = .ok (.failed error)) :
      Fails s w ⟨.ok (.failed (reportedError error)), p.status, p.world, [p.exchange]⟩
  | enqueued {sub : SubWorkflow} {node : Node} {p : Pass σ} {w' : σ}
      (hs : resolve site = .ok sub) (hn : sub.failureNode = some node)
      (hp : site.pass c sub node.id s w = p) (h : p.answer.result = .ok .partiallyComplete)
      (enqueue : c.enqueue p.world = (.ok (), w')) :
      Fails s w
        ⟨.ok (.failing (recordedError s.own.checkpoint)), p.status, w',
          [p.exchange, ⟨.enqueue (.ok ()), w'⟩]⟩
  | notEnqueued {sub : SubWorkflow} {node : Node} {p : Pass σ} {text : String} {w' : σ}
      (hs : resolve site = .ok sub) (hn : sub.failureNode = some node)
      (hp : site.pass c sub node.id s w = p) (h : p.answer.result = .ok .partiallyComplete)
      (enqueue : c.enqueue p.world = (.error text, w')) :
      Fails s w
        ⟨.error (.enqueue text), p.status, w', [p.exchange, ⟨.enqueue (.error text), w'⟩]⟩
  | completed {sub : SubWorkflow} {node : Node} {p : Pass σ}
      (hs : resolve site = .ok sub) (hn : sub.failureNode = some node)
      (hp : site.pass c sub node.id s w = p) (h : p.answer.result = .ok .complete) :
      Fails s w
        ⟨.ok (.failed (recordedError s.own.checkpoint)), p.status, p.world, [p.exchange]⟩

lemma start_yields (s : Status) (w : σ) :
    ∃ o, Starts site c s w o ∧ (start site c).Yields s w o := by
  unfold start
  cases hs : resolve site with
  | error e => exact ⟨_, .unresolved hs, yields_pure _ s w⟩
  | ok sub =>
    have hlink := yields_linkChildren (σ := σ) site sub s w
    simp only
    cases hl : (site.linking sub s).1 with
    | error e =>
      rw [hl] at hlink
      exact ⟨_, .unlinked hs hl, hlink.bind_error⟩
    | ok _ =>
      rw [hl] at hlink
      unfold seedAndAdvance
      rcases hread : c.readInputs w with ⟨answer, w'⟩
      have hstep := yields_readInputs c (s := (site.linking sub s).2) hread
      cases answer with
      | error e =>
        refine ⟨_, .unread hs hl hread, hlink.bind ?_⟩
        exact hstep.bind_noted (yields_pure _ _ w')
      | ok inputs =>
        have hseed := yields_seeding site c sub inputs (site.linking sub s).2 w'
        set q := site.seeding c sub inputs (site.linking sub s).2 w' with hq
        cases hr : q.answer.result with
        | error text =>
          rw [hr] at hseed
          refine ⟨_, .seedHalted hs hl hread hq.symm hr, hlink.bind ?_⟩
          exact hstep.bind_noted hseed.bind_error
        | ok r =>
          rw [hr] at hseed
          obtain ⟨o, ho, hyields⟩ := advance_yields site c sub q.status q.world
          cases r with
          | failed error =>
            refine ⟨_, .seedFailed hs hl hread hq.symm hr, hlink.bind ?_⟩
            exact hstep.bind_noted (hseed.bind_noted (yields_pure _ q.status q.world))
          | running =>
            refine ⟨_, .advanced hs hl hread hq.symm hr (by simp) ho, hlink.bind ?_⟩
            exact hstep.bind_noted (hseed.bind_noted hyields)
          | partiallyComplete =>
            refine ⟨_, .advanced hs hl hread hq.symm hr (by simp) ho, hlink.bind ?_⟩
            exact hstep.bind_noted (hseed.bind_noted hyields)
          | complete =>
            refine ⟨_, .advanced hs hl hread hq.symm hr (by simp) ho, hlink.bind ?_⟩
            exact hstep.bind_noted (hseed.bind_noted hyields)

lemma checkStatus_yields (s : Status) (w : σ) :
    ∃ o, Checks site c s w o ∧ (checkStatus site c).Yields s w o := by
  unfold checkStatus
  cases hs : resolve site with
  | error e => exact ⟨_, .unresolved hs, yields_pure _ s w⟩
  | ok sub =>
    have hlink := yields_linkChildren (σ := σ) site sub s w
    simp only
    cases hl : (site.linking sub s).1 with
    | error e =>
      rw [hl] at hlink
      exact ⟨_, .unlinked hs hl, hlink.bind_error⟩
    | ok _ =>
      rw [hl] at hlink
      obtain ⟨o, ho, hyields⟩ := advance_yields site c sub (site.linking sub s).2 w
      exact ⟨o, .advanced hs hl ho, hlink.bind hyields⟩

lemma handleFailing_yields (s : Status) (w : σ) :
    ∃ o, Fails site c s w o ∧ (handleFailing site c).Yields s w o := by
  unfold handleFailing
  cases hs : resolve site with
  | error e => exact ⟨_, .unresolved hs, yields_pure _ s w⟩
  | ok sub =>
    simp only
    cases hn : sub.failureNode with
    | none =>
      refine ⟨_, .withoutFailureNode hs hn, (yields_status s w).bind ?_⟩
      exact yields_pure _ s w
    | some node =>
      have hpass := yields_pass site c sub node.id s w
      set p := site.pass c sub node.id s w with hp
      cases hr : p.answer.result with
      | error text =>
        rw [hr] at hpass
        refine ⟨_, .halted hs hn hp.symm hr, (yields_status s w).bind ?_⟩
        exact hpass.bind_error
      | ok r =>
        rw [hr] at hpass
        cases r with
        | running =>
          refine ⟨_, .running hs hn hp.symm hr, (yields_status s w).bind ?_⟩
          exact hpass.bind_noted (yields_pure _ p.status p.world)
        | failed error =>
          refine ⟨_, .failed hs hn hp.symm hr, (yields_status s w).bind ?_⟩
          exact hpass.bind_noted (yields_pure _ p.status p.world)
        | complete =>
          refine ⟨_, .completed hs hn hp.symm hr, (yields_status s w).bind ?_⟩
          exact hpass.bind_noted (yields_pure _ p.status p.world)
        | partiallyComplete =>
          rcases henqueue : c.enqueue p.world with ⟨answer, w'⟩
          have hstep := yields_enqueue c (s := p.status) henqueue
          cases answer with
          | error text =>
            refine ⟨_, .notEnqueued hs hn hp.symm hr henqueue, (yields_status s w).bind ?_⟩
            exact hpass.bind_noted hstep.bind_error
          | ok _ =>
            refine ⟨_, .enqueued hs hn hp.symm hr henqueue, (yields_status s w).bind ?_⟩
            exact hpass.bind_noted (hstep.bind_noted (yields_pure _ p.status w'))

end Body

/-- The status at the start of a tick: a checkpoint of another attempt is replaced. -/
def Status.renewed (s : Status) (now : Instant) : Status :=
  if s.own.checkpoint.attempt = s.own.attempts then s
  else s.setCheckpoint ⟨.undefined, none, s.own.attempts⟩ now

/-- The outcome of a first tick with a note that the body is executing, unless the tick left a note
of its own or did not come to running. -/
def TickOutcome.recordingStart (o : TickOutcome σ Transition) (now : Instant) :
    TickOutcome σ Transition :=
  match o.result with
  | .ok .running =>
    if o.status.own.checkpoint.stage = .undefined then
      { o with status := o.status.setCheckpoint ⟨.executing, none, o.status.own.attempts⟩ now }
    else o
  | _ => o

namespace TickOutcome

/-- Noting the start leaves everything but the status as it is. -/
lemma recordingStart_eq (o : TickOutcome σ Transition) (now : Instant) :
    o.recordingStart now =
      ⟨o.result, (o.recordingStart now).status, o.world, o.exchanges⟩ := by
  unfold recordingStart
  split
  · split <;> rfl
  · rfl

@[simp] lemma result_recordingStart (o : TickOutcome σ Transition) (now : Instant) :
    (o.recordingStart now).result = o.result := by
  rw [recordingStart_eq]

@[simp] lemma world_recordingStart (o : TickOutcome σ Transition) (now : Instant) :
    (o.recordingStart now).world = o.world := by
  rw [recordingStart_eq]

@[simp] lemma exchanges_recordingStart (o : TickOutcome σ Transition) (now : Instant) :
    (o.recordingStart now).exchanges = o.exchanges := by
  rw [recordingStart_eq]

/-- The start is noted only for a tick that left the node running. -/
lemma recordingStart_of_ne_running {o : TickOutcome σ Transition} (h : o.result ≠ .ok .running)
    (now : Instant) : o.recordingStart now = o := by
  unfold recordingStart
  split
  · contradiction
  · rfl

end TickOutcome

namespace WorkflowNode

open Tick

variable (site : TickSite) (c : Collaborators σ)

/-- The ways in which a tick of a node goes. -/
inductive Handles (s : Status) (w : σ) : TickOutcome σ Transition → Prop
  | refused {e : HandlerError} (h : ensureWorkflowNode site.node = .error e) :
      Handles s w ⟨.error e, s, w, []⟩
  | started {o : TickOutcome σ Transition} (h : ensureWorkflowNode site.node = .ok ())
      (hstage : (s.renewed site.now).own.checkpoint.stage = .undefined)
      (ho : Body.Starts site c (s.renewed site.now) w o) :
      Handles s w (o.recordingStart site.now)
  | checked {o : TickOutcome σ Transition} (h : ensureWorkflowNode site.node = .ok ())
      (hstage : (s.renewed site.now).own.checkpoint.stage = .executing)
      (ho : Body.Checks site c (s.renewed site.now) w o) : Handles s w o
  | failed {o : TickOutcome σ Transition} (h : ensureWorkflowNode site.node = .ok ())
      (hstage : (s.renewed site.now).own.checkpoint.stage = .failing)
      (ho : Body.Fails site c (s.renewed site.now) w o) : Handles s w o

/-- The ways in which an abort of a node goes. -/
inductive Aborts (reason : String) (s : Status) (w : σ) : TickOutcome σ Unit → Prop
  | refused {e : HandlerError} (h : ensureWorkflowNode site.node = .error e) :
      Aborts reason s w ⟨.error e, s, w, []⟩
  | unresolved {e : HandlerError} (h : ensureWorkflowNode site.node = .ok ())
      (hs : Body.resolve site = .error e) : Aborts reason s w ⟨.error e, s, w, []⟩
  | settled {sub : SubWorkflow} {a : Answer Unit} {w' : σ}
      (h : ensureWorkflowNode site.node = .ok ()) (hs : Body.resolve site = .ok sub)
      (abort : c.abort site.workflow ⟨sub, s⟩ startNodeId reason w = (a, w')) :
      Aborts reason s w
        ⟨a.result.mapError .executor, Lookup.leftBy ⟨sub, s⟩ a, w',
          [⟨.abort ⟨sub, s⟩ startNodeId reason a, w'⟩]⟩

lemma yields_ensureWorkflowNode (s : Status) (w : σ) :
    Yields (liftM (ensureWorkflowNode site.node) : Tick σ Unit) s w
      ⟨ensureWorkflowNode site.node, s, w, []⟩ := by
  intro past
  rw [List.append_nil]
  cases ensureWorkflowNode site.node <;> rfl

lemma currentStage_yields (s : Status) (w : σ) :
    (currentStage site : Tick σ Stage).Yields s w
      ⟨.ok (s.renewed site.now).own.checkpoint.stage, s.renewed site.now, w, []⟩ := by
  unfold currentStage
  refine (yields_status s w).bind ?_
  unfold Status.renewed
  by_cases hattempt : s.own.checkpoint.attempt = s.own.attempts
  · simp only [hattempt, if_true]
    exact yields_pure _ s w
  · simp only [hattempt, if_false]
    exact (yields_modifyStatus _ s w).bind (yields_pure _ _ w)

/-- Noting the start adds to the outcome of a first tick that succeeded. -/
lemma recordStart_yields {t : Tick σ Transition} {s : Status} {w : σ}
    {o : TickOutcome σ Transition} (h : t.Yields s w o) :
    (t >>= fun a => recordStart site a >>= fun _ => pure a).Yields s w
      (o.recordingStart site.now) := by
  intro past
  rw [exec_bind, h past]
  obtain ⟨r, s', w', xs⟩ := o
  cases r with
  | error e => rfl
  | ok a =>
    cases a with
    | running =>
      by_cases hstage : s'.own.checkpoint.stage = .undefined
      · have hstep : (recordStart site .running : Tick σ Unit).Yields s' w'
            ⟨.ok (), s'.setCheckpoint ⟨.executing, none, s'.own.attempts⟩ site.now, w', []⟩ := by
          unfold recordStart
          refine (yields_status s' w').bind ?_
          simp only [hstage, if_true]
          exact yields_modifyStatus _ s' w'
        simp only [TickOutcome.recordingStart, hstage, if_true]
        rw [exec_bind, hstep]
        simp only [List.append_nil]
        rfl
      · have hstep : (recordStart site .running : Tick σ Unit).Yields s' w'
            ⟨.ok (), s', w', []⟩ := by
          unfold recordStart
          refine (yields_status s' w').bind ?_
          simp only [hstage, if_false]
          exact yields_pure _ s' w'
        simp only [TickOutcome.recordingStart, hstage, if_false]
        rw [exec_bind, hstep]
        simp only [List.append_nil]
        rfl
    | failing error => rfl
    | failed error => rfl
    | succeeded output => rfl

/-- What is left of a tick once its stage is known. -/
def resume : Stage → Tick σ Transition
  | .undefined => do
    let t ← Body.start site c
    recordStart site t
    return t
  | .executing => Body.checkStatus site c
  | .failing => Body.handleFailing site c

/-- A tick that is not refused goes on from its stage, with an outdated checkpoint replaced. -/
lemma exec_handle (hnode : ensureWorkflowNode site.node = .ok ()) (s : Status) (w : σ)
    (past : List (Exchange σ)) :
    exec (handle site c) ⟨s, w, past⟩ =
      exec (resume site c (s.renewed site.now).own.checkpoint.stage)
        ⟨s.renewed site.now, w, past⟩ := by
  have hensure := yields_ensureWorkflowNode (σ := σ) site s w past
  have hcurrent := currentStage_yields (σ := σ) site s w past
  rw [hnode] at hensure
  rw [List.append_nil] at hensure hcurrent
  change exec (liftM (ensureWorkflowNode site.node) >>= fun _ =>
    currentStage site >>= resume site c) _ = _
  rw [hnode, exec_bind, hensure]
  simp only
  rw [exec_bind, hcurrent]

lemma handle_yields (s : Status) (w : σ) :
    ∃ o, Handles site c s w o ∧ (handle site c).Yields s w o := by
  cases h : ensureWorkflowNode site.node with
  | error e =>
    have hensure := yields_ensureWorkflowNode (σ := σ) site s w
    rw [h] at hensure
    refine ⟨_, .refused h, ?_⟩
    unfold handle
    rw [h]
    exact hensure.bind_error
  | ok _ =>
    have hresume : ∀ o, (resume site c (s.renewed site.now).own.checkpoint.stage).Yields
        (s.renewed site.now) w o → (handle site c).Yields s w o :=
      fun o ho past => (exec_handle site c h s w past).trans (ho past)
    cases hstage : (s.renewed site.now).own.checkpoint.stage with
    | undefined =>
      rw [hstage] at hresume
      obtain ⟨o, ho, hyields⟩ := Body.start_yields site c (s.renewed site.now) w
      exact ⟨_, .started h hstage ho, hresume _ (recordStart_yields site hyields)⟩
    | executing =>
      rw [hstage] at hresume
      obtain ⟨o, ho, hyields⟩ := Body.checkStatus_yields site c (s.renewed site.now) w
      exact ⟨o, .checked h hstage ho, hresume o hyields⟩
    | failing =>
      rw [hstage] at hresume
      obtain ⟨o, ho, hyields⟩ := Body.handleFailing_yields site c (s.renewed site.now) w
      exact ⟨o, .failed h hstage ho, hresume o hyields⟩

/-- A tick takes one of its courses. -/
theorem handles_run (s : Status) (w : σ) : Handles site c s w ((handle site c).run s w) := by
  obtain ⟨o, ho, hyields⟩ := handle_yields site c s w
  rw [hyields.run_eq]
  exact ho

/-- An abort takes one of its courses. -/
theorem aborts_run (reason : String) (s : Status) (w : σ) :
    Aborts site c reason s w ((abort site c reason).run s w) := by
  have hensure := yields_ensureWorkflowNode (σ := σ) site s w
  unfold abort
  cases h : ensureWorkflowNode site.node with
  | error e =>
    rw [h] at hensure
    rw [hensure.bind_error.run_eq]
    exact .refused h
  | ok _ =>
    rw [h] at hensure
    unfold Body.abort
    cases hs : Body.resolve site with
    | error e =>
      rw [(hensure.bind (yields_throw e s w)).run_eq]
      exact .unresolved h hs
    | ok sub =>
      rcases habort : c.abort site.workflow ⟨sub, s⟩ startNodeId reason w with ⟨a, w'⟩
      rw [(hensure.bind (yields_abortFrom site c sub startNodeId reason habort)).run_eq]
      exact .settled h hs habort

end WorkflowNode

end NestedWorkflow
