import NestedWorkflow.Proofs.Tick.ErrorRetry
import NestedWorkflow.Proofs.Tick.History

/-!
# How often the collaborators are called, and in which order

A lost call of the hook for another tick leaves a workflow standing still, and one too many floods
it.  So the exchanges of a tick are looked at as a whole here.  They come in a fixed order
(`InSequence`): the graph is prepared, by reading inputs and seeding the start node; then it is
driven; then the hook is called, if the pass asked for another one, or the store is, if the pass did
not.  A tick may break off anywhere, but it repeats and swaps nothing.

Everything else is read off this order: what occurs at most once in a tick, what comes only after a
pass, and that over a whole run the hook is called as often as a pass asked for it
(`Run.calls_sparingly`).  An abort calls the executor once to abort, or nothing at all.
-/

namespace NestedWorkflow

variable {σ : Type}

/-! ### Kinds of calls -/

/-- What a call asks for. -/
inductive Call.Kind
  | reading
  | seeding
  | pass
  | abort
  | probe
  | copy
  | enqueuing
deriving DecidableEq

namespace Call

/-- What the call asks for. -/
def kind : Call → Kind
  | .readInputs _ => .reading
  | .seed _ _ _ => .seeding
  | .drive _ _ _ => .pass
  | .abort _ _ _ _ => .abort
  | .head _ _ => .probe
  | .copy _ _ _ => .copy
  | .enqueue _ => .enqueuing

/-- The call turns to the store. -/
def IsOfStore (call : Call) : Prop := call.kind = .probe ∨ call.kind = .copy

/-- The call has its place after a pass. -/
def FollowsPass (call : Call) : Prop := call.kind = .enqueuing ∨ call.IsOfStore

/-- The store is not the hook. -/
lemma IsOfStore.kind_ne {call : Call} (h : call.IsOfStore) : call.kind ≠ .enqueuing := by
  intro henqueuing
  rcases h with hk | hk
  · cases henqueuing.symm.trans hk
  · cases henqueuing.symm.trans hk

/-- What comes after a pass is neither a pass nor what prepares one. -/
lemma FollowsPass.kind_ne {call : Call} (h : call.FollowsPass) {kind : Kind}
    (henqueuing : .enqueuing ≠ kind) (hprobe : .probe ≠ kind) (hcopy : .copy ≠ kind) :
    call.kind ≠ kind := by
  rcases h with hk | hk | hk
  · rw [hk]
    exact henqueuing
  · rw [hk]
    exact hprobe
  · rw [hk]
    exact hcopy

/-- The call is a pass that reported that another one is due. -/
def asksForAnother : Call → Bool
  | .drive _ _ a => decide (a.result = .ok .partiallyComplete)
  | _ => false

/-- Only a pass can ask for another one. -/
lemma asksForAnother_eq_false {call : Call} (h : call.kind ≠ .pass) :
    call.asksForAnother = false := by
  cases call with
  | drive _ _ _ => exact absurd rfl h
  | _ => rfl

end Call

/-- How many of the exchanges are calls of a kind. -/
def callCount (kind : Call.Kind) (xs : List (Exchange σ)) : Nat :=
  xs.countP fun x => x.call.kind = kind

/-- How many of the exchanges are passes that asked for another one. -/
def askedCount (xs : List (Exchange σ)) : Nat := xs.countP fun x => x.call.asksForAnother

/-- Calls of other kinds do not count. -/
lemma callCount_eq_zero {kind : Call.Kind} {xs : List (Exchange σ)}
    (h : ∀ x ∈ xs, x.call.kind ≠ kind) : callCount kind xs = 0 := by
  refine List.countP_eq_zero.2 fun x hx => ?_
  have hne := h x hx
  simpa using hne

/-- Without a pass nothing asks for one. -/
lemma askedCount_eq_zero {xs : List (Exchange σ)} (h : ∀ x ∈ xs, x.call.kind ≠ .pass) :
    askedCount xs = 0 := by
  refine List.countP_eq_zero.2 fun x hx => ?_
  rw [Call.asksForAnother_eq_false (h x hx)]
  simp

/-- Counting over a list with a pass in it. -/
lemma callCount_passed (kind : Call.Kind) (xs rest : List (Exchange σ)) (p : Pass σ) :
    callCount kind (xs ++ p.exchange :: rest) =
      callCount kind xs + callCount kind rest + if Call.Kind.pass = kind then 1 else 0 := by
  unfold callCount
  rw [List.countP_append, List.countP_cons, Nat.add_assoc]
  by_cases h : Call.Kind.pass = kind
  · simp [Pass.exchange, Call.kind, h]
  · simp [Pass.exchange, Call.kind, h]

/-- Only the pass in a list can ask for another one, if the others are no passes. -/
lemma askedCount_passed {xs rest : List (Exchange σ)} (p : Pass σ)
    (hxs : ∀ x ∈ xs, x.call.kind ≠ .pass) (hrest : ∀ x ∈ rest, x.call.kind ≠ .pass) :
    askedCount (xs ++ p.exchange :: rest) = askedCount [p.exchange] := by
  have hbefore : askedCount xs = 0 := askedCount_eq_zero hxs
  have hafter : askedCount rest = 0 := askedCount_eq_zero hrest
  unfold askedCount at *
  rw [List.countP_append, List.countP_cons, hbefore, hafter]
  simp

/-! ### The order of the calls in a tick -/

/-- The calls that prepare the graph, as far as a tick got with them. -/
inductive Prepared : List (Exchange σ) → Prop
  | nothing : Prepared []
  | read (answer : Except InputError LiteralMap) (w : σ) : Prepared [⟨.readInputs answer, w⟩]
  | seeded (answer : Except InputError LiteralMap) (w : σ) (q : Seeding σ) :
      Prepared [⟨.readInputs answer, w⟩, q.exchange]

/-- The calls after a pass in a tick with this result: the hook, if the pass asked for another one,
and otherwise calls of the store. -/
inductive Sequel (p : Pass σ) (r : Except HandlerError Transition) : List (Exchange σ) → Prop
  | enqueued {answer : Except String Unit} {w : σ}
      (h : p.answer.result = .ok .partiallyComplete)
      (hr : ∀ text, answer = .error text → r = .error (.enqueue text)) :
      Sequel p r [⟨.enqueue answer, w⟩]
  | stored {xs : List (Exchange σ)} (h : p.answer.result ≠ .ok .partiallyComplete)
      (hxs : ∀ x ∈ xs, x.call.IsOfStore) : Sequel p r xs

/-- The calls of a tick with this result: the graph is prepared, then driven, then there is what
comes of the pass.  The tick may end before the pass. -/
inductive InSequence (r : Except HandlerError Transition) : List (Exchange σ) → Prop
  | prepared {xs : List (Exchange σ)} (hxs : Prepared xs) : InSequence r xs
  | passed {xs rest : List (Exchange σ)} {p : Pass σ} (hxs : Prepared xs)
      (hrest : Sequel p r rest) : InSequence r (xs ++ p.exchange :: rest)

namespace Prepared

variable {xs : List (Exchange σ)}

/-- Only reading and seeding prepare the graph. -/
lemma kind_cases (h : Prepared xs) {x : Exchange σ} (hx : x ∈ xs) :
    x.call.kind = .reading ∨ x.call.kind = .seeding := by
  cases h with
  | nothing => cases hx
  | read _ _ =>
    rw [List.mem_singleton.1 hx]
    exact .inl rfl
  | seeded _ _ _ =>
    rcases List.mem_pair.1 hx with rfl | rfl
    · exact .inl rfl
    · exact .inr rfl

/-- What prepares the graph is no call of another kind. -/
lemma kind_ne (h : Prepared xs) {kind : Call.Kind} (hreading : .reading ≠ kind)
    (hseeding : .seeding ≠ kind) : ∀ x ∈ xs, x.call.kind ≠ kind := by
  intro x hx
  rcases h.kind_cases hx with hk | hk
  · rw [hk]
    exact hreading
  · rw [hk]
    exact hseeding

/-- What prepares the graph has its place before a pass. -/
lemma not_followsPass (h : Prepared xs) {x : Exchange σ} (hx : x ∈ xs) :
    ¬ x.call.FollowsPass := by
  intro hfollows
  rcases h.kind_cases hx with hk | hk
  · exact hfollows.kind_ne (by decide) (by decide) (by decide) hk
  · exact hfollows.kind_ne (by decide) (by decide) (by decide) hk

/-- The start node is seeded at most once. -/
lemma callCount_seeding_le (h : Prepared xs) : callCount .seeding xs ≤ 1 := by
  cases h with
  | nothing => exact Nat.zero_le 1
  | read _ _ => exact Nat.zero_le 1
  | seeded _ _ _ => exact Nat.le_refl 1

end Prepared

namespace Sequel

variable {p : Pass σ} {r : Except HandlerError Transition} {rest : List (Exchange σ)}

/-- After a pass that asks for no other one, there may be nothing. -/
lemma nil (h : p.answer.result ≠ .ok .partiallyComplete) (r : Except HandlerError Transition) :
    Sequel p r [] := by
  refine .stored h fun x hx => ?_
  cases hx

/-- After a pass there are only calls of the hook and the store. -/
lemma followsPass (h : Sequel p r rest) {x : Exchange σ} (hx : x ∈ rest) : x.call.FollowsPass := by
  cases h with
  | enqueued _ _ =>
    rw [List.mem_singleton.1 hx]
    exact .inl rfl
  | stored _ hxs => exact .inr (hxs x hx)

/-- What comes after a pass is no call of another kind. -/
lemma kind_ne (h : Sequel p r rest) {kind : Call.Kind} (henqueuing : .enqueuing ≠ kind)
    (hprobe : .probe ≠ kind) (hcopy : .copy ≠ kind) : ∀ x ∈ rest, x.call.kind ≠ kind := by
  intro x hx
  exact (h.followsPass hx).kind_ne henqueuing hprobe hcopy

/-- The hook is called once if the pass asked for another one, and not at all if it did not. -/
lemma callCount_enqueuing (h : Sequel p r rest) :
    callCount .enqueuing rest = askedCount [p.exchange] := by
  cases h with
  | enqueued hp _ => simp [callCount, askedCount, Call.kind, Call.asksForAnother, Pass.exchange, hp]
  | stored hp hxs =>
    have hnone : ∀ x ∈ rest, x.call.kind ≠ .enqueuing := fun x hx => (hxs x hx).kind_ne
    rw [callCount_eq_zero hnone]
    simp [askedCount, Call.asksForAnother, Pass.exchange, hp]

/-- The hook and the store are not both called. -/
lemma not_both (h : Sequel p r rest) {x y : Exchange σ} (hx : x ∈ rest) (hy : y ∈ rest)
    (henqueuing : x.call.kind = .enqueuing) : ¬ y.call.IsOfStore := by
  cases h with
  | enqueued _ _ =>
    rw [List.mem_singleton.1 hy]
    exact fun hstore => hstore.kind_ne rfl
  | stored _ hxs => exact absurd henqueuing (hxs x hx).kind_ne

/-- A failure of the hook is the error of the tick. -/
lemma eq_error_of_enqueue (h : Sequel p r rest) {text : String} {w : σ}
    (hx : ⟨.enqueue (.error text), w⟩ ∈ rest) : r = .error (.enqueue text) := by
  cases h with
  | @enqueued answer w' _ hr =>
    obtain ⟨hanswer, -⟩ := Exchange.mk.inj (List.mem_singleton.1 hx)
    exact hr text (Call.enqueue.inj hanswer).symm
  | stored _ hxs => exact absurd rfl (hxs _ hx).kind_ne

end Sequel

/-- A pass does not follow itself. -/
lemma Pass.not_followsPass (p : Pass σ) : ¬ p.exchange.call.FollowsPass := by
  intro hfollows
  have hkind : p.exchange.call.kind = .pass := rfl
  have hne : p.exchange.call.kind ≠ .pass := hfollows.kind_ne (by decide) (by decide) (by decide)
  exact hne hkind

namespace InSequence

variable {r : Except HandlerError Transition} {xs : List (Exchange σ)}

/-- There is at most one pass. -/
lemma callCount_pass_le (h : InSequence r xs) : callCount .pass xs ≤ 1 := by
  cases h with
  | prepared hxs =>
    have hnone : ∀ x ∈ xs, x.call.kind ≠ .pass := hxs.kind_ne (by decide) (by decide)
    rw [callCount_eq_zero hnone]
    exact Nat.zero_le 1
  | @passed xs rest p hxs hrest =>
    have hbefore : ∀ x ∈ xs, x.call.kind ≠ .pass := hxs.kind_ne (by decide) (by decide)
    have hafter : ∀ x ∈ rest, x.call.kind ≠ .pass :=
      hrest.kind_ne (by decide) (by decide) (by decide)
    rw [callCount_passed, callCount_eq_zero hbefore, callCount_eq_zero hafter]
    decide

/-- There is at most one seeding. -/
lemma callCount_seeding_le (h : InSequence r xs) : callCount .seeding xs ≤ 1 := by
  cases h with
  | prepared hxs => exact hxs.callCount_seeding_le
  | @passed xs rest p hxs hrest =>
    have hafter : ∀ x ∈ rest, x.call.kind ≠ .seeding :=
      hrest.kind_ne (by decide) (by decide) (by decide)
    rw [callCount_passed, callCount_eq_zero hafter]
    exact hxs.callCount_seeding_le

/-- The hook is called as often as a pass asked for another one. -/
lemma callCount_enqueuing (h : InSequence r xs) : callCount .enqueuing xs = askedCount xs := by
  cases h with
  | prepared hxs =>
    have hnone : ∀ x ∈ xs, x.call.kind ≠ .enqueuing := hxs.kind_ne (by decide) (by decide)
    have hunasked : ∀ x ∈ xs, x.call.kind ≠ .pass := hxs.kind_ne (by decide) (by decide)
    rw [callCount_eq_zero hnone, askedCount_eq_zero hunasked]
  | @passed xs rest p hxs hrest =>
    have hnone : ∀ x ∈ xs, x.call.kind ≠ .enqueuing := hxs.kind_ne (by decide) (by decide)
    have hbefore : ∀ x ∈ xs, x.call.kind ≠ .pass := hxs.kind_ne (by decide) (by decide)
    have hafter : ∀ x ∈ rest, x.call.kind ≠ .pass :=
      hrest.kind_ne (by decide) (by decide) (by decide)
    rw [callCount_passed, callCount_eq_zero hnone, askedCount_passed p hbefore hafter,
      hrest.callCount_enqueuing]
    simp

/-- Before a call that has its place after a pass there is one. -/
lemma pass_first (h : InSequence r xs) {past rest : List (Exchange σ)} {y : Exchange σ}
    (heq : xs = past ++ y :: rest) (hy : y.call.FollowsPass) : ∃ p : Pass σ, p.exchange ∈ past := by
  have hmem : y ∈ xs := heq ▸ List.mem_append_right past List.mem_cons_self
  cases h with
  | prepared hxs => exact absurd hy (hxs.not_followsPass hmem)
  | @passed xs rest' p hxs hrest =>
    have hne : p.exchange ≠ y := by
      rintro rfl
      exact p.not_followsPass hy
    rcases List.append_eq_append_iff.1 heq with ⟨more, rfl, hmore⟩ | ⟨more, rfl, hmore⟩
    · cases more with
      | nil => exact absurd (List.cons.inj hmore).1 hne
      | cons z more =>
        obtain ⟨rfl, -⟩ := List.cons.inj hmore
        exact ⟨p, List.mem_append_right _ List.mem_cons_self⟩
    · -- The call would be among those that prepare the graph.
      cases more with
      | nil => exact absurd (List.cons.inj hmore).1.symm hne
      | cons z more =>
        obtain ⟨rfl, -⟩ := List.cons.inj hmore
        exact absurd hy (hxs.not_followsPass (List.mem_append_right _ List.mem_cons_self))

/-- A call that has its place after a pass is in the part after the pass. -/
lemma mem_sequel (h : InSequence r xs) {y : Exchange σ} (hy : y ∈ xs)
    (hfollows : y.call.FollowsPass) :
    ∃ (p : Pass σ) (rest : List (Exchange σ)), Sequel p r rest ∧ y ∈ rest ∧
      ∀ z ∈ xs, z.call.FollowsPass → z ∈ rest := by
  cases h with
  | prepared hxs => exact absurd hfollows (hxs.not_followsPass hy)
  | @passed xs rest p hxs hrest =>
    have hlate : ∀ z ∈ xs ++ p.exchange :: rest, z.call.FollowsPass → z ∈ rest := by
      intro z hz hfollows
      rcases List.mem_append.1 hz with hz | hz
      · exact absurd hfollows (hxs.not_followsPass hz)
      · rcases List.mem_cons.1 hz with rfl | hz
        · exact absurd hfollows p.not_followsPass
        · exact hz
    exact ⟨p, rest, hrest, hlate y hy hfollows, hlate⟩

/-- The hook and the store are not both called. -/
lemma not_both (h : InSequence r xs) {x y : Exchange σ} (hx : x ∈ xs) (hy : y ∈ xs)
    (henqueuing : x.call.kind = .enqueuing) : ¬ y.call.IsOfStore := by
  intro hstore
  obtain ⟨p, rest, hrest, hxrest, hlate⟩ := h.mem_sequel hx (.inl henqueuing)
  exact hrest.not_both hxrest (hlate y hy (.inr hstore)) henqueuing hstore

/-- A failure of the hook is the error of the tick. -/
lemma eq_error_of_enqueue (h : InSequence r xs) {text : String} {w : σ}
    (hx : ⟨.enqueue (.error text), w⟩ ∈ xs) : r = .error (.enqueue text) := by
  obtain ⟨p, rest, hrest, hxrest, -⟩ := h.mem_sequel hx (.inl rfl)
  exact hrest.eq_error_of_enqueue hxrest

end InSequence

/-! ### Ticks call in this order -/

namespace Body

variable {site : TickSite} {c : Collaborators σ} {s : Status} {w : σ}
  {o : TickOutcome σ Transition}

/-- Only the store is called while outputs are propagated. -/
lemma Propagates.isOfStore {sub : SubWorkflow} (h : Propagates site c sub s w o) {x : Exchange σ}
    (hx : x ∈ o.exchanges) : x.call.IsOfStore := by
  cases h with
  | undeclared _ | noEndNode _ _ => cases hx
  | probeFailed _ _ _ | absent _ _ _ _ =>
    rw [List.mem_singleton.1 hx]
    exact .inl rfl
  | copyFailed _ _ _ _ _ | copied _ _ _ _ _ =>
    rcases List.mem_pair.1 hx with rfl | rfl
    · exact .inl rfl
    · exact .inr rfl

/-- After a pass a tick calls the hook or the store, whichever the pass asks for. -/
lemma Advances.sequel {sub : SubWorkflow} {p : Pass σ} (h : Advances site c sub p o) :
    ∃ rest, o.exchanges = p.exchange :: rest ∧ Sequel p o.result rest := by
  cases h with
  | halted hp | running hp | failed hp => exact ⟨[], rfl, .nil (by simp [hp]) _⟩
  | enqueued hp _ => exact ⟨_, rfl, .enqueued hp fun text htext => by cases htext⟩
  | notEnqueued hp _ => exact ⟨_, rfl, .enqueued hp fun text htext => by cases htext; rfl⟩
  | completed hp ho => exact ⟨_, rfl, .stored (by simp [hp]) fun x hx => ho.isOfStore hx⟩

/-- A first tick calls in order. -/
lemma Starts.inSequence (h : Starts site c s w o) : InSequence o.result o.exchanges := by
  cases h with
  | unresolved _ | unlinked _ _ => exact .prepared .nothing
  | unread _ _ _ => exact .prepared (.read _ _)
  | seedHalted _ _ _ _ _ | seedFailed _ _ _ _ _ => exact .prepared (.seeded _ _ _)
  | advanced _ _ _ _ _ _ ho =>
    obtain ⟨rest, hexchanges, hrest⟩ := ho.sequel
    change InSequence _ (_ ++ _)
    rw [hexchanges]
    exact .passed (.seeded _ _ _) hrest

/-- A tick that looks after the body calls in order. -/
lemma Checks.inSequence (h : Checks site c s w o) : InSequence o.result o.exchanges := by
  cases h with
  | unresolved _ | unlinked _ _ => exact .prepared .nothing
  | advanced _ _ ho =>
    obtain ⟨rest, hexchanges, hrest⟩ := ho.sequel
    rw [hexchanges]
    exact .passed .nothing hrest

/-- A tick of a failing body calls in order. -/
lemma Fails.inSequence (h : Fails site c s w o) : InSequence o.result o.exchanges := by
  cases h with
  | unresolved _ | withoutFailureNode _ _ => exact .prepared .nothing
  | halted _ _ _ hp | running _ _ _ hp | failed _ _ _ hp | completed _ _ _ hp =>
    exact .passed .nothing (.nil (by simp [hp]) _)
  | enqueued _ _ _ hp _ =>
    exact .passed .nothing (.enqueued hp fun text htext => by cases htext)
  | notEnqueued _ _ _ hp _ =>
    exact .passed .nothing (.enqueued hp fun text htext => by cases htext; rfl)

end Body

namespace WorkflowNode

variable {site : TickSite} {c : Collaborators σ} {s : Status} {w : σ}

/-- A tick calls in order. -/
theorem Handles.inSequence {o : TickOutcome σ Transition} (h : Handles site c s w o) :
    InSequence o.result o.exchanges := by
  cases h with
  | refused _ => exact .prepared .nothing
  | started _ _ ho =>
    rw [TickOutcome.result_recordingStart, TickOutcome.exchanges_recordingStart]
    exact ho.inSequence
  | checked _ _ ho => exact ho.inSequence
  | failed _ _ ho => exact ho.inSequence

/-- A node is refused for what it is. -/
lemma eq_of_ensureWorkflowNode_eq_error {node : Node} {e : HandlerError}
    (h : ensureWorkflowNode node = .error e) : e = .notAWorkflowNode node.id := by
  unfold ensureWorkflowNode at h
  split at h
  · cases h
  · exact (Except.error.inj h).symm

/-- After an error of the hook the checkpoint is the one that counted before. -/
lemma Handles.checkpoint_of_enqueue_error {o : TickOutcome σ Transition} {text : String}
    (h : Handles site c s w o) (he : o.result = .error (.enqueue text)) :
    o.status.own.checkpoint = s.effectiveCheckpoint := by
  rcases h.of_error he with ⟨hnode, -⟩ | ⟨-, hown, -⟩
  · -- A tick that is refused ends in another error.
    cases h with
    | refused hrefused =>
      cases (Except.error.inj he).symm.trans (eq_of_ensureWorkflowNode_eq_error hrefused)
    | started hensured _ _ | checked hensured _ _ | failed hensured _ _ =>
      exact absurd hnode (ensureWorkflowNode_eq_ok_iff.1 hensured)
  · rw [hown]
    exact s.checkpoint_renewed site.now

end WorkflowNode

/-! ### Runs -/

/-- A tick on a status calls nothing too often, too early or in vain. -/
structure SparingTick (s : Status) (o : TickOutcome σ Transition) : Prop where
  driven_once : callCount .pass o.exchanges ≤ 1
  seeded_once : callCount .seeding o.exchanges ≤ 1
  enqueued_as_asked : callCount .enqueuing o.exchanges = askedCount o.exchanges
  /-- The hook and the store are only called once there was a pass. -/
  pass_first : ∀ past y rest, o.exchanges = past ++ y :: rest → y.call.FollowsPass →
    ∃ p : Pass σ, p.exchange ∈ past
  not_both : ∀ x ∈ o.exchanges, ∀ y ∈ o.exchanges, x.call.kind = .enqueuing → ¬ y.call.IsOfStore
  /-- If the hook fails then so does the tick, and nothing is recorded of it. -/
  enqueue_failed : ∀ text w, ⟨.enqueue (.error text), w⟩ ∈ o.exchanges →
    o.result = .error (.enqueue text) ∧ o.status.own.checkpoint = s.effectiveCheckpoint

/-- An abort on a status calls the executor once to abort from the start node, if there is a graph
to abort, and nothing else. -/
structure SparingAbort (site : TickSite) (s : Status) (reason : String)
    (o : TickOutcome σ Unit) : Prop where
  called_once : ∀ ref sub, site.node.kind = .workflow ref → site.workflow.find? ref = some sub →
    ∃ a w, o.exchanges = [⟨.abort ⟨sub, s⟩ startNodeId reason a, w⟩]
  not_called : (∀ ref sub, site.node.kind = .workflow ref → site.workflow.find? ref ≠ some sub) →
    o.exchanges = []

namespace WorkflowNode

variable {site : TickSite} {c : Collaborators σ} {s : Status} {w : σ}

/-- Every tick is sparing. -/
lemma Handles.sparing {o : TickOutcome σ Transition} (h : Handles site c s w o) :
    SparingTick s o := by
  have hsequence := h.inSequence
  refine ⟨hsequence.callCount_pass_le, hsequence.callCount_seeding_le,
    hsequence.callCount_enqueuing, ?_, ?_, ?_⟩
  · intro past y rest heq hy
    exact hsequence.pass_first heq hy
  · intro x hx y hy henqueuing
    exact hsequence.not_both hx hy henqueuing
  · intro text w' hx
    have he := hsequence.eq_error_of_enqueue hx
    exact ⟨he, h.checkpoint_of_enqueue_error he⟩

/-- A reference resolves if the node has one and the workflow knows it. -/
lemma resolve_eq_ok_iff {sub : SubWorkflow} :
    Body.resolve site = .ok sub ↔
      ∃ ref, site.node.kind = .workflow ref ∧ site.workflow.find? ref = some sub := by
  unfold Body.resolve Node.subWorkflowRef?
  cases site.node.kind with
  | start | finish | task _ => simp
  | workflow ref => cases h : site.workflow.find? ref <;> simp [h]

/-- Every abort is sparing. -/
lemma Aborts.sparing {reason : String} {o : TickOutcome σ Unit} (h : Aborts site c reason s w o) :
    SparingAbort site s reason o := by
  cases h with
  | @refused e hrefused =>
    refine ⟨fun ref sub hkind _ => ?_, fun _ => rfl⟩
    unfold ensureWorkflowNode at hrefused
    rw [hkind] at hrefused
    cases hrefused
  | unresolved _ hs =>
    refine ⟨fun ref sub hkind hfind => ?_, fun _ => rfl⟩
    cases hs.symm.trans (resolve_eq_ok_iff.2 ⟨ref, hkind, hfind⟩)
  | @settled sub a w' _ hs _ =>
    refine ⟨fun ref sub' hkind hfind => ?_, fun hnone => ?_⟩
    · cases hs.symm.trans (resolve_eq_ok_iff.2 ⟨ref, hkind, hfind⟩)
      exact ⟨a, w', rfl⟩
    · obtain ⟨ref, hkind, hfind⟩ := resolve_eq_ok_iff.1 hs
      exact absurd hfind (hnone ref sub hkind)

/-- An abort does not turn to the hook, and nothing asks for it. -/
lemma Aborts.callCount_enqueuing {reason : String} {o : TickOutcome σ Unit}
    (h : Aborts site c reason s w o) :
    callCount .enqueuing o.exchanges = askedCount o.exchanges := by
  cases h with
  | refused _ | unresolved _ _ | settled _ _ _ => rfl

end WorkflowNode

/-- A step calls the hook as often as a pass in it asks for another one. -/
lemma Step.Happens.callCount_enqueuing {node : Node} {config : Config} {x : Step σ}
    (hx : x.Happens node config) : callCount .enqueuing x.exchanges = askedCount x.exchanges := by
  cases hx with
  | tick workflow now c s w =>
    exact (WorkflowNode.handles_run _ c s w).inSequence.callCount_enqueuing
  | abort workflow now c reason s w =>
    exact (WorkflowNode.aborts_run _ c reason s w).callCount_enqueuing
  | retry _ => rfl

/-- Every step of a run happens. -/
lemma Run.happens {node : Node} {config : Config} {s t : Status} {steps : List (Step σ)}
    (hrun : Run node config s steps t) {x : Step σ} (hx : x ∈ steps) : x.Happens node config :=
  (hrun.invariant_before (I := fun _ => True) (fun _ _ _ h => h) trivial hx).1

/-- Over a run the hook is called as often as a pass asks for another one. -/
lemma Run.callCount_enqueuing {node : Node} {config : Config} {s t : Status}
    {steps : List (Step σ)} (hrun : Run node config s steps t) :
    callCount .enqueuing (steps.flatMap Step.exchanges) =
      askedCount (steps.flatMap Step.exchanges) := by
  induction hrun with
  | nil _ => rfl
  | @cons x rest _ hx _ ih =>
    have hstep := hx.callCount_enqueuing
    unfold callCount askedCount at *
    rw [List.flatMap_cons, List.countP_append, List.countP_append, hstep, ih]

/-- Every tick and every abort of a run is sparing, where an abort passes on the reason that was
given for it, and over the run the hook is called as often as a pass asked for another one. -/
theorem Run.calls_sparingly {node : Node} {config : Config} {s t : Status} {steps : List (Step σ)}
    (hrun : Run node config s steps t) :
    (∀ site m o, .tick site m o ∈ steps → SparingTick m o) ∧
      (∀ site reason m o, .abort site reason m o ∈ steps → ∃ (c : Collaborators σ) (w : σ),
        o = (WorkflowNode.abort site c reason).run m w ∧ SparingAbort site m reason o) ∧
        callCount .enqueuing (steps.flatMap Step.exchanges) =
          askedCount (steps.flatMap Step.exchanges) := by
  refine ⟨fun site m o hx => ?_, fun site reason m o hx => ?_, hrun.callCount_enqueuing⟩
  · obtain ⟨-, -, c, w, h⟩ := (hrun.happens hx).handles
    exact h.sparing
  · cases hrun.happens hx with
    | abort workflow now c _ _ w =>
      exact ⟨c, w, rfl, (WorkflowNode.aborts_run _ c reason m w).sparing⟩

namespace Sample

/-- A queue that takes nothing, under an executor that asks for another pass every time. -/
def crowded : Collaborators Unit :=
  { reporting .partiallyComplete .running with enqueue := fun w => (.error "queue is full", w) }

/-- A first tick that cannot be followed by another one. -/
def crowdedTick : TickOutcome Unit Transition := (WorkflowNode.handle site crowded).run status ()

/-- The tick that is tried instead, when the queue takes it. -/
def relievedTick : TickOutcome Unit Transition :=
  (WorkflowNode.handle site (reporting .partiallyComplete .running)).run crowdedTick.status ()

/-- An abort after that. -/
def relievedAbort : TickOutcome Unit Unit :=
  (WorkflowNode.abort site idle "stop").run relievedTick.status ()

/-- The two ticks and the abort. -/
def crowdedHistory : List (Step Unit) :=
  [.tick site status crowdedTick, .tick site crowdedTick.status relievedTick,
    .abort site "stop" relievedTick.status relievedAbort]

/-- Both ticks are asked for another one and turn to the queue once, but only the second can tell
that the body executes.  The abort turns to the executor once. -/
theorem crowdedHistory_sparing :
    crowdedTick.result = .error (.enqueue "queue is full") ∧
      crowdedTick.status.own.checkpoint = status.effectiveCheckpoint ∧
      relievedTick.status.own.checkpoint = ⟨.executing, none, 0⟩ ∧
      callCount .pass crowdedTick.exchanges = 1 ∧
      askedCount (crowdedHistory.flatMap Step.exchanges) = 2 ∧
      callCount .enqueuing (crowdedHistory.flatMap Step.exchanges) = 2 ∧
      ∃ a w, relievedAbort.exchanges =
        [⟨.abort ⟨body, relievedTick.status⟩ startNodeId "stop" a, w⟩] := by
  have hrun : Run node Config.default status crowdedHistory relievedAbort.status :=
    .cons (.tick _ _ crowded status ()) (.cons (.tick _ _ _ _ ())
      (.cons (.abort _ _ idle "stop" _ ()) (.nil _)))
  obtain ⟨hticks, haborts, hcount⟩ := Run.calls_sparingly hrun
  have hcrowded := hticks site status crowdedTick List.mem_cons_self
  have hasked : askedCount (crowdedHistory.flatMap Step.exchanges) = 2 := rfl
  have hfailed : ⟨.enqueue (.error "queue is full"), ()⟩ ∈ crowdedTick.exchanges :=
    List.mem_of_getElem? (i := 3) rfl
  obtain ⟨hresult, hcheckpoint⟩ := hcrowded.enqueue_failed _ _ hfailed
  obtain ⟨c, w, -, habort⟩ := haborts site "stop" relievedTick.status relievedAbort
    (List.mem_of_getElem? (i := 2) rfl)
  refine ⟨hresult, hcheckpoint, rfl, rfl, hasked, hcount.trans hasked, ?_⟩
  obtain ⟨a, w, hexchanges⟩ := habort.called_once "body" body rfl rfl
  cases hexchanges
  exact ⟨_, _, rfl⟩

end Sample

end NestedWorkflow
