import NestedWorkflow.Proofs.Tick.History

/-!
# The graph is seeded before it is driven, and only once

A tick seeds the start node if the checkpoint that counts says nothing yet.  So whether the graph is
driven with its inputs in place, and whether they are put there twice, depends on what earlier ticks
left in the checkpoint: ticks that ended in an error, that were followed by a retry, or that failed
before they came to a pass must not leave anything that a later tick takes for a start.

The exchanges of a tick come in two parts, those that prepare the graph and those that follow
(`WorkflowNode.Handles.exchanges_eq`).  The first part is empty once something is in the checkpoint;
the second part is empty unless the first one holds a seeding that did not fail.  Along a run this
makes a checkpoint that says something a proof that the graph was seeded in the same attempt
(`Run.seeded`).
-/

namespace NestedWorkflow

variable {σ : Type}

/-- Among these exchanges the start node was seeded, and the executor did not report a failure. -/
def Seeded (xs : List (Exchange σ)) : Prop :=
  ∃ (q : Seeding σ) (r : Rollup), q.exchange ∈ xs ∧ q.answer.result = .ok r ∧
    ∀ error, r ≠ .failed error

/-- More exchanges do not undo a seeding. -/
lemma Seeded.mono {xs ys : List (Exchange σ)} (h : Seeded xs) (hsub : xs ⊆ ys) : Seeded ys := by
  obtain ⟨q, r, hq, hresult, hr⟩ := h
  exact ⟨q, r, hsub hq, hresult, hr⟩

/-- A pass does not prepare the graph. -/
lemma Pass.not_prepares (p : Pass σ) : ¬ p.exchange.call.Prepares := by
  intro h
  cases h

/-! ### The two parts of a tick -/

namespace Body

variable {site : TickSite} {c : Collaborators σ} {s : Status} {w : σ}
  {o : TickOutcome σ Transition}

/-- Nothing is prepared while outputs are propagated. -/
lemma Propagates.not_prepares {sub : SubWorkflow} (h : Propagates site c sub s w o) :
    ∀ y ∈ o.exchanges, ¬ y.call.Prepares := by
  intro y hy hprepares
  cases h with
  | undeclared _ | noEndNode _ _ => cases hy
  | probeFailed _ _ _ | absent _ _ _ _ =>
    rw [List.mem_singleton.1 hy] at hprepares
    cases hprepares
  | copyFailed _ _ _ _ _ | copied _ _ _ _ _ =>
    rcases List.mem_pair.1 hy with rfl | rfl <;> cases hprepares

/-- Nothing is prepared from a pass on. -/
lemma Advances.not_prepares {sub : SubWorkflow} {p : Pass σ} (h : Advances site c sub p o) :
    ∀ y ∈ o.exchanges, ¬ y.call.Prepares := by
  intro y hy
  cases h with
  | halted _ | running _ | failed _ =>
    rw [List.mem_singleton.1 hy]
    exact p.not_prepares
  | enqueued _ _ | notEnqueued _ _ =>
    rcases List.mem_pair.1 hy with rfl | rfl
    · exact p.not_prepares
    · intro hprepares
      cases hprepares
  | completed _ ho =>
    rcases List.mem_cons.1 hy with rfl | hy
    · exact p.not_prepares
    · exact ho.not_prepares y hy

/-- A first tick prepares the graph and goes on only if it is seeded.  Where it does not get that
far, it leaves no note of a start. -/
lemma Starts.exchanges_eq (h : Starts site c s w o) :
    ∃ preparing following, o.exchanges = preparing ++ following ∧
      (∀ y ∈ preparing, y.call.Prepares) ∧ (∀ y ∈ following, ¬ y.call.Prepares) ∧
      (following ≠ [] → Seeded preparing) ∧
      (following = [] → o.status.own = s.own ∧ o.result ≠ .ok .running) := by
  cases h with
  | unresolved _ =>
    exact ⟨[], [], rfl, by simp, by simp, by simp, fun _ => ⟨rfl, by simp [Body.unresolved]⟩⟩
  | unlinked _ _ =>
    exact ⟨[], [], rfl, by simp, by simp, by simp, fun _ => ⟨site.own_linking _ s, by simp⟩⟩
  | unread _ _ _ =>
    refine ⟨[_], [], rfl, fun y hy => ?_, by simp, by simp,
      fun _ => ⟨site.own_linking _ s, by simp⟩⟩
    rw [List.mem_singleton.1 hy]
    exact .readInputs _
  | seedHalted _ _ _ hq _ | seedFailed _ _ _ hq _ =>
    subst hq
    refine ⟨[_, _], [], rfl, fun y hy => ?_, by simp, by simp,
      fun _ => ⟨site.own_seeded c _ _ s _, by simp⟩⟩
    rcases List.mem_pair.1 hy with rfl | rfl
    · exact .readInputs _
    · exact .seed _ _ _
  | @advanced _ _ _ q r o' _ _ _ _ hresult hr ho =>
    refine ⟨[_, _], o'.exchanges, rfl, fun y hy => ?_, ho.not_prepares, fun _ => ?_,
      fun hnone => ?_⟩
    · rcases List.mem_pair.1 hy with rfl | rfl
      · exact .readInputs _
      · exact .seed _ _ _
    · exact ⟨q, r, List.mem_cons_of_mem _ List.mem_cons_self, hresult, hr⟩
    · have hpass := ho.pass_mem
      rw [hnone] at hpass
      cases hpass

/-- A tick that looks after the body prepares nothing. -/
lemma Checks.not_prepares (h : Checks site c s w o) : ∀ y ∈ o.exchanges, ¬ y.call.Prepares := by
  cases h with
  | unresolved _ | unlinked _ _ => simp
  | advanced _ _ ho => exact ho.not_prepares

/-- A tick of a body that failed prepares nothing. -/
lemma Fails.not_prepares (h : Fails site c s w o) : ∀ y ∈ o.exchanges, ¬ y.call.Prepares := by
  intro y hy hprepares
  rcases h.call_cases hy with ⟨sub, node, -, -, rfl⟩ | ⟨answer, hcall⟩
  · exact Pass.not_prepares _ hprepares
  · rw [hcall] at hprepares
    cases hprepares

end Body

/-- The exchanges of a tick or an abort, in two parts.  What the checkpoint says before decides
whether there is anything to prepare, and what it says after tells whether it was done. -/
structure TwoParts (before after : Checkpoint) (preparing following : List (Exchange σ)) :
    Prop where
  prepares : ∀ y ∈ preparing, y.call.Prepares
  not_prepares : ∀ y ∈ following, ¬ y.call.Prepares
  nil_of_started : before.stage ≠ .undefined → preparing = []
  seeded : before.stage = .undefined → following ≠ [] → Seeded preparing
  unchanged : before.stage = .undefined → following = [] → after = before

namespace TwoParts

variable {before after : Checkpoint} {preparing following past rest : List (Exchange σ)}
  {p : Pass σ}

/-- A pass is in the second part, and so is everything after it. -/
lemma split (h : TwoParts before after preparing following)
    (heq : past ++ p.exchange :: rest = preparing ++ following) :
    ∃ more, past = preparing ++ more ∧ following = more ++ p.exchange :: rest := by
  rcases List.append_eq_append_iff.1 heq with ⟨more, hpreparing, hrest⟩ | ⟨more, hpast, hfollowing⟩
  · cases more with
    | nil => exact ⟨[], by simpa using hpreparing.symm, by simpa using hrest.symm⟩
    | cons y more =>
      -- The pass would be among the exchanges that prepare the graph.
      obtain ⟨rfl, -⟩ := List.cons.inj hrest
      have hmem : p.exchange ∈ preparing := by
        rw [hpreparing]
        exact List.mem_append_right _ List.mem_cons_self
      exact absurd (h.prepares _ hmem) p.not_prepares
  · exact ⟨more, hpast, hfollowing⟩

end TwoParts

namespace WorkflowNode

variable {site : TickSite} {c : Collaborators σ} {s : Status} {w : σ}

/-- The exchanges of a tick come in two parts. -/
lemma Handles.exchanges_eq {o : TickOutcome σ Transition} (h : Handles site c s w o) :
    ∃ preparing following, o.exchanges = preparing ++ following ∧
      TwoParts s.effectiveCheckpoint o.status.effectiveCheckpoint preparing following := by
  have hcheckpoint := s.checkpoint_renewed site.now
  cases h with
  | refused _ => exact ⟨[], [], rfl, by simp, by simp, by simp, by simp, by simp⟩
  | started _ hstage ho =>
    obtain ⟨preparing, following, heq, hprepares, hfollowing, hseeded, hnone⟩ := ho.exchanges_eq
    rw [hcheckpoint] at hstage
    refine ⟨preparing, following, ?_, hprepares, hfollowing, fun h => absurd hstage h,
      fun _ => hseeded, fun _ hnil => ?_⟩
    · rw [TickOutcome.exchanges_recordingStart]
      exact heq
    · obtain ⟨hown, hrunning⟩ := hnone hnil
      rw [TickOutcome.recordingStart_of_ne_running hrunning, Status.effectiveCheckpoint_congr hown,
        Status.effectiveCheckpoint_renewed]
  | checked _ hstage ho =>
    rw [hcheckpoint] at hstage
    refine ⟨[], _, rfl, by simp, ho.not_prepares, fun _ => rfl, ?_, ?_⟩
    · simp [hstage]
    · simp [hstage]
  | failed _ hstage ho =>
    rw [hcheckpoint] at hstage
    refine ⟨[], _, rfl, by simp, ho.not_prepares, fun _ => rfl, ?_, ?_⟩
    · simp [hstage]
    · simp [hstage]

/-- An abort prepares nothing. -/
lemma Aborts.not_prepares {reason : String} {o : TickOutcome σ Unit}
    (h : Aborts site c reason s w o) : ∀ y ∈ o.exchanges, ¬ y.call.Prepares := by
  intro y hy hprepares
  cases h with
  | refused _ | unresolved _ _ => cases hy
  | settled _ _ _ =>
    rw [List.mem_singleton.1 hy] at hprepares
    cases hprepares

end WorkflowNode

/-! ### The checkpoint as evidence of a seeding -/

namespace Step

variable {node : Node} {config : Config} {x : Step σ}

/-- Where the checkpoint says something, the graph has been seeded in the attempt. -/
lemma seeded (hx : x.Happens node config) {past : List (Step σ)} (hinStep : x.before.InStep past)
    (h : x.before.effectiveCheckpoint.stage ≠ .undefined →
      Seeded ((currentAttempt past).flatMap Step.exchanges))
    (hafter : x.after.effectiveCheckpoint.stage ≠ .undefined) :
    Seeded ((currentAttempt (past ++ [x])).flatMap Step.exchanges) := by
  cases x with
  | tick site s o =>
    obtain ⟨-, -, c, w, hhandles⟩ := hx.handles
    obtain ⟨preparing, following, heq, hparts⟩ := hhandles.exchanges_eq
    rw [currentAttempt_concat_of_not_retry past rfl, List.flatMap_append]
    by_cases hstage : s.effectiveCheckpoint.stage = .undefined
    · by_cases hnil : following = []
      · refine absurd ?_ hafter
        rw [show (Step.tick site s o).after.effectiveCheckpoint = _ from
          hparts.unchanged hstage hnil]
        exact hstage
      · refine (hparts.seeded hstage hnil).mono (List.subset_append_of_subset_right _ ?_)
        rw [List.flatMap_singleton, show (Step.tick site s o).exchanges = _ from heq]
        exact List.subset_append_left _ _
    · exact (h hstage).mono (List.subset_append_left _ _)
  | abort site reason s o =>
    obtain ⟨c, w, haborts⟩ := hx.aborts
    have hsame : (Step.abort site reason s o).after.effectiveCheckpoint = s.effectiveCheckpoint :=
      Status.effectiveCheckpoint_congr haborts.own_eq
    rw [hsame] at hafter
    rw [currentAttempt_concat_of_not_retry past rfl, List.flatMap_append]
    exact (h hafter).mono (List.subset_append_left _ _)
  | retry s t =>
    have hnothing := Status.effectiveCheckpoint_incrementAttempts hx.counts hinStep.attempt_le
    refine absurd ?_ hafter
    rw [show (Step.retry (σ := σ) s t).after.effectiveCheckpoint = _ from hnothing]

/-- A pass comes after a seeding in the attempt, and nothing is prepared after it. -/
lemma seeded_before_pass (hx : x.Happens node config) {past : List (Exchange σ)}
    (h : x.before.effectiveCheckpoint.stage ≠ .undefined → Seeded past)
    {before rest : List (Exchange σ)} {p : Pass σ}
    (hsplit : x.exchanges = before ++ p.exchange :: rest) :
    Seeded (past ++ before) ∧ ∀ y ∈ rest, ¬ y.call.Prepares := by
  have hmem : p.exchange ∈ x.exchanges := by
    rw [hsplit]
    exact List.mem_append_right _ List.mem_cons_self
  cases x with
  | tick site s o =>
    obtain ⟨-, -, c, w, hhandles⟩ := hx.handles
    obtain ⟨preparing, following, heq, hparts⟩ := hhandles.exchanges_eq
    obtain ⟨more, rfl, rfl⟩ := hparts.split (hsplit.symm.trans heq)
    refine ⟨?_, fun y hy => hparts.not_prepares y ?_⟩
    · by_cases hstage : s.effectiveCheckpoint.stage = .undefined
      · refine (hparts.seeded hstage (by simp)).mono (List.subset_append_of_subset_right _ ?_)
        exact List.subset_append_left _ _
      · exact (h hstage).mono (List.subset_append_left _ _)
    · exact List.mem_append_right _ (List.mem_cons_of_mem _ hy)
  | abort site reason s o =>
    obtain ⟨c, w, haborts⟩ := hx.aborts
    exact absurd hmem (haborts.pass_notMem p)
  | retry s t => cases hmem

/-- Where the checkpoint says something, nothing is prepared. -/
lemma not_prepares_of_stage (hx : x.Happens node config)
    (h : x.before.effectiveCheckpoint.stage ≠ .undefined) :
    ∀ y ∈ x.exchanges, ¬ y.call.Prepares := by
  cases x with
  | tick site s o =>
    obtain ⟨-, -, c, w, hhandles⟩ := hx.handles
    obtain ⟨preparing, following, heq, hparts⟩ := hhandles.exchanges_eq
    rw [hparts.nil_of_started h, List.nil_append] at heq
    rw [show (Step.tick site s o).exchanges = following from heq]
    exact hparts.not_prepares
  | abort site reason s o =>
    obtain ⟨c, w, haborts⟩ := hx.aborts
    exact haborts.not_prepares
  | retry s t =>
    intro y hy
    cases hy

/-- A step that left the node running, or in which the graph failed, is no retry. -/
lemma isRetry_of_started (h : x.LeftRunning ∨ ∃ error, x.GraphFailed error) :
    x.isRetry = false := by
  cases x with
  | tick _ _ _ | abort _ _ _ _ => rfl
  | retry s t =>
    rcases h with hrunning | ⟨error, p, reported, hp, -⟩
    · exact hrunning.elim
    · cases hp

end Step

/-- Such a step in the attempt has left a note in the checkpoint. -/
lemma Status.Tells.stage_ne_undefined {s : Status} {attempt : List (Step σ)} (h : s.Tells attempt)
    {x : Step σ} (hx : x ∈ attempt) (hstarted : x.LeftRunning ∨ ∃ error, x.GraphFailed error) :
    s.effectiveCheckpoint.stage ≠ .undefined := by
  cases h with
  | nothing hfailed hrunning _ =>
    rcases hstarted with hleft | ⟨error, hgraph⟩
    · exact absurd hleft (hrunning x hx)
    · exact absurd hgraph (hfailed x hx error)
  | running _ _ _ hs =>
    rw [hs]
    simp
  | failed _ _ _ hs =>
    rw [Status.failsWith_iff.1 hs]
    simp

/-- In a run that began with no checkpoint, a checkpoint that says something is evidence that the
graph was seeded in the attempt. -/
lemma Run.seeded {node : Node} {config : Config} {s t : Status} {steps : List (Step σ)}
    (hrun : Run node config s steps t) (hs : s.own.checkpoint = Checkpoint.initial)
    (ht : t.effectiveCheckpoint.stage ≠ .undefined) :
    Seeded ((currentAttempt steps).flatMap Step.exchanges) := by
  have hnil : Run node config s ([] : List (Step σ)) s := .nil s
  have hinitial := hnil.inStep hs
  refine (hrun.historic (I := fun past m => m.InStep past ∧
    (m.effectiveCheckpoint.stage ≠ .undefined →
      Seeded ((currentAttempt past).flatMap Step.exchanges))) ?_ ⟨hinitial, ?_⟩).2 ht
  · rintro past x hx ⟨hinStep, hseeded⟩
    exact ⟨Step.inStep hx hinStep, Step.seeded hx hinStep hseeded⟩
  · intro hstage
    cases hinitial.tells with
    | nothing _ _ h =>
      rw [h] at hstage
      exact absurd rfl hstage
    | running _ hx _ _ | failed hx _ _ _ => cases hx

/-! ### Runs -/

/-- In a run that began with no checkpoint, every pass over the graph comes after a seeding in the
same attempt that did not fail, and nothing is read or seeded after it in its tick.  Once a tick has
left the node running or the graph has failed, nothing is read or seeded any more until the node is
tried once more. -/
theorem Run.seeded_before_driven {node : Node} {config : Config} {s t : Status}
    {earlier later : List (Step σ)} {x : Step σ}
    (hrun : Run node config s (earlier ++ x :: later) t)
    (hs : s.own.checkpoint = Checkpoint.initial) :
    (∀ past (p : Pass σ) rest, x.exchanges = past ++ p.exchange :: rest →
      Seeded ((currentAttempt earlier).flatMap Step.exchanges ++ past) ∧
        ∀ y ∈ rest, ¬ y.call.Prepares) ∧
    ((x.LeftRunning ∨ ∃ error, x.GraphFailed error) →
      ∀ between x' rest, later = between ++ x' :: rest → (∀ y ∈ between, y.isRetry = false) →
        ∀ y ∈ x'.exchanges, ¬ y.call.Prepares) := by
  obtain ⟨m, hearlier, hback⟩ := append_iff.1 hrun
  obtain ⟨rfl, hx, -⟩ := cons_iff.1 hback
  constructor
  · intro past p rest hsplit
    exact Step.seeded_before_pass hx (hearlier.seeded hs) hsplit
  · rintro hstarted between x' rest rfl hretry
    have hcut : earlier ++ x :: (between ++ x' :: rest) =
        (earlier ++ x :: between) ++ x' :: rest := by simp
    obtain ⟨m', hfront, hlast⟩ := append_iff.1 (hcut ▸ hrun)
    obtain ⟨rfl, hx', -⟩ := cons_iff.1 hlast
    have hsame : ∀ y ∈ x :: between, y.isRetry = false := by
      intro y hy
      rcases List.mem_cons.1 hy with rfl | hy
      · exact Step.isRetry_of_started hstarted
      · exact hretry y hy
    have htells := (hfront.inStep hs).tells
    rw [currentAttempt_append earlier hsame] at htells
    have hmem : x ∈ currentAttempt earlier ++ x :: between :=
      List.mem_append_right _ List.mem_cons_self
    exact Step.not_prepares_of_stage hx' (htells.stage_ne_undefined hmem hstarted)

namespace Sample

/-- The failed pass of the second attempt. -/
def retriedPass : Pass Unit :=
  site.pass breaking body startNodeId (site.linking body (retriedStatus.renewed site.now)).2 ()

/-- The tick after the abort of the second attempt. -/
def sweptRetry : TickOutcome Unit Transition :=
  (WorkflowNode.handle site breaking).run brokenAbort.status ()

/-- The second attempt is seeded anew before its pass, although the first one was; after the pass
has failed, and after an abort, nothing is seeded any more. -/
theorem retriedPass_seeded :
    brokenRetry.exchanges = brokenRetry.exchanges.take 2 ++ [retriedPass.exchange] ∧
      Seeded (brokenRetry.exchanges.take 2) ∧ ∀ y ∈ sweptRetry.exchanges, ¬ y.call.Prepares := by
  have hrun : Run node Config.default status
      ([.tick site status startedTick, .retry startedTick.status retriedStatus] ++
        .tick site retriedStatus brokenRetry ::
          [.abort site "stop" brokenRetry.status brokenAbort,
            .tick site brokenAbort.status sweptRetry])
      sweptRetry.status :=
    .cons (.tick _ _ _ status ()) (.cons (.retry rfl) (.cons (.tick _ _ breaking _ ())
      (.cons (.abort _ _ breaking "stop" _ ()) (.cons (.tick _ _ breaking _ ()) (.nil _)))))
  have hsplit : brokenRetry.exchanges =
      brokenRetry.exchanges.take 2 ++ [retriedPass.exchange] := rfl
  have hfailed : (Step.tick site retriedStatus brokenRetry).GraphFailed broken := by
    refine ⟨retriedPass, some broken, ?_, rfl, rfl, rfl⟩
    change retriedPass.exchange ∈ brokenRetry.exchanges
    rw [hsplit]
    exact List.mem_append_right _ List.mem_cons_self
  obtain ⟨hbefore, hafter⟩ := Run.seeded_before_driven hrun rfl
  obtain ⟨hseeded, -⟩ := hbefore _ retriedPass [] hsplit
  refine ⟨hsplit, hseeded, ?_⟩
  exact hafter (.inr ⟨broken, hfailed⟩) [.abort site "stop" brokenRetry.status brokenAbort] _ [] rfl
    (by simp [Step.isRetry])

end Sample

end NestedWorkflow
