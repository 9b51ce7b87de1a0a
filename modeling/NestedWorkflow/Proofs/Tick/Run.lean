import NestedWorkflow.Proofs.Tick.Course

/-!
# Runs of a workflow node

A workflow node meets ticks, aborts and new attempts, in any order.  A run is the list of them with
what came of each.  Every tick and every abort has a workflow, a time, collaborators and a world of
its own, so a run makes no assumption on what happens outside in between; a world that lasts from
step to step is a special case.  Attempts are counted in thirty-two bits: past the last one the
count overflows, which breaks the program off, so no run has such a step.

Properties of runs come from properties of their steps: `Run.append_iff` cuts a run where something
happens, and `Run.invariant` carries what no step breaks along the run.
-/

namespace NestedWorkflow

variable {σ : Type}

/-- One thing that happens to a workflow node, and what comes of it. -/
inductive Step (σ : Type)
  | tick (site : TickSite) (before : Status) (outcome : TickOutcome σ Transition)
  /-- The node is aborted, and told why. -/
  | abort (site : TickSite) (reason : String) (before : Status) (outcome : TickOutcome σ Unit)
  /-- The node is tried once more. -/
  | retry (before after : Status)

namespace Step

/-- The status that a step finds. -/
def before : Step σ → Status
  | .tick _ s _ => s
  | .abort _ _ s _ => s
  | .retry s _ => s

/-- The status that a step leaves. -/
def after : Step σ → Status
  | .tick _ _ o => o.status
  | .abort _ _ _ o => o.status
  | .retry _ t => t

/-- The exchanges of a step. -/
def exchanges : Step σ → List (Exchange σ)
  | .tick _ _ o => o.exchanges
  | .abort _ _ _ o => o.exchanges
  | .retry _ _ => []

/-- Where a tick or an abort happens. -/
def site? : Step σ → Option TickSite
  | .tick site _ _ => some site
  | .abort site _ _ _ => some site
  | .retry _ _ => none

/-- The step begins another attempt. -/
def isRetry : Step σ → Bool
  | .retry _ _ => true
  | _ => false

/-- The steps of a node under a configuration. -/
inductive Happens (node : Node) (config : Config) : Step σ → Prop
  | tick (workflow : WorkflowContext) (now : Instant) (c : Collaborators σ) (s : Status) (w : σ) :
      Happens node config
        (.tick ⟨node, workflow, config, now⟩ s
          ((WorkflowNode.handle ⟨node, workflow, config, now⟩ c).run s w))
  | abort (workflow : WorkflowContext) (now : Instant) (c : Collaborators σ) (reason : String)
      (s : Status) (w : σ) :
      Happens node config
        (.abort ⟨node, workflow, config, now⟩ reason s
          ((WorkflowNode.abort ⟨node, workflow, config, now⟩ c reason).run s w))
  /-- Past the last attempt there is no retry. -/
  | retry {s t : Status} (h : s.incrementAttempts? = some t) : Happens node config (.retry s t)

/-- A tick among the steps took one of its courses. -/
lemma Happens.handles {node : Node} {config : Config} {site : TickSite} {s : Status}
    {o : TickOutcome σ Transition} (h : (Step.tick site s o).Happens node config) :
    site.node = node ∧ site.config = config ∧ ∃ c w, WorkflowNode.Handles site c s w o := by
  cases h with
  | tick workflow now c _ w => exact ⟨rfl, rfl, c, w, WorkflowNode.handles_run _ c s w⟩

/-- A retry among the steps counts one attempt more. -/
lemma Happens.counts {node : Node} {config : Config} {s t : Status}
    (h : (Step.retry (σ := σ) s t).Happens node config) : s.incrementAttempts? = some t := by
  cases h with
  | retry hcount => exact hcount

end Step

/-- The steps lead from one status to another. -/
inductive Run (node : Node) (config : Config) : Status → List (Step σ) → Status → Prop
  | nil (s : Status) : Run node config s [] s
  | cons {x : Step σ} {rest : List (Step σ)} {t : Status} (h : x.Happens node config)
      (hrest : Run node config x.after rest t) : Run node config x.before (x :: rest) t

namespace Run

variable {node : Node} {config : Config} {s t : Status}

/-- A run can be cut after its first step. -/
lemma cons_iff {x : Step σ} {rest : List (Step σ)} :
    Run node config s (x :: rest) t ↔
      s = x.before ∧ x.Happens node config ∧ Run node config x.after rest t := by
  constructor
  · intro h
    cases h with
    | cons hx hrest => exact ⟨rfl, hx, hrest⟩
  · rintro ⟨rfl, hx, hrest⟩
    exact .cons hx hrest

/-- A run can be cut anywhere. -/
lemma append_iff {front back : List (Step σ)} :
    Run node config s (front ++ back) t ↔
      ∃ m, Run node config s front m ∧ Run node config m back t := by
  constructor
  · intro h
    induction front generalizing s with
    | nil => exact ⟨s, .nil s, h⟩
    | cons x front ih =>
      cases h with
      | cons hx hrest =>
        obtain ⟨m, hfront, hback⟩ := ih hrest
        exact ⟨m, .cons hx hfront, hback⟩
  · rintro ⟨m, hfront, hback⟩
    induction hfront with
    | nil s => exact hback
    | cons hx _ ih => exact .cons hx (ih hback)

/-- What no step breaks holds at the end. -/
lemma invariant {I : Status → Prop} {steps : List (Step σ)} (h : Run node config s steps t)
    (hstep : ∀ x ∈ steps, x.Happens node config → I x.before → I x.after) (hs : I s) : I t := by
  induction h with
  | nil s => exact hs
  | @cons x rest t hx hrest ih =>
    refine ih (fun y hy => hstep y (List.mem_cons_of_mem _ hy)) ?_
    exact hstep x List.mem_cons_self hx hs

/-- What no step breaks holds before every step. -/
lemma invariant_before {I : Status → Prop} {steps : List (Step σ)} (h : Run node config s steps t)
    (hstep : ∀ x ∈ steps, x.Happens node config → I x.before → I x.after) (hs : I s) {x : Step σ}
    (hx : x ∈ steps) : x.Happens node config ∧ I x.before := by
  obtain ⟨front, back, rfl⟩ := List.append_of_mem hx
  obtain ⟨m, hfront, hback⟩ := append_iff.1 h
  have hm : I m := hfront.invariant (fun y hy => hstep y (List.mem_append_left _ hy)) hs
  obtain ⟨rfl, hhappens, -⟩ := cons_iff.1 hback
  exact ⟨hhappens, hm⟩

end Run

/-! ### A small workflow node -/

namespace Sample

/-- The failure node of the sample. -/
def cleanUp : Node := ⟨"clean-up", none, .task "sweep"⟩

/-- A body that goes from its start node to its end node, has one output and a failure node. -/
def body : SubWorkflow :=
  ⟨⟨"body", [Node.start, Node.finish], Dict.empty.insert endNodeId [startNodeId],
    [⟨"result", endNodeId, "result"⟩], some cleanUp⟩, rfl⟩

/-- A workflow node with this body. -/
def node : Node := ⟨"outer", none, .workflow "body"⟩

/-- The status of the node before its first tick. -/
def status : Status := (Status.new ⟨"data/outer"⟩).setUniqueId "outer-1"

/-- The node in its workflow, under the default configuration. -/
def site : TickSite where
  node := node
  workflow := WorkflowContext.register ⟨"sample", Dict.empty⟩ body
  config := Config.default
  now := ⟨⟨1970, 1, 1⟩, ⟨0, 0, 0, 0⟩, by decide, by decide⟩

/-- Collaborators that change nothing and leave the graph running. -/
def idle : Collaborators σ where
  readInputs w := (.ok Dict.empty, w)
  seed _ _ _ w := (⟨.ok .running, []⟩, w)
  drive _ _ _ w := (⟨.ok .running, []⟩, w)
  abort _ _ _ _ w := (⟨.ok (), []⟩, w)
  head _ w := (.ok Metadata.missing, w)
  copy _ _ w := (.ok (), w)
  enqueue w := (.ok (), w)

/-- The same collaborators, but passes report this of the graph, and that from other nodes. -/
def reporting (graph others : Rollup) : Collaborators σ :=
  { idle with
    drive := fun _ _ node w => (⟨.ok (if node = startNodeId then graph else others), []⟩, w) }

end Sample

end NestedWorkflow
