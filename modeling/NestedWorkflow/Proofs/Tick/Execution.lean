import NestedWorkflow.Proofs.Lookup.Visits
import NestedWorkflow.Tick.WorkflowNode

/-!
# Executing the steps of a tick

Ticks are written in a monad; this file says what each step does to the state of a tick.  After it,
proofs about ticks need not look behind the monad again.

A step never looks at the exchanges of the steps before it.  So what it does is told by the outcome
it has in a state (`Tick.Yields`): a result, the status and the world that it leaves, and the
exchanges that it adds.
-/

namespace NestedWorkflow

/-- The outcome after exchanges that came before. -/
def TickOutcome.after {σ α : Type} (past : List (Exchange σ)) (o : TickOutcome σ α) :
    TickOutcome σ α :=
  { o with exchanges := past ++ o.exchanges }

namespace Tick

variable {σ α β : Type}

/-- Execute a tick in a state. -/
def exec (t : Tick σ α) (st : TickState σ) : Except HandlerError α × TickState σ :=
  StateT.run (ExceptT.run t) st

/-- In a state with this status and world the tick has this outcome, whatever came before. -/
def Yields (t : Tick σ α) (s : Status) (w : σ) (o : TickOutcome σ α) : Prop :=
  ∀ past, exec t ⟨s, w, past⟩ = (o.result, ⟨o.status, o.world, past ++ o.exchanges⟩)

/-- Running a tick is executing it where nothing came before. -/
lemma run_eq_exec (t : Tick σ α) (s : Status) (w : σ) :
    t.run s w = ⟨(exec t ⟨s, w, []⟩).1, (exec t ⟨s, w, []⟩).2.status, (exec t ⟨s, w, []⟩).2.world,
      (exec t ⟨s, w, []⟩).2.exchanges⟩ := rfl

/-- Nothing came before a tick that is run on its own. -/
lemma Yields.run_eq {t : Tick σ α} {s : Status} {w : σ} {o : TickOutcome σ α}
    (h : t.Yields s w o) : t.run s w = o := by
  rw [run_eq_exec, h []]
  rfl

/-! ### Sequences -/

/-- A sequence goes on with the value of its first step, or ends with its error. -/
lemma exec_bind (t : Tick σ α) (f : α → Tick σ β) (st : TickState σ) :
    exec (t >>= f) st =
      match exec t st with
      | (.ok a, st') => exec (f a) st'
      | (.error e, st') => (.error e, st') := by
  rcases h : exec t st with ⟨r, st'⟩
  have hrun : t st = (r, st') := h
  change (ExceptT.bind t f) st = _
  simp only [ExceptT.bind, ExceptT.mk, bind, StateT.bind, hrun, ExceptT.bindCont]
  cases r <;> rfl

/-- A step without exchanges that succeeds hands its value on. -/
lemma Yields.bind {t : Tick σ α} {f : α → Tick σ β} {s s' : Status} {w w' : σ} {a : α}
    {o : TickOutcome σ β} (ht : t.Yields s w ⟨.ok a, s', w', []⟩) (hf : (f a).Yields s' w' o) :
    (t >>= f).Yields s w o := by
  intro past
  rw [exec_bind, ht past]
  simp only [List.append_nil]
  exact hf past

/-- A step with an exchange that succeeds hands its value on. -/
lemma Yields.bind_noted {t : Tick σ α} {f : α → Tick σ β} {s s' : Status} {w w' : σ} {a : α}
    {x : Exchange σ} {r : Except HandlerError β} {s'' : Status} {w'' : σ} {xs : List (Exchange σ)}
    (ht : t.Yields s w ⟨.ok a, s', w', [x]⟩) (hf : (f a).Yields s' w' ⟨r, s'', w'', xs⟩) :
    (t >>= f).Yields s w ⟨r, s'', w'', x :: xs⟩ := by
  intro past
  rw [exec_bind, ht past]
  simp only
  rw [hf (past ++ [x]), List.append_assoc, List.singleton_append]

/-- A step that fails ends the sequence. -/
lemma Yields.bind_error {t : Tick σ α} {f : α → Tick σ β} {s s' : Status} {w w' : σ}
    {e : HandlerError} {xs : List (Exchange σ)} (ht : t.Yields s w ⟨.error e, s', w', xs⟩) :
    (t >>= f).Yields s w ⟨.error e, s', w', xs⟩ := by
  intro past
  rw [exec_bind, ht past]

/-- Sequences go on alike where their first steps do. -/
lemma exec_bind_congr {t : Tick σ α} (f : α → Tick σ β) {st st' : TickState σ}
    (h : exec t st = exec t st') : exec (t >>= f) st = exec (t >>= f) st' := by
  rw [exec_bind, exec_bind, h]

lemma yields_pure (a : α) (s : Status) (w : σ) :
    (pure a : Tick σ α).Yields s w ⟨.ok a, s, w, []⟩ := by
  intro past
  rw [List.append_nil]
  rfl

lemma yields_throw (e : HandlerError) (s : Status) (w : σ) :
    (throw e : Tick σ α).Yields s w ⟨.error e, s, w, []⟩ := by
  intro past
  rw [List.append_nil]
  rfl

/-! ### Steps -/

lemma yields_status (s : Status) (w : σ) :
    (status : Tick σ Status).Yields s w ⟨.ok s, s, w, []⟩ := by
  intro past
  rw [List.append_nil]
  rfl

lemma yields_modifyStatus (f : Status → Status) (s : Status) (w : σ) :
    (modifyStatus f : Tick σ Unit).Yields s w ⟨.ok (), f s, w, []⟩ := by
  intro past
  rw [List.append_nil]
  rfl

lemma exec_get (st : TickState σ) : exec (get : Tick σ (TickState σ)) st = (.ok st, st) := rfl

lemma exec_note (world : σ) (call : Call) (st : TickState σ) :
    exec (note world call) st =
      (.ok (), ⟨st.status, world, st.exchanges ++ [⟨call, world⟩]⟩) := rfl

lemma exec_lookup (sub : SubWorkflow) (st : TickState σ) :
    exec (lookup sub) st = (.ok ⟨sub, st.status⟩, st) := rfl

lemma exec_settle (l : Lookup) (a : Answer α) (st : TickState σ) :
    exec (settle l a) st = (a.result.mapError .executor, { st with status := l.leftBy a }) := by
  unfold settle
  rw [exec_bind, show exec (modifyStatus fun _ => (l.visitAll a.visits).status) st =
    (.ok (), { st with status := l.leftBy a }) from rfl]
  cases a.result <;> rfl

/-- Reading inputs changes the world. -/
lemma yields_readInputs (c : Collaborators σ) {s : Status} {w w' : σ}
    {answer : Except InputError LiteralMap} (h : c.readInputs w = (answer, w')) :
    (readInputs c).Yields s w ⟨.ok answer, s, w', [⟨.readInputs answer, w'⟩]⟩ := by
  intro past
  unfold readInputs
  rw [exec_bind, exec_get]
  simp only [h]
  rfl

/-- Probing changes the world. -/
lemma yields_head (c : Collaborators σ) {path : Reference} {s : Status} {w w' : σ}
    {answer : Except StorageError Metadata} (h : c.head path w = (answer, w')) :
    (head c path).Yields s w ⟨.ok answer, s, w', [⟨.head path answer, w'⟩]⟩ := by
  intro past
  unfold head
  rw [exec_bind, exec_get]
  simp only [h]
  rfl

/-- Copying changes the world. -/
lemma yields_copy (c : Collaborators σ) {source destination : Reference} {s : Status} {w w' : σ}
    {answer : Except StorageError Unit} (h : c.copy source destination w = (answer, w')) :
    (copy c source destination).Yields s w
      ⟨.ok answer, s, w', [⟨.copy source destination answer, w'⟩]⟩ := by
  intro past
  unfold copy
  rw [exec_bind, exec_get]
  simp only [h]
  rfl

/-- An enqueuing that fails ends the tick. -/
lemma yields_enqueue (c : Collaborators σ) {s : Status} {w w' : σ} {answer : Except String Unit}
    (h : c.enqueue w = (answer, w')) :
    (enqueue c).Yields s w
      ⟨answer.mapError .enqueue, s, w', [⟨.enqueue answer, w'⟩]⟩ := by
  intro past
  unfold enqueue
  rw [exec_bind, exec_get]
  simp only [h]
  rw [exec_bind, exec_note]
  cases answer <;> rfl

/-! ### Calls of the executor -/

/-- Seeding the start node ends the tick if the executor fails. -/
lemma yields_seed (site : TickSite) (c : Collaborators σ) (sub : SubWorkflow) (inputs : LiteralMap)
    {s : Status} {w w' : σ} {a : Answer Rollup}
    (h : c.seed site.workflow ⟨sub, s⟩ inputs w = (a, w')) :
    (seed site c sub inputs).Yields s w
      ⟨a.result.mapError .executor, Lookup.leftBy ⟨sub, s⟩ a, w',
        [⟨.seed ⟨sub, s⟩ inputs a, w'⟩]⟩ := by
  intro past
  unfold seed
  rw [exec_bind, exec_lookup]
  simp only
  rw [exec_bind, exec_get]
  simp only [h]
  rw [exec_bind, exec_note]
  simp only
  rw [exec_settle]

/-- Driving the graph ends the tick if the executor fails. -/
lemma yields_drive (site : TickSite) (c : Collaborators σ) (sub : SubWorkflow) (start : NodeId)
    {s : Status} {w w' : σ} {a : Answer Rollup}
    (h : c.drive site.workflow ⟨sub, s⟩ start w = (a, w')) :
    (drive site c sub start).Yields s w
      ⟨a.result.mapError .executor, Lookup.leftBy ⟨sub, s⟩ a, w',
        [⟨.drive ⟨sub, s⟩ start a, w'⟩]⟩ := by
  intro past
  unfold drive
  rw [exec_bind, exec_lookup]
  simp only
  rw [exec_bind, exec_get]
  simp only [h]
  rw [exec_bind, exec_note]
  simp only
  rw [exec_settle]

/-- Aborting the graph ends the tick if the executor fails. -/
lemma yields_abortFrom (site : TickSite) (c : Collaborators σ) (sub : SubWorkflow) (start : NodeId)
    (reason : String) {s : Status} {w w' : σ} {a : Answer Unit}
    (h : c.abort site.workflow ⟨sub, s⟩ start reason w = (a, w')) :
    (abortFrom site c sub start reason).Yields s w
      ⟨a.result.mapError .executor, Lookup.leftBy ⟨sub, s⟩ a, w',
        [⟨.abort ⟨sub, s⟩ start reason a, w'⟩]⟩ := by
  intro past
  unfold abortFrom
  rw [exec_bind, exec_lookup]
  simp only
  rw [exec_bind, exec_get]
  simp only [h]
  rw [exec_bind, exec_note]
  simp only
  rw [exec_settle]

end Tick

end NestedWorkflow
