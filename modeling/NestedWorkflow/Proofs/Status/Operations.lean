import NestedWorkflow.Proofs.Lookup.Linking
import NestedWorkflow.Status.Document

/-!
# Operations on a tree of statuses

Whoever works on a tree of statuses goes down a path of identifiers and does something to the status
at its end (`Status.Operation`).  On the way, statuses that are missing come to be, and a status
without a place for its data ends the walk.

Operations on statuses neither of which lies below the other can be made in any order
(`Status.perform_comm`): each has the result that it has without the other, errors included, and the
tree is the same in the end.  It is not enough that the two touch different statuses, as both can
create their common ancestors, and either can end on the way.  What counts is that a walk leaves
every status on its way as it is, but for its children (`Status.own_walk_cons`): the ancestors that
the first walk has left are found by the second one, or were missing and are those it would have
created.
-/

namespace NestedWorkflow

namespace Status

/-! ### Walks -/

section Walks

variable {α β : Type}

/-- A walk to a child that cannot be reached changes nothing. -/
lemma walk_cons_of_error {s : Status} {id : NodeId} {e : StatusError} (h : s.entry id = .error e)
    (path : List NodeId) (act : Status → α × Status) : s.walk (id :: path) act = (.error e, s) := by
  rw [walk, h]

/-- A walk through a child is a walk from it, and the child is put back. -/
lemma walk_cons_of_ok {s c : Status} {id : NodeId} (h : s.entry id = .ok c) (path : List NodeId)
    (act : Status → α × Status) :
    s.walk (id :: path) act = ((c.walk path act).1, s.withChild id (c.walk path act).2) := by
  rw [walk, h]

/-- What the status at the start of a walk says of its own node stays, unless the walk ends
there. -/
lemma own_walk_cons (s : Status) (id : NodeId) (path : List NodeId) (act : Status → α × Status) :
    (s.walk (id :: path) act).2.own = s.own := by
  cases h : s.entry id with
  | error e => rw [walk_cons_of_error h]
  | ok c =>
    rw [walk_cons_of_ok h]
    rfl

/-- Whether another child can be reached does not depend on a walk. -/
lemma entry_walk_of_ne (s : Status) {id other : NodeId} (h : other ≠ id) (path : List NodeId)
    (act : Status → α × Status) : (s.walk (id :: path) act).2.entry other = s.entry other := by
  cases hid : s.entry id with
  | error e => rw [walk_cons_of_error hid]
  | ok c =>
    rw [walk_cons_of_ok hid]
    exact s.entry_withChild_of_ne _ h

/-- A walk commutes with a change of another child. -/
lemma walk_withChild (s : Status) {id other : NodeId} (h : other ≠ id) (d : Status)
    (path : List NodeId) (act : Status → α × Status) :
    (s.withChild other d).walk (id :: path) act =
      ((s.walk (id :: path) act).1, (s.walk (id :: path) act).2.withChild other d) := by
  have hentry := s.entry_withChild_of_ne d h.symm
  cases hid : s.entry id with
  | error e => rw [walk_cons_of_error hid, walk_cons_of_error (hentry.trans hid)]
  | ok c =>
    rw [walk_cons_of_ok hid, walk_cons_of_ok (hentry.trans hid)]
    exact congrArg (Prod.mk _) (s.withChild_comm d _ h.symm)

/-- A walk does not depend on an earlier one that went another way, and the order of the two does
not matter. -/
theorem walk_walk_comm (s : Status) {path other : List NodeId} (h : ¬ path <+: other)
    (h' : ¬ other <+: path) (act : Status → α × Status) (edit : Status → β × Status) :
    ((s.walk path act).2.walk other edit).1 = (s.walk other edit).1 ∧
      ((s.walk other edit).2.walk path act).1 = (s.walk path act).1 ∧
      ((s.walk path act).2.walk other edit).2 = ((s.walk other edit).2.walk path act).2 := by
  induction path generalizing other s with
  | nil => exact absurd List.nil_prefix h
  | cons id path ih =>
    cases other with
    | nil => exact absurd List.nil_prefix h'
    | cons id' other =>
      by_cases hid : id = id'
      · -- Both walks go through one child, which goes different ways from there.
        subst hid
        have hrest : ¬ path <+: other := fun hp => h (List.cons_prefix_cons.2 ⟨rfl, hp⟩)
        have hrest' : ¬ other <+: path := fun hp => h' (List.cons_prefix_cons.2 ⟨rfl, hp⟩)
        cases hc : s.entry id with
        | error e =>
          rw [walk_cons_of_error hc, walk_cons_of_error hc, walk_cons_of_error hc]
          exact ⟨rfl, rfl, rfl⟩
        | ok c =>
          -- Behind this child both paths go on, so its place for data is left as it was.
          have hplace : c.own.dataDir.isEmpty = false := isEmpty_dataDir_of_entry hc
          have hone : (s.withChild id (c.walk path act).2).entry id = .ok (c.walk path act).2 := by
            refine s.entry_withChild_self id ?_
            cases path with
            | nil => exact absurd List.nil_prefix hrest
            | cons _ _ => rwa [own_walk_cons]
          have hother : (s.withChild id (c.walk other edit).2).entry id =
              .ok (c.walk other edit).2 := by
            refine s.entry_withChild_self id ?_
            cases other with
            | nil => exact absurd List.nil_prefix hrest'
            | cons _ _ => rwa [own_walk_cons]
          obtain ⟨hfirst, hsecond, htree⟩ := ih c hrest hrest'
          rw [walk_cons_of_ok hc, walk_cons_of_ok hc, walk_cons_of_ok hone, walk_cons_of_ok hother]
          refine ⟨hfirst, hsecond, ?_⟩
          simp only [withChild_withChild, htree]
      · cases hc : s.entry id with
        | error e =>
          have hc' := (s.entry_walk_of_ne hid other edit).trans hc
          rw [walk_cons_of_error hc, walk_cons_of_error hc']
          exact ⟨rfl, rfl, rfl⟩
        | ok c =>
          have hc' := (s.entry_walk_of_ne hid other edit).trans hc
          rw [walk_cons_of_ok hc, walk_cons_of_ok hc', walk_withChild s hid]
          exact ⟨rfl, rfl, rfl⟩

end Walks

/-! ### Operations -/

/-- What can be done to a status that was reached. -/
inductive Change
  /-- Nothing: the status is only looked at. -/
  | look
  | setPhase (phase : Phase) (now : Instant)
  | setError (error : Option ExecutionError)
  /-- Count one attempt more, if there is one. -/
  | incrementAttempts
  | setOutputDir (dir : Reference)
  | setUniqueId (id : UniqueId)
  | setCheckpoint (checkpoint : Checkpoint) (now : Instant)
  /-- Put in a child with all that is below it, in place of one with this identifier. -/
  | insertChild (id : NodeId) (child : Status)
  /-- Link the nodes of a sub-workflow to an attempt. -/
  | link (sub : SubWorkflow) (attempt length : Nat)
  /-- Store the status and load it again. -/
  | reload

/-- What a change answers. -/
inductive Reply
  | done
  | seen (s : Status)
  | attempts (count : Nat)
  /-- There is no further attempt. -/
  | exhausted
  | linked (result : Except LookupError Unit)
  | loaded (result : Except Json.Error Unit)

/-- Make a change.  An attempt that there is not, and a text that cannot be loaded, leave the status
as it is. -/
def Change.apply (change : Change) (s : Status) : Reply × Status :=
  match change with
  | .look => (.seen s, s)
  | .setPhase phase now => (.done, s.setPhase phase now)
  | .setError error => (.done, s.setError error)
  | .incrementAttempts =>
    match s.incrementAttempts? with
    | some t => (.attempts t.own.attempts, t)
    | none => (.exhausted, s)
  | .setOutputDir dir => (.done, s.setOutputDir dir)
  | .setUniqueId id => (.done, s.setUniqueId id)
  | .setCheckpoint checkpoint now => (.done, s.setCheckpoint checkpoint now)
  | .insertChild id child => (.done, s.withChild id child)
  | .link sub attempt length =>
    (.linked (Lookup.link sub attempt length s).1, (Lookup.link sub attempt length s).2)
  | .reload =>
    match ofText s.toText with
    | .ok t => (.loaded (.ok ()), t)
    | .error e => (.loaded (.error e), s)

/-- A change at the end of a path. -/
structure Operation where
  path : List NodeId
  change : Change

/-- Go down the path of an operation and make its change. -/
def perform (s : Status) (op : Operation) : Except StatusError Reply × Status :=
  s.walk op.path op.change.apply

/-- Operations on statuses neither of which lies below the other have the same two results and leave
the same tree in either order. -/
theorem perform_comm (s : Status) (op op' : Operation) (h : ¬ op.path <+: op'.path)
    (h' : ¬ op'.path <+: op.path) :
    ((s.perform op).2.perform op').1 = (s.perform op').1 ∧
      ((s.perform op').2.perform op).1 = (s.perform op).1 ∧
      ((s.perform op).2.perform op').2 = ((s.perform op').2.perform op).2 :=
  s.walk_walk_comm h h' op.change.apply op'.change.apply

end Status

namespace Sample

open Status

/-- A status with a child that holds one without a place for its data. -/
def undermined : Status :=
  (Status.new ⟨"runs/r1"⟩).withChild "left"
    ((Status.new ⟨"runs/r1/left"⟩).withChild "gone" (Status.new Reference.empty))

/-- Two nodes are put below one that is still missing, and an attempt is counted next to a walk that
ends halfway.  Either order will do. -/
theorem undermined_comm :
    (¬ ["right", "a"] <+: ["right", "b"] ∧ ¬ ["right", "b"] <+: ["right", "a"] ∧
      ¬ ["left", "gone", "x"] <+: ["left", "kept"] ∧ ¬ ["left", "kept"] <+: ["left", "gone", "x"]) ∧
    ((undermined.perform ⟨["right", "a"], .insertChild "c" undermined⟩).2.perform
        ⟨["right", "b"], .setOutputDir ⟨"out"⟩⟩).2 =
      ((undermined.perform ⟨["right", "b"], .setOutputDir ⟨"out"⟩⟩).2.perform
        ⟨["right", "a"], .insertChild "c" undermined⟩).2 ∧
    ((undermined.perform ⟨["left", "kept"], .incrementAttempts⟩).2.perform
        ⟨["left", "gone", "x"], .setError none⟩).1 = .error (.corrupted "gone") ∧
    ((undermined.perform ⟨["left", "gone", "x"], .setError none⟩).2.perform
        ⟨["left", "kept"], .incrementAttempts⟩).1 = .ok (.attempts 1) := by
  have hright : ¬ ["right", "a"] <+: ["right", "b"] ∧
      ¬ ["right", "b"] <+: ["right", "a"] := by decide
  have hleft : ¬ ["left", "gone", "x"] <+: ["left", "kept"] ∧
      ¬ ["left", "kept"] <+: ["left", "gone", "x"] := by decide
  obtain ⟨-, -, htree⟩ := undermined.perform_comm ⟨["right", "a"], .insertChild "c" undermined⟩
    ⟨["right", "b"], .setOutputDir ⟨"out"⟩⟩ hright.1 hright.2
  obtain ⟨hcount, hbroken, -⟩ := undermined.perform_comm ⟨["left", "gone", "x"], .setError none⟩
    ⟨["left", "kept"], .incrementAttempts⟩ hleft.1 hleft.2
  refine ⟨⟨hright.1, hright.2, hleft.1, hleft.2⟩, htree, ?_, ?_⟩
  · rw [hbroken]
    rfl
  · rw [hcount]
    rfl

end Sample

end NestedWorkflow
