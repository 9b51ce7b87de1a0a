import NestedWorkflow.Dict
import NestedWorkflow.Status.Progress

/-!
# Statuses

The status of a node is what it says of the node itself and, for nodes that contain a graph, the
statuses of the children by their identifiers.  Children are kept in the order of their identifiers
at every level; the order proof is part of the type, so a status is determined by its own progress
and by where each identifier leads (`Status.ext`).

Children come to be when they are first reached (`Status.entry`), with their data below the data of
their parent.  `Status.walk` goes down a path of identifiers and acts at its end.
-/

namespace NestedWorkflow

/-- Progress with children by identifier. -/
inductive StatusTree
  | node (own : Progress) (children : List (String × StatusTree))

namespace StatusTree

/-- What the root says of its own node. -/
def own : StatusTree → Progress
  | .node own _ => own

/-- The subtrees below the root. -/
def children : StatusTree → Entries StatusTree
  | .node _ children => children

/-- Children are in the order of their identifiers, at every level. -/
inductive InOrder : StatusTree → Prop
  | node {own : Progress} {children : List (String × StatusTree)}
      (here : Entries.InOrder children) (below : ∀ e ∈ children, InOrder e.2) :
      InOrder (.node own children)

theorem InOrder.children_inOrder {t : StatusTree} (h : t.InOrder) : t.children.InOrder := by
  cases h with
  | node here _ => exact here

theorem InOrder.of_mem {t : StatusTree} (h : t.InOrder) {e : String × StatusTree}
    (he : e ∈ t.children) : e.2.InOrder := by
  cases h with
  | node _ below => exact below e he

end StatusTree

/-- The execution record of a node and of all nodes below it. -/
structure Status where
  tree : StatusTree
  inOrder : tree.InOrder

/-- Why a child has no status. -/
inductive StatusError
  | missingDataDir (node : NodeId)
  | corrupted (node : NodeId)
deriving DecidableEq

/-- The report of an error. -/
def StatusError.message : StatusError → String
  | .missingDataDir node =>
    "cannot place child node " ++ node ++ ": parent status has no data directory"
  | .corrupted node =>
    "persisted status of child node " ++ node ++ " is corrupted: no data directory"

namespace Status

/-! ### Progress and children -/

/-- What a status says of its own node. -/
def own (s : Status) : Progress := s.tree.own

/-- A status without children. -/
def ofProgress (p : Progress) : Status := ⟨.node p [], .node List.Pairwise.nil (by simp)⟩

/-- The status of a node that has not started. -/
def new (dataDir : Reference) : Status := ofProgress (Progress.new dataDir)

instance : Inhabited Status := ⟨new Reference.empty⟩

/-- The status of the child of an identifier. -/
def child? (s : Status) (id : NodeId) : Option Status :=
  match h : Entries.get? id s.tree.children with
  | some t => some ⟨t, s.inOrder.of_mem (Entries.mem_of_get? h)⟩
  | none => none

/-- The children, by their identifiers in order. -/
def children (s : Status) : List (NodeId × Status) :=
  s.tree.children.attach.map fun e => (e.1.1, ⟨e.1.2, s.inOrder.of_mem e.2⟩)

/-- The same children under another progress. -/
def withOwn (s : Status) (p : Progress) : Status :=
  ⟨.node p s.tree.children, .node s.inOrder.children_inOrder fun _ he => s.inOrder.of_mem he⟩

/-- The status with one child put in or replaced. -/
def withChild (s : Status) (id : NodeId) (child : Status) : Status :=
  ⟨.node s.tree.own (Entries.insert id child.tree s.tree.children),
    .node (Entries.inOrder_insert _ _ s.inOrder.children_inOrder) fun e he => by
      rcases Entries.mem_insert he with rfl | he
      · exact child.inOrder
      · exact s.inOrder.of_mem he⟩

/-- A change of what a status says of its own node. -/
def modifyOwn (s : Status) (f : Progress → Progress) : Status := s.withOwn (f s.own)

theorem child?_eq_some_iff {s c : Status} {id : NodeId} :
    s.child? id = some c ↔ Entries.get? id s.tree.children = some c.tree := by
  unfold child?
  split
  · rename_i t h
    constructor
    · rintro ⟨⟩
      exact h
    · intro e
      cases h.symm.trans e
      rfl
  · rename_i h
    simp [h]

theorem child?_eq_none_iff {s : Status} {id : NodeId} :
    s.child? id = none ↔ Entries.get? id s.tree.children = none := by
  unfold child?
  split <;> simp_all

@[simp] theorem own_ofProgress (p : Progress) : (ofProgress p).own = p := rfl

@[simp] theorem child?_ofProgress (p : Progress) (id : NodeId) :
    (ofProgress p).child? id = none :=
  child?_eq_none_iff.2 rfl

@[simp] theorem own_withOwn (s : Status) (p : Progress) : (s.withOwn p).own = p := rfl

@[simp] theorem child?_withOwn (s : Status) (p : Progress) (id : NodeId) :
    (s.withOwn p).child? id = s.child? id := by
  cases h : s.child? id with
  | none => exact child?_eq_none_iff.2 (child?_eq_none_iff.1 h)
  | some c => exact child?_eq_some_iff.2 (child?_eq_some_iff.1 h)

@[simp] theorem own_withChild (s : Status) (id : NodeId) (c : Status) :
    (s.withChild id c).own = s.own := rfl

@[simp] theorem child?_withChild_self (s : Status) (id : NodeId) (c : Status) :
    (s.withChild id c).child? id = some c :=
  child?_eq_some_iff.2 (Entries.get?_insert_self id c.tree s.tree.children)

theorem child?_withChild_of_ne (s : Status) {id other : NodeId} (c : Status) (h : other ≠ id) :
    (s.withChild id c).child? other = s.child? other := by
  have hg : Entries.get? other (s.withChild id c).tree.children =
      Entries.get? other s.tree.children := Entries.get?_insert_of_ne h c.tree s.tree.children
  cases hc : s.child? other with
  | none => exact child?_eq_none_iff.2 (hg.trans (child?_eq_none_iff.1 hc))
  | some d => exact child?_eq_some_iff.2 (hg.trans (child?_eq_some_iff.1 hc))

theorem child?_withChild (s : Status) (id other : NodeId) (c : Status) :
    (s.withChild id c).child? other = if other = id then some c else s.child? other := by
  by_cases h : other = id
  · subst h
    simp
  · simp [h, child?_withChild_of_ne]

@[simp] theorem own_modifyOwn (s : Status) (f : Progress → Progress) :
    (s.modifyOwn f).own = f s.own := rfl

@[simp] theorem child?_modifyOwn (s : Status) (f : Progress → Progress) (id : NodeId) :
    (s.modifyOwn f).child? id = s.child? id := by
  simp [modifyOwn]

/-- A status is determined by its own progress and by where each identifier leads. -/
theorem ext {s t : Status} (own : s.own = t.own) (child : ∀ id, s.child? id = t.child? id) :
    s = t := by
  obtain ⟨⟨p, cs⟩, hs⟩ := s
  obtain ⟨⟨q, ds⟩, ht⟩ := t
  have hpq : p = q := own
  have hcd : cs = ds := by
    refine Entries.eq_of_get?_eq hs.children_inOrder ht.children_inOrder fun key => ?_
    have hk := child key
    cases hc : Entries.get? key cs with
    | none =>
      have : child? ⟨.node p cs, hs⟩ key = none := child?_eq_none_iff.2 hc
      rw [this] at hk
      exact (child?_eq_none_iff.1 hk.symm).symm
    | some c =>
      have : child? ⟨.node p cs, hs⟩ key = some ⟨c, hs.of_mem (Entries.mem_of_get? hc)⟩ :=
        child?_eq_some_iff.2 hc
      rw [this] at hk
      exact (child?_eq_some_iff.1 hk.symm).symm
  subst hpq
  subst hcd
  rfl

/-! ### Updates -/

/-- The status in another phase. -/
def setPhase (s : Status) (phase : Phase) (now : Instant) : Status :=
  s.modifyOwn fun p => p.setPhase phase now

/-- The status with another error, or none. -/
def setError (s : Status) (error : Option ExecutionError) : Status :=
  s.modifyOwn fun p => { p with error := error }

/-- One attempt more.  There is none after the last: the count overflows, which breaks the program
off before anything is written. -/
def incrementAttempts? (s : Status) : Option Status :=
  if s.own.attempts < Progress.lastAttempt then
    some (s.modifyOwn fun p => { p with attempts := p.attempts + 1 })
  else none

theorem incrementAttempts?_eq_some_iff {s t : Status} :
    s.incrementAttempts? = some t ↔ s.own.attempts < Progress.lastAttempt ∧
      t = s.modifyOwn fun p => { p with attempts := p.attempts + 1 } := by
  unfold incrementAttempts?
  split
  case isTrue h => simp [h, eq_comm]
  case isFalse h => simp [h]

/-- The status with its outputs in another place. -/
def setOutputDir (s : Status) (dir : Reference) : Status :=
  s.modifyOwn fun p => { p with outputDir := dir }

/-- The status under another unique identifier. -/
def setUniqueId (s : Status) (id : UniqueId) : Status :=
  s.modifyOwn fun p => { p with uniqueId := some id }

/-- The status with another checkpoint. -/
def setCheckpoint (s : Status) (checkpoint : Checkpoint) (now : Instant) : Status :=
  s.modifyOwn fun p => p.setCheckpoint checkpoint now

/-- The status linked to an attempt of an enclosing node. -/
def link (s : Status) (id parent : UniqueId) (attempt : Nat) : Status :=
  s.modifyOwn fun p => p.link id parent attempt

/-! ### Reaching children -/

/-- The status of a child: the one there is, if it has a place for its data, or a new one below the
data of this node. -/
def entry (s : Status) (id : NodeId) : Except StatusError Status :=
  match s.child? id with
  | some c => if c.own.dataDir.isEmpty then .error (.corrupted id) else .ok c
  | none =>
    if s.own.dataDir.isEmpty then .error (.missingDataDir id)
    else .ok (new (s.own.dataDir.join id))

/-- Reach a child and change it. -/
def visit (s : Status) (id : NodeId) (edit : Status → Status) : Except StatusError Status :=
  (s.entry id).map fun c => s.withChild id (edit c)

/-- Go down a path and act at its end.  Where it breaks off, the children reached before stay. -/
def walk {α : Type} (s : Status) (path : List NodeId) (act : Status → α × Status) :
    Except StatusError α × Status :=
  match path with
  | [] =>
    let (a, s') := act s
    (.ok a, s')
  | id :: rest =>
    match s.entry id with
    | .error e => (.error e, s)
    | .ok c =>
      let (r, c') := c.walk rest act
      (r, s.withChild id c')

end Status

end NestedWorkflow
