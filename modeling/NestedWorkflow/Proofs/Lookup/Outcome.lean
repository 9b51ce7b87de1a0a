import NestedWorkflow.Proofs.Lookup.Directories

/-!
# How linking ends

Linking the declared nodes can end in four ways (`Lookup.LinkOutcome`): the enclosing node has no
identifier, some declared node cannot be given one, some declared node has no status to work with,
or all of them are linked.  This file shows which of them comes about and what exactly it leaves
(`Lookup.link_exact`).

Identifiers come first, so nothing has changed when one is missing.  Afterwards the children are
linked one by one, and the linking breaks off at the first one that cannot be reached, while those
before it stay linked.  Whether a child can be reached does not depend on the others, so the place
where it breaks off is told from the status before the linking.

Earlier linkings, to whatever attempts and however they ended, do not matter
(`Lookup.link_absorbs`): a child that they created is the one that would be created now, and linking
replaces all they wrote.
-/

namespace NestedWorkflow

namespace Status

/-! ### What becomes of a child that is asked for -/

/-- A child can be reached: it is there and has a place for its data, or it can be given one. -/
def Reaches (s : Status) (node : NodeId) : Prop :=
  match s.child? node with
  | some c => c.own.dataDir.isEmpty = false
  | none => s.own.dataDir.isEmpty = false

/-- The status of a child that is there, or else a new one below the data of this node. -/
def former (s : Status) (node : NodeId) : Status :=
  (s.child? node).getD (new (s.own.dataDir.join node))

/-- Why a child cannot be reached. -/
def refusal (s : Status) (node : NodeId) : StatusError :=
  if (s.child? node).isSome then .corrupted node else .missingDataDir node

variable {s : Status} {node : NodeId}

/-- A child that can be reached is the one that is there, or a new one. -/
lemma entry_of_reaches (h : s.Reaches node) : s.entry node = .ok (s.former node) := by
  unfold Reaches at h
  unfold entry former
  cases hchild : s.child? node <;> simp_all

/-- A child that cannot be reached is refused. -/
lemma entry_of_not_reaches (h : ¬ s.Reaches node) : s.entry node = .error (s.refusal node) := by
  unfold Reaches at h
  unfold entry refusal
  cases hchild : s.child? node <;> simp_all

end Status

namespace Lookup

variable {sub : SubWorkflow} {parent : UniqueId} {attempt length : Nat} {s s' : Status}

/-! ### Outcomes -/

/-- The second status is the first one with these nodes linked: each of them as it was, or new, but
for its identifier, that of its parent and the attempt.  Nothing else has changed. -/
structure LinkedOnly (parent : UniqueId) (attempt length : Nat) (nodes : List NodeId)
    (s s' : Status) : Prop where
  own_eq : s'.own = s.own
  linked : ∀ node ∈ nodes, ∃ id, UniqueId.compute node parent attempt length = .ok id ∧
    s'.child? node = some ((s.former node).modifyOwn fun own =>
      { own with
        uniqueId := some id
        uniqueParentId := some parent
        parentAttempts := some attempt })
  others : ∀ node ∉ nodes, s'.child? node = s.child? node

/-- How the linking of the declared nodes of a sub-workflow ends, and what it leaves. -/
inductive LinkOutcome (sub : SubWorkflow) (attempt length : Nat) (s : Status) :
    Except LookupError Unit × Status → Prop
  /-- The enclosing node has no identifier. -/
  | anonymous (hparent : s.own.uniqueId = none) :
      LinkOutcome sub attempt length s (.error .missingUniqueId, s)
  /-- There is a first node that cannot be given an identifier. -/
  | unnamed {parent : UniqueId} {front back : List NodeId} {node : NodeId} {e : UniqueId.Error}
      (hparent : s.own.uniqueId = some parent) (hsplit : sub.declaredNodes = front ++ node :: back)
      (hfront : ∀ n ∈ front, ∃ id, UniqueId.compute n parent attempt length = .ok id)
      (hnode : UniqueId.compute node parent attempt length = .error e) :
      LinkOutcome sub attempt length s (.error (.id e), s)
  /-- There is a first node that cannot be reached; those before it are linked. -/
  | stopped {parent : UniqueId} {front back : List NodeId} {node : NodeId} {s' : Status}
      (hparent : s.own.uniqueId = some parent) (hsplit : sub.declaredNodes = front ++ node :: back)
      (hids : ∀ n ∈ sub.declaredNodes, ∃ id, UniqueId.compute n parent attempt length = .ok id)
      (hfront : ∀ n ∈ front, s.Reaches n) (hnode : ¬ s.Reaches node)
      (hleft : LinkedOnly parent attempt length front s s') :
      LinkOutcome sub attempt length s (.error (.status (s.refusal node)), s')
  /-- All nodes are linked. -/
  | linked {parent : UniqueId} {s' : Status} (hparent : s.own.uniqueId = some parent)
      (hnodes : ∀ n ∈ sub.declaredNodes, s.Reaches n)
      (hleft : LinkedOnly parent attempt length sub.declaredNodes s s') :
      LinkOutcome sub attempt length s (.ok (), s')

/-- Only one status can be left. -/
lemma LinkedOnly.unique {nodes : List NodeId} {t : Status}
    (h : LinkedOnly parent attempt length nodes s s')
    (h' : LinkedOnly parent attempt length nodes s t) : s' = t := by
  refine Status.ext (h.own_eq.trans h'.own_eq.symm) fun node => ?_
  by_cases hnode : node ∈ nodes
  · obtain ⟨id, hid, hchild⟩ := h.linked node hnode
    obtain ⟨id', hid', hchild'⟩ := h'.linked node hnode
    cases hid.symm.trans hid'
    exact hchild.trans hchild'.symm
  · exact (h.others node hnode).trans (h'.others node hnode).symm

/-! ### Linking one child after the other -/

section LinkAll

variable {ids : List (NodeId × UniqueId)}

/-- Children that can be reached are all linked. -/
lemma linkAll_of_reaches (h : (ids.map Prod.fst).Nodup)
    (hreach : ∀ n ∈ ids.map Prod.fst, s.Reaches n) :
    (linkAll parent attempt ids s).1 = .ok () := by
  induction ids with
  | nil => rfl
  | cons pair rest ih =>
    obtain ⟨node, id⟩ := pair
    obtain ⟨hnode, hrest⟩ := List.nodup_cons.1 h
    obtain ⟨hreachNode, hreachRest⟩ := List.forall_mem_cons.1 hreach
    rw [linkAll_cons_of_entry hnode (Status.entry_of_reaches hreachNode)]
    exact ih hrest hreachRest

/-- Children that are not linked stay as they are. -/
lemma child?_linkAll_of_notMem {node : NodeId} (h : node ∉ ids.map Prod.fst) (s : Status) :
    (linkAll parent attempt ids s).2.child? node = s.child? node := by
  induction ids generalizing s with
  | nil => rfl
  | cons pair rest ih =>
    obtain ⟨first, id⟩ := pair
    obtain ⟨hne, hrest⟩ := not_or.1 (mt List.mem_cons.2 h)
    cases hc : s.entry first with
    | error e => rw [linkAll_cons_of_entry_error hc]
    | ok c =>
      simp only [linkAll, Status.visit, hc, Except.map]
      rw [ih hrest, Status.child?_withChild_of_ne _ _ hne]

/-- What follows children that are all linked is linked afterwards. -/
lemma linkAll_append {front rest : List (NodeId × UniqueId)}
    (h : (linkAll parent attempt front s).1 = .ok ()) :
    linkAll parent attempt (front ++ rest) s =
      linkAll parent attempt rest (linkAll parent attempt front s).2 := by
  induction front generalizing s with
  | nil => rfl
  | cons pair front ih =>
    obtain ⟨node, id⟩ := pair
    simp only [List.cons_append, linkAll] at h ⊢
    cases hvisit : s.visit node fun c => c.link id parent attempt with
    | error e => simp [hvisit] at h
    | ok t =>
      simp only [hvisit] at h ⊢
      exact ih h

/-- Children that can be reached are linked, and nothing else changes. -/
lemma linkedOnly_linkAll {nodes : List NodeId} (h : ids.map Prod.fst = nodes) (hnodup : nodes.Nodup)
    (hids : ∀ p ∈ ids, UniqueId.compute p.1 parent attempt length = .ok p.2)
    (hreach : ∀ n ∈ nodes, s.Reaches n) :
    LinkedOnly parent attempt length nodes s (linkAll parent attempt ids s).2 where
  own_eq := own_linkAll ids s
  linked node hnode := by
    subst h
    obtain ⟨⟨_, id⟩, hmem, rfl⟩ := List.mem_map.1 hnode
    obtain ⟨c, hc, hchild⟩ := child?_linkAll hnodup (linkAll_of_reaches hnodup hreach) hmem
    cases hc.symm.trans (Status.entry_of_reaches (hreach _ hnode))
    exact ⟨id, hids _ hmem, hchild⟩
  others node hnode := child?_linkAll_of_notMem (h ▸ hnode) s

/-- Behind children that can be reached, the linking breaks off at one that cannot. -/
lemma linkAll_of_not_reaches {front back : List (NodeId × UniqueId)} {node : NodeId} {id : UniqueId}
    (hnodup : ((front ++ (node, id) :: back).map Prod.fst).Nodup)
    (hfront : ∀ n ∈ front.map Prod.fst, s.Reaches n) (hnode : ¬ s.Reaches node) :
    linkAll parent attempt (front ++ (node, id) :: back) s =
      (.error (.status (s.refusal node)), (linkAll parent attempt front s).2) := by
  rw [List.map_append, List.map_cons] at hnodup
  obtain ⟨hfrontNodup, -, hcross⟩ := List.nodup_append.1 hnodup
  have hnew : node ∉ front.map Prod.fst := fun hmem =>
    hcross node hmem node List.mem_cons_self rfl
  have hentry : (linkAll parent attempt front s).2.entry node = .error (s.refusal node) := by
    rw [← Status.entry_of_not_reaches hnode]
    unfold Status.entry
    rw [child?_linkAll_of_notMem hnew, own_linkAll]
  rw [linkAll_append (linkAll_of_reaches hfrontNodup hfront)]
  exact linkAll_cons_of_entry_error hentry

end LinkAll

/-! ### Which outcome comes about -/

section Link

variable (hparent : s.own.uniqueId = some parent)
include hparent

/-- A first node without an identifier ends the linking before it begins. -/
lemma link_of_unnamed {front back : List NodeId} {node : NodeId} {e : UniqueId.Error}
    (hsplit : sub.declaredNodes = front ++ node :: back)
    (hfront : ∀ n ∈ front, ∃ id, UniqueId.compute n parent attempt length = .ok id)
    (hnode : UniqueId.compute node parent attempt length = .error e) :
    link sub attempt length s = (.error (.id e), s) := by
  have hids : identify parent attempt length sub.declaredNodes = .error (.id e) :=
    identify_eq_error_iff.2 ⟨front, node, back, e, hsplit, hfront, hnode, rfl⟩
  simp only [link, hparent, hids]

/-- With identifiers for all nodes, the linking is that of the children one after the other. -/
lemma exists_link_eq_linkAll
    (hids : ∀ n ∈ sub.declaredNodes, ∃ id, UniqueId.compute n parent attempt length = .ok id) :
    ∃ ids, ids.map Prod.fst = sub.declaredNodes ∧
      (∀ p ∈ ids, UniqueId.compute p.1 parent attempt length = .ok p.2) ∧
      link sub attempt length s = linkAll parent attempt ids s := by
  obtain ⟨ids, h⟩ := exists_identify_eq_ok hids
  refine ⟨ids, map_fst_identify h, compute_of_mem_identify h, ?_⟩
  simp only [link, hparent, h]

/-- Nodes that can be reached are all linked. -/
lemma link_of_reaches
    (hids : ∀ n ∈ sub.declaredNodes, ∃ id, UniqueId.compute n parent attempt length = .ok id)
    (hnodes : ∀ n ∈ sub.declaredNodes, s.Reaches n) :
    ∃ s', link sub attempt length s = (.ok (), s') ∧
      LinkedOnly parent attempt length sub.declaredNodes s s' := by
  obtain ⟨ids, hfst, hcompute, hlink⟩ := exists_link_eq_linkAll hparent hids
  have hok : (linkAll parent attempt ids s).1 = .ok () :=
    linkAll_of_reaches (hfst ▸ sub.nodup_declaredNodes) (hfst ▸ hnodes)
  exact ⟨_, hlink.trans (Prod.ext hok rfl),
    linkedOnly_linkAll hfst sub.nodup_declaredNodes hcompute hnodes⟩

/-- A first node that cannot be reached ends the linking; those before it are linked. -/
lemma link_of_not_reaches
    (hids : ∀ n ∈ sub.declaredNodes, ∃ id, UniqueId.compute n parent attempt length = .ok id)
    {front back : List NodeId} {node : NodeId} (hsplit : sub.declaredNodes = front ++ node :: back)
    (hfront : ∀ n ∈ front, s.Reaches n) (hnode : ¬ s.Reaches node) :
    ∃ s', link sub attempt length s = (.error (.status (s.refusal node)), s') ∧
      LinkedOnly parent attempt length front s s' := by
  obtain ⟨ids, hfst, hcompute, hlink⟩ := exists_link_eq_linkAll hparent hids
  have hnodup : (ids.map Prod.fst).Nodup := hfst ▸ sub.nodup_declaredNodes
  obtain ⟨idsFront, idsBack, rfl, rfl, hback⟩ := List.map_eq_append_iff.1 (hfst.trans hsplit)
  obtain ⟨⟨_, id⟩, idsBack, rfl, rfl, -⟩ := List.map_eq_cons_iff.1 hback
  have hfrontNodup : (idsFront.map Prod.fst).Nodup := by
    rw [List.map_append] at hnodup
    exact (List.nodup_append.1 hnodup).1
  exact ⟨_, hlink.trans (linkAll_of_not_reaches hnodup hfront hnode),
    linkedOnly_linkAll rfl hfrontNodup (fun p hp => hcompute p (List.mem_append_left _ hp)) hfront⟩

end Link

/-- Either everything in a list has a property, or there is a first element that has not. -/
lemma forall_or_exists_first (p : NodeId → Prop) (nodes : List NodeId) :
    (∀ n ∈ nodes, p n) ∨
      ∃ front node back, nodes = front ++ node :: back ∧ (∀ n ∈ front, p n) ∧ ¬ p node := by
  classical
  cases hfind : nodes.find? fun n => ¬ p n with
  | none => exact .inl fun n hn => by simpa using List.find?_eq_none.1 hfind n hn
  | some node =>
    obtain ⟨hnode, front, back, hsplit, hfront⟩ := List.find?_eq_some_iff_append.1 hfind
    exact .inr ⟨front, node, back, hsplit, by simpa using hfront, by simpa using hnode⟩

/-- Linking comes to some outcome. -/
lemma exists_linkOutcome (sub : SubWorkflow) (attempt length : Nat) (s : Status) :
    ∃ r, LinkOutcome sub attempt length s r := by
  cases hparent : s.own.uniqueId with
  | none => exact ⟨_, .anonymous hparent⟩
  | some parent =>
    rcases forall_or_exists_first (fun n => ∃ id, UniqueId.compute n parent attempt length = .ok id)
      sub.declaredNodes with hids | ⟨front, node, back, hsplit, hfront, hnode⟩
    · rcases forall_or_exists_first s.Reaches sub.declaredNodes with
        hnodes | ⟨front, node, back, hsplit, hfront, hnode⟩
      · obtain ⟨s', -, hleft⟩ := link_of_reaches hparent hids hnodes
        exact ⟨_, .linked hparent hnodes hleft⟩
      · obtain ⟨s', -, hleft⟩ := link_of_not_reaches hparent hids hsplit hfront hnode
        exact ⟨_, .stopped hparent hsplit hids hfront hnode hleft⟩
    · cases he : UniqueId.compute node parent attempt length with
      | ok id => exact absurd ⟨id, he⟩ hnode
      | error e => exact ⟨_, .unnamed hparent hsplit hfront he⟩

/-- Linking comes to no other outcome than its result. -/
lemma LinkOutcome.link_eq {r : Except LookupError Unit × Status}
    (h : LinkOutcome sub attempt length s r) : link sub attempt length s = r := by
  cases h with
  | anonymous hparent => simp only [link, hparent]
  | unnamed hparent hsplit hfront hnode => exact link_of_unnamed hparent hsplit hfront hnode
  | stopped hparent hsplit hids hfront hnode hleft =>
    obtain ⟨s', hlink, hleft'⟩ := link_of_not_reaches hparent hids hsplit hfront hnode
    cases hleft'.unique hleft
    exact hlink
  | linked hparent hnodes hleft =>
    have hids := fun n hn => (hleft.linked n hn).imp fun _ h => h.1
    obtain ⟨s', hlink, hleft'⟩ := link_of_reaches hparent hids hnodes
    cases hleft'.unique hleft
    exact hlink

/-- Linking succeeds if the parent has an identifier, every node can be given one and can be
reached. -/
lemma link_eq_ok_iff : (link sub attempt length s).1 = .ok () ↔
    ∃ parent, s.own.uniqueId = some parent ∧
      (∀ n ∈ sub.declaredNodes, ∃ id, UniqueId.compute n parent attempt length = .ok id) ∧
      ∀ n ∈ sub.declaredNodes, s.Reaches n := by
  constructor
  · intro hok
    obtain ⟨r, h⟩ := exists_linkOutcome sub attempt length s
    rw [h.link_eq] at hok
    cases h with
    | anonymous _ => cases hok
    | unnamed _ _ _ _ => cases hok
    | stopped _ _ _ _ _ _ => cases hok
    | linked hparent hnodes hleft =>
      exact ⟨_, hparent, fun n hn => (hleft.linked n hn).imp fun _ h => h.1, hnodes⟩
  · rintro ⟨parent, hparent, hids, hnodes⟩
    obtain ⟨s', hlink, -⟩ := link_of_reaches hparent hids hnodes
    rw [hlink]

/-- Linking comes to the outcome that sub-workflow and status call for, and to no other.  It
succeeds exactly if the enclosing node has an identifier that is not empty, identifiers of the given
length can be encoded, no declared node has an empty identifier, and every declared node can be
reached. -/
theorem link_exact (sub : SubWorkflow) (attempt length : Nat) (s : Status) :
    (∀ r, link sub attempt length s = r ↔ LinkOutcome sub attempt length s r) ∧
      ((link sub attempt length s).1 = .ok () ↔
        (∃ parent, s.own.uniqueId = some parent ∧ parent ≠ "") ∧ (8 ≤ length ∧ length ≤ 65) ∧
          (∀ node ∈ sub.declaredNodes, node ≠ "") ∧
            ∀ node ∈ sub.declaredNodes, s.Reaches node) := by
  constructor
  · intro r
    refine ⟨?_, LinkOutcome.link_eq⟩
    rintro rfl
    obtain ⟨r, h⟩ := exists_linkOutcome sub attempt length s
    rwa [h.link_eq]
  · rw [link_eq_ok_iff]
    simp only [UniqueId.exists_compute_eq_ok_iff]
    constructor
    · rintro ⟨parent, hparent, hids, hnodes⟩
      -- The start node shows that identifiers were computed at all.
      obtain ⟨hlength, -, hne⟩ := hids startNodeId sub.startNodeId_mem_declaredNodes
      exact ⟨⟨parent, hparent, hne⟩, hlength, fun n hn => (hids n hn).2.1, hnodes⟩
    · rintro ⟨⟨parent, hparent, hne⟩, hlength, hids, hnodes⟩
      exact ⟨parent, hparent, fun n hn => ⟨hlength, hids n hn, hne⟩, hnodes⟩

end Lookup

namespace Sample

/-- The enclosing status with a child that has lost its place. -/
def damaged : Status := enclosing.withChild "a/b" (Status.new Reference.empty)

/-- Its linking breaks off at this child.  The node before it in the order is new and linked; the
one behind it has not come to be. -/
theorem damaged_stopped :
    ∃ s', Lookup.link slashes 3 20 damaged = (.error (.status (.corrupted "a/b")), s') ∧
      Lookup.LinkOutcome slashes 3 20 damaged (.error (.status (.corrupted "a/b")), s') ∧
      (∃ c, s'.child? "a//b" = some c ∧ c.own.parentAttempts = some 3) ∧
      s'.child? startNodeId = none ∧ ¬ ∀ node ∈ slashes.declaredNodes, damaged.Reaches node := by
  obtain ⟨houtcome, hok⟩ := Lookup.link_exact slashes 3 20 damaged
  have hlink : Lookup.link slashes 3 20 damaged =
      (.error (.status (.corrupted "a/b")), (Lookup.link slashes 3 20 damaged).2) :=
    Prod.ext rfl rfl
  have hnames : (∃ parent, damaged.own.uniqueId = some parent ∧ parent ≠ "") ∧
      (8 ≤ 20 ∧ 20 ≤ 65) ∧ ∀ node ∈ slashes.declaredNodes, node ≠ "" :=
    ⟨⟨"r1", rfl, by decide⟩, by decide, by decide⟩
  refine ⟨_, hlink, (houtcome _).1 hlink, ⟨_, rfl, rfl⟩, rfl, fun hnodes => ?_⟩
  have hsucceeds := hok.2 ⟨hnames.1, hnames.2.1, hnames.2.2, hnodes⟩
  cases hsucceeds.symm.trans (congrArg Prod.fst hlink)

end Sample

namespace Lookup

/-! ### After earlier linkings -/

/-- The status after linkings to some attempts, one after the other, whatever came of each. -/
def linkings (sub : SubWorkflow) (length : Nat) : List Nat → Status → Status
  | [], s => s
  | attempt :: later, s => linkings sub length later (link sub attempt length s).2

/-- Linking to an attempt after a linking to another one, or to the same, has the same result and
leaves the same status as without it, and so it is after any number of linkings. -/
theorem link_absorbs (sub : SubWorkflow) (length : Nat) (s : Status) (attempt : Nat) :
    (∀ first, link sub attempt length (link sub first length s).2 = link sub attempt length s) ∧
      ∀ earlier, link sub attempt length (linkings sub length earlier s) =
        link sub attempt length s := by
  refine ⟨fun first => link_link sub first attempt length s, fun earlier => ?_⟩
  induction earlier generalizing s with
  | nil => rfl
  | cons first later ih =>
    calc link sub attempt length (linkings sub length later (link sub first length s).2)
        = link sub attempt length (link sub first length s).2 := ih _
      _ = link sub attempt length s := link_link sub first attempt length s

end Lookup

end NestedWorkflow
