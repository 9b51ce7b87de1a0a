import Mathlib.Data.List.Basic
import NestedWorkflow.Lookup
import NestedWorkflow.Proofs.Graph.Order

/-!
# What linking does to the children

`Lookup.link` gives every declared node its identity under an attempt of the enclosing node.  This
file shows what a linking that succeeds does to each of them (`child?_link`), so it leaves every
declared node linked (`linked_of_link_eq_ok`), that it leaves what the enclosing status says of its
own node alone (`own_link`), and that linking once more, be it to another attempt, ends and leaves
everything as if nothing had been linked before, even where the first linking broke off halfway
(`link_link`).

The last fact rests on two small ones about statuses: changes of different children commute, and
whether a child can be reached does not depend on changes of other children.
-/

namespace NestedWorkflow

namespace Status

/-! ### Reaching children -/

/-- A step down from a place leads to a place. -/
lemma isEmpty_join {base : Reference} (h : base.isEmpty = false) (step : String) :
    (base.join step).isEmpty = false := by
  have hjoin : base.join step =
      ⟨String.ofList (Slashed.trimEnd base.path.toList ++ '/' :: Slashed.trim step.toList)⟩ := by
    simp [Reference.join, h]
  rw [hjoin]
  simp [Reference.isEmpty]

/-- A child that can be reached has a place for its data. -/
lemma isEmpty_dataDir_of_entry {s c : Status} {id : NodeId} (h : s.entry id = .ok c) :
    c.own.dataDir.isEmpty = false := by
  unfold entry at h
  split at h
  · split at h
    · cases h
    · rename_i hdir
      cases h
      simpa using hdir
  · split at h
    · cases h
    · rename_i hdir
      cases h
      exact isEmpty_join (by simpa using hdir) id

/-- A child that is there and has a place for its data is reached. -/
lemma entry_eq_ok {s c : Status} {id : NodeId} (h : s.child? id = some c)
    (hdir : c.own.dataDir.isEmpty = false) : s.entry id = .ok c := by
  simp [entry, h, hdir]

/-- A child that is put in is reached. -/
lemma entry_withChild_self (s : Status) (id : NodeId) {c : Status}
    (hdir : c.own.dataDir.isEmpty = false) : (s.withChild id c).entry id = .ok c :=
  entry_eq_ok (s.child?_withChild_self id c) hdir

/-- Whether a child can be reached does not depend on the other children. -/
lemma entry_withChild_of_ne (s : Status) {id other : NodeId} (c : Status) (h : other ≠ id) :
    (s.withChild id c).entry other = s.entry other := by
  unfold entry
  rw [s.child?_withChild_of_ne c h, own_withChild]

/-- The child put in last stays. -/
lemma withChild_withChild (s : Status) (id : NodeId) (c d : Status) :
    (s.withChild id c).withChild id d = s.withChild id d := by
  refine Status.ext rfl fun other => ?_
  by_cases h : other = id
  · subst h
    simp
  · rw [child?_withChild_of_ne _ _ h, child?_withChild_of_ne _ _ h, child?_withChild_of_ne _ _ h]

/-- Children of different nodes can be put in in any order. -/
lemma withChild_comm (s : Status) {id other : NodeId} (c d : Status) (h : other ≠ id) :
    (s.withChild id c).withChild other d = (s.withChild other d).withChild id c := by
  refine Status.ext rfl fun key => ?_
  simp only [child?_withChild]
  by_cases hid : key = id
  · have hother : key ≠ other := fun hk => h (hk.symm.trans hid)
    rw [if_neg hother, if_pos hid, if_pos hid]
  · rw [if_neg hid, if_neg hid]

/-- The last link counts. -/
lemma link_link (s : Status) (id first parent firstParent : UniqueId) (attempt firstAttempt : Nat) :
    (s.link first firstParent firstAttempt).link id parent attempt = s.link id parent attempt :=
  Status.ext rfl fun key => by simp [link]

/-- The node has this identity under an attempt of its parent. -/
structure LinkedTo (s : Status) (id parent : UniqueId) (attempt : Nat) : Prop where
  uniqueId : s.own.uniqueId = some id
  uniqueParentId : s.own.uniqueParentId = some parent
  parentAttempts : s.own.parentAttempts = some attempt

lemma linkedTo_link (s : Status) (id parent : UniqueId) (attempt : Nat) :
    (s.link id parent attempt).LinkedTo id parent attempt :=
  ⟨rfl, rfl, rfl⟩

end Status

/-- Which nodes have identifiers under an attempt of their parent.  The attempt does not matter. -/
lemma UniqueId.exists_compute_eq_ok_iff {node : NodeId} {parent : UniqueId} {attempt length : Nat} :
    (∃ id, compute node parent attempt length = .ok id) ↔
      (minLength ≤ length ∧ length ≤ maxLength) ∧ node ≠ "" ∧ parent ≠ "" := by
  unfold compute
  by_cases hlength : length < minLength ∨ maxLength < length
  · simp only [if_pos hlength]
    constructor
    · rintro ⟨id, ⟨⟩⟩
    · omega
  · have hrange : minLength ≤ length ∧ length ≤ maxLength := by omega
    simp only [if_neg hlength]
    by_cases hnode : node = ""
    · simp [hnode]
    · by_cases hparent : parent = "" <;> simp [hnode, hparent, hrange]

namespace Lookup

variable {parent : UniqueId} {attempt length : Nat}

/-! ### Linking one child after the other -/

/-- Linking does not depend on a child that is not linked, and leaves it as it is. -/
lemma linkAll_withChild {ids : List (NodeId × UniqueId)} {node : NodeId}
    (h : node ∉ ids.map Prod.fst) (s c : Status) :
    linkAll parent attempt ids (s.withChild node c) =
      ((linkAll parent attempt ids s).1, (linkAll parent attempt ids s).2.withChild node c) := by
  induction ids generalizing s with
  | nil => rfl
  | cons pair rest ih =>
    obtain ⟨other, id⟩ := pair
    simp only [List.map_cons, List.mem_cons, not_or] at h
    have hne : other ≠ node := fun heq => h.1 heq.symm
    simp only [linkAll, Status.visit, s.entry_withChild_of_ne c hne]
    cases s.entry other with
    | error e => rfl
    | ok d =>
      simp only [Except.map]
      rw [s.withChild_comm _ _ hne]
      exact ih h.2 _

/-- Linking the first child, then the others, or the other way round. -/
lemma linkAll_cons_of_entry {node : NodeId} {id : UniqueId} {rest : List (NodeId × UniqueId)}
    (h : node ∉ rest.map Prod.fst) {s c : Status} (hc : s.entry node = .ok c) :
    linkAll parent attempt ((node, id) :: rest) s =
      ((linkAll parent attempt rest s).1,
        (linkAll parent attempt rest s).2.withChild node (c.link id parent attempt)) := by
  simp only [linkAll, Status.visit, hc, Except.map]
  exact linkAll_withChild h s _

/-- A first child that cannot be reached ends the linking. -/
lemma linkAll_cons_of_entry_error {node : NodeId} {id : UniqueId}
    {rest : List (NodeId × UniqueId)} {s : Status} {e : StatusError}
    (he : s.entry node = .error e) :
    linkAll parent attempt ((node, id) :: rest) s = (.error (.status e), s) := by
  simp only [linkAll, Status.visit, he, Except.map]

/-- Linking leaves what the status says of its own node as it is. -/
lemma own_linkAll (ids : List (NodeId × UniqueId)) (s : Status) :
    (linkAll parent attempt ids s).2.own = s.own := by
  induction ids generalizing s with
  | nil => rfl
  | cons pair rest ih =>
    obtain ⟨node, id⟩ := pair
    cases hc : s.entry node with
    | error e => rw [linkAll_cons_of_entry_error hc]
    | ok c =>
      simp only [linkAll, Status.visit, hc, Except.map]
      rw [ih]
      rfl

/-- Linking the same children once more, be it to another attempt, ends the same way and leaves the
same as if they had not been linked before. -/
lemma linkAll_linkAll {ids firsts : List (NodeId × UniqueId)} (h : (ids.map Prod.fst).Nodup)
    (hsame : firsts.map Prod.fst = ids.map Prod.fst) (first : Nat) (s : Status) :
    linkAll parent attempt ids (linkAll parent first firsts s).2 =
      linkAll parent attempt ids s := by
  induction ids generalizing firsts s with
  | nil =>
    obtain rfl := List.map_eq_nil_iff.1 hsame
    rfl
  | cons pair rest ih =>
    obtain ⟨node, id⟩ := pair
    obtain ⟨⟨other, firstId⟩, firstRest, rfl, hother, hrestSame⟩ := List.map_eq_cons_iff.1 hsame
    obtain rfl : node = other := hother.symm
    obtain ⟨hnode, hrest⟩ := List.nodup_cons.1 h
    have hnode' : node ∉ firstRest.map Prod.fst := hrestSame ▸ hnode
    cases hc : s.entry node with
    | error e => rw [linkAll_cons_of_entry_error hc]
    | ok c =>
      rw [linkAll_cons_of_entry hnode' hc, linkAll_cons_of_entry hnode hc]
      have hplace : c.own.dataDir.isEmpty = false := Status.isEmpty_dataDir_of_entry hc
      have hdir : (c.link firstId parent first).own.dataDir.isEmpty = false := hplace
      rw [linkAll_cons_of_entry hnode (Status.entry_withChild_self _ node hdir),
        linkAll_withChild hnode, ih hrest hrestSame, Status.withChild_withChild, Status.link_link]

/-- A linking that succeeds has reached every child and linked it, and done no more to it. -/
lemma child?_linkAll {ids : List (NodeId × UniqueId)} (h : (ids.map Prod.fst).Nodup) {s : Status}
    (hok : (linkAll parent attempt ids s).1 = .ok ()) {node : NodeId} {id : UniqueId}
    (hmem : (node, id) ∈ ids) :
    ∃ c, s.entry node = .ok c ∧
      (linkAll parent attempt ids s).2.child? node = some (c.link id parent attempt) := by
  induction ids generalizing s with
  | nil => simp at hmem
  | cons pair rest ih =>
    obtain ⟨first, firstId⟩ := pair
    obtain ⟨hnode, hrest⟩ := List.nodup_cons.1 h
    cases hc : s.entry first with
    | error e =>
      rw [linkAll_cons_of_entry_error hc] at hok
      cases hok
    | ok c =>
      rw [linkAll_cons_of_entry hnode hc] at hok ⊢
      rcases List.mem_cons.1 hmem with heq | hmem
      · cases heq
        exact ⟨c, hc, Status.child?_withChild_self _ _ _⟩
      · have hne : node ≠ first := fun heq =>
          hnode (heq ▸ List.mem_map.2 ⟨(node, id), hmem, rfl⟩)
        obtain ⟨d, hd, hlinked⟩ := ih hrest hok hmem
        exact ⟨d, hd, (Status.child?_withChild_of_ne _ _ hne).trans hlinked⟩

/-! ### Identifiers -/

/-- The identifiers belong to the nodes they were computed for, in their order. -/
lemma map_fst_identify {nodes : List NodeId} {ids : List (NodeId × UniqueId)}
    (h : identify parent attempt length nodes = .ok ids) : ids.map Prod.fst = nodes := by
  induction nodes generalizing ids with
  | nil =>
    cases h
    rfl
  | cons node rest ih =>
    simp only [identify] at h
    split at h
    · cases h
    · cases hrest : identify parent attempt length rest with
      | error e => simp [hrest, Except.map] at h
      | ok others =>
        simp only [hrest, Except.map] at h
        cases h
        simp [ih hrest]

/-- Every node is paired with its identifier. -/
lemma compute_of_mem_identify {nodes : List NodeId} {ids : List (NodeId × UniqueId)}
    (h : identify parent attempt length nodes = .ok ids) :
    ∀ p ∈ ids, UniqueId.compute p.1 parent attempt length = .ok p.2 := by
  induction nodes generalizing ids with
  | nil =>
    cases h
    simp
  | cons first rest ih =>
    simp only [identify] at h
    split at h
    · cases h
    · rename_i id hid
      cases hrest : identify parent attempt length rest with
      | error e => simp [hrest, Except.map] at h
      | ok others =>
        simp only [hrest, Except.map] at h
        cases h
        exact List.forall_mem_cons.2 ⟨hid, ih hrest⟩

/-- Every node has its identifier among those that were computed. -/
lemma exists_mem_identify {nodes : List NodeId} {ids : List (NodeId × UniqueId)}
    (h : identify parent attempt length nodes = .ok ids) {node : NodeId} (hnode : node ∈ nodes) :
    ∃ id, UniqueId.compute node parent attempt length = .ok id ∧ (node, id) ∈ ids := by
  rw [← map_fst_identify h] at hnode
  obtain ⟨⟨_, id⟩, hmem, rfl⟩ := List.mem_map.1 hnode
  exact ⟨id, compute_of_mem_identify h _ hmem, hmem⟩

/-- The first node without an identifier is reported. -/
lemma identify_eq_error_iff {nodes : List NodeId} {e : LookupError} :
    identify parent attempt length nodes = .error e ↔ ∃ front node back cause,
      nodes = front ++ node :: back ∧
      (∀ n ∈ front, ∃ id, UniqueId.compute n parent attempt length = .ok id) ∧
      UniqueId.compute node parent attempt length = .error cause ∧ e = .id cause := by
  induction nodes with
  | nil => simp [identify]
  | cons first rest ih =>
    rw [identify]
    cases hfirst : UniqueId.compute first parent attempt length with
    | error cause =>
      constructor
      · rintro ⟨⟩
        exact ⟨[], first, rest, cause, rfl, by simp, hfirst, rfl⟩
      · rintro ⟨front, node, back, cause', hsplit, hfront, hcause, rfl⟩
        cases front with
        | nil =>
          cases hsplit
          cases hfirst.symm.trans hcause
          rfl
        | cons n front =>
          cases hsplit
          obtain ⟨id, hid⟩ := hfront first List.mem_cons_self
          cases hfirst.symm.trans hid
    | ok id =>
      have hrest : (identify parent attempt length rest).map (fun ids => (first, id) :: ids) =
          .error e ↔ identify parent attempt length rest = .error e := by
        cases identify parent attempt length rest <;> simp [Except.map]
      rw [hrest, ih]
      constructor
      · rintro ⟨front, node, back, cause, rfl, hfront, hcause, rfl⟩
        exact ⟨first :: front, node, back, cause, rfl,
          List.forall_mem_cons.2 ⟨⟨id, hfirst⟩, hfront⟩, hcause, rfl⟩
      · rintro ⟨front, node, back, cause, hsplit, hfront, hcause, rfl⟩
        cases front with
        | nil =>
          cases hsplit
          cases hfirst.symm.trans hcause
        | cons n front =>
          cases hsplit
          exact ⟨front, node, back, cause, rfl, (List.forall_mem_cons.1 hfront).2, hcause, rfl⟩

/-- If every node has an identifier, they are all computed. -/
lemma exists_identify_eq_ok {nodes : List NodeId}
    (h : ∀ n ∈ nodes, ∃ id, UniqueId.compute n parent attempt length = .ok id) :
    ∃ ids, identify parent attempt length nodes = .ok ids := by
  cases hids : identify parent attempt length nodes with
  | ok ids => exact ⟨ids, rfl⟩
  | error e =>
    obtain ⟨front, node, back, cause, rfl, -, hcause, -⟩ := identify_eq_error_iff.1 hids
    obtain ⟨id, hid⟩ := h node (List.mem_append_right _ List.mem_cons_self)
    cases hcause.symm.trans hid

/-! ### Linking the declared nodes -/

/-- Every declared node has a status that carries its identity under the current attempt of the
enclosing node. -/
def Linked (sub : SubWorkflow) (length : Nat) (s : Status) : Prop :=
  ∃ parent, s.own.uniqueId = some parent ∧
    ∀ node, (sub.node? node).isSome →
      ∃ c id, s.child? node = some c ∧
        UniqueId.compute node parent s.own.attempts length = .ok id ∧
        c.LinkedTo id parent s.own.attempts

/-- Linking leaves what the enclosing status says of its own node as it is. -/
theorem own_link (sub : SubWorkflow) (attempt length : Nat) (s : Status) :
    (link sub attempt length s).2.own = s.own := by
  unfold link
  split
  · rfl
  · split
    · rfl
    · exact own_linkAll _ _

/-- Linking once more, be it to another attempt, ends the same way and leaves the same as if nothing
had been linked before, even where the first linking broke off. -/
theorem link_link (sub : SubWorkflow) (first attempt length : Nat) (s : Status) :
    link sub attempt length (link sub first length s).2 = link sub attempt length s := by
  have hown := own_link sub first length s
  unfold link at hown ⊢
  cases hparent : s.own.uniqueId with
  | none => simp only [hparent]
  | some parent =>
    simp only [hparent] at hown ⊢
    cases hfirsts : identify parent first length sub.declaredNodes with
    | error e => simp only [hparent]
    | ok firsts =>
      -- Whether there are identifiers does not depend on the attempt.
      obtain ⟨ids, hids⟩ : ∃ ids, identify parent attempt length sub.declaredNodes = .ok ids := by
        refine exists_identify_eq_ok fun node hnode => ?_
        obtain ⟨id, hid, -⟩ := exists_mem_identify hfirsts hnode
        exact UniqueId.exists_compute_eq_ok_iff.2 (UniqueId.exists_compute_eq_ok_iff.1 ⟨id, hid⟩)
      have hnodup : (ids.map Prod.fst).Nodup := by
        rw [map_fst_identify hids]
        exact sub.nodup_declaredNodes
      simp only [hfirsts] at hown ⊢
      simp only [hown, hparent, hids]
      exact linkAll_linkAll hnodup ((map_fst_identify hfirsts).trans (map_fst_identify hids).symm)
        first s

/-- A linking that succeeds has reached every declared node and linked it, and done no more to it.
-/
theorem child?_link {sub : SubWorkflow} {s : Status} (h : (link sub attempt length s).1 = .ok ()) :
    ∃ parent, s.own.uniqueId = some parent ∧ ∀ node ∈ sub.declaredNodes, ∃ c id,
      s.entry node = .ok c ∧ UniqueId.compute node parent attempt length = .ok id ∧
        (link sub attempt length s).2.child? node = some (c.link id parent attempt) := by
  unfold link at h ⊢
  cases hparent : s.own.uniqueId with
  | none => simp [hparent] at h
  | some parent =>
    simp only [hparent] at h ⊢
    cases hids : identify parent attempt length sub.declaredNodes with
    | error e => simp [hids] at h
    | ok ids =>
      simp only [hids] at h ⊢
      refine ⟨parent, rfl, fun node hnode => ?_⟩
      have hnodup : (ids.map Prod.fst).Nodup := by
        rw [map_fst_identify hids]
        exact sub.nodup_declaredNodes
      obtain ⟨id, hid, hmem⟩ := exists_mem_identify hids hnode
      obtain ⟨c, hc, hlinked⟩ := child?_linkAll hnodup h hmem
      exact ⟨c, id, hc, hid, hlinked⟩

/-- A linking that succeeds leaves every declared node linked. -/
theorem linked_of_link_eq_ok {sub : SubWorkflow} {length : Nat} {s : Status}
    (h : (link sub s.own.attempts length s).1 = .ok ()) :
    Linked sub length (link sub s.own.attempts length s).2 := by
  have hown := own_link sub s.own.attempts length s
  obtain ⟨parent, hparent, hchildren⟩ := child?_link h
  unfold Linked
  rw [hown]
  refine ⟨parent, hparent, fun node hnode => ?_⟩
  obtain ⟨c, id, -, hid, hchild⟩ := hchildren node (sub.mem_declaredNodes_iff.2 hnode)
  exact ⟨_, id, hchild, hid, Status.linkedTo_link _ _ _ _⟩

end Lookup

end NestedWorkflow
