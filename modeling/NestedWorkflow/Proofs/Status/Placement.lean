import NestedWorkflow.Proofs.Lookup.Outcome
import NestedWorkflow.Proofs.Status.Operations
import NestedWorkflow.Proofs.Status.Reload

/-!
# Trees in which every status has a place for its data

A status without a place for its data can neither be reached nor be given children, so one of them
is enough to make every later tick of its node fail.  This file shows that none comes to be: a tree
in which every status has a place (`Status.Placed`) stays one under any operations
(`Status.placed_afterAll`), and on the way no walk and no linking fails for want of a place.

Two facts carry the proof.  A step down from a place leads to a place, however many slashes there
are, and operations only ever add statuses one step below their parents (`Status.Grows`); what was
there keeps its place.  The second fact needs no places at all.  It is shown for the children first
and lifted to the status above them (`Status.grows_of_children`), which is how a walk goes and how a
status is loaded.
-/

namespace NestedWorkflow

namespace Status

/-- Every status of the tree has a place for its data. -/
def Placed (s : Status) : Prop :=
  ∀ path d, s.descendant? path = some d → d.own.dataDir.isEmpty = false

/-! ### Statuses that are there -/

/-- A path can be followed in two parts. -/
lemma descendant?_append (s : Status) (path rest : List NodeId) :
    s.descendant? (path ++ rest) = (s.descendant? path).bind fun p => p.descendant? rest := by
  induction path generalizing s with
  | nil => rfl
  | cons first path ih =>
    rw [List.cons_append, descendant?, descendant?, Option.bind_assoc]
    exact Option.bind_congr fun c _ => ih c

/-- A path of one step leads to a child. -/
lemma descendant?_singleton (s : Status) (id : NodeId) : s.descendant? [id] = s.child? id := by
  rw [descendant?]
  cases s.child? id <;> rfl

/-- There is nothing below a status without children. -/
lemma descendant?_new_cons (dir : Reference) (id : NodeId) (path : List NodeId) :
    (new dir).descendant? (id :: path) = none := by
  rw [descendant?, new, child?_ofProgress, Option.bind_none]

/-- Below a child that was put in there is what is below the child. -/
lemma descendant?_withChild_self (s c : Status) (id : NodeId) (path : List NodeId) :
    (s.withChild id c).descendant? (id :: path) = c.descendant? path := by
  rw [descendant?, child?_withChild_self, Option.bind_some]

/-- Other children keep what is below them. -/
lemma descendant?_withChild_of_ne (s c : Status) {id other : NodeId} (h : other ≠ id)
    (path : List NodeId) :
    (s.withChild id c).descendant? (other :: path) = s.descendant? (other :: path) := by
  rw [descendant?, child?_withChild_of_ne _ _ h, descendant?]

/-- Putting in the child that is there changes nothing. -/
lemma withChild_self {s c : Status} {id : NodeId} (h : s.child? id = some c) :
    s.withChild id c = s := by
  refine Status.ext rfl fun other => ?_
  rw [child?_withChild]
  split
  · rename_i heq
    rw [heq, h]
  · rfl

/-- The status that is asked for is the one that is there, if there is one. -/
lemma former_of_child? {s c : Status} {id : NodeId} (h : s.child? id = some c) :
    s.former id = c := by
  rw [former, h, Option.getD_some]

/-- Otherwise it is a new one. -/
lemma former_of_child?_eq_none {s : Status} {id : NodeId} (h : s.child? id = none) :
    s.former id = new (s.own.dataDir.join id) := by
  rw [former, h, Option.getD_none]

/-- A child that is reached is the one that was asked for. -/
lemma former_of_entry {s c : Status} {id : NodeId} (h : s.entry id = .ok c) : s.former id = c := by
  by_cases hid : s.Reaches id
  · exact Except.ok.inj ((entry_of_reaches hid).symm.trans h)
  · rw [entry_of_not_reaches hid] at h
    cases h

/-- Below the child that is asked for is what is below the status, as a new one has nothing below
it. -/
lemma descendant?_former (s : Status) (id : NodeId) {path : List NodeId} (hpath : path ≠ []) :
    (s.former id).descendant? path = s.descendant? (id :: path) := by
  rw [descendant?]
  cases hc : s.child? id with
  | some c => rw [former_of_child? hc, Option.bind_some]
  | none =>
    obtain ⟨first, rest, rfl⟩ := List.exists_cons_of_ne_nil hpath
    rw [former_of_child?_eq_none hc, descendant?_new_cons, Option.bind_none]

/-! ### How trees grow -/

/-- The second tree has grown out of the first one.  Outside of what was replaced, every status
keeps the place of its data, and also that of its outputs unless that was moved; a status that is
new has both one step below the data of its parent. -/
structure Grows (replaced moved : List NodeId → Prop) (s s' : Status) : Prop where
  kept : ∀ path d, ¬ replaced path → s.descendant? path = some d →
    ∃ d', s'.descendant? path = some d' ∧ d'.own.dataDir = d.own.dataDir ∧
      (moved path ∨ d'.own.outputDir = d.own.outputDir)
  created : ∀ path id d, ¬ replaced (path ++ [id]) → s.descendant? (path ++ [id]) = none →
    s'.descendant? (path ++ [id]) = some d →
    ∃ p, s'.descendant? path = some p ∧ d.own.dataDir = p.own.dataDir.join id ∧
      (moved (path ++ [id]) ∨ d.own.outputDir = p.own.dataDir.join id)

section Growth

variable {replaced moved : List NodeId → Prop} {s s' : Status}

/-- A tree that stays as it is has grown out of itself. -/
lemma Grows.refl (replaced moved : List NodeId → Prop) (s : Status) : Grows replaced moved s s where
  kept _ d _ hd := ⟨d, hd, rfl, .inr rfl⟩
  created path id d _ hnone hd := by
    rw [hnone] at hd
    cases hd

/-- Nothing is said of a tree that was replaced as a whole. -/
lemma grows_of_replaced (h : ∀ path, replaced path) (s s' : Status) :
    Grows replaced moved s s' where
  kept path _ hkept := absurd (h path) hkept
  created path id _ hkept := absurd (h (path ++ [id])) hkept

/-- A tree has grown if its children have, each out of the one that was there or out of a new
one. -/
theorem grows_of_children (hdata : s'.own.dataDir = s.own.dataDir)
    (hout : moved [] ∨ s'.own.outputDir = s.own.outputDir)
    (hchildren : ∀ id, s'.child? id = s.child? id ∨ ∃ c', s'.child? id = some c' ∧
      Grows (fun path => replaced (id :: path)) (fun path => moved (id :: path)) (s.former id) c') :
    Grows replaced moved s s' where
  kept path d hkept hd := by
    cases path with
    | nil =>
      obtain rfl := Option.some.inj hd
      exact ⟨s', rfl, hdata, hout⟩
    | cons id path =>
      obtain ⟨c, hc, hd⟩ := descendant?_cons_eq_some_iff.1 hd
      rcases hchildren id with hsame | ⟨c', hc', hgrows⟩
      · exact ⟨d, descendant?_cons_eq_some_iff.2 ⟨c, hsame.trans hc, hd⟩, rfl, .inr rfl⟩
      · rw [former_of_child? hc] at hgrows
        obtain ⟨d', hd', hplaces⟩ := hgrows.kept path d hkept hd
        exact ⟨d', descendant?_cons_eq_some_iff.2 ⟨c', hc', hd'⟩, hplaces⟩
  created path id d hkept hnone hd := by
    cases path with
    | nil =>
      obtain ⟨c', hc', hd⟩ := descendant?_cons_eq_some_iff.1 hd
      obtain rfl := Option.some.inj hd
      have hc : s.child? id = none := (s.descendant?_singleton id).symm.trans hnone
      rcases hchildren id with hsame | ⟨c', hc'', hgrows⟩
      · rw [hsame, hc] at hc'
        cases hc'
      · cases hc'.symm.trans hc''
        rw [former_of_child?_eq_none hc] at hgrows
        obtain ⟨d, hd, hdata', hout'⟩ := hgrows.kept [] _ hkept rfl
        obtain rfl := Option.some.inj hd
        rw [← hdata] at hdata' hout'
        exact ⟨s', rfl, hdata', hout'⟩
    | cons first path =>
      rw [List.cons_append] at hd
      obtain ⟨c', hc', hd⟩ := descendant?_cons_eq_some_iff.1 hd
      rcases hchildren first with hsame | ⟨c'', hc'', hgrows⟩
      · rw [List.cons_append, descendant?, ← hsame, hc', Option.bind_some, hd] at hnone
        cases hnone
      · cases hc'.symm.trans hc''
        have hnone' : (s.former first).descendant? (path ++ [id]) = none :=
          (s.descendant?_former first (by simp)).trans hnone
        obtain ⟨p, hp, hplaces⟩ := hgrows.created path id d hkept hnone' hd
        exact ⟨p, descendant?_cons_eq_some_iff.2 ⟨c', hc', hp⟩, hplaces⟩

/-- A change of what a status says of its own node does not touch the children. -/
lemma grows_modifyOwn (s : Status) (f : Progress → Progress)
    (hdata : (f s.own).dataDir = s.own.dataDir)
    (hout : moved [] ∨ (f s.own).outputDir = s.own.outputDir) :
    Grows replaced moved s (s.modifyOwn f) :=
  grows_of_children hdata hout fun id => .inl (s.child?_modifyOwn f id)

/-- Linking adds declared nodes that have no status. -/
lemma grows_link (sub : SubWorkflow) (attempt length : Nat) (s : Status) :
    Grows replaced moved s (Lookup.link sub attempt length s).2 := by
  have hlinked : ∀ {parent nodes s'}, Lookup.LinkedOnly parent attempt length nodes s s' →
      Grows replaced moved s s' := by
    intro parent nodes s' h
    refine grows_of_children (congrArg Progress.dataDir h.own_eq)
      (.inr (congrArg Progress.outputDir h.own_eq)) fun id => ?_
    by_cases hid : id ∈ nodes
    · obtain ⟨_, -, hchild⟩ := h.linked id hid
      exact .inr ⟨_, hchild, grows_modifyOwn _ _ rfl (.inr rfl)⟩
    · exact .inl (h.others id hid)
  obtain ⟨r, h⟩ := Lookup.exists_linkOutcome sub attempt length s
  rw [h.link_eq]
  cases h with
  | anonymous _ => exact .refl _ _ s
  | unnamed _ _ _ _ => exact .refl _ _ s
  | stopped _ _ _ _ _ hleft => exact hlinked hleft
  | linked _ _ hleft => exact hlinked hleft

/-- A status that is loaded has the same children in the same places. -/
lemma grows_of_ofJson {n : Nat} {t : Status} (h : ofJson n s.toJson = .ok t) :
    Grows replaced moved s t := by
  induction n using Nat.twoStepInduction generalizing s t replaced moved with
  | zero => cases h
  | one =>
    obtain ⟨err, herr⟩ := s.ofJson_one_toJson
    rw [h] at herr
    cases herr
  | more n ih _ =>
    have hdoc : s.toJson = .record ((shape (childrenReader (n + 1)) (n + 1)).fieldMembers s.fieldDoc
        (shape (childrenReader (n + 1)) (n + 1)).fields) := s.toJson_eq_fieldMembers
    rw [hdoc] at h
    obtain ⟨d, hd, htaken, -⟩ := exists_draft_of_ofJson shape_proper.nodup h
    obtain ⟨-, -, hdata, hout, hchildren⟩ := ofDraft_eq_ok hd
    have hfield := fun i => htaken i (shape_proper.mem_fields i)
    obtain ⟨dataDir, hread, hdata'⟩ := hfield .dataDir
    obtain rfl : s.own.dataDir = dataDir := Except.ok.inj hread
    obtain ⟨outputDir, hread, hout'⟩ := hfield .outputDir
    obtain rfl : s.own.outputDir = outputDir := Except.ok.inj hread
    obtain ⟨children, hread, hchildren'⟩ := hfield .children
    refine grows_of_children (Option.some.inj (hdata.symm.trans hdata'))
      (.inr (Option.some.inj (hout.symm.trans hout'))) fun id => ?_
    have hrel := Json.rel_get?_of_dictionary_eq_ok s.children_inOrder hread id
    rw [get?_children] at hrel
    rw [hchildren id, hchildren', Option.getD_some]
    generalize children.get? id = found at hrel ⊢
    cases hc : s.child? id with
    | none =>
      rw [hc] at hrel
      cases hrel
      exact .inl rfl
    | some c =>
      rw [hc] at hrel
      cases hrel with
      | some hloaded =>
        refine .inr ⟨_, rfl, ?_⟩
        rw [former_of_child? hc]
        exact ih hloaded

/-! ### Places are kept -/

/-- A tree that has grown out of one in which every status has a place is such a tree again, if the
parts that were replaced are. -/
theorem Grows.placed (h : Grows replaced moved s s') (hs : s.Placed)
    (hreplaced : ∀ path d, replaced path → s'.descendant? path = some d →
      d.own.dataDir.isEmpty = false) : s'.Placed := by
  intro path
  -- The place of a new status depends on that of its parent, so the induction goes down from the
  -- root.
  induction path using List.reverseRecOn with
  | nil =>
    intro d hd
    by_cases hpath : replaced []
    · exact hreplaced [] d hpath hd
    · obtain ⟨d', hd', hdata, -⟩ := h.kept [] s hpath rfl
      cases hd.symm.trans hd'
      rw [hdata]
      exact hs [] s rfl
  | append_singleton path id ih =>
    intro d hd
    by_cases hpath : replaced (path ++ [id])
    · exact hreplaced _ d hpath hd
    · cases hbefore : s.descendant? (path ++ [id]) with
      | none =>
        obtain ⟨p, hp, hdata, -⟩ := h.created path id d hpath hbefore hd
        rw [hdata]
        exact isEmpty_join (ih p hp) id
      | some d₀ =>
        obtain ⟨d', hd', hdata, -⟩ := h.kept _ d₀ hpath hbefore
        cases hd.symm.trans hd'
        rw [hdata]
        exact hs _ d₀ hbefore

end Growth

/-! ### Operations -/

namespace Operation

/-- The operation puts a child in somewhere above this path, or at its end. -/
def Replaces (op : Operation) (path : List NodeId) : Prop :=
  ∃ id child, op.change = .insertChild id child ∧ op.path ++ [id] <+: path

/-- The operation moves the outputs of the status at the end of this path. -/
def Moves (op : Operation) (path : List NodeId) : Prop :=
  path = op.path ∧ ∃ dir, op.change = .setOutputDir dir

/-- If the operation puts in a child, then every status in it has a place for its data. -/
def Sound (op : Operation) : Prop :=
  ∀ id child, op.change = .insertChild id child → child.Placed

lemma replaces_cons {id : NodeId} {path rest : List NodeId} {change : Change} :
    Replaces ⟨id :: rest, change⟩ (id :: path) ↔ Replaces ⟨rest, change⟩ path := by
  simp [Replaces]

lemma moves_cons {id : NodeId} {path rest : List NodeId} {change : Change} :
    Moves ⟨id :: rest, change⟩ (id :: path) ↔ Moves ⟨rest, change⟩ path := by
  simp [Moves]

end Operation

/-- A change adds statuses below its own, if any. -/
lemma grows_apply (change : Change) (s : Status) :
    Grows (Operation.Replaces ⟨[], change⟩) (Operation.Moves ⟨[], change⟩) s
      (change.apply s).2 := by
  cases change with
  | look => exact .refl _ _ s
  | setPhase phase now => exact grows_modifyOwn s (·.setPhase phase now) rfl (.inr rfl)
  | setError error => exact grows_modifyOwn s ({ · with error := error }) rfl (.inr rfl)
  | incrementAttempts =>
    rw [Change.apply]
    cases hcount : s.incrementAttempts? with
    | none => exact .refl _ _ s
    | some t =>
      rw [(incrementAttempts?_eq_some_iff.1 hcount).2]
      exact grows_modifyOwn s (fun p => { p with attempts := p.attempts + 1 }) rfl (.inr rfl)
  | setOutputDir dir =>
    exact grows_modifyOwn s ({ · with outputDir := dir }) rfl (.inl ⟨rfl, dir, rfl⟩)
  | setUniqueId id => exact grows_modifyOwn s ({ · with uniqueId := some id }) rfl (.inr rfl)
  | setCheckpoint checkpoint now =>
    exact grows_modifyOwn s (·.setCheckpoint checkpoint now) rfl (.inr rfl)
  | insertChild id child =>
    refine grows_of_children rfl (.inr rfl) fun other => ?_
    by_cases hother : other = id
    · subst hother
      refine .inr ⟨child, s.child?_withChild_self _ _, grows_of_replaced (fun path => ?_) _ _⟩
      exact ⟨other, child, rfl, path, rfl⟩
    · exact .inl (s.child?_withChild_of_ne child hother)
  | link sub attempt length => exact grows_link sub attempt length s
  | reload =>
    rw [Change.apply]
    cases hload : ofText s.toText with
    | error e => exact .refl _ _ s
    | ok t =>
      rw [ofText_toText_eq] at hload
      exact grows_of_ofJson hload

/-- An operation adds statuses on its way and below its end, if any. -/
theorem grows_perform (s : Status) (op : Operation) :
    Grows op.Replaces op.Moves s (s.perform op).2 := by
  obtain ⟨path, change⟩ := op
  unfold perform
  induction path generalizing s with
  | nil => exact grows_apply change s
  | cons id path ih =>
    cases hc : s.entry id with
    | error e =>
      rw [walk_cons_of_error hc]
      exact .refl _ _ s
    | ok c =>
      rw [walk_cons_of_ok hc]
      refine grows_of_children rfl (.inr rfl) fun other => ?_
      by_cases hother : other = id
      · subst hother
        refine .inr ⟨_, s.child?_withChild_self _ _, ?_⟩
        simp only [Operation.replaces_cons, Operation.moves_cons]
        rw [former_of_entry hc]
        exact ih c
      · exact .inl (s.child?_withChild_of_ne _ hother)

/-! ### What is reached -/

/-- The status that a walk along a path reaches: the one there is, or else a new one. -/
def reach : Status → List NodeId → Status
  | s, [] => s
  | s, id :: path => (s.former id).reach path

/-- A status that is there is reached as it is. -/
lemma reach_of_descendant? {s d : Status} {path : List NodeId} (h : s.descendant? path = some d) :
    s.reach path = d := by
  induction path generalizing s with
  | nil => exact Option.some.inj h
  | cons id path ih =>
    obtain ⟨c, hc, hd⟩ := descendant?_cons_eq_some_iff.1 h
    rw [reach, former_of_child? hc]
    exact ih hd

/-- Of a status that is missing a new one is reached, one step below the data of the one before. -/
lemma reach_of_descendant?_eq_none {s : Status} {path : List NodeId} {id : NodeId}
    (h : s.descendant? (path ++ [id]) = none) :
    s.reach (path ++ [id]) = new ((s.reach path).own.dataDir.join id) := by
  induction path generalizing s with
  | nil =>
    rw [List.nil_append, descendant?_singleton] at h
    exact former_of_child?_eq_none h
  | cons first path ih =>
    exact ih ((s.descendant?_former first (by simp)).trans h)

/-- What lies off the way of a walk stays as it is. -/
lemma descendant?_walk_of_apart {α : Type} (s : Status) {path other : List NodeId}
    (h : ¬ path <+: other) (h' : ¬ other <+: path) (act : Status → α × Status) :
    (s.walk path act).2.descendant? other = s.descendant? other := by
  induction path generalizing other s with
  | nil => exact absurd List.nil_prefix h
  | cons id path ih =>
    cases other with
    | nil => exact absurd List.nil_prefix h'
    | cons id' other =>
      cases hc : s.entry id with
      | error e => rw [walk_cons_of_error hc]
      | ok c =>
        rw [walk_cons_of_ok hc]
        by_cases hid : id' = id
        · subst hid
          have hrest : ¬ path <+: other := fun hp => h (List.cons_prefix_cons.2 ⟨rfl, hp⟩)
          have hrest' : ¬ other <+: path := fun hp => h' (List.cons_prefix_cons.2 ⟨rfl, hp⟩)
          have hne : other ≠ [] := by
            rintro rfl
            exact hrest' List.nil_prefix
          rw [descendant?_withChild_self, ih c hrest hrest', ← former_of_entry hc,
            s.descendant?_former id' hne]
        · exact s.descendant?_withChild_of_ne _ hid other

namespace Placed

variable {s : Status} (h : s.Placed)
include h

/-- Every child can be reached, whether it is there or not. -/
lemma reaches (id : NodeId) : s.Reaches id := by
  unfold Reaches
  split
  · rename_i c hc
    exact h [id] c ((s.descendant?_singleton id).trans hc)
  · exact h [] s rfl

/-- The child that is reached has a place for its data, and so has everything below it. -/
lemma former (id : NodeId) : (s.former id).Placed := by
  intro path d hd
  cases path with
  | cons first path =>
    rw [s.descendant?_former id (by simp)] at hd
    exact h _ d hd
  | nil =>
    obtain rfl := Option.some.inj hd
    cases hc : s.child? id with
    | some c =>
      rw [former_of_child? hc]
      exact h [id] c ((s.descendant?_singleton id).trans hc)
    | none =>
      rw [former_of_child?_eq_none hc]
      exact isEmpty_join (h [] s rfl) id

/-- The status that a walk reaches has a place for its data, and so has everything below it. -/
lemma reach (path : List NodeId) : (s.reach path).Placed := by
  induction path generalizing s with
  | nil => exact h
  | cons id path ih => exact ih (h.former id)

/-- A walk acts on the status that it reaches. -/
theorem walk {α : Type} (path : List NodeId) (act : Status → α × Status) :
    (s.walk path act).1 = .ok (act (s.reach path)).1 ∧
      (s.walk path act).2.descendant? path = some (act (s.reach path)).2 := by
  induction path generalizing s with
  | nil => exact ⟨rfl, rfl⟩
  | cons id path ih =>
    rw [walk_cons_of_ok (entry_of_reaches (h.reaches id)), descendant?_withChild_self]
    exact ih (h.former id)

/-- Looking at a status that is there changes nothing. -/
lemma walk_look {α : Type} {path : List NodeId} {d : Status} (hd : s.descendant? path = some d)
    (view : Status → α) : s.walk path (fun d => (view d, d)) = (.ok (view d), s) := by
  induction path generalizing s with
  | nil =>
    obtain rfl := Option.some.inj hd
    rfl
  | cons id path ih =>
    obtain ⟨c, hc, hd⟩ := descendant?_cons_eq_some_iff.1 hd
    have hplaced := h.former id
    rw [former_of_child? hc] at hplaced
    rw [walk_cons_of_ok (entry_of_reaches (h.reaches id)), former_of_child? hc, ih hplaced hd,
      withChild_self hc]

/-- No linking fails for want of a place. -/
lemma link_ne (sub : SubWorkflow) (attempt length : Nat) (e : StatusError) :
    (Lookup.link sub attempt length s).1 ≠ .error (.status e) := by
  obtain ⟨r, hr⟩ := Lookup.exists_linkOutcome sub attempt length s
  rw [hr.link_eq]
  cases hr with
  | anonymous _ => simp
  | unnamed _ _ _ _ => simp
  | stopped _ _ _ _ hnode _ => exact absurd (h.reaches _) hnode
  | linked _ _ _ => simp

/-- An operation leaves a tree in which every status has a place for its data. -/
theorem perform (op : Operation) (hop : op.Sound) : (s.perform op).2.Placed := by
  refine (grows_perform s op).placed h ?_
  rintro path d ⟨id, child, hchange, rest, rfl⟩ hd
  have hend := (h.walk op.path op.change.apply).2
  change (s.perform op).2.descendant? op.path = _ at hend
  rw [List.append_assoc, descendant?_append, hend, Option.bind_some, hchange] at hd
  rw [List.singleton_append, Change.apply, descendant?_withChild_self] at hd
  exact hop id child hchange rest d hd

end Placed

/-! ### Runs of operations -/

/-- What an operation promises in a tree in which every status has a place for its data. -/
structure Sheltered (s : Status) (op : Operation) : Prop where
  /-- The walk comes to its end, and a linking does not fail for want of a place. -/
  answered : ∃ reply, (s.perform op).1 = .ok reply ∧ ∀ e, reply ≠ .linked (.error (.status e))
  /-- The change is made to the status that is reached. -/
  reached : (s.perform op).1 = .ok (op.change.apply (s.reach op.path)).1 ∧
    (s.perform op).2.descendant? op.path = some (op.change.apply (s.reach op.path)).2
  /-- A status that is there is reached as it is, and looking at it changes nothing at all. -/
  found : ∀ d, s.descendant? op.path = some d →
    s.reach op.path = d ∧ s.perform ⟨op.path, .look⟩ = (.ok (.seen d), s)
  /-- Of one that is missing a new one is reached, its data and outputs one step below the data of
  the status before it. -/
  fresh : ∀ front id, op.path = front ++ [id] → s.descendant? op.path = none →
    s.reach op.path = new ((s.reach front).own.dataDir.join id)
  /-- What lies off the way stays as it is. -/
  apart : ∀ path, ¬ op.path <+: path → ¬ path <+: op.path →
    (s.perform op).2.descendant? path = s.descendant? path
  /-- What was there keeps the place of its data, unless a child was put in in its stead, and what
  is new has its data one step below those of its parent. -/
  grows : Grows op.Replaces op.Moves s (s.perform op).2

/-- An operation keeps its promises wherever every status has a place for its data. -/
lemma Placed.sheltered {s : Status} (h : s.Placed) (op : Operation) : s.Sheltered op where
  answered := by
    refine ⟨_, (h.walk op.path op.change.apply).1, fun e => ?_⟩
    cases op.change with
    | link sub attempt length =>
      intro heq
      exact (h.reach op.path).link_ne sub attempt length e (Reply.linked.inj heq)
    | incrementAttempts | reload =>
      rw [Change.apply]
      split <;> simp
    | _ => simp [Change.apply]
  reached := h.walk op.path op.change.apply
  found d hd := ⟨reach_of_descendant? hd, h.walk_look hd Reply.seen⟩
  fresh front id hpath hnone := by
    rw [hpath] at hnone ⊢
    exact reach_of_descendant?_eq_none hnone
  apart path hpath hpath' := s.descendant?_walk_of_apart hpath hpath' op.change.apply
  grows := grows_perform s op

/-- The tree after operations, one after the other. -/
def afterAll (s : Status) (ops : List Operation) : Status :=
  ops.foldl (fun s op => (s.perform op).2) s

/-- A tree in which every status has a place for its data stays one under operations. -/
lemma Placed.afterAll {s : Status} (h : s.Placed) {ops : List Operation}
    (hops : ∀ op ∈ ops, op.Sound) : (s.afterAll ops).Placed := by
  induction ops generalizing s with
  | nil => exact h
  | cons op ops ih =>
    obtain ⟨hop, hops⟩ := List.forall_mem_cons.1 hops
    exact ih (h.perform op hop) hops

/-- If every status of a tree has a place for its data, then so it is after any operations, as long
as the children that are put in have places as well, and on the way every operation keeps its
promises: none of them fails for want of a place. -/
theorem placed_afterAll {s : Status} (h : s.Placed) {ops : List Operation}
    (hops : ∀ op ∈ ops, op.Sound) :
    (s.afterAll ops).Placed ∧
      ∀ front op back, ops = front ++ op :: back → (s.afterAll front).Sheltered op := by
  refine ⟨h.afterAll hops, ?_⟩
  rintro front op back rfl
  have hfront : (s.afterAll front).Placed :=
    h.afterAll fun op hop => hops op (List.mem_append_left _ hop)
  exact hfront.sheltered op

end Status

namespace Sample

open Status

/-- A node whose data lie in a place that is all slashes. -/
def rootless : Status := (Status.new ⟨"///"⟩).setUniqueId "r1"

/-- Operations that go down steps without a name, move outputs to no place, put a node in, link,
store and load. -/
def wanderings : List Operation :=
  [⟨["", "//"], .look⟩, ⟨["a"], .setOutputDir Reference.empty⟩,
    ⟨["a"], .insertChild "b" (Status.new ⟨"elsewhere"⟩)⟩, ⟨[], .link slashes 3 20⟩, ⟨[], .reload⟩]

/-- A new status has a place if there is one for its data. -/
lemma placed_new {dir : Reference} (h : dir.isEmpty = false) : (Status.new dir).Placed := by
  intro path d hd
  cases path with
  | nil =>
    obtain rfl := Option.some.inj hd
    exact h
  | cons id path =>
    rw [descendant?_new_cons] at hd
    cases hd

/-- All of these operations keep their promises.  The steps without a name lead to a slash, and the
linking is not kept from its work by anything that was done before. -/
theorem rootless_sheltered :
    rootless.Placed ∧ (∀ op ∈ wanderings, op.Sound) ∧ (rootless.afterAll wanderings).Placed ∧
      (rootless.perform ⟨["", "//"], .look⟩).1 = .ok (.seen (Status.new ⟨"/"⟩)) ∧
      ∃ reply, ((rootless.afterAll (wanderings.take 3)).perform ⟨[], .link slashes 3 20⟩).1 =
        .ok reply ∧ ∀ e, reply ≠ .linked (.error (.status e)) := by
  have hplaced : rootless.Placed :=
    (placed_new rfl).perform ⟨[], .setUniqueId "r1"⟩ fun _ _ h => by cases h
  have hsound : ∀ op ∈ wanderings, op.Sound := by
    intro op hop id child hchange
    simp only [wanderings, List.mem_cons, List.not_mem_nil, or_false] at hop
    rcases hop with rfl | rfl | rfl | rfl | rfl
    · cases hchange
    · cases hchange
    · cases hchange
      exact placed_new rfl
    · cases hchange
    · cases hchange
  obtain ⟨hend, hway⟩ := placed_afterAll hplaced hsound
  have hfirst := (hway [] _ _ rfl).reached.1
  exact ⟨hplaced, hsound, hend, hfirst.trans rfl, (hway (wanderings.take 3) _ _ rfl).answered⟩

end Sample

end NestedWorkflow
