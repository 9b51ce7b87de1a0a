import NestedWorkflow.Proofs.Status.Document

/-!
# Stored statuses and the limit of nesting

A status survives being stored and loaded if and only if no child lies more than 62 levels below the
root (`Status.ofText_toText`); nothing warns of a deeper one when it is stored.  Each level of
children takes two levels of nesting, the record of a status and the object of its children.  Inside
a record, the checkpoint takes one and the error in the checkpoint another.  As the limit is odd, a
record has room for both or not even for the checkpoint, so it does not matter whether there is an
error.

Both halves of the proof go down the levels, two levels of nesting at a time.
-/

namespace NestedWorkflow

namespace Status

/-! ### Levels -/

/-- The status at the end of a path of identifiers. -/
def descendant? : Status → List NodeId → Option Status
  | s, [] => some s
  | s, id :: path => (s.child? id).bind fun c => c.descendant? path

/-- A path starts with a child. -/
lemma descendant?_cons_eq_some_iff {s d : Status} {id : NodeId} {path : List NodeId} :
    s.descendant? (id :: path) = some d ↔
      ∃ c, s.child? id = some c ∧ c.descendant? path = some d := by
  rw [descendant?, Option.bind_eq_some_iff]

/-- Every status of the tree can be stored. -/
def Storable (s : Status) : Prop :=
  ∀ path d, s.descendant? path = some d → d.own.Storable

/-- The root can be stored. -/
lemma Storable.own {s : Status} (h : s.Storable) : s.own.Storable := h [] s rfl

/-- The statuses below a child can be stored. -/
lemma Storable.child {s c : Status} {id : NodeId} (h : s.Storable) (hc : s.child? id = some c) :
    c.Storable :=
  fun path d hd => h (id :: path) d (descendant?_cons_eq_some_iff.2 ⟨c, hc, hd⟩)

/-- There are fewer than so many levels, the root included. -/
def Shallow (levels : Nat) (s : Status) : Prop :=
  ∀ path d, s.descendant? path = some d → path.length < levels

/-- Below a child there is one level less. -/
lemma Shallow.child {levels : Nat} {s c : Status} {id : NodeId} (h : s.Shallow (levels + 1))
    (hc : s.child? id = some c) : c.Shallow levels := by
  intro path d hd
  have hlength := h (id :: path) d (descendant?_cons_eq_some_iff.2 ⟨c, hc, hd⟩)
  exact Nat.lt_of_succ_lt_succ hlength

/-! ### Reading level by level -/

/-- A status is read back if there are two levels of nesting for each of its levels, and one
more. -/
theorem ofJson_toJson {s : Status} (h : s.Storable) {levels : Nat} (hlevels : s.Shallow levels) :
    ofJson (2 * levels + 1) s.toJson = .ok s := by
  induction levels generalizing s with
  | zero => exact absurd (hlevels [] s rfl) (Nat.not_lt_zero _)
  | succ levels ih =>
    have hchildren : ∀ id c, s.child? id = some c → ofJson (2 * levels + 1) c.toJson = .ok c :=
      fun id c hc => ih (h.child hc) (hlevels.child hc)
    exact ofJson_toJson_of_children h.own.sized hchildren

/-- A status is refused if one level has less. -/
theorem ofJson_toJson_deep {s d : Status} {path : List NodeId} (hd : s.descendant? path = some d)
    {levels : Nat} (hlevels : levels ≤ path.length) :
    ∃ err, ofJson (2 * levels + 1) s.toJson = .error err := by
  induction levels generalizing s path with
  | zero => exact s.ofJson_one_toJson
  | succ levels ih =>
    cases path with
    | nil => exact absurd hlevels (Nat.not_succ_le_zero _)
    | cons id path =>
      obtain ⟨c, hc, hd⟩ := descendant?_cons_eq_some_iff.1 hd
      exact ofJson_toJson_error hc (ih hd (Nat.le_of_succ_le_succ hlevels))

/-- Reading the text of a status is reading its document with all the nesting there is. -/
lemma ofText_toText_eq (s : Status) : ofText s.toText = ofJson (2 * 63 + 1) s.toJson :=
  Json.decodeText_toText s.toJson_writable

/-- A status that is stored and loaded again is the same, and would be stored as the same text, if
and only if no status lies more than 62 levels below the root.  Any status that has a deeper one
cannot be loaded. -/
theorem ofText_toText {s : Status} (h : s.Storable) :
    ((∃ t, ofText s.toText = .ok t ∧ t = s ∧ t.toText = s.toText) ↔
      ∀ path d, s.descendant? path = some d → path.length ≤ 62) ∧
    ∀ path d, s.descendant? path = some d → 62 < path.length →
      ∃ err, ofText s.toText = .error err := by
  have hdeep : ∀ path d, s.descendant? path = some d → 62 < path.length →
      ∃ err, ofText s.toText = .error err := by
    intro path d hd hlength
    rw [ofText_toText_eq]
    exact ofJson_toJson_deep hd hlength
  refine ⟨⟨?_, ?_⟩, hdeep⟩
  · rintro ⟨t, ht, -, -⟩ path d hd
    by_contra hlength
    obtain ⟨err, herr⟩ := hdeep path d hd (Nat.lt_of_not_le hlength)
    rw [ht] at herr
    cases herr
  · intro hlevels
    have hshallow : s.Shallow 63 := fun path d hd => Nat.lt_succ_of_le (hlevels path d hd)
    refine ⟨s, ?_, rfl, rfl⟩
    rw [ofText_toText_eq]
    exact ofJson_toJson h hshallow

end Status

/-! ### Towers -/

namespace Sample

/-- A failure with a report of several lines. -/
def wrenched : ExecutionError := .user "E-7" "bad \"quote\"\\ \n\x01 €😀"

/-- The last nanosecond of the last leap second of a year with four digits. -/
def lastInstant : Instant :=
  ⟨⟨9999, 12, 31⟩, ⟨23, 59, 60, 999999999⟩, by decide, by decide⟩

/-- A node that failed while the graph in it was failing, with all that can be said of it. -/
def wrenchedProgress : Progress :=
  ⟨.failing, 4294967295, ⟨"mem://data/α"⟩, ⟨""⟩, some "f0123abc", some "", some 4294967294,
    ⟨.failing, some wrenched, 4294967295⟩, some wrenched, some lastInstant⟩

/-- As many nodes inside one another, below the root. -/
def tower : Nat → Status
  | 0 => .ofProgress wrenchedProgress
  | n + 1 => (Status.ofProgress wrenchedProgress).withChild "in\tner" (tower n)

/-- All there is in a tower is the tower inside it. -/
lemma tower_child? (n : Nat) {id : NodeId} {c : Status} (h : (tower (n + 1)).child? id = some c) :
    c = tower n := by
  rw [tower, Status.child?_withChild, Status.child?_ofProgress] at h
  split at h
  · exact (Option.some.inj h).symm
  · cases h

/-- The numbers at the top of a tower have their size. -/
lemma wrenchedProgress_storable : wrenchedProgress.Storable where
  attempts_lt := by decide
  parentAttempts_lt := by
    rintro n ⟨⟩
    decide
  checkpoint_lt := by decide
  year_nonneg := by
    rintro i ⟨⟩
    decide
  year_le := by
    rintro i ⟨⟩
    decide

/-- Every level of a tower makes the same progress, and there are no more levels than it has. -/
lemma tower_descendant? {n : Nat} {path : List NodeId} {d : Status}
    (h : (tower n).descendant? path = some d) : path.length ≤ n ∧ d.own = wrenchedProgress := by
  induction n generalizing path with
  | zero =>
    cases path with
    | nil =>
      obtain rfl := Option.some.inj h
      exact ⟨Nat.le_refl _, rfl⟩
    | cons id path =>
      obtain ⟨c, hc, -⟩ := Status.descendant?_cons_eq_some_iff.1 h
      cases hc
  | succ n ih =>
    cases path with
    | nil =>
      obtain rfl := Option.some.inj h
      exact ⟨Nat.zero_le _, rfl⟩
    | cons id path =>
      obtain ⟨c, hc, hd⟩ := Status.descendant?_cons_eq_some_iff.1 h
      obtain rfl := tower_child? n hc
      obtain ⟨hlength, hown⟩ := ih hd
      exact ⟨Nat.succ_le_succ hlength, hown⟩

/-- A tower can be stored. -/
lemma tower_storable (n : Nat) : (tower n).Storable := by
  intro path d hd
  rw [(tower_descendant? hd).2]
  exact wrenchedProgress_storable

/-- At the bottom of a tower there is one node. -/
lemma tower_bottom (n : Nat) :
    (tower n).descendant? (List.replicate n "in\tner") = some (tower 0) := by
  induction n with
  | zero => rfl
  | succ n ih =>
    refine Status.descendant?_cons_eq_some_iff.2 ⟨tower n, ?_, ih⟩
    exact Status.child?_withChild_self _ _ _

/-- Sixty-two nodes below the root can be loaded, sixty-three cannot. -/
theorem tower_reload :
    Status.ofText (tower 62).toText = .ok (tower 62) ∧
      ∃ err, Status.ofText (tower 63).toText = .error err := by
  constructor
  · obtain ⟨t, hread, rfl, -⟩ := (Status.ofText_toText (tower_storable 62)).1.2
      fun path d hd => (tower_descendant? hd).1
    exact hread
  · refine (Status.ofText_toText (tower_storable 63)).2 _ _ (tower_bottom 63) ?_
    rw [List.length_replicate]
    decide

end Sample

end NestedWorkflow
