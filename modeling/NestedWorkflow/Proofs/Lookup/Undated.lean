import NestedWorkflow.Proofs.Lookup.Linking
import NestedWorkflow.Proofs.Lookup.Visits

/-!
# Statuses without their date

A status keeps the time of its last change.  Nothing that happens to the children depends on that of
the enclosing status: reaching them, linking them (`Lookup.link_undated`) and the visits of an
executor (`Lookup.leftBy_undated`) all commute with leaving the date out.
-/

namespace NestedWorkflow

/-- The progress without the time of the last change. -/
def Progress.undated (p : Progress) : Progress := { p with updatedAt := none }

namespace Status

/-- The status without the time of its last change.  The children keep theirs. -/
def undated (s : Status) : Status := s.modifyOwn Progress.undated

@[simp] lemma child?_undated (s : Status) (id : NodeId) : s.undated.child? id = s.child? id :=
  s.child?_modifyOwn _ id

/-- A new checkpoint replaces the old one whatever the dates are. -/
lemma undated_setCheckpoint {s t : Status} (h : s.undated = t.undated) (checkpoint : Checkpoint)
    (now later : Instant) :
    (s.setCheckpoint checkpoint now).undated = (t.setCheckpoint checkpoint later).undated := by
  refine Status.ext ?_ fun id => ?_
  · have hown : s.own.undated = t.own.undated := congrArg own h
    exact congrArg (fun p : Progress => { p with checkpoint := checkpoint }) hown
  · have hchild := congrArg (fun u => u.child? id) h
    simpa [setCheckpoint] using hchild

/-- Putting a child in does not depend on the date. -/
lemma undated_withChild (s : Status) (id : NodeId) (c : Status) :
    (s.withChild id c).undated = s.undated.withChild id c :=
  Status.ext rfl fun other => by simp [child?_withChild]

/-- Which child is reached does not depend on the date. -/
lemma entry_undated (s : Status) (id : NodeId) : s.undated.entry id = s.entry id := by
  unfold entry
  rw [child?_undated]
  rfl

end Status

namespace Lookup

/-- Linking one child after the other does not depend on the date. -/
lemma linkAll_undated (parent : UniqueId) (attempt : Nat) (ids : List (NodeId × UniqueId))
    (s : Status) :
    linkAll parent attempt ids s.undated =
      ((linkAll parent attempt ids s).1, (linkAll parent attempt ids s).2.undated) := by
  induction ids generalizing s with
  | nil => rfl
  | cons pair rest ih =>
    obtain ⟨node, id⟩ := pair
    simp only [linkAll, Status.visit, s.entry_undated]
    cases s.entry node with
    | error e => rfl
    | ok c =>
      simp only [Except.map]
      rw [← s.undated_withChild]
      exact ih _

/-- Linking does not depend on the date. -/
theorem link_undated (sub : SubWorkflow) (attempt length : Nat) (s : Status) :
    link sub attempt length s.undated =
      ((link sub attempt length s).1, (link sub attempt length s).2.undated) := by
  have hid : s.undated.own.uniqueId = s.own.uniqueId := rfl
  unfold link
  rw [hid]
  cases s.own.uniqueId with
  | none => rfl
  | some parent =>
    simp only
    cases identify parent attempt length sub.declaredNodes with
    | error e => rfl
    | ok ids => exact linkAll_undated parent attempt ids s

/-- The lookup without the date of the enclosing status. -/
def undated (l : Lookup) : Lookup := { l with status := l.status.undated }

/-- A visit does not depend on the date. -/
lemma visit_undated (l : Lookup) (id : NodeId) (edit : Status → Status) :
    l.undated.visit id edit = (l.visit id edit).map undated := by
  have hentry : l.undated.entry id = l.entry id := by
    unfold entry undated
    simp only [Status.entry_undated]
  unfold visit
  rw [hentry]
  cases l.entry id with
  | error e => rfl
  | ok c => simp only [Except.map, undated, Status.undated_withChild]

/-- Visits do not depend on the date. -/
lemma visitAll_undated (visits : List Visit) (l : Lookup) :
    l.undated.visitAll visits = (l.visitAll visits).undated := by
  induction visits generalizing l with
  | nil => rfl
  | cons v rest ih =>
    have hvisit := l.visit_undated v.node v.edit
    cases h : l.visit v.node v.edit with
    | error e =>
      rw [h] at hvisit
      rw [visitAll_cons_of_error h, visitAll_cons_of_error hvisit, ih]
    | ok l' =>
      rw [h] at hvisit
      rw [visitAll_cons_of_ok h, visitAll_cons_of_ok hvisit, ih]

/-- What an executor leaves does not depend on the date. -/
theorem leftBy_undated {α : Type} (l : Lookup) (a : Answer α) :
    l.undated.leftBy a = (l.leftBy a).undated :=
  congrArg Lookup.status (visitAll_undated a.visits l)

end Lookup

end NestedWorkflow
