import Mathlib.Tactic.Lemma
import NestedWorkflow.Tick.Collaborators

/-!
# What an executor can change

An executor changes statuses by visits.  This file shows what is out of its hands: what the
enclosing status says of its own node stays as it is, whatever the visits do (`Lookup.own_leftBy`),
and no child is ever lost (`Lookup.isSome_child?_leftBy`).
-/

namespace NestedWorkflow

namespace Lookup

/-- The status that an executor leaves with its visits. -/
def leftBy {α : Type} (l : Lookup) (a : Answer α) : Status := (l.visitAll a.visits).status

/-- A visit puts one child in. -/
lemma exists_withChild_of_visit {l l' : Lookup} {id : NodeId} {edit : Status → Status}
    (h : l.visit id edit = .ok l') : ∃ c, l'.status = l.status.withChild id c := by
  unfold visit at h
  cases hentry : l.entry id with
  | error e => simp [hentry, Except.map] at h
  | ok c =>
    simp only [hentry, Except.map, Except.ok.injEq] at h
    subst h
    exact ⟨edit c, rfl⟩

/-- A visit that reaches its node is made before the others. -/
lemma visitAll_cons_of_ok {l l' : Lookup} {v : Visit} (h : l.visit v.node v.edit = .ok l')
    (rest : List Visit) : l.visitAll (v :: rest) = l'.visitAll rest := by
  simp [visitAll, h]

/-- A visit that does not reach its node is left out. -/
lemma visitAll_cons_of_error {l : Lookup} {v : Visit} {e : LookupError}
    (h : l.visit v.node v.edit = .error e) (rest : List Visit) :
    l.visitAll (v :: rest) = l.visitAll rest := by
  simp [visitAll, h]

/-- What putting a child in does not break is not broken by visits. -/
lemma visitAll_invariant {I : Status → Prop} (hI : ∀ s id c, I s → I (s.withChild id c))
    (visits : List Visit) (l : Lookup) (h : I l.status) : I (l.visitAll visits).status := by
  induction visits generalizing l with
  | nil => exact h
  | cons v rest ih =>
    cases hvisit : l.visit v.node v.edit with
    | error e =>
      rw [visitAll_cons_of_error hvisit]
      exact ih l h
    | ok l' =>
      obtain ⟨c, hc⟩ := exists_withChild_of_visit hvisit
      rw [visitAll_cons_of_ok hvisit]
      exact ih l' (hc ▸ hI l.status v.node c h)

/-- An executor leaves the progress of the enclosing node as it is. -/
@[simp] theorem own_leftBy {α : Type} (l : Lookup) (a : Answer α) :
    (l.leftBy a).own = l.status.own :=
  visitAll_invariant (I := fun s => s.own = l.status.own) (fun _ _ _ h => h) a.visits l rfl

/-- An executor does not lose a child. -/
theorem isSome_child?_leftBy {α : Type} (l : Lookup) (a : Answer α) {node : NodeId}
    (h : (l.status.child? node).isSome) : ((l.leftBy a).child? node).isSome := by
  refine visitAll_invariant (I := fun s => (s.child? node).isSome) ?_ a.visits l h
  intro s id c hs
  rw [Status.child?_withChild]
  split
  · rfl
  · exact hs

end Lookup

end NestedWorkflow
