import Mathlib.Algebra.Group.Nat.Defs
import Mathlib.Data.List.TakeWhile
import Mathlib.Tactic.Lemma
import NestedWorkflow.Decimal

/-!
# Digits as they are read back

What readers of numbers rely on: digits are digits, there is at least one, none of several is a
leading zero, and numbers of a fixed width have that width.  A run of digits ends where a text goes
on with anything else (`Decimal.takeWhile_append`, `Decimal.dropWhile_append`).
-/

namespace NestedWorkflow.Decimal

variable {n : Nat} {c : Char} {ds rest : List Char}

/-- There is a digit. -/
lemma digits_ne_nil (n : Nat) : digits n ≠ [] := by
  fun_induction digits n with
  | case1 n h => simp
  | case2 n h ih => simp

/-- All of them are digits. -/
lemma isDigit_of_mem_digits (h : c ∈ digits n) : isDigit c = true := by
  fun_induction digits n with
  | case1 n hn =>
    obtain rfl := List.mem_singleton.1 h
    exact isDigit_digit hn
  | case2 n hn ih =>
    rcases List.mem_append.1 h with hfront | hlast
    · exact ih hfront
    · obtain rfl := List.mem_singleton.1 hlast
      exact isDigit_digit (Nat.mod_lt _ (by decide))

/-- The digits determine the number. -/
lemma digits_inj {m n : Nat} : digits m = digits n ↔ m = n := by
  constructor
  · intro h
    have hvalue := congrArg value h
    rw [value_digits, value_digits] at hvalue
    exact hvalue
  · rintro rfl
    rfl

/-- Only zero has a zero in front. -/
lemma tail_eq_nil_of_digits_eq_zero (h : digits n = '0' :: rest) : rest = [] := by
  fun_induction digits n generalizing rest with
  | case1 n hn => exact (List.cons.inj h).2.symm
  | case2 n hn ih =>
    obtain ⟨d, ds, hds⟩ := List.exists_cons_of_ne_nil (digits_ne_nil (n / 10))
    rw [hds, List.cons_append] at h
    obtain rfl := (List.cons.inj h).1
    obtain rfl := ih hds
    -- a zero in front is all there is of the higher digits, but the number has some
    have hzero : n / 10 = 0 := by
      rw [← value_digits (n / 10), hds]
      rfl
    omega

/-- A number below a power of ten has no more digits than the power. -/
lemma length_digits_le {width : Nat} (hwidth : 0 < width) (h : n < 10 ^ width) :
    (digits n).length ≤ width := by
  induction width generalizing n with
  | zero => omega
  | succ width ih =>
    rw [digits]
    split
    · exact hwidth
    · rename_i hn
      have hhigh : n / 10 < 10 ^ width := by
        rw [Nat.div_lt_iff_lt_mul (by decide), ← Nat.pow_succ]
        exact h
      have hpos : 0 < width := by
        rcases Nat.eq_zero_or_pos width with rfl | hpos
        · rw [Nat.pow_zero] at hhigh
          omega
        · exact hpos
      rw [List.length_append, List.length_singleton]
      exact Nat.succ_le_succ (ih hpos hhigh)

/-! ### Leading zeros -/

/-- Leading zeros do not count. -/
lemma value_replicate_append (k : Nat) (ds : List Char) :
    value (List.replicate k '0' ++ ds) = value ds := by
  induction k with
  | zero => rfl
  | succ k ih => exact ih

/-- A number of a fixed width denotes the number. -/
@[simp] lemma value_padded (width n : Nat) : value (padded width n) = n := by
  rw [padded, value_replicate_append, value_digits]

/-- A number of a fixed width has that width. -/
lemma length_padded {width : Nat} (hwidth : 0 < width) (h : n < 10 ^ width) :
    (padded width n).length = width := by
  have hle := length_digits_le hwidth h
  rw [padded, List.length_append, List.length_replicate]
  omega

/-- A number of a fixed width consists of digits. -/
lemma isDigit_of_mem_padded {width : Nat} (h : c ∈ padded width n) : isDigit c = true := by
  rcases List.mem_append.1 h with hzero | hdigit
  · obtain rfl := List.eq_of_mem_replicate hzero
    rfl
  · exact isDigit_of_mem_digits hdigit

/-! ### Runs of digits -/

/-- A run of digits in front of anything else is taken as a whole. -/
lemma takeWhile_append (hds : ∀ c ∈ ds, isDigit c = true)
    (hrest : ∀ c ∈ rest.head?, isDigit c = false) : (ds ++ rest).takeWhile isDigit = ds := by
  rw [List.takeWhile_append_of_pos hds]
  cases rest with
  | nil => simp
  | cons c rest => simp [hrest c rfl]

/-- What stands behind a run of digits is left. -/
lemma dropWhile_append (hds : ∀ c ∈ ds, isDigit c = true)
    (hrest : ∀ c ∈ rest.head?, isDigit c = false) : (ds ++ rest).dropWhile isDigit = rest := by
  rw [List.dropWhile_append_of_pos hds]
  cases rest with
  | nil => rfl
  | cons c rest => simp [hrest c rfl]

end NestedWorkflow.Decimal
