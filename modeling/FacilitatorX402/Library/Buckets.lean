import Mathlib.Algebra.BigOperators.Group.List.Basic
import Mathlib.Algebra.Ring.Int.Defs
import Mathlib.Tactic.Common

/-!
# Half-open buckets

Rows with a time, and buckets that begin at increasing times, each ending where the next begins. Every
row between the first time and the last is in one bucket, so a total over the buckets loses no row and
counts none twice.
-/

namespace Buckets

variable {α : Type} (value : α → Int) (time : α → Int)

/-- The total of the rows from one time until another. -/
def total (rows : List α) (first last : Int) : Int :=
  ((rows.filter fun row => first ≤ time row ∧ time row < last).map value).sum

theorem total_cons (row : α) (rows : List α) (first last : Int) :
    total value time (row :: rows) first last =
      (if first ≤ time row ∧ time row < last then value row else 0) +
        total value time rows first last := by
  by_cases h : first ≤ time row ∧ time row < last
  · rw [if_pos h, total, List.filter_cons_of_pos (by simpa using h)]
    rfl
  · rw [if_neg h, total, List.filter_cons_of_neg (by simpa using h), zero_add]
    rfl

theorem total_empty (rows : List α) (moment : Int) : total value time rows moment moment = 0 := by
  have hnone : rows.filter (fun row => moment ≤ time row ∧ time row < moment) = [] := by
    refine List.filter_eq_nil_iff.mpr fun row _ => ?_
    simp only [decide_eq_true_eq]
    omega
  rw [total, hnone]
  rfl

theorem total_append (rows : List α) {first middle last : Int} (hfirst : first ≤ middle)
    (hlast : middle ≤ last) :
    total value time rows first middle + total value time rows middle last =
      total value time rows first last := by
  induction rows with
  | nil => rfl
  | cons row rows ih =>
      have hrow : (if first ≤ time row ∧ time row < middle then value row else 0) +
          (if middle ≤ time row ∧ time row < last then value row else 0) =
            if first ≤ time row ∧ time row < last then value row else 0 := by
        split_ifs <;> omega
      rw [total_cons, total_cons, total_cons]
      omega

/-- The buckets of a range add up to the total of the range. -/
theorem sum_total (rows : List α) {start : Int → Int} (hmono : ∀ n m, n < m → start n < start m)
    (first : Int) (count : Nat) :
    ((List.range count).map fun n : Nat =>
        total value time rows (start (first + n)) (start (first + n + 1))).sum =
      total value time rows (start first) (start (first + count)) := by
  induction count with
  | zero => simp [total_empty]
  | succ count ih =>
      rw [List.range_succ, List.map_append, List.sum_append, ih, List.map_singleton,
        List.sum_singleton, total_append]
      · push_cast
        rw [add_assoc]
      · rcases Nat.eq_zero_or_pos count with rfl | hpos
        · simp
        · exact Int.le_of_lt (hmono first (first + count) (by omega))
      · exact Int.le_of_lt (hmono (first + count) (first + count + 1) (by omega))

/-- A range that holds every row loses none. -/
theorem total_eq_sum {rows : List α} {first last : Int}
    (h : ∀ row ∈ rows, first ≤ time row ∧ time row < last) :
    total value time rows first last = (rows.map value).sum := by
  rw [total, List.filter_eq_self.mpr fun row hrow => decide_eq_true (h row hrow)]

end Buckets
