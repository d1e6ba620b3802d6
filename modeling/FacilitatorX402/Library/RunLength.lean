import Mathlib.Data.List.TakeWhile

/-!
# Run lengths

Histories are lists with the newest entry first. A counter that is incremented by one kind of entry
and set back by every other holds the length of the newest run of that kind.
-/

namespace RunLength

variable {α : Type} (p : α → Bool)

/-- The number of newest entries that all satisfy `p`. -/
def run (past : List α) : Nat := (past.takeWhile p).length

/-- There are at least `n` entries, and the newest `n` of them satisfy `p`. -/
def LastAll (n : Nat) (past : List α) : Prop := n ≤ past.length ∧ ∀ entry ∈ past.take n, p entry

instance (n : Nat) (past : List α) : Decidable (LastAll p n past) :=
  inferInstanceAs (Decidable (_ ∧ _))

@[simp]
theorem run_nil : run p [] = 0 := rfl

variable {p} {entry : α} {past : List α}

@[simp]
theorem run_cons_of_pos (h : p entry) : run p (entry :: past) = run p past + 1 := by
  simp [run, h]

@[simp]
theorem run_cons_of_neg (h : ¬ p entry) : run p (entry :: past) = 0 := by
  simp [run, h]

/-- The counter has reached `n` exactly when the newest `n` entries are all of its kind. -/
theorem le_run_iff {n : Nat} : n ≤ run p past ↔ LastAll p n past := by
  induction past generalizing n with
  | nil => simp [LastAll]
  | cons entry past ih =>
      cases n with
      | zero => simp [LastAll]
      | succ n =>
          by_cases h : p entry
          · rw [run_cons_of_pos h, Nat.add_le_add_iff_right, ih]
            simp [LastAll, h]
          · rw [run_cons_of_neg h]
            simp [LastAll, h]

theorem run_eq_length (h : ∀ entry ∈ past, p entry) : run p past = past.length := by
  rw [run, List.takeWhile_eq_self_iff.mpr h]

end RunLength
