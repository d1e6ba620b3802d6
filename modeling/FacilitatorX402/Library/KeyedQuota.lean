import Mathlib.Data.List.Basic
import Mathlib.Tactic.Common

/-!
# A quota of each key

Of a sequence of keys, newest first, each is taken while fewer than so many of the same key have come
before it. One key takes no more than its quota, and two keys together take more whenever there is more
to take.
-/

namespace KeyedQuota

variable {κ : Type} [DecidableEq κ]

/-- How many keys are taken. -/
def taken (quota : Nat) : List κ → Nat
  | [] => 0
  | key :: earlier => taken quota earlier + if earlier.count key < quota then 1 else 0

variable {quota : Nat} {keys : List κ}

theorem taken_le_length : taken quota keys ≤ keys.length := by
  induction keys with
  | nil => exact Nat.le_refl 0
  | cons key earlier ih =>
      simp only [taken, List.length_cons]
      split_ifs <;> omega

theorem taken_zero : taken 0 keys = 0 := by
  induction keys with
  | nil => rfl
  | cons key earlier ih => simp [taken, ih]

theorem taken_le_of_same {key : κ} (h : ∀ k ∈ keys, k = key) : taken quota keys ≤ quota := by
  induction keys with
  | nil => exact Nat.zero_le _
  | cons newest earlier ih =>
      obtain rfl := h newest List.mem_cons_self
      have hrest : ∀ k ∈ earlier, k = newest := fun k hk => h k (List.mem_cons_of_mem newest hk)
      have hcount : earlier.count newest = earlier.length :=
        List.count_eq_length.mpr fun k hk => (hrest k hk).symm
      have hearlier := @taken_le_length κ _ quota earlier
      simp only [taken]
      split_ifs with hfew
      · omega
      · exact ih hrest

/-- The quota is used up whenever there is enough. -/
theorem min_le_taken : min keys.length quota ≤ taken quota keys := by
  induction keys with
  | nil => simp
  | cons key earlier ih =>
      have hcount : earlier.count key ≤ earlier.length := List.count_le_length
      simp only [taken, List.length_cons]
      split_ifs <;> omega

/-- Two keys that occur do not fill a list each. -/
theorem count_lt_length {key other : κ} (hother : other ∈ keys) (hne : other ≠ key) :
    keys.count key < keys.length := by
  refine Nat.lt_of_le_of_ne List.count_le_length fun hall => hne ?_
  exact (List.count_eq_length.mp hall other hother).symm

/-- Two keys take more than one quota. -/
theorem lt_taken (hquota : 1 ≤ quota) {key other : κ} (hkey : key ∈ keys) (hother : other ∈ keys)
    (hne : other ≠ key) : min keys.length (quota + 1) ≤ taken quota keys := by
  induction keys generalizing key other with
  | nil => cases hkey
  | cons newest earlier ih =>
      have hmin := @min_le_taken κ _ quota earlier
      simp only [taken, List.length_cons]
      split_ifs with hfew
      · omega
      · -- the newest key has come before, and so has one of the others
        have hcount : quota ≤ earlier.count newest := Nat.le_of_not_lt hfew
        have hnewest : newest ∈ earlier := List.count_pos_iff.mp (by omega)
        obtain ⟨different, hdifferent, hdiffers⟩ : ∃ k ∈ earlier, k ≠ newest := by
          rcases List.mem_cons.mp hkey with rfl | hkey'
          · exact ⟨other, (List.mem_cons.mp hother).resolve_left hne, hne⟩
          · rcases List.mem_cons.mp hother with rfl | hother
            · exact ⟨key, hkey', hne.symm⟩
            · by_cases hsame : key = newest
              · exact ⟨other, hother, fun h => hne (h.trans hsame.symm)⟩
              · exact ⟨key, hkey', hsame⟩
        have htaken := ih hnewest hdifferent hdiffers
        have hlength := count_lt_length hdifferent hdiffers
        omega

/-- No more than the quota is taken, exactly when there is no quota, no more to take, or one key. -/
theorem taken_le_iff : taken quota keys ≤ quota ↔
    quota = 0 ∨ keys.length ≤ quota ∨ ∀ key ∈ keys, ∀ other ∈ keys, other = key := by
  constructor
  · intro hle
    by_contra hnot
    simp only [not_or, not_forall] at hnot
    obtain ⟨hquota, hlength, key, hkey, other, hother, hne⟩ := hnot
    have htaken := @lt_taken κ _ quota keys (by omega) key other hkey hother hne
    omega
  · rintro (rfl | hlength | hsame)
    · exact Nat.le_of_eq taken_zero
    · exact Nat.le_trans taken_le_length hlength
    · cases hkeys : keys with
      | nil => exact Nat.zero_le _
      | cons key earlier =>
          rw [← hkeys]
          exact taken_le_of_same fun k hk => hsame key (by simp [hkeys]) k hk

end KeyedQuota
