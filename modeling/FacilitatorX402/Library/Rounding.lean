import Mathlib.Algebra.BigOperators.Group.List.Basic
import Mathlib.Algebra.Order.Group.Int
import Mathlib.Algebra.Order.BigOperators.Group.List
import Mathlib.Algebra.Ring.Int.Defs
import Mathlib.Tactic.Ring

/-!
# Rounded shares

A share of an amount, in parts of a denominator, in division that truncates. What matters about it are
two things: it grows no faster than the amount, and a split amount loses at most one unit for each cut.
Both survive composition, so a share of a share loses at most two.
-/

namespace Rounding

/-- Monotone, and growing no faster than its argument. -/
structure Contraction (f : Int → Int) : Prop where
  mono : ∀ a b, a ≤ b → f a ≤ f b
  slope : ∀ a b, a ≤ b → f b - f a ≤ b - a

/-- On amounts, a sum is worth no less than its parts, and at most `slack` more. -/
structure Splits (slack : Int) (f : Int → Int) : Prop where
  nonneg : ∀ a, 0 ≤ a → 0 ≤ f a
  le_add : ∀ a b, 0 ≤ a → 0 ≤ b → f a + f b ≤ f (a + b)
  add_le : ∀ a b, 0 ≤ a → 0 ≤ b → f (a + b) ≤ f a + f b + slack

section Compose

variable {f g : Int → Int} {j k : Int}

theorem Contraction.comp (hg : Contraction g) (hf : Contraction f) : Contraction (g ∘ f) where
  mono a b hle := hg.mono _ _ (hf.mono a b hle)
  slope a b hle := (hg.slope _ _ (hf.mono a b hle)).trans (hf.slope a b hle)

theorem Contraction.rest_mono (hf : Contraction f) {a b : Int} (hle : a ≤ b) : a - f a ≤ b - f b := by
  have hslope := hf.slope a b hle
  omega

/-- The slack of the inner share reaches the outer one at most undiminished. -/
theorem Splits.comp (hg : Splits j g) (hcontract : Contraction g) (hf : Splits k f) :
    Splits (j + k) (g ∘ f) where
  nonneg a ha := hg.nonneg _ (hf.nonneg a ha)
  le_add a b ha hb := by
    calc g (f a) + g (f b) ≤ g (f a + f b) := hg.le_add _ _ (hf.nonneg a ha) (hf.nonneg b hb)
      _ ≤ g (f (a + b)) := hcontract.mono _ _ (hf.le_add a b ha hb)
  add_le a b ha hb := by
    have hinner := hf.add_le a b ha hb
    have hslope := hcontract.slope _ _ (hf.le_add a b ha hb)
    have houter := hg.add_le _ _ (hf.nonneg a ha) (hf.nonneg b hb)
    change g (f (a + b)) ≤ g (f a) + g (f b) + (j + k)
    omega

/-- Every cut of an amount costs at most the slack. -/
theorem Splits.sum (h : Splits k f) {amounts : List Int} (hne : amounts ≠ [])
    (hamounts : ∀ amount ∈ amounts, 0 ≤ amount) :
    (amounts.map f).sum ≤ f amounts.sum ∧
      f amounts.sum ≤ (amounts.map f).sum + k * (amounts.length - 1) := by
  induction amounts with
  | nil => exact absurd rfl hne
  | cons amount rest ih =>
      rcases eq_or_ne rest [] with rfl | hrest
      · simp
      · have hamount := hamounts amount List.mem_cons_self
        have hothers : ∀ other ∈ rest, 0 ≤ other := fun other hmem =>
          hamounts other (List.mem_cons_of_mem _ hmem)
        have hsum : 0 ≤ rest.sum := List.sum_nonneg hothers
        obtain ⟨hlow, hhigh⟩ := ih hrest hothers
        have hle := h.le_add amount rest.sum hamount hsum
        have hge := h.add_le amount rest.sum hamount hsum
        rw [List.map_cons, List.sum_cons, List.sum_cons, List.length_cons]
        have hslack : k * (((rest.length + 1 : Nat) : Int) - 1) = k * (rest.length - 1) + k := by
          push_cast
          ring
        rw [hslack]
        omega

end Compose

/-! ### Shares in parts of a denominator -/

/-- `amount * rate / denominator` of big integers. -/
def share (denominator rate amount : Int) : Int := (amount * rate).tdiv denominator

section Share

variable {denominator rate : Int}

theorem share_eq_ediv (hrate : 0 ≤ rate) {amount : Int} (hamount : 0 ≤ amount) :
    share denominator rate amount = amount * rate / denominator :=
  Int.tdiv_eq_ediv_of_nonneg (Int.mul_nonneg hamount hrate)

theorem share_nonneg (hden : 0 < denominator) (hrate : 0 ≤ rate) {amount : Int}
    (hamount : 0 ≤ amount) : 0 ≤ share denominator rate amount :=
  Int.tdiv_nonneg (Int.mul_nonneg hamount hrate) hden.le

theorem share_neg (amount : Int) : share denominator rate (-amount) = -share denominator rate amount := by
  rw [share, share, Int.neg_mul, Int.neg_tdiv]

theorem share_of_le (hden : 0 < denominator) (hrate : 0 ≤ rate) (hmost : rate ≤ denominator)
    {a b : Int} (ha : 0 ≤ a) (hle : a ≤ b) :
    share denominator rate a ≤ share denominator rate b ∧
      share denominator rate b - share denominator rate a ≤ b - a := by
  rw [share_eq_ediv hrate ha, share_eq_ediv hrate (ha.trans hle)]
  have hmul : a * rate ≤ b * rate := Int.mul_le_mul_of_nonneg_right hle hrate
  refine ⟨Int.ediv_le_ediv hden hmul, ?_⟩
  have hgap : b * rate ≤ a * rate + (b - a) * denominator := by
    have hstep : (b - a) * rate ≤ (b - a) * denominator :=
      Int.mul_le_mul_of_nonneg_left hmost (by omega)
    rw [Int.sub_mul] at hstep
    omega
  have hdiv : b * rate / denominator ≤ a * rate / denominator + (b - a) := by
    calc b * rate / denominator ≤ (a * rate + (b - a) * denominator) / denominator :=
          Int.ediv_le_ediv hden hgap
      _ = a * rate / denominator + (b - a) := Int.add_mul_ediv_right _ _ hden.ne'
  omega

/-- A share grows no faster than its amount, on either side of zero. -/
theorem contraction_share (hden : 0 < denominator) (hrate : 0 ≤ rate) (hmost : rate ≤ denominator) :
    Contraction (share denominator rate) := by
  have hboth : ∀ a b, a ≤ b → share denominator rate a ≤ share denominator rate b ∧
      share denominator rate b - share denominator rate a ≤ b - a := by
    intro a b hle
    rcases le_total 0 a with ha | ha
    · exact share_of_le hden hrate hmost ha hle
    · have hnegA := share_of_le hden hrate hmost le_rfl (show 0 ≤ -a by omega)
      rw [share_neg] at hnegA
      have hzero : share denominator rate 0 = 0 := by simp [share]
      rw [hzero] at hnegA
      rcases le_total 0 b with hb | hb
      · have hposB := share_of_le hden hrate hmost le_rfl hb
        rw [hzero] at hposB
        omega
      · have hneg := share_of_le hden hrate hmost (show 0 ≤ -b by omega) (show -b ≤ -a by omega)
        rw [share_neg, share_neg] at hneg
        omega
  exact ⟨fun a b hle => (hboth a b hle).1, fun a b hle => (hboth a b hle).2⟩

/-- One cut costs at most one unit. -/
theorem splits_share (hden : 0 < denominator) (hrate : 0 ≤ rate) :
    Splits 1 (share denominator rate) := by
  have hfloor : ∀ a b, 0 ≤ a → 0 ≤ b →
      share denominator rate a + share denominator rate b ≤ share denominator rate (a + b) ∧
      share denominator rate (a + b) ≤ share denominator rate a + share denominator rate b + 1 := by
    intro a b ha hb
    rw [share_eq_ediv hrate ha, share_eq_ediv hrate hb, share_eq_ediv hrate (Int.add_nonneg ha hb),
      Int.add_mul, Int.add_ediv hden.ne', Int.sign_eq_one_of_pos hden]
    split <;> omega
  exact ⟨fun a ha => share_nonneg hden hrate ha, fun a b ha hb => (hfloor a b ha hb).1,
    fun a b ha hb => (hfloor a b ha hb).2⟩

end Share

end Rounding
