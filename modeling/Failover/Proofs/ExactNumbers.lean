import Mathlib.Algebra.Order.Field.Rat
import Failover.Number.Scalar

-- Exact numbers. Over the rationals the formulas of the scores are free of
-- rounding: what is floored at zero is a maximum, and what is cut to the unit
-- interval lies in it.

namespace Failover.Scalar

@[simp] theorem zero_rat : (zero : Rat) = 0 := rfl

@[simp] theorem one_rat : (one : Rat) = 1 := rfl

theorem ofInt_rat (i : Int) : (ofInt i : Rat) = i := rfl

/-! ## Floors -/

theorem positivePart_rat (x : Rat) : positivePart x = max 0 x := by
  unfold positivePart
  rw [zero_rat]
  split
  · rename_i hpos
    exact (max_eq_right (le_of_lt hpos)).symm
  · rename_i hneg
    exact (max_eq_left (not_lt.mp hneg)).symm

theorem positivePart_nonneg (x : Rat) : 0 ≤ positivePart x := by
  rw [positivePart_rat]
  exact le_max_left 0 x

theorem positivePart_mono {x y : Rat} (h : x ≤ y) : positivePart x ≤ positivePart y := by
  rw [positivePart_rat, positivePart_rat]
  exact max_le_max_left 0 h

/-! ## The unit interval -/

theorem clampUnit_rat (x : Rat) : clampUnit x = max 0 (min 1 x) := by
  unfold clampUnit
  rw [zero_rat, one_rat]
  split
  · rename_i hneg
    exact (max_eq_left ((min_le_right 1 x).trans (le_of_lt hneg))).symm
  · rename_i hpos
    have hx : 0 ≤ x := not_lt.mp hpos
    split
    · rename_i hlarge
      rw [min_eq_left (le_of_lt hlarge)]
      exact (max_eq_right zero_le_one).symm
    · rename_i hsmall
      rw [min_eq_right (not_lt.mp hsmall), max_eq_right hx]

theorem clampUnit_nonneg (x : Rat) : 0 ≤ clampUnit x := by
  rw [clampUnit_rat]
  exact le_max_left 0 _

theorem clampUnit_mono {x y : Rat} (h : x ≤ y) : clampUnit x ≤ clampUnit y := by
  rw [clampUnit_rat, clampUnit_rat]
  exact max_le_max_left 0 (min_le_min_left 1 h)

/-- A bound that the unit interval reaches is passed by a value just when it is
passed by what is left of it in the interval. -/
theorem le_clampUnit_iff {bound x : Rat} (h0 : 0 < bound) (h1 : bound ≤ 1) :
    bound ≤ clampUnit x ↔ bound ≤ x := by
  rw [clampUnit_rat, le_max_iff, le_min_iff]
  constructor
  · rintro (hzero | ⟨_, hx⟩)
    · exact absurd h0 (not_lt.mpr hzero)
    · exact hx
  · exact fun hx => Or.inr ⟨h1, hx⟩

/-! ## Powers of a part of one -/

variable {x : Rat}

theorem power_nonneg (h0 : 0 ≤ x) (n : Nat) : 0 ≤ power x n := by
  induction n with
  | zero => exact zero_le_one
  | succ n ih => exact mul_nonneg ih h0

theorem power_succ_le (h0 : 0 ≤ x) (h1 : x ≤ 1) (n : Nat) : power x (n + 1) ≤ power x n :=
  mul_le_of_le_one_right (power_nonneg h0 n) h1

/-- The more often it is multiplied by, the less is left. -/
theorem power_anti (h0 : 0 ≤ x) (h1 : x ≤ 1) {m n : Nat} (h : m ≤ n) : power x n ≤ power x m := by
  induction h with
  | refl => exact le_rfl
  | step _ ih => exact (power_succ_le h0 h1 _).trans ih

end Failover.Scalar
