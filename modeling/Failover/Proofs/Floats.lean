import Mathlib.Data.Prod.Lex
import Mathlib.Order.Compare

-- Floats in order. Every float that is a number has a place on one line, the
-- two zeros the same one, and it is less than another when its place is lower.
-- One that is no number has no place: it is not even zero or less.

namespace Failover

open Float.Model (UnpackedFloat)

/-- The place of a float: by sign and kind, then by exponent, then by
mantissa. On the negative side the larger magnitude stands lower. -/
def placeOf : UnpackedFloat → Int ×ₗ Int ×ₗ Int
  | .infinity .negative => toLex (-2, toLex (0, 0))
  | .finite .negative mantissa exponent _ => toLex (-1, toLex (-exponent, -mantissa))
  | .zero _ | .notANumber => toLex (0, toLex (0, 0))
  | .finite .positive mantissa exponent _ => toLex (1, toLex (exponent, mantissa))
  | .infinity .positive => toLex (2, toLex (0, 0))

theorem compare_then_eq_lt {e e' : Int} {m m' : Nat} :
    ((compare e e').then (compare m m')) = .lt ↔ e < e' ∨ e = e' ∧ m < m' := by
  rw [Ordering.then_eq_lt, compare_lt_iff_lt, compare_eq_iff_eq, compare_lt_iff_lt]

theorem compare_then_eq_gt {e e' : Int} {m m' : Nat} :
    ((compare e e').then (compare m m')) = .gt ↔ e' < e ∨ e = e' ∧ m' < m := by
  rw [Ordering.then_eq_gt, compare_gt_iff_gt, compare_eq_iff_eq, compare_gt_iff_gt]

/-- The comparison of two numbers goes by the sign first. Two that are finite
and of one sign are compared by exponent and mantissa. -/
theorem unpacked_lt_iff {x y : UnpackedFloat} (hx : x.isNaN = false)
    (hy : y.isNaN = false) : x.lt y = true ↔ placeOf x < placeOf y := by
  unfold Float.Model.UnpackedFloat.lt
  rw [beq_iff_eq]
  cases x with
  | notANumber => cases hx
  | infinity s | zero s =>
    cases y with
    | notANumber => cases hy
    | infinity s' | zero s' => cases s <;> cases s' <;> decide
    | finite s' m' e' =>
      cases s <;> cases s' <;> dsimp only [Float.Model.UnpackedFloat.compare, placeOf] <;>
        simp [Prod.Lex.toLex_lt_toLex]
  | finite s m e =>
    cases y with
    | notANumber => cases hy
    | infinity s' | zero s' =>
      cases s <;> cases s' <;> dsimp only [Float.Model.UnpackedFloat.compare, placeOf] <;>
        simp [Prod.Lex.toLex_lt_toLex]
    | finite s' m' e' =>
      cases s <;> cases s' <;> dsimp only [Float.Model.UnpackedFloat.compare, placeOf] <;>
        simp [Prod.Lex.toLex_lt_toLex, compare_then_eq_lt, compare_then_eq_gt, Ordering.swap_eq_lt]

theorem float_lt_iff_unpacked {x y : Float} :
    x < y ↔ x.toModel.unpack.lt y.toModel.unpack = true := decide_eq_true_iff

theorem float_le_iff_unpacked {x y : Float} :
    x ≤ y ↔ x.toModel.unpack.le y.toModel.unpack = true := decide_eq_true_iff

theorem float_lt_iff {x y : Float} (hx : x.isNaN = false) (hy : y.isNaN = false) :
    x < y ↔ placeOf x.toModel.unpack < placeOf y.toModel.unpack := by
  rw [float_lt_iff_unpacked]
  exact unpacked_lt_iff hx hy

theorem float_not_lt_iff {x y : Float} (hx : x.isNaN = false) (hy : y.isNaN = false) :
    ¬ x < y ↔ placeOf y.toModel.unpack ≤ placeOf x.toModel.unpack := by
  rw [float_lt_iff hx hy, not_lt]

/-- Compared the other way round, two floats come out the other way round. -/
theorem unpacked_compare_swap (x y : UnpackedFloat) :
    y.compare x = (x.compare y).map Ordering.swap := by
  cases x with
  | notANumber => cases y <;> rfl
  | infinity s | zero s =>
    cases y with
    | notANumber => rfl
    | infinity s' | zero s' | finite s' => cases s <;> cases s' <;> rfl
  | finite s m e =>
    cases y with
    | notANumber => rfl
    | infinity s' | zero s' => cases s <;> cases s' <;> rfl
    | finite s' m' e' =>
      cases s <;> cases s' <;> dsimp only [Float.Model.UnpackedFloat.compare] <;>
        simp [Ordering.swap_then, ← Int.compare_swap e e', ← Nat.compare_swap m m']

/-- Two numbers always come out somehow. -/
theorem unpacked_compare_isSome {x y : UnpackedFloat} (hx : x.isNaN = false)
    (hy : y.isNaN = false) : (x.compare y).isSome = true := by
  cases x with
  | notANumber => cases hx
  | infinity s | zero s | finite s =>
    cases y with
    | notANumber => cases hy
    | infinity s' | zero s' | finite s' => cases s <;> cases s' <;> rfl

theorem float_not_le_iff {x y : Float} (hx : x.isNaN = false) (hy : y.isNaN = false) :
    ¬ x ≤ y ↔ y < x := by
  obtain ⟨o, ho⟩ := Option.isSome_iff_exists.mp
    (show (x.toModel.unpack.compare y.toModel.unpack).isSome = true from
      unpacked_compare_isSome hx hy)
  rw [float_le_iff_unpacked, float_lt_iff_unpacked]
  unfold Float.Model.UnpackedFloat.le Float.Model.UnpackedFloat.lt
  rw [unpacked_compare_swap x.toModel.unpack, ho]
  cases o <;> decide

theorem isNaN_of_isFinite {x : Float} (h : x.isFinite = true) : x.isNaN = false := by
  replace h : x.toModel.unpack.isFinite = true := h
  change x.toModel.unpack.isNaN = false
  cases hx : x.toModel.unpack with
  | notANumber =>
    rw [hx] at h
    cases h
  | infinity s | zero s | finite s => rfl

/-! ## Zero -/

theorem unpack_zero : (0.0 : Float).toModel.unpack = .zero .positive := rfl

/-- What is not zero or less is positive, or no number. -/
theorem float_not_le_zero_iff {x : Float} : ¬ x ≤ 0.0 ↔ 0.0 < x ∨ x.isNaN = true := by
  rw [float_le_iff_unpacked, float_lt_iff_unpacked, unpack_zero]
  change _ ↔ _ ∨ x.toModel.unpack.isNaN = true
  cases x.toModel.unpack with
  | notANumber => decide
  | zero s => cases s <;> decide
  | infinity s | finite s =>
    cases s with
    | positive => exact iff_of_true nofun (Or.inl rfl)
    | negative => exact iff_of_false (fun hle => hle rfl) (by rintro (h | h) <;> cases h)

theorem isNaN_of_pos {x : Float} (h : 0.0 < x) : x.isNaN = false := by
  rw [float_lt_iff_unpacked, unpack_zero] at h
  change x.toModel.unpack.isNaN = false
  cases hx : x.toModel.unpack with
  | notANumber =>
    rw [hx] at h
    cases h
  | infinity s | zero s | finite s => rfl

theorem float_not_lt_zero_iff {x : Float} (h : x.isFinite = true) : ¬ x < 0.0 ↔ 0.0 ≤ x := by
  rw [← float_not_le_iff rfl (isNaN_of_isFinite h), not_not]

theorem zero_div_of_pos {x : Float} (h : 0.0 < x) : 0.0 / x = 0.0 := by
  rw [float_lt_iff_unpacked, unpack_zero] at h
  change Float.ofModel (.pack (.div .binary64 (0.0 : Float).toModel.unpack x.toModel.unpack)) = _
  rw [unpack_zero]
  cases hx : x.toModel.unpack with
  | notANumber | zero s =>
    rw [hx] at h
    cases h
  | infinity s | finite s =>
    cases s with
    | positive => rfl
    | negative =>
      rw [hx] at h
      cases h

theorem zero_div_of_isNaN {x : Float} (h : x.isNaN = true) : 0.0 / x = 0.0 / 0.0 := by
  replace h : x.toModel.unpack.isNaN = true := h
  change Float.ofModel (.pack (.div .binary64 (0.0 : Float).toModel.unpack x.toModel.unpack)) = _
  rw [unpack_zero]
  cases hx : x.toModel.unpack with
  | notANumber => rfl
  | infinity s | zero s | finite s =>
    rw [hx] at h
    cases h

end Failover
