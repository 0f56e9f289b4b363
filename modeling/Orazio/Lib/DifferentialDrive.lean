import Mathlib.Algebra.Order.Field.Basic
import Mathlib.Tactic.FieldSimp
import Mathlib.Tactic.Ring

/-!
# Differential drives

The motions of the two wheels of a differential drive, each in its own unit, and the motion of the base:
the length it travels and the angle it turns by. Each of the two motions determines the other.
-/

universe u

/-- A differential drive with the lengths of the units of its wheels, of either sign. -/
structure DifferentialDrive (K : Type u) [Field K] where
  leftUnit : K
  rightUnit : K
  baseline : K
  leftUnit_ne_zero : leftUnit ≠ 0
  rightUnit_ne_zero : rightUnit ≠ 0
  baseline_ne_zero : baseline ≠ 0

namespace DifferentialDrive

variable {K : Type u} [Field K] (c : DifferentialDrive K)

def travel (left right : K) : K :=
  (c.rightUnit * right + c.leftUnit * left) / (2 : ℤ)

def turn (left right : K) : K :=
  (c.rightUnit * right - c.leftUnit * left) / c.baseline

def leftWheel (travel turn : K) : K :=
  (travel - c.baseline * turn / (2 : ℤ)) / c.leftUnit

def rightWheel (travel turn : K) : K :=
  (travel + c.baseline * turn / (2 : ℤ)) / c.rightUnit

lemma rightUnit_mul_rightWheel (travel turn : K) :
    c.rightUnit * c.rightWheel travel turn = travel + c.baseline * turn / (2 : ℤ) :=
  mul_div_cancel₀ _ c.rightUnit_ne_zero

lemma leftUnit_mul_leftWheel (travel turn : K) :
    c.leftUnit * c.leftWheel travel turn = travel - c.baseline * turn / (2 : ℤ) :=
  mul_div_cancel₀ _ c.leftUnit_ne_zero

variable [LinearOrder K] [IsStrictOrderedRing K]

theorem travel_wheels (travel turn : K) :
    c.travel (c.leftWheel travel turn) (c.rightWheel travel turn) = travel := by
  rw [DifferentialDrive.travel, rightUnit_mul_rightWheel, leftUnit_mul_leftWheel]
  push_cast
  ring

theorem turn_wheels (travel turn : K) :
    c.turn (c.leftWheel travel turn) (c.rightWheel travel turn) = turn := by
  have hbaseline := c.baseline_ne_zero
  rw [DifferentialDrive.turn, rightUnit_mul_rightWheel, leftUnit_mul_leftWheel]
  push_cast
  field_simp
  ring

/-! ### Errors of the wheels -/

lemma abs_mul_sub_le (a : K) {x y e : K} (h : |x - y| ≤ e) : |a * x - a * y| ≤ |a| * e := by
  rw [← mul_sub, abs_mul]
  exact mul_le_mul_of_nonneg_left h (abs_nonneg a)

section

variable {left right left' right' e : K} (hleft : |left - left'| ≤ e) (hright : |right - right'| ≤ e)
include hleft hright

theorem abs_travel_sub_le :
    |c.travel left right - c.travel left' right'| ≤ (|c.leftUnit| + |c.rightUnit|) * e / 2 := by
  have hsplit : c.travel left right - c.travel left' right' =
      ((c.rightUnit * right - c.rightUnit * right') + (c.leftUnit * left - c.leftUnit * left')) / 2 := by
    unfold travel
    push_cast
    ring
  rw [hsplit, abs_div, abs_of_pos (zero_lt_two' K), add_comm, add_mul]
  apply div_le_div_of_nonneg_right _ zero_le_two
  exact (abs_add_le _ _).trans (add_le_add (abs_mul_sub_le _ hleft) (abs_mul_sub_le _ hright))

theorem abs_turn_sub_le :
    |c.turn left right - c.turn left' right'| ≤ (|c.leftUnit| + |c.rightUnit|) * e / |c.baseline| := by
  have hsplit : c.turn left right - c.turn left' right' =
      ((c.rightUnit * right - c.rightUnit * right') - (c.leftUnit * left - c.leftUnit * left')) /
        c.baseline := by
    unfold turn
    ring
  rw [hsplit, abs_div, abs_sub_comm, add_mul]
  apply div_le_div_of_nonneg_right _ (abs_nonneg _)
  exact (abs_sub _ _).trans (add_le_add (abs_mul_sub_le _ hleft) (abs_mul_sub_le _ hright))

end

/-! ### Velocities -/

section

variable {left right v w t e : K} (ht : 0 < t) (hleft : |left - c.leftWheel (v * t) (w * t)| ≤ e)
  (hright : |right - c.rightWheel (v * t) (w * t)| ≤ e)
include ht hleft hright

/-- Wheels that nearly turn as far as a velocity demands move the base with nearly this velocity. -/
theorem abs_travel_div_sub_le :
    |c.travel left right / t - v| ≤ (|c.leftUnit| + |c.rightUnit|) * e / (2 * t) := by
  have herror := c.abs_travel_sub_le hleft hright
  rw [travel_wheels] at herror
  have hsplit : c.travel left right / t - v = (c.travel left right - v * t) / t := by
    field_simp
  rw [hsplit, abs_div, abs_of_pos ht, ← div_div]
  exact div_le_div_of_nonneg_right herror ht.le

theorem abs_turn_div_sub_le :
    |c.turn left right / t - w| ≤ (|c.leftUnit| + |c.rightUnit|) * e / (|c.baseline| * t) := by
  have herror := c.abs_turn_sub_le hleft hright
  rw [turn_wheels] at herror
  have hsplit : c.turn left right / t - w = (c.turn left right - w * t) / t := by
    field_simp
  rw [hsplit, abs_div, abs_of_pos ht, ← div_div]
  exact div_le_div_of_nonneg_right herror ht.le

end

end DifferentialDrive
