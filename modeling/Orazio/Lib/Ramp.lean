import Mathlib.Algebra.Order.Group.MinMax
import Mathlib.Order.Interval.Set.UnorderedInterval

/-!
# Ramps

A ramp takes a value towards its target, no further than a given rate in one step, and keeps it within a
symmetric limit.
-/

namespace Ramp

variable {K : Type*} [AddCommGroup K] [LinearOrder K]

/-- The number between `-limit` and `limit` that is nearest to `x`. -/
def clamp (limit x : K) : K :=
  max (-limit) (min limit x)

/-- The next value on the way from `value` to `target`. -/
def step (limit rate value target : K) : K :=
  clamp limit (value + clamp rate (target - value))

lemma monotone_clamp (limit : K) : Monotone (clamp limit) := by
  intro x y hle
  exact max_le_max_left (-limit) (min_le_min_left limit hle)

variable [IsOrderedAddMonoid K] {limit rate x value target : K}

lemma clamp_eq_ite (hlimit : 0 ≤ limit) (x : K) :
    clamp limit x = if limit < x then limit else if x < -limit then -limit else x := by
  have hle : -limit ≤ limit := neg_le_self hlimit
  unfold clamp
  split
  · next hhigh => rw [min_eq_left hhigh.le, max_eq_right hle]
  · next hhigh =>
    rw [min_eq_right (not_lt.mp hhigh)]
    split
    · next hlow => exact max_eq_left hlow.le
    · next hlow => exact max_eq_right (not_lt.mp hlow)

lemma abs_clamp_le (hlimit : 0 ≤ limit) (x : K) : |clamp limit x| ≤ limit := by
  rw [abs_le]
  exact ⟨le_max_left _ _, max_le (neg_le_self hlimit) (min_le_left _ _)⟩

lemma clamp_of_abs_le (hx : |x| ≤ limit) : clamp limit x = x := by
  rw [abs_le] at hx
  rw [clamp, min_eq_right hx.2, max_eq_right hx.1]

/-- A clamp brings no two numbers further apart. -/
lemma abs_clamp_sub_clamp_le (limit x y : K) : |clamp limit x - clamp limit y| ≤ |x - y| := by
  have hmax := abs_max_sub_max_le_max (-limit) (min limit x) (-limit) (min limit y)
  have hmin := abs_min_sub_min_le_max limit x limit y
  rw [sub_self, abs_zero, max_eq_right (abs_nonneg (min limit x - min limit y))] at hmax
  rw [sub_self, abs_zero, max_eq_right (abs_nonneg (x - y))] at hmin
  exact hmax.trans hmin

lemma clamp_mem_uIcc (hlimit : 0 ≤ limit) (x : K) : clamp limit x ∈ Set.uIcc 0 x := by
  rcases le_total 0 x with hx | hx
  · apply Set.mem_uIcc_of_le
    · exact (le_min hlimit hx).trans (le_max_right _ _)
    · exact max_le ((neg_nonpos.mpr hlimit).trans hx) (min_le_right _ _)
  · apply Set.mem_uIcc_of_ge
    · exact (le_min (hx.trans hlimit) le_rfl).trans (le_max_right _ _)
    · exact max_le (neg_nonpos.mpr hlimit) ((min_le_right _ _).trans hx)

lemma abs_clamp (hlimit : 0 ≤ limit) (x : K) : |clamp limit x| = min limit |x| := by
  rcases le_total |x| limit with hx | hx
  · rw [clamp_of_abs_le hx, min_eq_right hx]
  · apply le_antisymm
    · rw [min_eq_left hx]
      exact abs_clamp_le hlimit x
    · rw [min_eq_left hx]
      rcases le_abs'.mp hx with hlow | hhigh
      · rw [clamp, max_eq_left ((min_le_right _ _).trans hlow), abs_neg]
        exact le_abs_self limit
      · rw [clamp, min_eq_left hhigh]
        exact (le_max_right _ _).trans (le_abs_self _)

/-! ### One step of a ramp -/

theorem abs_step_le (hlimit : 0 ≤ limit) (rate value target : K) : |step limit rate value target| ≤ limit :=
  abs_clamp_le hlimit _

/-- Without the limit, a step stays between value and target. -/
lemma add_clamp_mem_uIcc (hrate : 0 ≤ rate) (value target : K) :
    value + clamp rate (target - value) ∈ Set.uIcc value target := by
  have hmem := clamp_mem_uIcc hrate (target - value)
  have hmono : Monotone (value + ·) := fun _ _ hle => add_le_add_right hle value
  have hsum := hmono.mapsTo_uIcc hmem
  simpa using hsum

/-- A step from a value within the limit stays between the value and the clamped target. -/
theorem step_mem_uIcc (hrate : 0 ≤ rate) (hvalue : |value| ≤ limit) (target : K) :
    step limit rate value target ∈ Set.uIcc value (clamp limit target) := by
  have hmem := (monotone_clamp limit).mapsTo_uIcc (add_clamp_mem_uIcc hrate value target)
  rw [clamp_of_abs_le hvalue] at hmem
  exact hmem

/-- A step from a value within the limit goes no further than the rate. -/
theorem abs_step_sub_le (hrate : 0 ≤ rate) (hvalue : |value| ≤ limit) (target : K) :
    |step limit rate value target - value| ≤ rate := by
  have hnear := abs_clamp_sub_clamp_le limit (value + clamp rate (target - value)) value
  rw [clamp_of_abs_le hvalue, add_sub_cancel_left] at hnear
  exact hnear.trans (abs_clamp_le hrate _)

/-- A step towards zero goes as far as the rate allows. -/
theorem abs_step_zero_sub (hrate : 0 ≤ rate) (hvalue : |value| ≤ limit) :
    |step limit rate value 0 - value| = min rate |value| := by
  have hmem := add_clamp_mem_uIcc hrate value 0
  have hwithin : |value + clamp rate (0 - value)| ≤ limit := by
    have hzero : (0 : K) ∈ Set.Icc (-|value|) |value| := abs_le.mp (abs_zero.trans_le (abs_nonneg value))
    have hsubset := Set.uIcc_subset_Icc (abs_le.mp (le_refl |value|)) hzero
    exact (abs_le.mpr (hsubset hmem)).trans hvalue
  rw [step, clamp_of_abs_le hwithin, add_sub_cancel_left, zero_sub, abs_clamp hrate, abs_neg]

end Ramp
