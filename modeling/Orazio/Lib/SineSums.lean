import Mathlib

/-!
# Partial sums of the sine and cosine series

For every real number the error of a partial sum is at most the first term that it leaves out.
-/

namespace SineSums

open Finset

/-! ### The sums -/

/-- The first `n` terms of the sine series. -/
noncomputable def sinSum (n : ℕ) (x : ℝ) : ℝ :=
  ∑ k ∈ range n, (-1) ^ k * (x ^ (2 * k + 1) / (2 * k + 1).factorial)

/-- The first `n` terms of the cosine series. -/
noncomputable def cosSum (n : ℕ) (x : ℝ) : ℝ :=
  ∑ k ∈ range n, (-1) ^ k * (x ^ (2 * k) / (2 * k).factorial)

lemma sinSum_neg (n : ℕ) (x : ℝ) : sinSum n (-x) = -sinSum n x := by
  unfold sinSum
  rw [← sum_neg_distrib]
  apply sum_congr rfl
  intro k _
  rw [Odd.neg_pow ⟨k, rfl⟩]
  ring

lemma cosSum_neg (n : ℕ) (x : ℝ) : cosSum n (-x) = cosSum n x := by
  unfold cosSum
  apply sum_congr rfl
  intro k _
  rw [Even.neg_pow (even_two_mul k)]

/-! ### Derivatives -/

lemma hasDerivAt_term (m : ℕ) (x : ℝ) :
    HasDerivAt (fun x : ℝ => x ^ (m + 1) / (m + 1).factorial) (x ^ m / m.factorial) x := by
  have hpow := (hasDerivAt_pow (m + 1) x).div_const ((m + 1).factorial : ℝ)
  apply hpow.congr_deriv
  rw [Nat.factorial_succ, Nat.add_sub_cancel]
  push_cast
  field_simp

lemma hasDerivAt_sinSum (n : ℕ) (x : ℝ) : HasDerivAt (sinSum n) (cosSum n x) x :=
  HasDerivAt.fun_sum fun k _ => (hasDerivAt_term (2 * k) x).const_mul ((-1 : ℝ) ^ k)

lemma hasDerivAt_cosSum (n : ℕ) (x : ℝ) : HasDerivAt (cosSum (n + 1)) (-sinSum n x) x := by
  have hsplit : cosSum (n + 1) = fun x : ℝ =>
      ∑ k ∈ range n, (-1) ^ (k + 1) * (x ^ (2 * k + 1 + 1) / (2 * k + 1 + 1).factorial) + 1 := by
    funext x
    rw [cosSum, sum_range_succ']
    simp [mul_add]
  rw [hsplit]
  apply HasDerivAt.congr_deriv (HasDerivAt.add_const 1 (HasDerivAt.fun_sum fun k _ =>
    (hasDerivAt_term (2 * k + 1) x).const_mul ((-1 : ℝ) ^ (k + 1))))
  rw [sinSum, ← sum_neg_distrib]
  apply sum_congr rfl
  intro k _
  ring

/-! ### Errors -/

/-- A bound of the derivative is a bound of the function. -/
lemma abs_le_of_hasDerivAt {f f' g g' : ℝ → ℝ} (hf : ∀ t, HasDerivAt f (f' t) t)
    (hg : ∀ t, HasDerivAt g (g' t) t) (hzero : |f 0| ≤ g 0) (hbound : ∀ t, 0 ≤ t → |f' t| ≤ g' t) {x : ℝ}
    (hx : 0 ≤ x) : |f x| ≤ g x := by
  have hcontinuous : ContinuousOn f (Set.Icc 0 x) := fun t _ => (hf t).continuousAt.continuousWithinAt
  exact image_norm_le_of_norm_deriv_right_le_deriv_boundary hcontinuous
    (fun t _ => (hf t).hasDerivWithinAt) hzero hg (fun t ht => hbound t ht.1) (Set.right_mem_Icc.mpr hx)

section

variable {n : ℕ}

lemma sin_error_of_cos (h : ∀ t, 0 ≤ t → |Real.cos t - cosSum n t| ≤ t ^ (2 * n) / (2 * n).factorial) {x : ℝ}
    (hx : 0 ≤ x) : |Real.sin x - sinSum n x| ≤ x ^ (2 * n + 1) / (2 * n + 1).factorial :=
  abs_le_of_hasDerivAt (f := fun x => Real.sin x - sinSum n x)
    (fun t => (Real.hasDerivAt_sin t).sub (hasDerivAt_sinSum n t)) (hasDerivAt_term (2 * n))
    (by simp [sinSum]) h hx

lemma cos_error_of_sin
    (h : ∀ t, 0 ≤ t → |Real.sin t - sinSum n t| ≤ t ^ (2 * n + 1) / (2 * n + 1).factorial) {x : ℝ}
    (hx : 0 ≤ x) : |Real.cos x - cosSum (n + 1) x| ≤ x ^ (2 * (n + 1)) / (2 * (n + 1)).factorial := by
  apply abs_le_of_hasDerivAt (f := fun x => Real.cos x - cosSum (n + 1) x)
    (fun t => (Real.hasDerivAt_cos t).sub (hasDerivAt_cosSum n t)) (hasDerivAt_term (2 * n + 1)) _ _ hx
  · simp [cosSum, sum_range_succ']
  · intro t ht
    rw [neg_sub_neg, abs_sub_comm]
    exact h t ht

end

lemma errors_of_nonneg (n : ℕ) :
    (∀ x, 0 ≤ x → |Real.cos x - cosSum n x| ≤ x ^ (2 * n) / (2 * n).factorial) ∧
      ∀ x, 0 ≤ x → |Real.sin x - sinSum n x| ≤ x ^ (2 * n + 1) / (2 * n + 1).factorial := by
  induction n with
  | zero =>
    have hcos : ∀ x : ℝ, 0 ≤ x → |Real.cos x - cosSum 0 x| ≤ x ^ (2 * 0) / (2 * 0).factorial := by
      intro x _
      simpa [cosSum] using Real.abs_cos_le_one x
    exact ⟨hcos, fun x => sin_error_of_cos hcos⟩
  | succ n ih =>
    have hcos : ∀ x : ℝ, 0 ≤ x →
        |Real.cos x - cosSum (n + 1) x| ≤ x ^ (2 * (n + 1)) / (2 * (n + 1)).factorial :=
      fun x => cos_error_of_sin ih.2
    exact ⟨hcos, fun x => sin_error_of_cos hcos⟩

theorem abs_cos_sub_cosSum_le (n : ℕ) (x : ℝ) :
    |Real.cos x - cosSum n x| ≤ |x| ^ (2 * n) / (2 * n).factorial := by
  obtain hx | hx := le_total 0 x
  · rw [abs_of_nonneg hx]
    exact (errors_of_nonneg n).1 x hx
  · have herror := (errors_of_nonneg n).1 (-x) (neg_nonneg.mpr hx)
    rwa [Real.cos_neg, cosSum_neg, ← abs_of_nonpos hx] at herror

theorem abs_sin_sub_sinSum_le (n : ℕ) (x : ℝ) :
    |Real.sin x - sinSum n x| ≤ |x| ^ (2 * n + 1) / (2 * n + 1).factorial := by
  obtain hx | hx := le_total 0 x
  · rw [abs_of_nonneg hx]
    exact (errors_of_nonneg n).2 x hx
  · have herror := (errors_of_nonneg n).2 (-x) (neg_nonneg.mpr hx)
    rwa [Real.sin_neg, sinSum_neg, neg_sub_neg, abs_sub_comm, ← abs_of_nonpos hx] at herror

end SineSums
