import Mathlib

/-!
# Motion along a circular arc

A point that moves for a unit of time with a constant speed while its heading turns at a constant rate. Its
displacement, seen from the heading at the beginning, is a closed form of the length and the angle.
-/

namespace CircularArc

open Real

/-! ### Directions -/

/-- The part of a displacement in the direction of a heading. -/
noncomputable def ahead (heading dx dy : ℝ) : ℝ :=
  cos heading * dx + sin heading * dy

/-- The part of a displacement to the left of a heading. -/
noncomputable def aside (heading dx dy : ℝ) : ℝ :=
  cos heading * dy - sin heading * dx

/-- A displacement is made up of its two parts. -/
lemma ahead_rotate (heading a b : ℝ) :
    ahead heading (cos heading * a - sin heading * b) (sin heading * a + cos heading * b) = a := by
  unfold ahead
  linear_combination a * sin_sq_add_cos_sq heading

lemma aside_rotate (heading a b : ℝ) :
    aside heading (cos heading * a - sin heading * b) (sin heading * a + cos heading * b) = b := by
  unfold aside
  linear_combination b * sin_sq_add_cos_sq heading

/-! ### Arcs -/

/-- The path of a point that travels `length` and turns by `turn` in the time from 0 to 1. -/
structure Path (length turn heading : ℝ) where
  x : ℝ → ℝ
  y : ℝ → ℝ
  hasDerivAt_x : ∀ t, HasDerivAt x (length * cos (heading + turn * t)) t
  hasDerivAt_y : ∀ t, HasDerivAt y (length * sin (heading + turn * t)) t

/-- Functions with the same derivative have the same increments. -/
lemma sub_eq_sub_of_hasDerivAt {f g f' : ℝ → ℝ} (hf : ∀ t, HasDerivAt f (f' t) t)
    (hg : ∀ t, HasDerivAt g (f' t) t) (a b : ℝ) : f b - f a = g b - g a := by
  have hdiff : ∀ t, HasDerivAt (f - g) 0 t := fun t => ((hf t).sub (hg t)).congr_deriv (sub_self _)
  have hconst := is_const_of_deriv_eq_zero (fun t => (hdiff t).differentiableAt) (fun t => (hdiff t).deriv) a b
  simp only [Pi.sub_apply] at hconst
  linarith

variable {length turn heading : ℝ}

lemma hasDerivAt_angle (turn heading t : ℝ) : HasDerivAt (fun t => heading + turn * t) turn t :=
  (((hasDerivAt_id t).const_mul turn).const_add heading).congr_deriv (mul_one turn)

/-- Every arc has a path. -/
instance : Nonempty (Path length turn heading) := by
  by_cases hturn : turn = 0
  · refine ⟨⟨fun t => length * cos heading * t, fun t => length * sin heading * t, ?_, ?_⟩⟩
    · intro t
      apply ((hasDerivAt_id t).const_mul (length * cos heading)).congr_deriv
      rw [hturn, zero_mul, add_zero, mul_one]
    · intro t
      apply ((hasDerivAt_id t).const_mul (length * sin heading)).congr_deriv
      rw [hturn, zero_mul, add_zero, mul_one]
  · refine ⟨⟨fun t => length * (sin (heading + turn * t) / turn),
      fun t => length * (-cos (heading + turn * t) / turn), ?_, ?_⟩⟩
    · intro t
      apply (((hasDerivAt_angle turn heading t).sin.div_const turn).const_mul length).congr_deriv
      field_simp
    · intro t
      apply (((hasDerivAt_angle turn heading t).cos.neg.div_const turn).const_mul length).congr_deriv
      field_simp

namespace Path

variable (path : Path length turn heading)

/-- The displacement in the direction of the heading at the beginning. -/
noncomputable def forward : ℝ :=
  ahead heading (path.x 1 - path.x 0) (path.y 1 - path.y 0)

/-- The displacement to the left of the heading at the beginning. -/
noncomputable def lateral : ℝ :=
  aside heading (path.x 1 - path.x 0) (path.y 1 - path.y 0)

lemma hasDerivAt_ahead (t : ℝ) :
    HasDerivAt (fun t => cos heading * path.x t + sin heading * path.y t) (length * cos (turn * t)) t := by
  apply (((path.hasDerivAt_x t).const_mul (cos heading)).add
    ((path.hasDerivAt_y t).const_mul (sin heading))).congr_deriv
  have hturn := cos_sub (heading + turn * t) heading
  rw [add_sub_cancel_left] at hturn
  rw [hturn]
  ring

lemma hasDerivAt_aside (t : ℝ) :
    HasDerivAt (fun t => cos heading * path.y t - sin heading * path.x t) (length * sin (turn * t)) t := by
  apply (((path.hasDerivAt_y t).const_mul (cos heading)).sub
    ((path.hasDerivAt_x t).const_mul (sin heading))).congr_deriv
  have hturn := sin_sub (heading + turn * t) heading
  rw [add_sub_cancel_left] at hturn
  rw [hturn]
  ring

/-- The displacement forward is the increment of every function with its derivative. -/
lemma forward_eq_sub {g : ℝ → ℝ} (hg : ∀ t, HasDerivAt g (length * cos (turn * t)) t) :
    path.forward = g 1 - g 0 := by
  rw [← sub_eq_sub_of_hasDerivAt path.hasDerivAt_ahead hg 0 1, forward, ahead]
  ring

lemma lateral_eq_sub {g : ℝ → ℝ} (hg : ∀ t, HasDerivAt g (length * sin (turn * t)) t) :
    path.lateral = g 1 - g 0 := by
  rw [← sub_eq_sub_of_hasDerivAt path.hasDerivAt_aside hg 0 1, lateral, aside]
  ring

theorem forward_eq : path.forward = length * sinc turn := by
  by_cases hturn : turn = 0
  · rw [path.forward_eq_sub (g := fun t => length * t), hturn, sinc_zero]
    · ring
    · intro t
      apply ((hasDerivAt_id t).const_mul length).congr_deriv
      rw [hturn, zero_mul, cos_zero]
  · rw [path.forward_eq_sub (g := fun t => length * (sin (turn * t) / turn)), sinc_of_ne_zero hturn]
    · simp
    · intro t
      apply ((((hasDerivAt_id t).const_mul turn).sin.div_const turn).const_mul length).congr_deriv
      simp only [id]
      field_simp

theorem lateral_eq : path.lateral = length * ((1 - cos turn) / turn) := by
  by_cases hturn : turn = 0
  · rw [path.lateral_eq_sub (g := fun _ => 0), hturn]
    · simp
    · intro t
      apply (hasDerivAt_const t 0).congr_deriv
      rw [hturn, zero_mul, sin_zero, mul_zero]
  · rw [path.lateral_eq_sub (g := fun t => length * (-cos (turn * t) / turn))]
    · simp only [mul_one, mul_zero, cos_zero]
      ring
    · intro t
      apply ((((hasDerivAt_id t).const_mul turn).cos.neg.div_const turn).const_mul length).congr_deriv
      simp only [id]
      field_simp

end Path

end CircularArc
