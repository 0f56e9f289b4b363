import Mathlib.Algebra.Order.Ring.Abs
import Mathlib.Tactic.Linarith
import Mathlib.Tactic.Ring

/-!
# A single wrap into a symmetric interval

A value above `p` is reduced by `2 * p` once, a value below `-p` raised by it once. The result lies in
the interval from `-p` to `p` exactly when the value is no further out than `3 * p`.
-/

namespace SingleWrap

variable {K : Type*} [CommRing K] [LinearOrder K]

def wrap (p x : K) : K :=
  if p < x then x - 2 * p
  else if x < -p then x + 2 * p
  else x

/-- The value changes by a multiple of the period. -/
lemma exists_wrap_eq (p x : K) : ∃ k : ℤ, wrap p x = x + k * (2 * p) := by
  unfold wrap
  split
  · refine ⟨-1, ?_⟩
    push_cast
    ring
  · split
    · refine ⟨1, ?_⟩
      push_cast
      ring
    · refine ⟨0, ?_⟩
      push_cast
      ring

variable [IsStrictOrderedRing K]

lemma wrap_of_abs_le {p x : K} (h : |x| ≤ p) : wrap p x = x := by
  rw [abs_le] at h
  rw [wrap, if_neg (not_lt.mpr h.2), if_neg (not_lt.mpr h.1)]

theorem abs_wrap_le_iff {p : K} (hp : 0 < p) (x : K) : |wrap p x| ≤ p ↔ |x| ≤ 3 * p := by
  unfold wrap
  rw [abs_le, abs_le]
  split
  · next hhigh =>
    constructor
    · rintro ⟨-, hle⟩
      constructor <;> linarith
    · rintro ⟨-, hle⟩
      constructor <;> linarith
  · next hhigh =>
    rw [not_lt] at hhigh
    split
    · next hlow =>
      constructor
      · rintro ⟨hle, -⟩
        constructor <;> linarith
      · rintro ⟨hle, -⟩
        constructor <;> linarith
    · next hlow =>
      rw [not_lt] at hlow
      constructor
      · rintro -
        constructor <;> linarith
      · rintro -
        exact ⟨hlow, hhigh⟩

end SingleWrap
