import Mathlib.Algebra.Group.Nat.Even
import Mathlib.Order.Monotone.Basic
import Mathlib.Tactic.Linarith
import Mathlib.Tactic.Ring

/-!
# Rounding to a grid

A grid is an increasing sequence of natural numbers. `nearest` rounds a fraction to it, ties to the
even index. The integers are a grid, and so are the magnitudes of a binary floating point format
in units of its smallest number, exponents without bound: the index of a magnitude is its
representation, exponent field before fraction field.
-/

structure Grid where
  value : Nat → Nat
  value_lt_succ : ∀ n, value n < value (n + 1)
  below : Nat → Nat
  value_below_le : ∀ f, value (below f) ≤ f
  lt_value_below_succ : ∀ f, f < value (below f + 1)

namespace Grid

variable (G : Grid)

lemma strictMono : StrictMono G.value :=
  strictMono_nat_of_lt_succ G.value_lt_succ

lemma value_zero : G.value 0 = 0 := by
  have hbelow := G.value_below_le 0
  have hmono := G.strictMono.monotone (Nat.zero_le (G.below 0))
  omega

/-- The index of the grid point next to `a / b`. -/
def nearest (a b : Nat) : Nat :=
  let n := G.below (a / b)
  let middle := (G.value n + G.value (n + 1)) * b
  if 2 * a < middle then n
  else if middle < 2 * a then n + 1
  else if Even n then n
  else n + 1

/-- The fraction lies between the middle points around its nearest grid point. -/
structure Within (a b n : Nat) : Prop where
  le : 2 * a ≤ (G.value n + G.value (n + 1)) * b
  ge : ∀ m, n = m + 1 → (G.value m + G.value n) * b ≤ 2 * a

lemma within_below {a b : Nat} (hb : 0 < b)
    (hle : 2 * a ≤ (G.value (G.below (a / b)) + G.value (G.below (a / b) + 1)) * b) :
    G.Within a b (G.below (a / b)) where
  le := hle
  ge := by
    intro m hm
    have hvalue := (Nat.le_div_iff_mul_le hb).mp (G.value_below_le (a / b))
    have hlt := G.value_lt_succ m
    rw [← hm] at hlt
    nlinarith

lemma within_above {a b : Nat} (hb : 0 < b)
    (hge : (G.value (G.below (a / b)) + G.value (G.below (a / b) + 1)) * b ≤ 2 * a) :
    G.Within a b (G.below (a / b) + 1) where
  le := by
    have hvalue := (Nat.div_lt_iff_lt_mul hb).mp (G.lt_value_below_succ (a / b))
    have hlt := G.value_lt_succ (G.below (a / b) + 1)
    nlinarith
  ge := by
    intro m hm
    rw [← Nat.succ_injective hm]
    exact hge

lemma nearest_within {a b : Nat} (hb : 0 < b) : G.Within a b (G.nearest a b) := by
  unfold nearest
  dsimp only
  split_ifs with hlt hgt heven
  · exact G.within_below hb hlt.le
  · exact G.within_above hb hgt.le
  · exact G.within_below hb (not_lt.mp hgt)
  · exact G.within_above hb (not_lt.mp hlt)

/-- A grid point strictly between whose middle points the fraction lies is the nearest. -/
lemma nearest_eq {a b n : Nat} (hb : 0 < b) (hlt : 2 * a < (G.value n + G.value (n + 1)) * b)
    (hgt : ∀ m, n = m + 1 → (G.value m + G.value n) * b < 2 * a) : G.nearest a b = n := by
  have hwithin := G.nearest_within (a := a) hb
  generalize G.nearest a b = k at hwithin
  rcases Nat.lt_trichotomy k n with hkn | hkn | hkn
  · obtain ⟨m, rfl⟩ : ∃ m, n = m + 1 := ⟨n - 1, by omega⟩
    have hk := G.strictMono.monotone (Nat.le_of_lt_succ hkn)
    have hk' := G.strictMono.monotone (Nat.succ_le_of_lt hkn)
    have hle := hwithin.le
    have hm := hgt m rfl
    have hsum : (G.value k + G.value (k + 1)) * b ≤ (G.value m + G.value (m + 1)) * b :=
      Nat.mul_le_mul_right b (Nat.add_le_add hk hk')
    omega
  · exact hkn
  · obtain ⟨m, rfl⟩ : ∃ m, k = m + 1 := ⟨k - 1, by omega⟩
    have hn := G.strictMono.monotone (Nat.le_of_lt_succ hkn)
    have hn' := G.strictMono.monotone (Nat.succ_le_of_lt hkn)
    have hge := hwithin.ge m rfl
    have hsum : (G.value n + G.value (n + 1)) * b ≤ (G.value m + G.value (m + 1)) * b :=
      Nat.mul_le_mul_right b (Nat.add_le_add hn hn')
    omega

/-- A grid point is nearest to itself. -/
lemma nearest_self {b : Nat} (hb : 0 < b) (n : Nat) : G.nearest (G.value n * b) b = n := by
  apply G.nearest_eq hb
  · have hlt := G.value_lt_succ n
    nlinarith
  · rintro m rfl
    have hlt := G.value_lt_succ m
    nlinarith

/-! ### The integers -/

def integers : Grid where
  value n := n
  value_lt_succ n := Nat.lt_succ_self n
  below f := f
  value_below_le f := le_refl f
  lt_value_below_succ f := Nat.lt_succ_self f

/-! ### Binary floating point -/

/-- The exponent of the magnitude with index `n` and `t` bits in the fraction field. -/
def exponent (t n : Nat) : Nat :=
  n / 2 ^ t - 1

def magnitude (t n : Nat) : Nat :=
  (n - exponent t n * 2 ^ t) * 2 ^ exponent t n

lemma exponent_mul_le (t n : Nat) : exponent t n * 2 ^ t ≤ n := by
  have hle := Nat.mul_le_mul_right (2 ^ t) (Nat.sub_le (n / 2 ^ t) 1)
  exact hle.trans (Nat.div_mul_le_self n (2 ^ t))

/-- The next magnitude is a unit in the last place larger. -/
lemma magnitude_succ (t n : Nat) : magnitude t (n + 1) = magnitude t n + 2 ^ exponent t n := by
  have hle := exponent_mul_le t n
  have hpos := Nat.two_pow_pos t
  have hdiv : (n + 1) / 2 ^ t = n / 2 ^ t + if 2 ^ t ∣ n + 1 then 1 else 0 := Nat.succ_div
  by_cases hcross : 2 ^ t ∣ n + 1 ∧ 1 ≤ n / 2 ^ t
  · obtain ⟨hdvd, hlarge⟩ := hcross
    rw [if_pos hdvd] at hdiv
    have hexp : exponent t (n + 1) = exponent t n + 1 := by
      unfold exponent
      omega
    have hn : n + 1 = (exponent t n + 2) * 2 ^ t := by
      have hmul := Nat.div_mul_cancel hdvd
      rw [hdiv] at hmul
      rw [← hmul]
      unfold exponent
      congr 1
      omega
    have hrest : n + 1 - exponent t n * 2 ^ t = 2 * 2 ^ t := by
      rw [hn, ← Nat.sub_mul]
      congr 1
      omega
    have hrest' : n - exponent t n * 2 ^ t = 2 * 2 ^ t - 1 := by omega
    have htop : n + 1 - (exponent t n + 1) * 2 ^ t = 2 ^ t := by
      rw [hn, ← Nat.sub_mul]
      have htwo : exponent t n + 2 - (exponent t n + 1) = 1 := by omega
      rw [htwo, one_mul]
    rw [magnitude, magnitude, hexp, htop, hrest', pow_succ, Nat.sub_mul, one_mul]
    have hbig : 2 ^ exponent t n ≤ 2 * 2 ^ t * 2 ^ exponent t n :=
      Nat.le_mul_of_pos_left _ (by omega)
    have hring : 2 ^ t * (2 ^ exponent t n * 2) = 2 * 2 ^ t * 2 ^ exponent t n := by ring
    omega
  · have hexp : exponent t (n + 1) = exponent t n := by
      unfold exponent
      split_ifs at hdiv with hdvd
      · have hzero : ¬1 ≤ n / 2 ^ t := fun h => hcross ⟨hdvd, h⟩
        omega
      · rw [hdiv, Nat.add_zero]
    rw [magnitude, magnitude, hexp, Nat.sub_add_comm hle, Nat.add_mul, one_mul]

/-- The index of the largest magnitude up to `f`. -/
def magnitudeBelow (t f : Nat) : Nat :=
  (Nat.log2 f - t) * 2 ^ t + f / 2 ^ (Nat.log2 f - t)

/-- A significand of `t + 1` bits at most, of exactly so many if it is shifted. -/
lemma magnitudeBelow_significand (t f : Nat) :
    f / 2 ^ (Nat.log2 f - t) < 2 * 2 ^ t ∧
      (Nat.log2 f - t ≠ 0 → 2 ^ t ≤ f / 2 ^ (Nat.log2 f - t)) := by
  have hpos := Nat.two_pow_pos (Nat.log2 f - t)
  constructor
  · rw [Nat.div_lt_iff_lt_mul hpos, mul_assoc, ← pow_add, ← pow_succ']
    exact lt_of_lt_of_le (Nat.lt_log2_self) (Nat.pow_le_pow_right (by omega) (by omega))
  · intro hshift
    have hf : f ≠ 0 := by
      rintro rfl
      simp at hshift
    rw [Nat.le_div_iff_mul_le hpos, ← pow_add]
    have hsum : t + (Nat.log2 f - t) = Nat.log2 f := by omega
    rw [hsum]
    exact Nat.log2_self_le hf

lemma exponent_magnitudeBelow (t f : Nat) : exponent t (magnitudeBelow t f) = Nat.log2 f - t := by
  obtain ⟨hlt, hge⟩ := magnitudeBelow_significand t f
  have hpos := Nat.two_pow_pos t
  unfold exponent magnitudeBelow
  rw [Nat.add_comm, Nat.add_mul_div_right _ _ hpos]
  by_cases hshift : Nat.log2 f - t = 0
  · rw [hshift, pow_zero, Nat.div_one] at hlt ⊢
    have hquot := (Nat.div_lt_iff_lt_mul hpos).mpr hlt
    omega
  · have hquot := (Nat.div_lt_iff_lt_mul hpos).mpr hlt
    have hquot' := (Nat.le_div_iff_mul_le hpos).mpr ((one_mul (2 ^ t)).symm ▸ hge hshift)
    omega

lemma magnitude_magnitudeBelow (t f : Nat) :
    magnitude t (magnitudeBelow t f) =
      f / 2 ^ (Nat.log2 f - t) * 2 ^ (Nat.log2 f - t) := by
  rw [magnitude, exponent_magnitudeBelow, magnitudeBelow, Nat.add_sub_cancel_left]

/-- The magnitudes of a binary format with `t` bits in its fraction field. -/
def binary (t : Nat) : Grid where
  value := magnitude t
  value_lt_succ n := by
    rw [magnitude_succ]
    exact Nat.lt_add_of_pos_right (Nat.two_pow_pos _)
  below := magnitudeBelow t
  value_below_le f := by
    rw [magnitude_magnitudeBelow]
    exact Nat.div_mul_le_self f _
  lt_value_below_succ f := by
    rw [magnitude_succ, magnitude_magnitudeBelow, exponent_magnitudeBelow]
    exact Nat.lt_div_mul_add (Nat.two_pow_pos _)

lemma binary_gap (t n : Nat) :
    (binary t).value (n + 1) - (binary t).value n = 2 ^ exponent t n := by
  change magnitude t (n + 1) - magnitude t n = _
  rw [magnitude_succ, Nat.add_sub_cancel_left]

/-! ### From a grid to the integers and back -/

/-- The integer next to a grid point, in units of which `a` make `b` of the grid's. -/
def toInteger (a b n : Nat) : Nat :=
  integers.nearest (G.value n * a) b

/-- The grid point next to an integer in these units. -/
def ofInteger (a b k : Nat) : Nat :=
  G.nearest (k * b) a

variable {G} {a b n k : Nat}

/-- Where neighbours are more than a unit apart every grid point comes back. -/
lemma ofInteger_toInteger_of_coarse (ha : 0 < a) (hb : 0 < b)
    (habove : b < (G.value (n + 1) - G.value n) * a)
    (hbelow : ∀ m, n = m + 1 → b < (G.value n - G.value m) * a) :
    G.ofInteger a b (G.toInteger a b n) = n := by
  have hwithin := integers.nearest_within (a := G.value n * a) hb
  unfold ofInteger toInteger
  generalize integers.nearest (G.value n * a) b = k at hwithin
  have hle : 2 * (G.value n * a) ≤ (k + (k + 1)) * b := hwithin.le
  apply G.nearest_eq ha
  · have hlt := G.value_lt_succ n
    have hk : 2 * (k * b) ≤ 2 * (G.value n * a) + b := by
      cases k with
      | zero => omega
      | succ j =>
        have hge : (j + (j + 1)) * b ≤ 2 * (G.value n * a) := hwithin.ge j rfl
        nlinarith
    rw [Nat.sub_mul] at habove
    have hsum : (G.value n + G.value (n + 1)) * a = G.value n * a + G.value (n + 1) * a :=
      Nat.add_mul _ _ _
    omega
  · rintro m rfl
    have hgap := hbelow m rfl
    rw [Nat.sub_mul] at hgap
    have hsum : (G.value m + G.value (m + 1)) * a = G.value m * a + G.value (m + 1) * a :=
      Nat.add_mul _ _ _
    have hk : (k + (k + 1)) * b = 2 * (k * b) + b := by ring
    omega

/-- Where neighbours are less than a unit apart the grid points next to an integer come back. -/
lemma toInteger_ofInteger_of_fine (ha : 0 < a) (hb : 0 < b) (hn : G.ofInteger a b k = n)
    (habove : (G.value (n + 1) - G.value n) * a < b)
    (hbelow : ∀ m, n = m + 1 → (G.value n - G.value m) * a < b) :
    G.toInteger a b n = k := by
  have hwithin := G.nearest_within (a := k * b) ha
  change G.nearest (k * b) a = n at hn
  rw [hn] at hwithin
  have hle := hwithin.le
  rw [Nat.sub_mul] at habove
  have hsum : (G.value n + G.value (n + 1)) * a = G.value n * a + G.value (n + 1) * a :=
    Nat.add_mul _ _ _
  apply integers.nearest_eq hb
  · change 2 * (G.value n * a) < (k + (k + 1)) * b
    have hk : (k + (k + 1)) * b = 2 * (k * b) + b := by ring
    cases n with
    | zero =>
      rw [G.value_zero]
      omega
    | succ m =>
      have hgap := hbelow m rfl
      have hge := hwithin.ge m rfl
      rw [Nat.sub_mul] at hgap
      have hsum' : (G.value m + G.value (m + 1)) * a = G.value m * a + G.value (m + 1) * a :=
        Nat.add_mul _ _ _
      omega
  · rintro j rfl
    change (j + (j + 1)) * b < 2 * (G.value n * a)
    have hj : (j + 1) * b = j * b + b := Nat.succ_mul j b
    have hj' : (j + (j + 1)) * b = 2 * (j * b) + b := by ring
    omega

/-- Every grid point that is a whole number of units comes back. -/
lemma ofInteger_toInteger_of_exact (ha : 0 < a) (hb : 0 < b) (hk : G.value n * a = k * b) :
    G.ofInteger a b (G.toInteger a b n) = n := by
  have hinteger : G.toInteger a b n = k := by
    rw [toInteger, hk]
    exact integers.nearest_self hb k
  rw [hinteger, ofInteger, ← hk]
  exact G.nearest_self ha n

lemma exponent_le {t e n : Nat} (h : n < (e + 2) * 2 ^ t) : exponent t n ≤ e := by
  have hquot := (Nat.div_lt_iff_lt_mul (Nat.two_pow_pos t)).mpr h
  unfold exponent
  omega

lemma le_exponent {t e n : Nat} (h : (e + 2) * 2 ^ t ≤ n) : e + 1 ≤ exponent t n := by
  have hquot := (Nat.le_div_iff_mul_le (Nat.two_pow_pos t)).mpr h
  unfold exponent
  omega

/-- If the unit lies strictly between two powers of two, and the magnitude where the places pass it
is a whole number of units: a magnitude comes back exactly if it is nearest to a number of units. -/
theorem ofInteger_toInteger_iff {t s e : Nat} (hfine : 2 ^ e * a < 2 ^ s)
    (hcoarse : 2 ^ s < 2 ^ (e + 1) * a) (hs : s ≤ t + (e + 1)) :
    (binary t).ofInteger a (2 ^ s) ((binary t).toInteger a (2 ^ s) n) = n ↔
      ∃ k, (binary t).ofInteger a (2 ^ s) k = n := by
  have ha : 0 < a := Nat.pos_of_mul_pos_left (Nat.zero_lt_of_lt hcoarse)
  have hb := Nat.two_pow_pos s
  constructor
  · intro h
    exact ⟨_, h⟩
  · rintro ⟨k, hk⟩
    rcases Nat.lt_trichotomy n ((e + 2) * 2 ^ t) with hn | hn | hn
    · have hgap : ∀ m, m < (e + 2) * 2 ^ t →
          ((binary t).value (m + 1) - (binary t).value m) * a < 2 ^ s := by
        intro m hm
        rw [binary_gap]
        have hpow := Nat.pow_le_pow_right (n := 2) (by omega) (exponent_le hm)
        exact lt_of_le_of_lt (Nat.mul_le_mul_right a hpow) hfine
      rw [toInteger_ofInteger_of_fine ha hb hk (hgap n hn) (by
        rintro m rfl
        exact hgap m (by omega)), hk]
    · have hexact : (binary t).value n * a = 2 ^ (t + (e + 1) - s) * a * 2 ^ s := by
        have hexp : exponent t n = e + 1 := by
          unfold exponent
          rw [hn, Nat.mul_div_cancel _ (Nat.two_pow_pos t)]
          omega
        have hvalue : (binary t).value n = 2 ^ (t + (e + 1)) := by
          change magnitude t n = _
          have hone : e + 2 - (e + 1) = 1 := by omega
          rw [magnitude, hexp, hn, ← Nat.sub_mul, hone, one_mul, ← pow_add]
        rw [hvalue, mul_right_comm, ← pow_add, Nat.sub_add_cancel hs]
      exact ofInteger_toInteger_of_exact ha hb hexact
    · have hgap : ∀ m, (e + 2) * 2 ^ t ≤ m →
          2 ^ s < ((binary t).value (m + 1) - (binary t).value m) * a := by
        intro m hm
        rw [binary_gap]
        have hpow := Nat.pow_le_pow_right (n := 2) (by omega) (le_exponent hm)
        exact lt_of_lt_of_le hcoarse (Nat.mul_le_mul_right a hpow)
      apply ofInteger_toInteger_of_coarse ha hb (hgap n hn.le)
      rintro m rfl
      exact hgap m (by omega)

end Grid
