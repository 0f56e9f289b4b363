import Mathlib.Algebra.Group.Nat.Defs
import Mathlib.Data.List.Basic

/-!
# Countdown counters

A counter of bounded width is decremented by every call; when it arrives at zero the call fires and
the counter is loaded anew. From a full load on, the calls fire with a fixed period, which is the
loaded value only if that fits into the counter.
-/

namespace Countdown

/-- A call with a counter that wraps at `modulus`: whether it fires, and the counter it leaves. -/
def call (modulus load counter : ℕ) : Bool × ℕ :=
  let counter := (counter + (modulus - 1)) % modulus
  if counter = 0 then (true, load % modulus) else (false, counter)

/-- Which of the next `n` calls fire. -/
def calls (modulus load : ℕ) : ℕ → ℕ → List Bool
  | _, 0 => []
  | counter, n + 1 =>
    (call modulus load counter).1 :: calls modulus load (call modulus load counter).2 n

/-- Every `period`-th of `n` calls. -/
def everyNth (period n : ℕ) : List Bool :=
  (List.range n).map fun j => decide (period ∣ j + 1)

def period (modulus load : ℕ) : ℕ :=
  (load + (modulus - 1)) % modulus + 1

lemma period_pos (modulus load : ℕ) : 0 < period modulus load :=
  Nat.succ_pos _

lemma period_le {modulus : ℕ} (hmodulus : 0 < modulus) (load : ℕ) : period modulus load ≤ modulus :=
  Nat.mod_lt _ hmodulus

lemma period_mod {modulus : ℕ} (hmodulus : 0 < modulus) (load : ℕ) :
    period modulus load % modulus = load % modulus := by
  have hsum : load + (modulus - 1) + 1 = load + modulus := by omega
  calc period modulus load % modulus
      = (load + (modulus - 1) + 1) % modulus := Nat.mod_add_mod _ _ _
    _ = load % modulus := by rw [hsum, Nat.add_mod_right]

/-- A load that fits is the period. -/
lemma period_eq_iff {modulus load : ℕ} (hmodulus : 0 < modulus) (hload : 0 < load) :
    period modulus load = load ↔ load ≤ modulus := by
  constructor
  · intro h
    rw [← h]
    exact period_le hmodulus load
  · intro h
    have hsum : load + (modulus - 1) = load - 1 + modulus := by omega
    rw [period, hsum, Nat.add_mod_right, Nat.mod_eq_of_lt (by omega)]
    omega

lemma period_le_load {modulus load : ℕ} (hmodulus : 0 < modulus) (hload : 0 < load) :
    period modulus load ≤ load := by
  have hsum : load + (modulus - 1) = load - 1 + modulus := by omega
  have hmod := Nat.mod_le (load - 1) modulus
  rw [period, hsum, Nat.add_mod_right]
  omega

/-- With `left` calls left to the next one that fires. -/
lemma call_left {modulus left : ℕ} (load : ℕ) (hpos : 0 < left) (hle : left ≤ modulus) :
    call modulus load (left % modulus) =
      if left = 1 then (true, load % modulus) else (false, (left - 1) % modulus) := by
  have hcounter : (left % modulus + (modulus - 1)) % modulus = left - 1 := by
    have hsum : left + (modulus - 1) = left - 1 + modulus := by omega
    rw [Nat.mod_add_mod, hsum, Nat.add_mod_right, Nat.mod_eq_of_lt (by omega)]
  have hzero : left - 1 = 0 ↔ left = 1 := by omega
  simp only [call, hcounter, hzero]
  rw [Nat.mod_eq_of_lt (show left - 1 < modulus by omega)]

lemma calls_left {modulus load : ℕ} (hmodulus : 0 < modulus) (done left : ℕ) (hpos : 0 < left)
    (hle : left ≤ period modulus load) (hdvd : period modulus load ∣ done + left) (n : ℕ) :
    calls modulus load (left % modulus) n =
      (List.range n).map fun j => decide (period modulus load ∣ done + j + 1) := by
  induction n generalizing done left with
  | zero => rfl
  | succ n ih =>
    have hfires : period modulus load ∣ done + 1 ↔ left = 1 := by
      constructor
      · intro hdone
        have hrest : period modulus load ∣ left - 1 := by
          have hsub := Nat.dvd_sub hdvd hdone
          rwa [show done + left - (done + 1) = left - 1 by omega] at hsub
        by_contra hne
        exact absurd (Nat.le_of_dvd (by omega) hrest) (by omega)
      · rintro rfl
        exact hdvd
    have htail : ∀ done' left', done' = done + 1 → 0 < left' → left' ≤ period modulus load →
        period modulus load ∣ done' + left' → calls modulus load (left' % modulus) n =
          (List.range n).map fun j => decide (period modulus load ∣ done + (j + 1) + 1) := by
      rintro done' left' rfl hpos' hle' hdvd'
      rw [ih (done + 1) left' hpos' hle' hdvd']
      apply List.map_congr_left
      intro j _
      rw [show done + 1 + j + 1 = done + (j + 1) + 1 by omega]
    rw [calls, call_left load hpos (Nat.le_trans hle (period_le hmodulus load)), List.range_succ_eq_map,
      List.map_cons, List.map_map]
    by_cases hone : left = 1
    · rw [if_pos hone]
      congr 1
      · simpa using hfires.mpr hone
      · rw [← period_mod hmodulus load]
        exact htail (done + 1) _ rfl (period_pos modulus load) (Nat.le_refl _)
          ((Nat.dvd_add_iff_left (Nat.dvd_refl _)).mp (hfires.mpr hone))
    · rw [if_neg hone]
      congr 1
      · simpa using fun h => hone (hfires.mp h)
      · exact htail (done + 1) (left - 1) rfl (by omega) (by omega)
          (by rwa [show done + 1 + (left - 1) = done + left by omega])

/-- From a full load on, every call with a multiple of the period fires. -/
theorem calls_load {modulus : ℕ} (hmodulus : 0 < modulus) (load n : ℕ) :
    calls modulus load (load % modulus) n = everyNth (period modulus load) n := by
  rw [← period_mod hmodulus load,
    calls_left hmodulus 0 _ (period_pos modulus load) (Nat.le_refl _) (by simp)]
  simp only [Nat.zero_add, everyNth]

/-- Two periods show the same calls before the first call that one of them fires. -/
lemma everyNth_eq_iff {p q : ℕ} (hp : 0 < p) (hle : p ≤ q) (n : ℕ) :
    everyNth p n = everyNth q n ↔ p = q ∨ n < p := by
  constructor
  · intro h
    by_contra hneither
    push Not at hneither
    obtain ⟨hne, hn⟩ := hneither
    have hfirst := congrArg (fun l : List Bool => l[p - 1]?) h
    simp only [everyNth, List.getElem?_map] at hfirst
    rw [List.getElem?_range (by omega)] at hfirst
    simp only [Option.map_some, Option.some.injEq, decide_eq_decide] at hfirst
    rw [Nat.sub_add_cancel hp] at hfirst
    exact absurd (Nat.le_of_dvd hp (hfirst.mp (Nat.dvd_refl p))) (by omega)
  · rintro (rfl | hn)
    · rfl
    · apply List.map_congr_left
      intro j hj
      have hlt := List.mem_range.mp hj
      rw [decide_eq_decide]
      constructor
      · intro hdvd
        exact absurd (Nat.le_of_dvd (Nat.succ_pos j) hdvd) (by omega)
      · intro hdvd
        exact absurd (Nat.le_of_dvd (Nat.succ_pos j) hdvd) (by omega)

end Countdown
