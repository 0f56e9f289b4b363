import Mathlib.Data.Int.ModEq

/-!
# Wrapping counters

A counter shows an integer position modulo `m`. The signed difference of two readings is the motion
between them, wrapped once.
-/

namespace WrappingCounter

lemma bmod_modEq (x : ℤ) (m : ℕ) : x.bmod m ≡ x [ZMOD m] :=
  Int.bmod_emod

/-- The motions of a position since a given moment, latest first, and the sum of the signed differences of
the readings. -/
structure Track (m : ℕ) where
  start : ℤ
  position : ℤ
  moves : List ℤ
  seen : ℤ
  seen_modEq : seen ≡ position - start [ZMOD m]
  seen_eq : (∀ x ∈ moves, x.bmod m = x) → seen = position - start

namespace Track

variable {m : ℕ}

def displacement (t : Track m) : ℤ :=
  t.position - t.start

/-- The motions from the position `p` on. -/
def fresh (m : ℕ) (p : ℤ) : Track m where
  start := p
  position := p
  moves := []
  seen := 0
  seen_modEq := by rw [sub_self]
  seen_eq _ := (sub_self p).symm

/-- The next reading is taken at the position `p`. -/
def move (t : Track m) (p : ℤ) : Track m where
  start := t.start
  position := p
  moves := (p - t.position) :: t.moves
  seen := t.seen + (p - t.position).bmod m
  seen_modEq := by
    have hsum := t.seen_modEq.add (bmod_modEq (p - t.position) m)
    rwa [sub_add_sub_cancel'] at hsum
  seen_eq hmoves := by
    have hseen := t.seen_eq fun x hx => hmoves x (List.mem_cons_of_mem _ hx)
    rw [hseen, hmoves _ List.mem_cons_self, sub_add_sub_cancel']

/-- One difference over all motions agrees with the sum of the differences between them. -/
theorem bmod_displacement_modEq (t : Track m) : t.displacement.bmod m ≡ t.seen [ZMOD m] :=
  (bmod_modEq t.displacement m).trans t.seen_modEq.symm

end Track

end WrappingCounter
