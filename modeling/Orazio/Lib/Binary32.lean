import Orazio.Lib.Grid

/-!
# Single precision

The binary32 format: a sign bit and the index of a magnitude in the grid with 23 fraction bits, in
units of 2^-149. Indices from that of infinity on are not numbers of the format.
-/

structure Binary32 where
  bits : UInt32
  deriving DecidableEq

namespace Binary32

abbrev grid : Grid :=
  Grid.binary 23

/-- The exponent field full of ones. -/
abbrev infinityIndex : Nat := 255 * 2 ^ 23

def negative (x : Binary32) : Bool :=
  decide (2 ^ 31 ≤ x.bits.toNat)

def index (x : Binary32) : Nat :=
  x.bits.toNat % 2 ^ 31

def ofIndex (negative : Bool) (n : Nat) : Binary32 :=
  ⟨UInt32.ofNat (if negative then 2 ^ 31 + n else n)⟩

def Finite (x : Binary32) : Prop :=
  x.index < infinityIndex

instance (x : Binary32) : Decidable x.Finite :=
  inferInstanceAs (Decidable (x.index < infinityIndex))

/-- The number of the format next to `a / b` or its negative, ties to even. -/
def nearest (negative : Bool) (a b : Nat) : Binary32 :=
  ofIndex negative (min (grid.nearest (a * 2 ^ 149) b) infinityIndex)

/-- The magnitude in units of `1 / u`, rounded, ties to even. -/
def inUnits (u : Nat) (x : Binary32) : Nat :=
  grid.toInteger u (2 ^ 149) x.index

lemma index_lt (x : Binary32) : x.index < 2 ^ 31 :=
  Nat.mod_lt _ (by decide)

lemma toNat_bits_ofIndex (negative : Bool) {n : Nat} (hn : n < 2 ^ 31) :
    (ofIndex negative n).bits.toNat = if negative then 2 ^ 31 + n else n := by
  unfold ofIndex
  rw [UInt32.toNat_ofNat', Nat.mod_eq_of_lt]
  split <;> omega

lemma index_ofIndex (negative : Bool) {n : Nat} (hn : n < 2 ^ 31) : (ofIndex negative n).index = n := by
  rw [index, toNat_bits_ofIndex negative hn]
  split <;> omega

lemma ofIndex_index (x : Binary32) : ofIndex x.negative x.index = x := by
  have hlt := x.bits.toNat_lt
  have hbits : (ofIndex x.negative x.index).bits.toNat = x.bits.toNat := by
    rw [toNat_bits_ofIndex _ x.index_lt]
    unfold negative index
    by_cases hsign : 2 ^ 31 ≤ x.bits.toNat
    · rw [decide_eq_true hsign, if_pos rfl]
      omega
    · rw [decide_eq_false hsign, if_neg (by simp)]
      omega
  exact congrArg Binary32.mk (UInt32.toNat_inj.mp hbits)

/-- A number is nearest to a fraction of its sign exactly if its index is. -/
lemma nearest_eq_iff {x : Binary32} (hx : x.Finite) (a b : Nat) :
    nearest x.negative a b = x ↔ grid.nearest (a * 2 ^ 149) b = x.index := by
  have hfinite : x.index < infinityIndex := hx
  have hlt : min (grid.nearest (a * 2 ^ 149) b) infinityIndex < 2 ^ 31 :=
    lt_of_le_of_lt (Nat.min_le_right _ _) (by decide)
  constructor
  · intro h
    have hindex := congrArg index h
    rw [nearest, index_ofIndex _ hlt] at hindex
    omega
  · intro h
    rw [nearest, h, Nat.min_eq_left hfinite.le, ofIndex_index]

/-- A number written with five decimals is read back exactly if it is nearest to some number with
five decimals. -/
theorem nearest_inUnits_iff {x : Binary32} (hx : x.Finite) :
    nearest x.negative (x.inUnits (10 ^ 5)) (10 ^ 5) = x ↔
      ∃ k, nearest x.negative k (10 ^ 5) = x := by
  have hiff : grid.ofInteger (10 ^ 5) (2 ^ 149) (grid.toInteger (10 ^ 5) (2 ^ 149) x.index) = x.index ↔
      ∃ k, grid.ofInteger (10 ^ 5) (2 ^ 149) k = x.index :=
    Grid.ofInteger_toInteger_iff (e := 132) (by decide) (by decide) (by decide)
  rw [nearest_eq_iff hx]
  refine hiff.trans ?_
  constructor
  · rintro ⟨k, hk⟩
    exact ⟨k, (nearest_eq_iff hx k _).mpr hk⟩
  · rintro ⟨k, hk⟩
    exact ⟨k, (nearest_eq_iff hx k _).mp hk⟩

lemma value_index_lt {x : Binary32} (hx : x.Finite) : grid.value x.index < 2 ^ 128 * 2 ^ 149 := by
  have hlt := grid.strictMono hx
  have hinfinity : grid.value infinityIndex = 2 ^ 128 * 2 ^ 149 := by decide
  omega

lemma inUnits_le {x : Binary32} (hx : x.Finite) (u : Nat) : x.inUnits u ≤ 2 ^ 128 * u := by
  have hwithin := Grid.integers.nearest_within (a := grid.value x.index * u) (Nat.two_pow_pos 149)
  have hvalue := Nat.mul_le_mul_right u (value_index_lt hx).le
  change Grid.integers.nearest (grid.value x.index * u) (2 ^ 149) ≤ _
  generalize Grid.integers.nearest (grid.value x.index * u) (2 ^ 149) = k at hwithin
  cases k with
  | zero => exact Nat.zero_le _
  | succ j =>
    have hge : (j + (j + 1)) * 2 ^ 149 ≤ 2 * (grid.value x.index * u) := hwithin.ge j rfl
    omega

end Binary32
