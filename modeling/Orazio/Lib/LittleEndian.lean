import Mathlib.Algebra.Group.Nat.Defs
import Mathlib.Tactic.Common

/-!
# Little endian integers in byte memory

Fixed-width integers as byte strings, least significant byte first, and read from a memory.
-/

namespace LittleEndian

def u16 (x : UInt16) : List UInt8 :=
  [UInt8.ofNat x.toNat, UInt8.ofNat (x.toNat / 2 ^ 8)]

def u32 (x : UInt32) : List UInt8 :=
  [UInt8.ofNat x.toNat, UInt8.ofNat (x.toNat / 2 ^ 8), UInt8.ofNat (x.toNat / 2 ^ 16),
    UInt8.ofNat (x.toNat / 2 ^ 24)]

def i16 (x : Int16) : List UInt8 :=
  u16 x.toUInt16

def getU16 (m : Nat → UInt8) (a : Nat) : UInt16 :=
  UInt16.ofNat ((m a).toNat + 2 ^ 8 * (m (a + 1)).toNat)

def getU32 (m : Nat → UInt8) (a : Nat) : UInt32 :=
  UInt32.ofNat ((m a).toNat + 2 ^ 8 * (m (a + 1)).toNat + 2 ^ 16 * (m (a + 2)).toNat +
    2 ^ 24 * (m (a + 3)).toNat)

def getI16 (m : Nat → UInt8) (a : Nat) : Int16 :=
  (getU16 m a).toInt16

@[simp] lemma length_u16 (x : UInt16) : (u16 x).length = 2 := rfl

@[simp] lemma length_u32 (x : UInt32) : (u32 x).length = 4 := rfl

@[simp] lemma length_i16 (x : Int16) : (i16 x).length = 2 := rfl

/-- Reading the bytes of a number gives the number. -/
lemma getU16_eq {m : Nat → UInt8} {a : Nat} {x : UInt16} (h₀ : m a = UInt8.ofNat x.toNat)
    (h₁ : m (a + 1) = UInt8.ofNat (x.toNat / 2 ^ 8)) : getU16 m a = x := by
  have hlt := x.toNat_lt
  rw [← UInt16.toNat_inj, getU16, h₀, h₁]
  simp only [UInt16.toNat_ofNat', UInt8.toNat_ofNat']
  omega

lemma getU32_eq {m : Nat → UInt8} {a : Nat} {x : UInt32} (h₀ : m a = UInt8.ofNat x.toNat)
    (h₁ : m (a + 1) = UInt8.ofNat (x.toNat / 2 ^ 8)) (h₂ : m (a + 2) = UInt8.ofNat (x.toNat / 2 ^ 16))
    (h₃ : m (a + 3) = UInt8.ofNat (x.toNat / 2 ^ 24)) : getU32 m a = x := by
  have hlt := x.toNat_lt
  rw [← UInt32.toNat_inj, getU32, h₀, h₁, h₂, h₃]
  simp only [UInt32.toNat_ofNat', UInt8.toNat_ofNat']
  omega

lemma getI16_eq {m : Nat → UInt8} {a : Nat} {x : Int16} (h₀ : m a = UInt8.ofNat x.toUInt16.toNat)
    (h₁ : m (a + 1) = UInt8.ofNat (x.toUInt16.toNat / 2 ^ 8)) : getI16 m a = x := by
  rw [getI16, getU16_eq h₀ h₁]
  rfl

/-- The bytes of a number that has been read are those of the memory. -/
lemma u16_getU16 (m : Nat → UInt8) (a : Nat) : u16 (getU16 m a) = [m a, m (a + 1)] := by
  have h₀ := (m a).toNat_lt
  have h₁ := (m (a + 1)).toNat_lt
  simp only [u16, getU16, List.cons.injEq, and_true, ← UInt8.toNat_inj, UInt8.toNat_ofNat',
    UInt16.toNat_ofNat']
  omega

lemma u32_getU32 (m : Nat → UInt8) (a : Nat) :
    u32 (getU32 m a) = [m a, m (a + 1), m (a + 2), m (a + 3)] := by
  have h₀ := (m a).toNat_lt
  have h₁ := (m (a + 1)).toNat_lt
  have h₂ := (m (a + 2)).toNat_lt
  have h₃ := (m (a + 3)).toNat_lt
  simp only [u32, getU32, List.cons.injEq, and_true, ← UInt8.toNat_inj, UInt8.toNat_ofNat',
    UInt32.toNat_ofNat']
  omega

/-- A number is read where its bytes are. -/
lemma getU32_eq_iff {m : Nat → UInt8} {a : Nat} {x : UInt32} :
    getU32 m a = x ↔ ∀ i < 4, m (a + i) = (u32 x).getD i 0 := by
  constructor
  · rintro rfl i hi
    rw [u32_getU32]
    obtain rfl | rfl | rfl | rfl : i = 0 ∨ i = 1 ∨ i = 2 ∨ i = 3 := by omega
    · rfl
    · rfl
    · rfl
    · rfl
  · intro h
    exact getU32_eq (h 0 (by omega)) (h 1 (by omega)) (h 2 (by omega)) (h 3 (by omega))

lemma i16_getI16 (m : Nat → UInt8) (a : Nat) : i16 (getI16 m a) = [m a, m (a + 1)] :=
  u16_getU16 m a

end LittleEndian
