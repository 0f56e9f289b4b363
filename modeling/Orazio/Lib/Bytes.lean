import Mathlib.Logic.Function.Basic
import Mathlib.Tactic.Common

/-!
# Byte strings and byte memory

A memory maps addresses to bytes; `read` takes a block of it as a byte string. `xorSum` is the
exclusive or of a byte string.
-/

namespace Bytes

/-- The `n` bytes of a memory from address `a` on. -/
def read (m : Nat → UInt8) (a n : Nat) : List UInt8 :=
  (List.range n).map fun i => m (a + i)

/-- The exclusive or of all bytes of a string. -/
def xorSum (bs : List UInt8) : UInt8 :=
  bs.foldl (· ^^^ ·) 0

@[simp] lemma length_read (m : Nat → UInt8) (a n : Nat) : (read m a n).length = n := by
  simp [read]

@[simp] lemma read_zero (m : Nat → UInt8) (a : Nat) : read m a 0 = [] := rfl

lemma read_succ (m : Nat → UInt8) (a n : Nat) : read m a (n + 1) = read m a n ++ [m (a + n)] := by
  simp [read, List.range_succ]

lemma read_succ' (m : Nat → UInt8) (a n : Nat) : read m a (n + 1) = m a :: read m (a + 1) n := by
  simp only [read, List.range_succ_eq_map, List.map_cons, List.map_map, Nat.add_zero]
  congr 1
  apply List.map_congr_left
  intro i _
  simp only [Function.comp_apply]
  congr 1
  omega

/-- The first byte of a block that is not empty. -/
lemma head_of_read_eq_cons {m : Nat → UInt8} {a n : Nat} {b : UInt8} {bs : List UInt8}
    (h : read m a n = b :: bs) : m a = b := by
  cases n with
  | zero => cases h
  | succ n =>
    rw [read_succ'] at h
    exact (List.cons.inj h).1

lemma getElem_read (m : Nat → UInt8) (a n i : Nat) (hi : i < (read m a n).length) :
    (read m a n)[i] = m (a + i) := by
  simp [read]

/-- A block is determined by its bytes. -/
lemma read_congr {m m' : Nat → UInt8} {a n : Nat} (h : ∀ i, i < n → m (a + i) = m' (a + i)) :
    read m a n = read m' a n := by
  apply List.map_congr_left
  intro i hi
  exact h i (List.mem_range.mp hi)

lemma getD_read {m : Nat → UInt8} {a n i : Nat} (hi : i < n) : (read m a n).getD i 0 = m (a + i) := by
  have hi' : i < (read m a n).length := by
    rw [length_read]
    exact hi
  rw [List.getD_eq_getElem?_getD, List.getElem?_eq_getElem hi', Option.getD_some, getElem_read]

/-- A byte of a string that a block holds. -/
lemma getD_of_read {m : Nat → UInt8} {a : Nat} {bs : List UInt8} (h : read m a bs.length = bs) {i : Nat}
    (hi : i < bs.length) : bs.getD i 0 = m (a + i) := by
  have hread := getD_read (m := m) (a := a) hi
  rw [h] at hread
  exact hread

/-- A block read in a memory that starts with it. -/
lemma read_shift (m : Nat → UInt8) (a n : Nat) : read m a n = read (fun i => m (a + i)) 0 n := by
  apply List.map_congr_left
  intro i _
  rw [Nat.zero_add]

lemma read_update_outside (m : Nat → UInt8) {a n b : Nat} (c : UInt8) (hb : b < a ∨ a + n ≤ b) :
    read (Function.update m b c) a n = read m a n := by
  apply read_congr
  intro i hi
  rw [Function.update_of_ne (by omega)]

/-- Storing the byte behind a block extends the block. -/
lemma read_update_end (m : Nat → UInt8) (a n : Nat) (c : UInt8) :
    read (Function.update m (a + n) c) a (n + 1) = read m a n ++ [c] := by
  rw [read_succ, read_update_outside m c (by omega), Function.update_self]

@[simp] lemma xorSum_nil : xorSum [] = 0 := rfl

lemma xorSum_concat (bs : List UInt8) (c : UInt8) : xorSum (bs ++ [c]) = xorSum bs ^^^ c := by
  simp [xorSum]

lemma foldl_xor (c : UInt8) (bs : List UInt8) : bs.foldl (· ^^^ ·) c = c ^^^ xorSum bs := by
  induction bs generalizing c with
  | nil => simp
  | cons b bs ih =>
    have hsum : xorSum (b :: bs) = b ^^^ xorSum bs := by
      rw [xorSum, List.foldl_cons, ih, UInt8.zero_xor]
    rw [List.foldl_cons, ih, hsum, UInt8.xor_assoc]

lemma xorSum_cons (b : UInt8) (bs : List UInt8) : xorSum (b :: bs) = b ^^^ xorSum bs := by
  rw [xorSum, List.foldl_cons, foldl_xor, UInt8.zero_xor]

/-- What two strings differ in, byte by byte. -/
def differences (as bs : List UInt8) : List UInt8 :=
  List.zipWith (· ^^^ ·) as bs

lemma xorSum_differences {as bs : List UInt8} (h : as.length = bs.length) :
    xorSum (differences as bs) = xorSum as ^^^ xorSum bs := by
  induction as generalizing bs with
  | nil =>
    rw [List.eq_nil_of_length_eq_zero h.symm]
    rfl
  | cons a as ih =>
    cases bs with
    | nil => cases h
    | cons b bs =>
      have hrest : xorSum (differences as bs) = xorSum as ^^^ xorSum bs := ih (Nat.succ.inj h)
      have hcons : differences (a :: as) (b :: bs) = (a ^^^ b) :: differences as bs := rfl
      rw [hcons, xorSum_cons, xorSum_cons, xorSum_cons, hrest]
      ac_rfl

/-- The differences cancel out exactly if the sums agree. -/
lemma xorSum_differences_eq_zero {as bs : List UInt8} (h : as.length = bs.length) :
    xorSum (differences as bs) = 0 ↔ xorSum as = xorSum bs := by
  rw [xorSum_differences h, UInt8.xor_eq_zero_iff]

/-- Changing one byte changes the sum. -/
lemma xorSum_set_ne {bs : List UInt8} {i : Nat} {c : UInt8} (hi : i < bs.length) (hc : bs[i] ≠ c) :
    xorSum bs ≠ xorSum (bs.set i c) := by
  induction bs generalizing i with
  | nil => exact absurd hi (Nat.not_lt_zero i)
  | cons b bs ih =>
    cases i with
    | zero =>
      rw [List.set_cons_zero, xorSum_cons, xorSum_cons, ne_eq, UInt8.xor_left_inj]
      exact hc
    | succ i =>
      rw [List.set_cons_succ, xorSum_cons, xorSum_cons, ne_eq, UInt8.xor_right_inj]
      exact ih (Nat.lt_of_succ_lt_succ hi) hc

end Bytes
