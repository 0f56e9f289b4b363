import Mathlib.Algebra.GroupWithZero.Nat
import Mathlib.Tactic.Common

/-!
# Messages offered to a bounded buffer

Messages of given sizes are offered one after another to a buffer of `cap` bytes, `n` of which are
taken. A message that fits is accepted whole, another one is refused, and later messages may still
fit.
-/

namespace BoundedBuffer

/-- Which messages are accepted. -/
def offer (cap : Nat) : Nat → List Nat → List Bool
  | _, [] => []
  | n, k :: ks => if n + k ≤ cap then true :: offer cap (n + k) ks else false :: offer cap n ks

/-- How much is taken afterwards. -/
def fill (cap : Nat) : Nat → List Nat → Nat
  | n, [] => n
  | n, k :: ks => if n + k ≤ cap then fill cap (n + k) ks else fill cap n ks

variable (cap n : Nat)

lemma offer_append (ks ks' : List Nat) :
    offer cap n (ks ++ ks') = offer cap n ks ++ offer cap (fill cap n ks) ks' := by
  induction ks generalizing n with
  | nil => rfl
  | cons k ks ih =>
    simp only [List.cons_append, offer, fill]
    split
    · rw [ih]
      rfl
    · rw [ih]
      rfl

lemma fill_append (ks ks' : List Nat) :
    fill cap n (ks ++ ks') = fill cap (fill cap n ks) ks' := by
  induction ks generalizing n with
  | nil => rfl
  | cons k ks ih =>
    simp only [List.cons_append, fill]
    split
    · exact ih _
    · exact ih _

/-- All messages are accepted exactly when all of them together fit. -/
theorem offer_all_iff (hn : n ≤ cap) (ks : List Nat) :
    (∀ b ∈ offer cap n ks, b = true) ↔ n + ks.sum ≤ cap := by
  induction ks generalizing n with
  | nil => simpa [offer] using hn
  | cons k ks ih =>
    simp only [offer, List.sum_cons]
    by_cases hk : n + k ≤ cap
    · rw [if_pos hk, List.forall_mem_cons, ih _ hk]
      simp only [true_and]
      omega
    · rw [if_neg hk, List.forall_mem_cons]
      simp only [Bool.false_eq_true, false_and, false_iff]
      omega

end BoundedBuffer
