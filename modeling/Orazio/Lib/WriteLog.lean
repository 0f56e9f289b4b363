import Mathlib.Logic.Function.Basic
import Mathlib.Tactic.Common

/-!
# Logs of single writes

A memory changed by one write after another, so that the changes can stop between any two of them.
-/

namespace WriteLog

variable {β : Type*}

/-- The memory after all writes of a log. -/
def apply (writes : List (Nat × β)) (m : Nat → β) : Nat → β :=
  writes.foldl (fun m w => Function.update m w.1 w.2) m

/-- The writes that put a string at address `a`, from its first element on. -/
def block (a : Nat) : List β → List (Nat × β)
  | [] => []
  | b :: bs => (a, b) :: block (a + 1) bs

lemma apply_append (ws ws' : List (Nat × β)) (m : Nat → β) :
    apply (ws ++ ws') m = apply ws' (apply ws m) :=
  List.foldl_append

@[simp] lemma length_block (a : Nat) (bs : List β) : (block a bs).length = bs.length := by
  induction bs generalizing a with
  | nil => rfl
  | cons b bs ih => simp [block, ih]

/-- Blocks that lie behind one another are one block. -/
lemma block_append (a : Nat) (bs bs' : List β) :
    block a (bs ++ bs') = block a bs ++ block (a + bs.length) bs' := by
  induction bs generalizing a with
  | nil => rfl
  | cons b bs ih =>
    rw [List.cons_append, block, block, ih, List.cons_append, List.length_cons]
    congr 3
    omega

lemma apply_block_before (a : Nat) (bs : List β) (m : Nat → β) {x : Nat} (hx : x < a) :
    apply (block a bs) m x = m x := by
  induction bs generalizing a m with
  | nil => rfl
  | cons b bs ih =>
    have hrest := ih (a + 1) (Function.update m a b) (by omega)
    rw [Function.update_of_ne (by omega)] at hrest
    exact hrest

/-- The first `k` writes of a block change the cells up to there as all of them do. -/
lemma apply_take_block (a : Nat) (bs : List β) (m : Nat → β) (k x : Nat) :
    apply ((block a bs).take k) m x = if x < a + k then apply (block a bs) m x else m x := by
  induction bs generalizing a m k with
  | nil =>
    rw [block, List.take_nil]
    split <;> rfl
  | cons b bs ih =>
    cases k with
    | zero =>
      split
      · next hx => exact (apply_block_before a (b :: bs) m hx).symm
      · rfl
    | succ k =>
      have hrest := ih (a + 1) (Function.update m a b) k
      have hbound : a + 1 + k = a + (k + 1) := by omega
      rw [hbound] at hrest
      rw [block, List.take_succ_cons]
      refine hrest.trans ?_
      split
      · rfl
      · exact Function.update_of_ne (by omega) _ _

/-- The cells that the first `k` writes of a block change. -/
lemma mem_addresses_take_block {a : Nat} {bs : List β} {k x : Nat} :
    x ∈ ((block a bs).take k).map Prod.fst ↔ a ≤ x ∧ x < a + min k bs.length := by
  induction bs generalizing a k with
  | nil =>
    rw [block, List.take_nil, List.map_nil, List.length_nil, Nat.min_zero]
    refine iff_of_false List.not_mem_nil ?_
    omega
  | cons b bs ih =>
    cases k with
    | zero =>
      rw [List.take_zero, List.map_nil, Nat.zero_min]
      refine iff_of_false List.not_mem_nil ?_
      omega
    | succ k =>
      rw [block, List.take_succ_cons, List.map_cons, List.mem_cons, ih, List.length_cons]
      omega

end WriteLog
