import Mathlib.Data.List.Chain
import Mathlib.Data.ZMod.Basic
import Mathlib.Tactic.Ring

/-!
# Walks on a cycle

A walk on the cycle `ZMod n` moves by at most one position at a time. If the cycle has at least three
positions, the walk has exactly one lift to the integers from a given start, and `winding` adds up the
turns that lead to its end.
-/

namespace Winding

variable {n : ℕ}

def Neighbours (x y : ZMod n) : Prop :=
  y = x ∨ y = x + 1 ∨ y = x - 1

instance (x y : ZMod n) : Decidable (Neighbours x y) :=
  inferInstanceAs (Decidable (_ ∨ _ ∨ _))

/-- The integers lie above the positions and move by at most one, from `a` on. -/
inductive Lifts : ℤ → List ℤ → List (ZMod n) → Prop
  | nil (a : ℤ) : Lifts a [] []
  | cons {a b : ℤ} {ls : List ℤ} {x : ZMod n} {xs : List (ZMod n)} (above : (b : ZMod n) = x)
      (near : |b - a| ≤ 1) (rest : Lifts b ls xs) : Lifts a (b :: ls) (x :: xs)

/-- The direction of a move to a neighbour. -/
def turn (x y : ZMod n) : ℤ :=
  if y = x then 0 else if y = x + 1 then 1 else -1

/-- The turns of the moves from `x` through the positions of a list. -/
def winding : ZMod n → List (ZMod n) → ℤ
  | _, [] => 0
  | x, y :: ys => turn x y + winding y ys

/-! ### Turns -/

lemma cast_turn {x y : ZMod n} (h : Neighbours x y) : (turn x y : ZMod n) = y - x := by
  unfold turn
  split
  · next heq => simp [heq]
  · next hne =>
    split
    · next hup => simp [hup]
    · next hup =>
      obtain rfl := (h.resolve_left hne).resolve_left hup
      simp

lemma neighbours_add {d : ℤ} (hd : |d| ≤ 1) (x : ZMod n) : Neighbours x (x + d) := by
  have hcases : d = 0 ∨ d = 1 ∨ d = -1 := by
    rw [abs_le] at hd
    omega
  rcases hcases with rfl | rfl | rfl
  · exact .inl (by simp)
  · exact .inr (.inl (by simp))
  · exact .inr (.inr (by simp [sub_eq_add_neg]))

lemma abs_turn_le (x y : ZMod n) : |turn x y| ≤ 1 := by
  unfold turn
  split
  · decide
  · split <;> decide

/-- Small integers with the same position are equal. -/
lemma eq_of_cast_eq {b c : ℤ} (hlow : b - c < n) (hhigh : c - b < n) (h : (b : ZMod n) = c) : b = c := by
  obtain ⟨k, hk⟩ := (ZMod.intCast_eq_intCast_iff_dvd_sub b c n).mp h
  have hzero : k = 0 := by
    by_contra hne
    rcases lt_or_gt_of_ne hne with hneg | hpos
    · have hle : (n : ℤ) * k ≤ n * (-1) := mul_le_mul_of_nonneg_left (by omega) (by omega)
      omega
    · have hle : (n : ℤ) * 1 ≤ n * k := mul_le_mul_of_nonneg_left (by omega) (by omega)
      omega
  rw [hzero, mul_zero] at hk
  omega

/-- Only a cycle of three positions or more tells the two directions apart. -/
lemma turn_add (hn : 3 ≤ n) {d : ℤ} (hd : |d| ≤ 1) (x : ZMod n) : turn x (x + d) = d := by
  have hturn := abs_turn_le x (x + d)
  have hcast := cast_turn (neighbours_add hd x)
  rw [add_sub_cancel_left] at hcast
  rw [abs_le] at hd hturn
  exact eq_of_cast_eq (by omega) (by omega) hcast

lemma turn_swap (hn : 3 ≤ n) {x y : ZMod n} (h : Neighbours x y) : turn y x = -turn x y := by
  have hx : x = y + ((-turn x y : ℤ) : ZMod n) := by
    rw [Int.cast_neg, cast_turn h]
    ring
  conv_lhs => rw [hx]
  exact turn_add hn (by rw [abs_neg]; exact abs_turn_le x y) y

@[simp] lemma turn_self (x : ZMod n) : turn x x = 0 :=
  if_pos rfl

/-! ### Lifts -/

lemma exists_lifts {a : ℤ} {xs : List (ZMod n)} (h : ((a : ZMod n) :: xs).IsChain Neighbours) :
    ∃ ls, Lifts a ls xs := by
  induction xs generalizing a with
  | nil => exact ⟨[], .nil a⟩
  | cons x xs ih =>
    rw [List.isChain_cons_cons] at h
    have habove : ((a + turn (a : ZMod n) x : ℤ) : ZMod n) = x := by
      rw [Int.cast_add, cast_turn h.1]
      ring
    obtain ⟨ls, hls⟩ := ih (a := a + turn (a : ZMod n) x) (by rw [habove]; exact h.2)
    exact ⟨_ :: ls, .cons habove (by rw [add_sub_cancel_left]; exact abs_turn_le _ _) hls⟩

lemma Lifts.unique (hn : 3 ≤ n) {a : ℤ} {ls ls' : List ℤ} {xs : List (ZMod n)} (h : Lifts a ls xs)
    (h' : Lifts a ls' xs) : ls = ls' := by
  induction h generalizing ls' with
  | nil a =>
    cases h'
    rfl
  | cons above near rest ih =>
    cases h' with
    | cons above' near' rest' =>
      rw [abs_le] at near near'
      obtain rfl := eq_of_cast_eq (by omega) (by omega) (above.trans above'.symm)
      rw [ih rest']

/-- A lift ends where the turns lead. -/
lemma Lifts.getLastD_eq (hn : 3 ≤ n) {a : ℤ} {ls : List ℤ} {xs : List (ZMod n)} (h : Lifts a ls xs) :
    ls.getLastD a = a + winding (a : ZMod n) xs := by
  induction h with
  | nil a => simp [winding]
  | @cons a b ls x xs above near rest ih =>
    have hx : x = (a : ZMod n) + ((b - a : ℤ) : ZMod n) := by
      rw [← above, Int.cast_sub]
      ring
    have hturn : turn (a : ZMod n) x = b - a := by
      rw [hx]
      exact turn_add hn near a
    rw [List.getLastD_cons, ih, winding, hturn, above]
    ring

/-! ### Ends and returns -/

lemma winding_append (x : ZMod n) (xs ys : List (ZMod n)) :
    winding x (xs ++ ys) = winding x xs + winding (xs.getLastD x) ys := by
  induction xs generalizing x with
  | nil => simp [winding]
  | cons y xs ih => rw [List.cons_append, winding, winding, ih, List.getLastD_cons, add_assoc]

/-- The turns of a walk lead from its first position to its last. -/
lemma cast_winding {x : ZMod n} {xs : List (ZMod n)} (h : (x :: xs).IsChain Neighbours) :
    (winding x xs : ZMod n) = xs.getLastD x - x := by
  induction xs generalizing x with
  | nil => simp [winding]
  | cons y xs ih =>
    rw [List.isChain_cons_cons] at h
    rw [winding, Int.cast_add, cast_turn h.1, ih h.2, List.getLastD_cons]
    ring

/-- The way back undoes the winding of the way there. -/
lemma winding_reverse (hn : 3 ≤ n) {x : ZMod n} {xs : List (ZMod n)} (h : (x :: xs).IsChain Neighbours) :
    winding (xs.getLastD x) (x :: xs).reverse = -winding x xs := by
  induction xs generalizing x with
  | nil => simp [winding]
  | cons y xs ih =>
    rw [List.isChain_cons_cons] at h
    have hend : (y :: xs).reverse.getLastD (xs.getLastD y) = y := by simp
    rw [List.getLastD_cons, List.reverse_cons, winding_append, ih h.2, hend, winding, winding, winding,
      turn_swap hn h.1]
    ring

theorem winding_return (hn : 3 ≤ n) {x : ZMod n} {xs : List (ZMod n)}
    (h : (x :: xs).IsChain Neighbours) : winding x (xs ++ (x :: xs).reverse) = 0 := by
  rw [winding_append, winding_reverse hn h, add_neg_cancel]

end Winding
