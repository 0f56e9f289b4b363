import Mathlib.Logic.Function.Basic
import Mathlib.Tactic.Common

/-!
# Ring buffers

A ring of `cap` cells with a first index, an index one past the last and a number of occupied
cells. `Holds` says that the occupied cells, read from the first index on, are a given queue;
putting at the end and getting at the start are queue operations as long as the ring is neither
full nor empty.
-/

namespace RingBuffer

universe u
variable {α : Type u}

/-- The index `offset` cells after `start`, wrapping at most once. -/
def slot (cap start offset : Int) : Int :=
  if start + offset < cap then start + offset else start + offset - cap

def next (cap i : Int) : Int :=
  if i + 1 ≥ cap then 0 else i + 1

def contents (cap : Int) (cells : Int → α) (start size : Int) : List α :=
  (List.range size.toNat).map fun (i : Nat) => cells (slot cap start i)

structure Holds (cap : Int) (cells : Int → α) (start stop size : Int) (xs : List α) : Prop where
  size_eq : size = xs.length
  fits : (xs.length : Int) ≤ cap
  start_nonneg : 0 ≤ start
  start_lt : start < cap
  stop_eq : stop = slot cap start xs.length
  cell : ∀ (i : Nat) (hi : i < xs.length), cells (slot cap start i) = xs[i]

variable {cap start stop size : Int} {cells : Int → α} {xs : List α}

lemma slot_nonneg {offset : Int} (h₀ : 0 ≤ start) (ho : 0 ≤ offset) : 0 ≤ slot cap start offset := by
  unfold slot
  split <;> omega

lemma slot_lt {offset : Int} (h₁ : start < cap) (ho : offset ≤ cap) :
    slot cap start offset < cap := by
  unfold slot
  split <;> omega

/-- Distinct offsets below one revolution denote distinct cells. -/
lemma slot_ne {i j : Int} (hi : 0 ≤ i) (hij : i < j) (hj : j < cap) :
    slot cap start i ≠ slot cap start j := by
  unfold slot
  split <;> split <;> omega

lemma next_slot {offset : Int} (h₁ : start < cap) (hc : offset < cap) :
    next cap (slot cap start offset) = slot cap start (offset + 1) := by
  unfold next slot
  split <;> split <;> split <;> omega

lemma slot_next {offset : Int} (h₁ : start < cap) (ho : 0 ≤ offset) (hc : offset < cap) :
    slot cap (next cap start) offset = slot cap start (offset + 1) := by
  unfold next slot
  split <;> split <;> split <;> omega

lemma next_nonneg {i : Int} (h₀ : 0 ≤ i) : 0 ≤ next cap i := by
  unfold next
  split <;> omega

lemma next_lt {i : Int} (h₁ : 0 < cap) : next cap i < cap := by
  unfold next
  split <;> omega

namespace Holds

lemma empty (cells : Int → α) (hcap : 0 < cap) : Holds cap cells 0 0 0 [] where
  size_eq := rfl
  fits := by simp only [List.length_nil]; omega
  start_nonneg := Int.le_refl 0
  start_lt := hcap
  stop_eq := by simp [slot, hcap]
  cell := by simp

lemma stop_nonneg (h : Holds cap cells start stop size xs) : 0 ≤ stop := by
  rw [h.stop_eq]
  exact slot_nonneg h.start_nonneg (by omega)

lemma stop_lt (h : Holds cap cells start stop size xs) : stop < cap := by
  rw [h.stop_eq]
  exact slot_lt h.start_lt h.fits

lemma contents_eq (h : Holds cap cells start stop size xs) : contents cap cells start size = xs := by
  apply List.ext_getElem
  · simp [contents, h.size_eq]
  · intro i h₁ h₂
    simp only [contents, List.getElem_map, List.getElem_range]
    exact h.cell i h₂

/-- The cell at the end of a ring that is not full is none of the occupied ones. -/
lemma cell_ne_stop (h : Holds cap cells start stop size xs) (hroom : (xs.length : Int) < cap)
    {i : Nat} (hi : i < xs.length) : slot cap start i ≠ stop := by
  rw [h.stop_eq]
  exact slot_ne (by omega) (by omega) hroom

/-- Writing the cell at the end and advancing the end index appends to the queue. -/
lemma put (h : Holds cap cells start stop size xs) (hroom : (xs.length : Int) < cap) (x : α) :
    Holds cap (Function.update cells stop x) start (next cap stop) (size + 1) (xs ++ [x]) where
  size_eq := by simp [h.size_eq]
  fits := by simp only [List.length_append, List.length_singleton]; omega
  start_nonneg := h.start_nonneg
  start_lt := h.start_lt
  stop_eq := by
    rw [h.stop_eq, next_slot h.start_lt hroom]
    simp
  cell := by
    intro i hi
    by_cases hlast : i < xs.length
    · rw [Function.update_of_ne (h.cell_ne_stop hroom hlast), h.cell i hlast,
        List.getElem_append_left hlast]
    · have hi' : i = xs.length := by
        simp only [List.length_append, List.length_singleton] at hi
        omega
      subst hi'
      rw [← h.stop_eq]
      simp

/-- Advancing the end index alone appends what the cell at the end contains. -/
lemma claim (h : Holds cap cells start stop size xs) (hroom : (xs.length : Int) < cap) :
    Holds cap cells start (next cap stop) (size + 1) (xs ++ [cells stop]) := by
  have hput := h.put hroom (cells stop)
  rwa [Function.update_eq_self] at hput

lemma head (h : Holds cap cells start stop size xs) {x : α} {ys : List α} (hx : xs = x :: ys) :
    cells start = x := by
  subst hx
  have h₀ := h.cell 0 (by simp)
  have hs : slot cap start (0 : Nat) = start := by
    have := h.start_lt
    unfold slot
    split <;> omega
  rw [hs] at h₀
  exact h₀

/-- Advancing the start index drops the first element of the queue. -/
lemma get (h : Holds cap cells start stop size xs) {x : α} {ys : List α} (hx : xs = x :: ys) :
    Holds cap cells (next cap start) stop (size - 1) ys := by
  subst hx
  have hfits := h.fits
  have hsize := h.size_eq
  simp only [List.length_cons] at hfits hsize
  refine ⟨by omega, by omega, next_nonneg h.start_nonneg, ?_, ?_, ?_⟩
  · exact next_lt (by have := h.start_nonneg; have := h.start_lt; omega)
  · rw [h.stop_eq, slot_next h.start_lt (by omega) (by omega)]
    simp
  · intro i hi
    rw [slot_next h.start_lt (by omega) (by omega)]
    have hc := h.cell (i + 1) (by simpa using hi)
    simpa using hc

end Holds

end RingBuffer
