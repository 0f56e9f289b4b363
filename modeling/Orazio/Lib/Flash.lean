import Mathlib.Data.List.GetD
import Mathlib.Data.List.Induction
import Mathlib.Tactic.Common

/-!
# Flash memory

Programming a word can only clear bits, and erasing sets all bits of a page. A log of operations can stop
between any two of them.
-/

namespace Flash

/-- Words of a flash memory, with the value of an erased one and what programming a word leaves. -/
class Word (β : Type*) where
  erased : β
  program : β → β → β
  program_erased : ∀ w, program erased w = w
  program_blank : ∀ w, program w erased = w

open Word

/-- The words of a row are programmed from an address on. -/
inductive Op (β : Type*)
  | program (address : ℕ) (words : List β)
  | erase (page : ℕ)
  deriving DecidableEq

variable {β : Type*}

def Op.isErase : Op β → Bool
  | .program _ _ => false
  | .erase _ => true

/-- The number of pages that a log erases. -/
def erasures (ops : List (Op β)) : ℕ := ops.countP Op.isErase

lemma erasures_append (ops ops' : List (Op β)) : erasures (ops ++ ops') = erasures ops + erasures ops' :=
  List.countP_append

lemma erasures_cons (op : Op β) (ops : List (Op β)) : erasures (op :: ops) = erasures [op] + erasures ops :=
  erasures_append [op] ops

lemma erasures_eq_zero {ops : List (Op β)} (h : ∀ op ∈ ops, op.isErase = false) : erasures ops = 0 := by
  rw [erasures, List.countP_eq_zero]
  intro op hop
  rw [h op hop]
  exact Bool.false_ne_true

variable [Word β]

/-- The memory after an operation, with pages of `size` words. -/
def Op.apply (size : ℕ) (op : Op β) (m : ℕ → β) (x : ℕ) : β :=
  match op with
  | .program address words =>
    if address ≤ x then Word.program (m x) (words.getD (x - address) erased) else m x
  | .erase page => if x / size = page then erased else m x

def apply (size : ℕ) (ops : List (Op β)) (m : ℕ → β) : ℕ → β :=
  ops.foldl (fun m op => op.apply size m) m

/-- The operation programs no word that is not erased. -/
def Op.Clean (m : ℕ → β) : Op β → Prop
  | .program address words => ∀ i < words.length, m (address + i) = erased
  | .erase _ => True

/-- No operation of a log programs a word that is not erased when its turn comes. -/
def CleanLog (size : ℕ) (m : ℕ → β) : List (Op β) → Prop
  | [] => True
  | op :: ops => op.Clean m ∧ CleanLog size (op.apply size m) ops

variable {size : ℕ} {m : ℕ → β}

/-- The operation changes only the first pages. -/
def Op.Within (size pages : ℕ) : Op β → Prop
  | .program address words => address + words.length ≤ size * pages
  | .erase page => page < pages

lemma apply_append (ops ops' : List (Op β)) (m : ℕ → β) :
    apply size (ops ++ ops') m = apply size ops' (apply size ops m) :=
  List.foldl_append

lemma apply_concat (ops : List (Op β)) (op : Op β) (m : ℕ → β) :
    apply size (ops ++ [op]) m = op.apply size (apply size ops m) :=
  apply_append ops [op] m

lemma cleanLog_append (ops ops' : List (Op β)) (m : ℕ → β) :
    CleanLog size m (ops ++ ops') ↔ CleanLog size m ops ∧ CleanLog size (apply size ops m) ops' := by
  induction ops generalizing m with
  | nil => exact (iff_of_eq (true_and _)).symm
  | cons op ops ih =>
    rw [List.cons_append, CleanLog, CleanLog, ih, and_assoc]
    rfl

lemma cleanLog_singleton (op : Op β) (m : ℕ → β) : CleanLog size m [op] ↔ op.Clean m :=
  iff_of_eq (and_true _)

lemma program_outside {address x : ℕ} {words : List β} (h : x < address ∨ address + words.length ≤ x) :
    (Op.program address words).apply size m x = m x := by
  rw [Op.apply]
  split
  · rw [List.getD_eq_default _ _ (by omega), program_blank]
  · rfl

lemma program_inside {address i : ℕ} {words : List β} (herased : m (address + i) = erased) :
    (Op.program address words).apply size m (address + i) = words.getD i erased := by
  rw [Op.apply, if_pos (Nat.le_add_right address i), herased, program_erased, Nat.add_sub_cancel_left]

lemma erase_outside {page x : ℕ} (h : x / size ≠ page) : (Op.erase page).apply size m x = m x :=
  if_neg h

lemma erase_inside {page x : ℕ} (h : x / size = page) : (Op.erase page).apply size m x = erased :=
  if_pos h

lemma Op.Within.apply_eq {pages x : ℕ} {op : Op β} (h : op.Within size pages) (hsize : 0 < size)
    (hx : size * pages ≤ x) : op.apply size m x = m x := by
  cases op with
  | program address words => exact program_outside (Or.inr (Nat.le_trans h hx))
  | erase page =>
    apply erase_outside
    have hlt : page < pages := h
    have hle : pages ≤ x / size := by
      rw [Nat.le_div_iff_mul_le hsize, Nat.mul_comm]
      exact hx
    exact Nat.ne_of_gt (Nat.lt_of_lt_of_le hlt hle)

/-- Operations on the first pages leave the memory behind them as it is. -/
lemma apply_eq_of_within {pages x : ℕ} {ops : List (Op β)} (h : ∀ op ∈ ops, op.Within size pages)
    (hsize : 0 < size) (hx : size * pages ≤ x) : apply size ops m x = m x := by
  induction ops using List.reverseRecOn with
  | nil => rfl
  | append_singleton ops op ih =>
    rw [apply_concat, (h op (List.mem_append_right _ List.mem_cons_self)).apply_eq hsize hx]
    exact ih fun op' hop' => h op' (List.mem_append_left _ hop')

end Flash
