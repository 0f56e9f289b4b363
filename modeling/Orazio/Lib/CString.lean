import Mathlib.Logic.Function.Basic
import Orazio.Lib.Stdio

/-!
# Strings in memory

A string of the C library is a text in a memory of characters with a NUL behind it. `sprintf` stores a text
that way and returns its length.
-/

namespace CString

open Stdio

abbrev Memory := Nat → Char

def nul : Char :=
  Char.ofNat 0

/-- The text and a NUL are stored from the address on. -/
def store (m : Memory) : Nat → Text → Memory
  | a, [] => Function.update m a nul
  | a, c :: t => store (Function.update m a c) (a + 1) t

/-- `sprintf` with a text that has been formatted: what it returns and the memory it leaves. -/
def sprintf (m : Memory) (a : Nat) (t : Text) : Nat × Memory :=
  (t.length, store m a t)

/-- The fields of a format, each with the characters in front of it, and the characters at the end. -/
def format (fields : List (String × Text)) (last : String) : Text :=
  fields.flatMap (fun field => field.1.toList ++ field.2) ++ last.toList

/-- The memory holds the text at the address. -/
def Holds (m : Memory) : Nat → Text → Prop
  | _, [] => True
  | a, c :: t => m a = c ∧ Holds m (a + 1) t

/-- The memory holds the text as a string, which ends with the first NUL. -/
structure IsString (m : Memory) (a : Nat) (t : Text) : Prop where
  holds : Holds m a t
  terminated : m (a + t.length) = nul
  free : nul ∉ t

lemma store_of_lt (m : Memory) {a b : Nat} (t : Text) (hb : b < a) : store m a t b = m b := by
  induction t generalizing m a with
  | nil => exact Function.update_of_ne (by omega) _ _
  | cons c t ih =>
    rw [store, ih _ (by omega)]
    exact Function.update_of_ne (by omega) _ _

lemma holds_store (m : Memory) (a : Nat) (t : Text) : Holds (store m a t) a t := by
  induction t generalizing m a with
  | nil => trivial
  | cons c t ih =>
    refine ⟨?_, ih _ _⟩
    rw [store, store_of_lt _ t (Nat.lt_succ_self a), Function.update_self]

lemma store_end (m : Memory) (a : Nat) (t : Text) : store m a t (a + t.length) = nul := by
  induction t generalizing m a with
  | nil => exact Function.update_self _ _ _
  | cons c t ih =>
    have hend : a + (c :: t).length = a + 1 + t.length := by
      rw [List.length_cons]
      omega
    rw [store, hend, ih]

/-- What `sprintf` stores is a string as long as it returns. -/
lemma isString_sprintf (m : Memory) (a : Nat) {t : Text} (ht : nul ∉ t) :
    IsString (sprintf m a t).2 a t :=
  ⟨holds_store m a t, store_end m a t, ht⟩

/-- A memory holds one string at an address. -/
lemma IsString.unique {m : Memory} {a : Nat} {t u : Text} (ht : IsString m a t) (hu : IsString m a u) :
    t = u := by
  induction t generalizing a u with
  | nil =>
    cases u with
    | nil => rfl
    | cons d u =>
      have hnul : m a = nul := ht.terminated
      rw [hu.holds.1] at hnul
      exact absurd (hnul ▸ List.mem_cons_self) hu.free
  | cons c t ih =>
    cases u with
    | nil =>
      have hnul : m a = nul := hu.terminated
      rw [ht.holds.1] at hnul
      exact absurd (hnul ▸ List.mem_cons_self) ht.free
    | cons d u =>
      have hc : c = d := ht.holds.1.symm.trans hu.holds.1
      have hrest : t = u := by
        apply ih (a := a + 1)
        · exact ⟨ht.holds.2, by rw [← ht.terminated, List.length_cons, Nat.add_right_comm, Nat.add_assoc],
            fun hmem => ht.free (List.mem_cons_of_mem c hmem)⟩
        · exact ⟨hu.holds.2, by rw [← hu.terminated, List.length_cons, Nat.add_right_comm, Nat.add_assoc],
            fun hmem => hu.free (List.mem_cons_of_mem d hmem)⟩
      rw [hc, hrest]

lemma nul_not_mem_append {t u : Text} (ht : nul ∉ t) (hu : nul ∉ u) : nul ∉ t ++ u := by
  rw [List.mem_append, not_or]
  exact ⟨ht, hu⟩

lemma nul_mem_format_cons (front : String) (value : Text) (fields : List (String × Text)) (last : String) :
    nul ∈ format ((front, value) :: fields) last ↔
      nul ∈ front.toList ∨ nul ∈ value ∨ nul ∈ format fields last := by
  simp only [format, List.flatMap_cons, List.mem_append, or_assoc]

/-! ### Conversions without a NUL -/

lemma nul_not_mem_toDigits {b : Nat} (hb : 1 < b) (n : Nat) : nul ∉ Nat.toDigits b n := by
  intro hmem
  have hall : ∀ c ∈ Nat.toDigits b n, c ≠ nul :=
    forall_mem_toDigits hb (forall_digitChar (P := fun c => c ≠ nul) (by decide) (by decide)) n
  exact hall nul hmem rfl

lemma nul_not_mem_zeroPad (width : Nat) {t : Text} (ht : nul ∉ t) : nul ∉ zeroPad width t := by
  apply nul_not_mem_append _ ht
  intro hmem
  exact absurd (List.eq_of_mem_replicate hmem) (by decide)

lemma nul_not_mem_signText (negative : Bool) : nul ∉ signText negative := by
  cases negative <;> decide

lemma nul_not_mem_printInt (z : Int) : nul ∉ printInt z :=
  nul_not_mem_append (nul_not_mem_signText _) (nul_not_mem_toDigits (by decide) _)

lemma nul_not_mem_printFixed (d : Nat) (x : Binary32) : nul ∉ printFixed d x := by
  apply nul_not_mem_append (nul_not_mem_signText _)
  split_ifs
  · apply nul_not_mem_append (nul_not_mem_toDigits (by decide) _)
    rw [List.mem_cons, not_or]
    exact ⟨by decide, nul_not_mem_zeroPad _ (nul_not_mem_toDigits (by decide) _)⟩
  · decide
  · decide

end CString
