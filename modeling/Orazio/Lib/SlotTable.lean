import Mathlib.Data.List.Nodup
import Mathlib.Data.List.Perm.Basic
import Mathlib.Data.List.ReduceOption

/-!
# Tables with free entries

A table has a fixed number of entries, which are free or hold an element. An element is put into the first
free entry, if there is one, and removed by clearing the first entry that holds it.
-/

namespace SlotTable

variable {α : Type*}

def insert (c : α) (t : List (Option α)) : List (Option α) :=
  match t.findIdx? (· = none) with
  | none => t
  | some i => t.set i (some c)

lemma length_insert (c : α) (t : List (Option α)) : (insert c t).length = t.length := by
  unfold insert
  split
  · rfl
  · exact List.length_set

lemma insert_cons_none (c : α) (t : List (Option α)) : insert c (none :: t) = some c :: t := by
  rw [insert, List.findIdx?_cons]
  rfl

lemma insert_cons_some (c a : α) (t : List (Option α)) : insert c (some a :: t) = some a :: insert c t := by
  rw [insert, insert, List.findIdx?_cons, if_neg (by simp)]
  cases t.findIdx? (· = none) <;> rfl

/-- An element goes into a table that has a free entry. -/
lemma insert_perm {c : α} {t : List (Option α)} (h : t.reduceOption.length < t.length) :
    (insert c t).reduceOption.Perm (c :: t.reduceOption) := by
  induction t with
  | nil => exact absurd h (Nat.lt_irrefl 0)
  | cons x t ih =>
    cases x with
    | none =>
      rw [insert_cons_none]
      exact .refl _
    | some a =>
      rw [List.reduceOption_cons_of_some, List.length_cons, List.length_cons] at h
      rw [insert_cons_some, List.reduceOption_cons_of_some, List.reduceOption_cons_of_some]
      exact ((ih (by omega)).cons a).trans (.swap c a _)

/-- A full table is left as it is. -/
lemma insert_full {c : α} {t : List (Option α)} (h : t.length ≤ t.reduceOption.length) : insert c t = t := by
  induction t with
  | nil => rfl
  | cons x t ih =>
    cases x with
    | none =>
      have hle := List.reduceOption_length_le t
      rw [List.reduceOption_cons_of_none, List.length_cons] at h
      omega
    | some a =>
      rw [List.reduceOption_cons_of_some, List.length_cons, List.length_cons] at h
      rw [insert_cons_some, ih (by omega)]

section

variable [DecidableEq α]

def remove (c : α) (t : List (Option α)) : List (Option α) :=
  match t.findIdx? (· = some c) with
  | none => t
  | some i => t.set i none

lemma length_remove (c : α) (t : List (Option α)) : (remove c t).length = t.length := by
  unfold remove
  split
  · rfl
  · exact List.length_set

lemma remove_cons_self (c : α) (t : List (Option α)) : remove c (some c :: t) = none :: t := by
  rw [remove, List.findIdx?_cons, if_pos (by simp)]
  rfl

lemma remove_cons_of_ne {c : α} {x : Option α} (h : x ≠ some c) (t : List (Option α)) :
    remove c (x :: t) = x :: remove c t := by
  rw [remove, remove, List.findIdx?_cons, if_neg (by simpa using h)]
  cases t.findIdx? (· = some c) <;> rfl

lemma reduceOption_remove (c : α) (t : List (Option α)) :
    (remove c t).reduceOption = t.reduceOption.erase c := by
  induction t with
  | nil => rfl
  | cons x t ih =>
    cases x with
    | none => rw [remove_cons_of_ne (by simp), List.reduceOption_cons_of_none, ih, List.reduceOption_cons_of_none]
    | some a =>
      by_cases ha : a = c
      · subst ha
        rw [remove_cons_self, List.reduceOption_cons_of_none, List.reduceOption_cons_of_some, List.erase_cons_head]
      · rw [remove_cons_of_ne (by simpa using ha), List.reduceOption_cons_of_some, ih,
          List.reduceOption_cons_of_some, List.erase_cons_tail (by simpa using ha)]

end

/-! ### Tables that follow a set -/

/-- The table holds some of the elements, each once, and all of them as long as there were never too many. -/
structure Tracks (t : List (Option α)) (elements : List α) (few : Prop) : Prop where
  nodup : t.reduceOption.Nodup
  subset : ∀ c ∈ t.reduceOption, c ∈ elements
  perm : few → t.reduceOption.Perm elements

lemma tracks_empty (n : Nat) (few : Prop) : Tracks (List.replicate n (none : Option α)) [] few := by
  have hempty : (List.replicate n (none : Option α)).reduceOption = [] := List.reduceOption_replicate_none
  constructor
  · rw [hempty]
    exact .nil
  · rw [hempty]
    exact fun _ h => h
  · rw [hempty]
    exact fun _ => .refl _

lemma Tracks.insert {t : List (Option α)} {elements : List α} {few few' : Prop} (h : Tracks t elements few) {c : α}
    (hnew : c ∉ elements) (hfew : few' → few ∧ elements.length < t.length) :
    Tracks (insert c t) (c :: elements) few' := by
  have hnot : c ∉ t.reduceOption := fun hmem => hnew (h.subset c hmem)
  by_cases hroom : t.reduceOption.length < t.length
  · have hperm := insert_perm (c := c) hroom
    refine ⟨hperm.nodup_iff.mpr (List.nodup_cons.mpr ⟨hnot, h.nodup⟩), ?_, fun hf => ?_⟩
    · intro a ha
      obtain rfl | ha := List.mem_cons.mp (hperm.mem_iff.mp ha)
      · exact List.mem_cons_self
      · exact List.mem_cons_of_mem c (h.subset a ha)
    · exact hperm.trans ((h.perm (hfew hf).1).cons c)
  · rw [insert_full (Nat.le_of_not_lt hroom)]
    refine ⟨h.nodup, fun a ha => List.mem_cons_of_mem c (h.subset a ha), fun hf => ?_⟩
    obtain ⟨hold, hlt⟩ := hfew hf
    rw [← (h.perm hold).length_eq] at hlt
    exact absurd hlt hroom

lemma Tracks.remove [DecidableEq α] {t : List (Option α)} {elements : List α} {few few' : Prop}
    (h : Tracks t elements few) (c : α) (hfew : few' → few) : Tracks (remove c t) (elements.erase c) few' := by
  have hentries := reduceOption_remove c t
  constructor
  · rw [hentries]
    exact h.nodup.erase c
  · rw [hentries]
    intro a ha
    rw [h.nodup.mem_erase_iff] at ha
    exact (List.mem_erase_of_ne ha.1).mpr (h.subset a ha.2)
  · rw [hentries]
    exact fun hf => (h.perm (hfew hf)).erase c

end SlotTable
