import Mathlib.Data.List.Induction
import Mathlib.Data.List.Nodup

/-!
# Journals

A store that only appends entries, so that the last entry with a key counts. Compacting keeps one entry for
each key.
-/

namespace Journal

variable {κ ν : Type*} [DecidableEq κ]

/-- The value of the last entry with a key. -/
def latest (es : List (κ × ν)) (k : κ) : Option ν :=
  es.reverse.lookup k

/-- One entry for each of these keys that has a value, in their order. -/
def compact (keys : List κ) (es : List (κ × ν)) : List (κ × ν) :=
  keys.filterMap fun k => (latest es k).map (k, ·)

@[simp] lemma latest_nil (k : κ) : latest ([] : List (κ × ν)) k = none := rfl

lemma latest_concat (es : List (κ × ν)) (k k' : κ) (v : ν) :
    latest (es ++ [(k, v)]) k' = if k' = k then some v else latest es k' := by
  unfold latest
  rw [List.reverse_concat, List.lookup_cons]
  by_cases h : k' = k
  · rw [if_pos h, beq_iff_eq.mpr h]
  · rw [if_neg h, beq_eq_false_iff_ne.mpr h]

lemma latest_append (es es' : List (κ × ν)) (k : κ) :
    latest (es ++ es') k = (latest es' k).or (latest es k) := by
  rw [latest, List.reverse_append, List.lookup_append]
  rfl

lemma compact_concat (keys : List κ) (k : κ) (es : List (κ × ν)) :
    compact (keys ++ [k]) es = compact keys es ++ ((latest es k).map (k, ·)).toList := by
  unfold compact
  rw [List.filterMap_append]
  cases hlatest : latest es k with
  | none => simp [hlatest]
  | some v => simp [hlatest]

/-- Compacting keeps the values of its keys. -/
lemma latest_compact {keys : List κ} (hnodup : keys.Nodup) (es : List (κ × ν)) (k : κ) :
    latest (compact keys es) k = if k ∈ keys then latest es k else none := by
  induction keys using List.reverseRecOn with
  | nil => rfl
  | append_singleton keys k' ih =>
    rw [List.nodup_append_comm, List.singleton_append, List.nodup_cons] at hnodup
    rw [compact_concat]
    by_cases hk : k = k'
    · subst hk
      rw [if_pos (List.mem_append_right _ List.mem_cons_self)]
      cases hlatest : latest es k with
      | none =>
        rw [Option.map_none, Option.toList_none, List.append_nil, ih hnodup.2, if_neg hnodup.1]
      | some v => rw [Option.map_some, Option.toList_some, latest_concat, if_pos rfl]
    · have hmem : k ∈ keys ++ [k'] ↔ k ∈ keys := by
        rw [List.mem_append, List.mem_singleton, or_iff_left hk]
      simp only [hmem, ← ih hnodup.2]
      cases latest es k' with
      | none => rw [Option.map_none, Option.toList_none, List.append_nil]
      | some v => rw [Option.map_some, Option.toList_some, latest_concat, if_neg hk]

lemma length_compact_le (keys : List κ) (es : List (κ × ν)) : (compact keys es).length ≤ keys.length :=
  List.length_filterMap_le _ _

lemma mem_keys_of_mem_compact {keys : List κ} {es : List (κ × ν)} {e : κ × ν} (he : e ∈ compact keys es) :
    e.1 ∈ keys := by
  obtain ⟨k, hk, hmap⟩ := List.mem_filterMap.mp he
  obtain ⟨v, -, rfl⟩ := Option.map_eq_some_iff.mp hmap
  exact hk

lemma latest_of_mem_compact {keys : List κ} {es : List (κ × ν)} {e : κ × ν} (he : e ∈ compact keys es) :
    latest es e.1 = some e.2 := by
  obtain ⟨k, -, hmap⟩ := List.mem_filterMap.mp he
  obtain ⟨v, hv, rfl⟩ := Option.map_eq_some_iff.mp hmap
  exact hv

end Journal
