import Mathlib.Data.List.Infix

/-!
# Common prefixes

The longest common prefix of two lists is their greatest lower bound in the order of prefixes, and so is
that of a list of lists.
-/

namespace CommonPrefix

variable {α : Type*} [DecidableEq α]

def meet : List α → List α → List α
  | a :: as, b :: bs => if a = b then a :: meet as bs else []
  | _, _ => []

/-- The prefixes of the longest common prefix are the common prefixes. -/
lemma prefix_meet_iff {l as bs : List α} : l <+: meet as bs ↔ l <+: as ∧ l <+: bs := by
  induction as generalizing l bs with
  | nil =>
    rw [meet]
    · exact ⟨fun h => ⟨h, h.trans List.nil_prefix⟩, fun h => h.1⟩
    · rintro a as b bs ⟨⟩
  | cons a as ih =>
    cases bs with
    | nil => exact ⟨fun h => ⟨h.trans List.nil_prefix, h⟩, fun h => h.2⟩
    | cons b bs =>
      cases l with
      | nil => exact ⟨fun _ => ⟨List.nil_prefix, List.nil_prefix⟩, fun _ => List.nil_prefix⟩
      | cons c l =>
        rw [meet, List.cons_prefix_cons, List.cons_prefix_cons]
        by_cases hab : a = b
        · subst hab
          rw [if_pos rfl, List.cons_prefix_cons, ih]
          exact ⟨fun h => ⟨⟨h.1, h.2.1⟩, h.1, h.2.2⟩, fun h => ⟨h.1.1, h.1.2, h.2.2⟩⟩
        · rw [if_neg hab]
          refine ⟨fun h => absurd (List.prefix_nil.mp h) (List.cons_ne_nil c l), fun h => ?_⟩
          exact absurd (h.1.1.symm.trans h.2.1) hab

/-- The longest common prefix of several lists. -/
lemma prefix_foldl_meet_iff {l as : List α} {lists : List (List α)} :
    l <+: lists.foldl meet as ↔ l <+: as ∧ ∀ bs ∈ lists, l <+: bs := by
  induction lists generalizing as with
  | nil => exact ⟨fun h => ⟨h, fun _ hb => absurd hb List.not_mem_nil⟩, fun h => h.1⟩
  | cons bs lists ih =>
    rw [List.foldl_cons, ih, prefix_meet_iff, List.forall_mem_cons, and_assoc]

end CommonPrefix
