import Mathlib.Data.List.Induction

/-!
# Deterministic step machines

A machine reads one input at a time; a step either fails or returns an output and the next
state. `run` executes a list of inputs and collects the outputs. The rules below carry a
property of one step over to whole runs, with the inputs and outputs so far as history.
-/

namespace StepMachine

/-- Whether a computation returns a result with a decidable property is decided by running it. -/
instance decidableExistsOk {ε α : Type*} (x : Except ε α) (P : α → Prop) [DecidablePred P] :
    Decidable (∃ a, x = .ok a ∧ P a) :=
  match x with
  | .error _ => .isFalse (by simp)
  | .ok a => decidable_of_iff (P a) (by simp)

instance decidableExistsError {ε α : Type*} (x : Except ε α) (P : ε → Prop) [DecidablePred P] :
    Decidable (∃ e, x = .error e ∧ P e) :=
  match x with
  | .error e => decidable_of_iff (P e) (by simp)
  | .ok _ => .isFalse (by simp)

universe u v w x
variable {ε : Type u} {σ : Type v} {ι : Type w} {ο : Type x}

/-- The outputs and the last state of a machine fed with a list of inputs. -/
def run (step : σ → ι → Except ε (ο × σ)) : σ → List ι → Except ε (List ο × σ)
  | s, [] => .ok ([], s)
  | s, i :: is =>
    match step s i with
    | .error e => .error e
    | .ok (o, s') =>
      match run step s' is with
      | .error e => .error e
      | .ok (os, s'') => .ok (o :: os, s'')

variable {step : σ → ι → Except ε (ο × σ)}

@[simp] lemma run_nil (s : σ) : run step s [] = .ok ([], s) := rfl

lemma run_cons_eq_ok {s s'' : σ} {i : ι} {is : List ι} {os : List ο} :
    run step s (i :: is) = .ok (os, s'') ↔
      ∃ o s' os', step s i = .ok (o, s') ∧ run step s' is = .ok (os', s'') ∧ os = o :: os' := by
  rw [run]
  cases h : step s i with
  | error e => simp
  | ok r =>
    obtain ⟨o, s'⟩ := r
    cases hr : run step s' is with
    | error e =>
      simp only [hr]
      constructor
      · intro he
        cases he
      · rintro ⟨o₂, s₂, os₂, h₂, hr₂, -⟩
        cases h₂
        rw [hr] at hr₂
        cases hr₂
    | ok r =>
      obtain ⟨os', t⟩ := r
      simp only [hr]
      constructor
      · intro he
        cases he
        exact ⟨o, s', os', rfl, hr, rfl⟩
      · rintro ⟨o₂, s₂, os₂, h₂, hr₂, rfl⟩
        cases h₂
        rw [hr] at hr₂
        cases hr₂
        rfl

lemma run_append_eq_ok {s s'' : σ} {is js : List ι} {os : List ο} :
    run step s (is ++ js) = .ok (os, s'') ↔
      ∃ os₁ s' os₂, run step s is = .ok (os₁, s') ∧ run step s' js = .ok (os₂, s'') ∧
        os = os₁ ++ os₂ := by
  induction is generalizing s os with
  | nil =>
    constructor
    · intro h
      exact ⟨[], s, os, rfl, h, rfl⟩
    · rintro ⟨os₁, s', os₂, h₁, h₂, rfl⟩
      cases h₁
      simpa using h₂
  | cons i is ih =>
    rw [List.cons_append, run_cons_eq_ok]
    constructor
    · rintro ⟨o, s', os', hs, hr, rfl⟩
      obtain ⟨os₁, t, os₂, h₁, h₂, rfl⟩ := ih.mp hr
      exact ⟨o :: os₁, t, os₂, run_cons_eq_ok.mpr ⟨o, s', os₁, hs, h₁, rfl⟩, h₂, rfl⟩
    · rintro ⟨os₁, t, os₂, h₁, h₂, rfl⟩
      obtain ⟨o, s', os', hs, hr, rfl⟩ := run_cons_eq_ok.mp h₁
      exact ⟨o, s', os' ++ os₂, hs, ih.mpr ⟨os', t, os₂, hr, h₂, rfl⟩, rfl⟩

lemma run_concat_eq_ok {s s'' : σ} {is : List ι} {i : ι} {os : List ο} :
    run step s (is ++ [i]) = .ok (os, s'') ↔
      ∃ os' s' o, run step s is = .ok (os', s') ∧ step s' i = .ok (o, s'') ∧ os = os' ++ [o] := by
  rw [run_append_eq_ok]
  constructor
  · rintro ⟨os₁, s', os₂, h₁, h₂, rfl⟩
    obtain ⟨o, t, os', hs, hr, rfl⟩ := run_cons_eq_ok.mp h₂
    cases hr
    exact ⟨os₁, s', o, h₁, hs, rfl⟩
  · rintro ⟨os', s', o, h₁, hs, rfl⟩
    exact ⟨os', s', [o], h₁, run_cons_eq_ok.mpr ⟨o, s'', [], hs, rfl, rfl⟩, rfl⟩

lemma run_length {s s' : σ} {is : List ι} {os : List ο} (h : run step s is = .ok (os, s')) :
    os.length = is.length := by
  induction is generalizing s os with
  | nil => cases h; rfl
  | cons i is ih =>
    obtain ⟨o, t, os', -, hr, rfl⟩ := run_cons_eq_ok.mp h
    simp [ih hr]

/-- The part of a run that has a given part of the outputs. -/
lemma run_of_append_outputs {s s'' : σ} {is : List ι} {os₁ os₂ : List ο}
    (h : run step s is = .ok (os₁ ++ os₂, s'')) :
    ∃ is₁ is₂ s', is = is₁ ++ is₂ ∧ run step s is₁ = .ok (os₁, s') ∧ run step s' is₂ = .ok (os₂, s'') := by
  induction os₁ generalizing s is with
  | nil => exact ⟨[], is, s, rfl, rfl, h⟩
  | cons o os₁ ih =>
    cases is with
    | nil => cases h
    | cons i is =>
      obtain ⟨o', t, os', hs, hr, heq⟩ := run_cons_eq_ok.mp h
      cases heq
      obtain ⟨is₁, is₂, s', rfl, h₁, h₂⟩ := ih hr
      exact ⟨i :: is₁, is₂, s', rfl, run_cons_eq_ok.mpr ⟨o, t, os₁, hs, h₁, rfl⟩, h₂⟩

/-- The step of a run that has a given output. -/
lemma run_split {s s'' : σ} {is : List ι} {os₁ os₂ : List ο} {o : ο}
    (h : run step s is = .ok (os₁ ++ o :: os₂, s'')) :
    ∃ is₁ i is₂ s₁ s₂, is = is₁ ++ i :: is₂ ∧ run step s is₁ = .ok (os₁, s₁) ∧
      step s₁ i = .ok (o, s₂) ∧ run step s₂ is₂ = .ok (os₂, s'') := by
  obtain ⟨is₁, js, s₁, rfl, h₁, h₂⟩ := run_of_append_outputs h
  cases js with
  | nil => cases h₂
  | cons i is₂ =>
    obtain ⟨o', s₂, os', hs, hr, heq⟩ := run_cons_eq_ok.mp h₂
    cases heq
    exact ⟨is₁, i, is₂, s₁, s₂, rfl, h₁, hs, hr⟩

/-- Every step of a run has a property of its state, its input, its output and the next state. -/
def Always (step : σ → ι → Except ε (ο × σ)) (P : σ → ι → ο → σ → Prop) : σ → List ι → Prop
  | _, [] => True
  | s, i :: is =>
    match step s i with
    | .error _ => True
    | .ok (o, s') => P s i o s' ∧ Always step P s' is

lemma always_cons {P : σ → ι → ο → σ → Prop} {s s' : σ} {i : ι} {o : ο}
    (h : step s i = .ok (o, s')) (is : List ι) :
    Always step P s (i :: is) ↔ P s i o s' ∧ Always step P s' is := by
  rw [Always, h]

instance decidableAlways (P : σ → ι → ο → σ → Prop) [∀ s i o s', Decidable (P s i o s')] (s : σ)
    (is : List ι) : Decidable (Always step P s is) :=
  match is with
  | [] => .isTrue trivial
  | i :: is =>
    match h : step s i with
    | .error _ => .isTrue (by rw [Always, h]; trivial)
    | .ok (o, s') =>
      have := decidableAlways P s' is
      decidable_of_iff (P s i o s' ∧ Always step P s' is) (always_cons h is).symm

/-- A property of history and state that every step extends holds at the end of every run. -/
theorem run_history (P : List ι → List ο → σ → Prop) {s₀ : σ} (init : P [] [] s₀)
    (next : ∀ is os s i o s', P is os s → step s i = .ok (o, s') → P (is ++ [i]) (os ++ [o]) s')
    {is : List ι} {os : List ο} {s : σ} (h : run step s₀ is = .ok (os, s)) : P is os s := by
  induction is using List.reverseRecOn generalizing os s with
  | nil => cases h; exact init
  | append_singleton is i ih =>
    obtain ⟨os', s', o, hr, hs, rfl⟩ := run_concat_eq_ok.mp h
    exact next is os' s' i o s (ih hr) hs

/-- An invariant of the steps is an invariant of the runs. -/
theorem run_invariant (I : σ → Prop) {s₀ : σ} (init : I s₀)
    (next : ∀ s i o s', I s → step s i = .ok (o, s') → I s')
    {is : List ι} {os : List ο} {s : σ} (h : run step s₀ is = .ok (os, s)) : I s :=
  run_history (fun _ _ s => I s) init (fun _ _ s i o s' => next s i o s') h

/-- Steps that never fail as long as a property of history and state holds, and extend it, never
fail over a run. -/
theorem run_total_history (step : σ → ι → Except ε (ο × σ)) (P : List ι → List ο → σ → Prop) {s₀ : σ}
    (init : P [] [] s₀)
    (next : ∀ is os s i, P is os s →
      ∃ o s', step s i = .ok (o, s') ∧ P (is ++ [i]) (os ++ [o]) s') (is : List ι) :
    ∃ os s, run step s₀ is = .ok (os, s) ∧ P is os s := by
  induction is using List.reverseRecOn with
  | nil => exact ⟨[], s₀, rfl, init⟩
  | append_singleton is i ih =>
    obtain ⟨os, s, hr, hP⟩ := ih
    obtain ⟨o, s', hs, hP'⟩ := next is os s i hP
    exact ⟨_, s', run_concat_eq_ok.mpr ⟨os, s, o, hr, hs, rfl⟩, hP'⟩

/-- Steps that never fail from the states of an invariant never fail over a run. -/
theorem run_total (step : σ → ι → Except ε (ο × σ)) (I : σ → Prop) (s₀ : σ) (init : I s₀)
    (next : ∀ s i, I s → ∃ o s', step s i = .ok (o, s') ∧ I s') (is : List ι) :
    ∃ os s, run step s₀ is = .ok (os, s) ∧ I s :=
  run_total_history step (fun _ _ s => I s) init (fun _ _ s i => next s i) is

/-! ### Conditions along a run -/

/-- Every input of a run, also one that fails, is read in a state with a property of both. -/
def Along (step : σ → ι → Except ε (ο × σ)) (P : σ → ι → Prop) : σ → List ι → Prop
  | _, [] => True
  | s, i :: is =>
    P s i ∧ match step s i with
      | .error _ => True
      | .ok (_, s') => Along step P s' is

lemma along_cons {P : σ → ι → Prop} {s s' : σ} {i : ι} {o : ο} (h : step s i = .ok (o, s'))
    (is : List ι) : Along step P s (i :: is) ↔ P s i ∧ Along step P s' is := by
  rw [Along, h]

instance decidableAlong (P : σ → ι → Prop) [∀ s i, Decidable (P s i)] (s : σ) (is : List ι) :
    Decidable (Along step P s is) :=
  match is with
  | [] => .isTrue trivial
  | i :: is =>
    match h : step s i with
    | .error _ => decidable_of_iff (P s i) (by rw [Along, h, and_true])
    | .ok (_, s') =>
      have := decidableAlong P s' is
      decidable_of_iff (P s i ∧ Along step P s' is) (along_cons h is).symm

/-- A condition along a run that keeps an invariant, and what the invariant implies. -/
theorem along_of_invariant {P Q : σ → ι → Prop} {I : σ → Prop} (imp : ∀ s i, I s → Q s i → P s i)
    (next : ∀ s i o s', I s → Q s i → step s i = .ok (o, s') → I s') {s : σ} (init : I s) {is : List ι}
    (h : Along step Q s is) : Along step P s is := by
  induction is generalizing s with
  | nil => trivial
  | cons i is ih =>
    refine ⟨imp s i init h.1, ?_⟩
    cases hs : step s i with
    | error e => trivial
    | ok r =>
      obtain ⟨o, s'⟩ := r
      rw [along_cons hs] at h
      exact ih (next s i o s' init h.1 hs) h.2

/-- The invariant of the steps that meet a condition, at the end of a run along which all do. -/
theorem run_invariant_along {Q : σ → ι → Prop} {I : σ → Prop}
    (next : ∀ s i o s', I s → Q s i → step s i = .ok (o, s') → I s') {s s' : σ} (init : I s)
    {is : List ι} {os : List ο} (h : Along step Q s is) (hrun : run step s is = .ok (os, s')) : I s' := by
  induction is generalizing s os with
  | nil =>
    cases hrun
    exact init
  | cons i is ih =>
    obtain ⟨o, t, os', hs, hr, -⟩ := run_cons_eq_ok.mp hrun
    rw [along_cons hs] at h
    exact ih (next s i o t init h.1 hs) h.2 hr

lemma along_of_forall {P : σ → ι → Prop} {is : List ι} (h : ∀ i ∈ is, ∀ s, P s i) (s : σ) :
    Along step P s is := by
  induction is generalizing s with
  | nil => trivial
  | cons i is ih =>
    refine ⟨h i List.mem_cons_self s, ?_⟩
    split
    · trivial
    · exact ih (fun j hj => h j (List.mem_cons_of_mem i hj)) _

/-! ### Ranks -/

/-- An invariant of the steps on valid inputs is an invariant of the runs on them. -/
lemma run_invariant_of_valid {valid : ι → Prop} {I : σ → Prop}
    (next : ∀ s i o s', valid i → I s → step s i = .ok (o, s') → I s') {s s' : σ} {is : List ι}
    {os : List ο} (his : ∀ i ∈ is, valid i) (init : I s) (h : run step s is = .ok (os, s')) : I s' := by
  induction is generalizing s os with
  | nil =>
    cases h
    exact init
  | cons i is ih =>
    obtain ⟨o, t, os', hs, hr, -⟩ := run_cons_eq_ok.mp h
    exact ih (fun j hj => his j (List.mem_cons_of_mem i hj))
      (next s i o t (his i List.mem_cons_self) init hs) hr

universe z
variable {α : Type z}

/-- What a step with a valid input does to a rank; `observe` tells which steps count and `back` which of
these come back. -/
structure Ranked (step : σ → ι → Except ε (ο × σ)) (valid : ι → Prop) (I : σ → Prop) (rank : σ → ℕ)
    (observe : ο → Option α) (back : α → Prop) : Prop where
  invariant : ∀ s i o s', valid i → I s → step s i = .ok (o, s') → I s'
  le : ∀ s i o s', valid i → I s → step s i = .ok (o, s') → observe o = none → rank s' ≤ rank s
  lt : ∀ s i o s' a, valid i → I s → step s i = .ok (o, s') → observe o = some a → ¬back a →
    rank s' < rank s

variable {valid : ι → Prop} {I : σ → Prop} {rank : σ → ℕ} {observe : ο → Option α} {back : α → Prop}

/-- As long as no observed step comes back, each of them lowers the rank. -/
lemma Ranked.run_le (hrank : Ranked step valid I rank observe back) {s s' : σ} {is : List ι} {os : List ο}
    (his : ∀ i ∈ is, valid i) (init : I s) (h : run step s is = .ok (os, s'))
    (hback : ∀ a ∈ os.filterMap observe, ¬back a) :
    rank s' + (os.filterMap observe).length ≤ rank s := by
  induction is generalizing s os with
  | nil =>
    cases h
    exact Nat.le_refl _
  | cons i is ih =>
    obtain ⟨o, t, os', hs, hr, rfl⟩ := run_cons_eq_ok.mp h
    have hi := his i List.mem_cons_self
    have hrest : ∀ j ∈ is, valid j := fun j hj => his j (List.mem_cons_of_mem i hj)
    have hI := hrank.invariant s i o t hi init hs
    cases hobs : observe o with
    | none =>
      rw [List.filterMap_cons_none hobs] at hback ⊢
      exact Nat.le_trans (ih hrest hI hr hback) (hrank.le s i o t hi init hs hobs)
    | some a =>
      rw [List.filterMap_cons_some hobs] at hback ⊢
      have hle := ih hrest hI hr fun b hb => hback b (List.mem_cons_of_mem a hb)
      have hlt := hrank.lt s i o t a hi init hs hobs (hback a List.mem_cons_self)
      rw [List.length_cons]
      omega

/-- With ranks from 1 to n, one of any n consecutive observed steps comes back. -/
theorem Ranked.comes_back (hrank : Ranked step valid I rank observe back) (pos : ∀ s, I s → 0 < rank s)
    {n : ℕ} (le : ∀ s, I s → rank s ≤ n) {s s' : σ} {is : List ι} {os : List ο}
    (his : ∀ i ∈ is, valid i) (init : I s) (h : run step s is = .ok (os, s')) {window : List α}
    (hwindow : window <:+: os.filterMap observe) (hlen : n ≤ window.length) : ∃ a ∈ window, back a := by
  by_contra hnone
  push Not at hnone
  obtain ⟨before, after, heq⟩ := hwindow
  obtain ⟨os₁, os₃, rfl, hos₁, -⟩ := List.append_eq_filterMap_iff.mp heq
  obtain ⟨os₀, os₂, rfl, -, rfl⟩ := List.filterMap_eq_append_iff.mp hos₁
  obtain ⟨is₁, is₃, t, rfl, hr₁, -⟩ := run_of_append_outputs h
  obtain ⟨is₀, is₂, t₀, rfl, hr₀, hr₂⟩ := run_of_append_outputs hr₁
  have hI₀ : I t₀ := run_invariant_of_valid hrank.invariant
    (fun i hi => his i (List.mem_append_left _ (List.mem_append_left _ hi))) init hr₀
  have his₂ : ∀ i ∈ is₂, valid i :=
    fun i hi => his i (List.mem_append_left _ (List.mem_append_right _ hi))
  have hI : I t := run_invariant_of_valid hrank.invariant his₂ hI₀ hr₂
  have hdrop := hrank.run_le his₂ hI₀ hr₂ hnone
  have hpos := pos t hI
  have hle := le t₀ hI₀
  omega

/-! ### Latches -/

/-- A flag beside a run, which some steps set and others reset. -/
def latch (step : σ → ι → Except ε (ο × σ)) (set reset : σ → ι → Bool) : Bool → σ → List ι → Bool
  | b, _, [] => b
  | b, s, i :: is =>
    match step s i with
    | .error _ => b
    | .ok (_, s') => latch step set reset (set s i || (b && !reset s i)) s' is

lemma latch_concat (set reset : σ → ι → Bool) (b : Bool) {s t t' : σ} {is : List ι} {os : List ο}
    {i : ι} {o : ο} (h : run step s is = .ok (os, t)) (hs : step t i = .ok (o, t')) :
    latch step set reset b s (is ++ [i]) = (set t i || (latch step set reset b s is && !reset t i)) := by
  induction is generalizing s os b with
  | nil =>
    cases h
    simp only [List.nil_append, latch, hs]
  | cons j is ih =>
    obtain ⟨o₁, s₁, os₁, hj, hr, rfl⟩ := run_cons_eq_ok.mp h
    simp only [List.cons_append, latch, hj]
    exact ih _ hr

/-! ### Abstract states -/

universe y
variable {ν : Type y}

/-- Each input is safe in the abstract state that the inputs before it lead to. -/
def SafeInputs (next : ν → ι → ν) (safe : ν → ι → Prop) : ν → List ι → Prop
  | _, [] => True
  | v, i :: is => safe v i ∧ SafeInputs next safe (next v i) is

instance decidableSafeInputs (next : ν → ι → ν) (safe : ν → ι → Prop) [∀ v i, Decidable (safe v i)]
    (v : ν) (is : List ι) : Decidable (SafeInputs next safe v is) :=
  match is with
  | [] => .isTrue trivial
  | i :: is =>
    have := decidableSafeInputs next safe (next v i) is
    inferInstanceAs (Decidable (safe v i ∧ SafeInputs next safe (next v i) is))

lemma safeInputs_concat (next : ν → ι → ν) (safe : ν → ι → Prop) (v : ν) (is : List ι) (i : ι) :
    SafeInputs next safe v (is ++ [i]) ↔ SafeInputs next safe v is ∧ safe (is.foldl next v) i := by
  induction is generalizing v with
  | nil => exact and_comm
  | cons j is ih => rw [List.cons_append, SafeInputs, SafeInputs, ih, List.foldl_cons, and_assoc]

/-- A machine that follows its abstract states and fails on unsafe inputs returns exactly on safe
inputs. -/
theorem run_returns_iff (step : σ → ι → Except ε (ο × σ)) (view : σ → ν) (next : ν → ι → ν)
    (safe : ν → ι → Prop) (I : ν → Prop) (invariant : ∀ v i, I v → safe v i → I (next v i))
    (accepts : ∀ s i, I (view s) → safe (view s) i → ∃ o s', step s i = .ok (o, s') ∧ view s' = next (view s) i)
    (rejects : ∀ s i, I (view s) → ¬safe (view s) i → ∃ e, step s i = .error e) (s : σ) (init : I (view s))
    (is : List ι) : (∃ os s', run step s is = .ok (os, s')) ↔ SafeInputs next safe (view s) is := by
  induction is generalizing s with
  | nil => exact ⟨fun _ => trivial, fun _ => ⟨[], s, rfl⟩⟩
  | cons i is ih =>
    by_cases hsafe : safe (view s) i
    · obtain ⟨o, s', hs, hview⟩ := accepts s i init hsafe
      have hrest := ih s' (by rw [hview]; exact invariant _ i init hsafe)
      rw [hview] at hrest
      constructor
      · rintro ⟨os, s'', hrun⟩
        obtain ⟨o', t, os', hs', hr, -⟩ := run_cons_eq_ok.mp hrun
        rw [hs] at hs'
        cases hs'
        exact ⟨hsafe, hrest.mp ⟨os', s'', hr⟩⟩
      · rintro ⟨-, hsafes⟩
        obtain ⟨os, s'', hr⟩ := hrest.mpr hsafes
        exact ⟨o :: os, s'', run_cons_eq_ok.mpr ⟨o, s', os, hs, hr, rfl⟩⟩
    · obtain ⟨e, he⟩ := rejects s i init hsafe
      constructor
      · rintro ⟨os, s'', hrun⟩
        obtain ⟨o', t, os', hs', -⟩ := run_cons_eq_ok.mp hrun
        rw [he] at hs'
        cases hs'
      · rintro ⟨hsafe', -⟩
        exact absurd hsafe' hsafe

/-! ### Machines that never fail -/

/-- The outputs of a machine that never fails. -/
def outputs (step : σ → ι → ο × σ) : σ → List ι → List ο
  | _, [] => []
  | s, i :: is => (step s i).1 :: outputs step (step s i).2 is

universe v'
variable {τ : Type v'}

/-- Related states of two machines that answer every input alike, and stay related, have the same outputs. -/
theorem outputs_eq_of_related {step : σ → ι → ο × σ} {step' : τ → ι → ο × τ} (R : σ → τ → Prop)
    (next : ∀ s t i, R s t → (step s i).1 = (step' t i).1 ∧ R (step s i).2 (step' t i).2) {s : σ} {t : τ}
    (h : R s t) (is : List ι) : outputs step s is = outputs step' t is := by
  induction is generalizing s t with
  | nil => rfl
  | cons i is ih =>
    obtain ⟨hout, hnext⟩ := next s t i h
    rw [outputs, outputs, hout, ih hnext]

end StepMachine
