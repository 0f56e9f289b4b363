import Orazio.Lib.StepMachine
import Orazio.Lib.Winding
import Orazio.Model.Encoder

/-!
# Quadrature decoding

The pins of an encoder walk on a cycle of four states. As long as they change one at a time, the count
is the end of the lift of that walk to the integers, modulo 2^16.
-/

namespace Orazio.Proofs

open Winding

/-! ### Pins and phases -/

/-- The pins of an encoder in a sample of the port. -/
def newPinState (i : Fin NUM_ENCODERS) (pinb : UInt8) : UInt8 :=
  if i.val = 0 then (pinb &&& ENCODER_MASK) &&& 0x3 else (pinb &&& ENCODER_MASK) >>> 2

/-- The position of a state of the pins on the cycle 00, 10, 11, 01. -/
def phase (pinState : UInt8) : ZMod 4 :=
  if pinState = 0b00 then 0 else if pinState = 0b10 then 1 else if pinState = 0b11 then (2 : ℕ) else (3 : ℕ)

/-- At most one of the two pins changes. -/
def ChangesOne (old new : UInt8) : Prop :=
  old ^^^ new = 0 ∨ old ^^^ new = 1 ∨ old ^^^ new = 2

instance (old new : UInt8) : Decidable (ChangesOne old new) :=
  inferInstanceAs (Decidable (_ ∨ _ ∨ _))

lemma newPinState_lt (i : Fin NUM_ENCODERS) (pinb : UInt8) : (newPinState i pinb).toNat < 4 := by
  unfold newPinState
  have hmask : (pinb &&& ENCODER_MASK).toNat < 16 := by
    rw [UInt8.toNat_and]
    exact lt_of_le_of_lt Nat.and_le_right (by decide)
  split
  · rw [UInt8.toNat_and]
    exact lt_of_le_of_lt Nat.and_le_right (by decide)
  · rw [UInt8.toNat_shiftRight, show ((2 : UInt8).toNat % 8) = 2 from rfl, Nat.shiftRight_eq_div_pow]
    omega

/-- The table of transitions follows the turns of the cycle. -/
lemma transitionTable_turns : ∀ old : Fin 4, ∀ new : Fin 4,
    transitionTable[((UInt8.ofNat old <<< 2) ||| UInt8.ofNat new).toNat]? ≠ none ∧
      ∀ step ∈ transitionTable[((UInt8.ofNat old <<< 2) ||| UInt8.ofNat new).toNat]?,
        ChangesOne (UInt8.ofNat old) (UInt8.ofNat new) →
          Neighbours (phase (UInt8.ofNat old)) (phase (UInt8.ofNat new)) ∧
            step.toInt = turn (phase (UInt8.ofNat old)) (phase (UInt8.ofNat new)) := by
  decide +kernel

/-! ### One encoder -/

lemma exists_fin_of_lt {x : UInt8} (hx : x.toNat < 4) : ∃ k : Fin 4, x = UInt8.ofNat k :=
  ⟨⟨x.toNat, hx⟩, by simp⟩

lemma transition_spec {e : Encoder} {new : UInt8} (hold : e.pinState.toNat < 4) (hnew : new.toNat < 4) :
    ∃ e', e.transition new = .ok e' ∧ e'.pinState = new ∧
      (ChangesOne e.pinState new → Neighbours (phase e.pinState) (phase new) ∧
        e'.currentValue = e.currentValue + .ofInt (turn (phase e.pinState) (phase new))) := by
  obtain ⟨j, hj⟩ := exists_fin_of_lt hold
  obtain ⟨k, hk⟩ := exists_fin_of_lt hnew
  obtain ⟨hsome, hturn⟩ := transitionTable_turns j k
  rw [← hj, ← hk] at hsome hturn
  obtain ⟨step, hstep⟩ := Option.ne_none_iff_exists'.mp hsome
  have htransition : e.transition new = .ok
      { e with currentValue := e.currentValue + .ofInt step.toInt, pinState := new } := by
    simp only [Encoder.transition, hstep]
  refine ⟨_, htransition, rfl, ?_⟩
  intro hone
  obtain ⟨hnear, heq⟩ := hturn step hstep hone
  exact ⟨hnear, by rw [heq]⟩

/-- The interrupt as a step of one encoder. -/
def transitionStep (e : Encoder) (new : UInt8) : Except Fault (Unit × Encoder) :=
  match e.transition new with
  | .error fault => .error fault
  | .ok e' => .ok ((), e')

/-- From pins on, the states change one pin at a time. -/
def OneAtATime (pinState : UInt8) (states : List UInt8) : Prop :=
  (pinState :: states).IsChain ChangesOne

lemma transitionStep_run {e : Encoder} {states : List UInt8} (hold : e.pinState.toNat < 4)
    (hstates : ∀ new ∈ states, new.toNat < 4) :
    ∃ u e', StepMachine.run transitionStep e states = .ok (u, e') ∧
      e'.pinState = states.getLastD e.pinState ∧
      (OneAtATime e.pinState states →
        (phase e.pinState :: states.map phase).IsChain Neighbours ∧
          e'.currentValue = e.currentValue + .ofInt (winding (phase e.pinState) (states.map phase))) := by
  induction states generalizing e with
  | nil => exact ⟨[], e, rfl, rfl, fun _ => ⟨List.isChain_singleton _, (UInt16.add_zero _).symm⟩⟩
  | cons new states ih =>
    obtain ⟨e₁, htransition, hpin, hone⟩ := transition_spec hold (hstates new List.mem_cons_self)
    obtain ⟨u, e', hrun, hlast, hcount⟩ := ih (e := e₁) (by rw [hpin]; exact hstates new List.mem_cons_self)
      (fun m hm => hstates m (List.mem_cons_of_mem new hm))
    have hstep : transitionStep e new = .ok ((), e₁) := by
      rw [transitionStep, htransition]
    refine ⟨_, e', StepMachine.run_cons_eq_ok.mpr ⟨(), e₁, u, hstep, hrun, rfl⟩, ?_, ?_⟩
    · rw [List.getLastD_cons, hlast, hpin]
    · intro hchain
      obtain ⟨hfirst, hrest⟩ := List.isChain_cons_cons.mp hchain
      obtain ⟨hnear, hvalue⟩ := hone hfirst
      rw [hpin] at hcount
      obtain ⟨hwalk, hcount⟩ := hcount hrest
      refine ⟨List.isChain_cons_cons.mpr ⟨hnear, hwalk⟩, ?_⟩
      rw [hcount, hvalue, List.map_cons, winding, UInt16.ofInt_add, UInt16.add_assoc]

/-! ### The interrupt -/

def isrStep (encoders : Encoders) (pinb : UInt8) : Except Fault (Unit × Encoders) :=
  match PCINT0_vect encoders pinb with
  | .error fault => .error fault
  | .ok encoders' => .ok ((), encoders')

/-- The interrupt makes the transitions of both encoders, each with its own pins. -/
lemma isrStep_of_transitions {encoders encoders' : Encoders} {pinb : UInt8}
    (h : ∀ i, transitionStep (encoders i) (newPinState i pinb) = .ok ((), encoders' i)) :
    isrStep encoders pinb = .ok ((), encoders') := by
  have hok : ∀ i, (encoders i).transition (newPinState i pinb) = .ok (encoders' i) := by
    intro i
    have hi := h i
    unfold transitionStep at hi
    split at hi
    · cases hi
    · next htransition =>
      cases hi
      exact htransition
  have h₀ : (encoders 0).transition ((pinb &&& ENCODER_MASK) &&& 0x3) = .ok (encoders' 0) := hok 0
  have h₁ : (encoders 1).transition ((pinb &&& ENCODER_MASK) >>> 2) = .ok (encoders' 1) := hok 1
  have hupdate : Function.update (Function.update encoders 0 (encoders' 0)) 1 (encoders' 1) =
      encoders' := by
    funext i
    match i with
    | 0 => rfl
    | 1 => rfl
  simp only [isrStep, PCINT0_vect, h₀, h₁, hupdate]

lemma isrStep_run {encoders : Encoders} (hold : ∀ i, (encoders i).pinState.toNat < 4)
    (ports : List UInt8) :
    ∃ u encoders', StepMachine.run isrStep encoders ports = .ok (u, encoders') ∧
      (∀ i, StepMachine.run transitionStep (encoders i) (ports.map (newPinState i)) =
        .ok (u, encoders' i)) ∧ ∀ i, (encoders' i).pinState.toNat < 4 := by
  induction ports generalizing encoders with
  | nil => exact ⟨[], encoders, rfl, fun _ => rfl, hold⟩
  | cons pinb ports ih =>
    have hstep : ∀ i, ∃ e, transitionStep (encoders i) (newPinState i pinb) = .ok ((), e) ∧
        e.pinState = newPinState i pinb := by
      intro i
      obtain ⟨e, htransition, hpin, -⟩ := transition_spec (hold i) (newPinState_lt i pinb)
      exact ⟨e, by rw [transitionStep, htransition], hpin⟩
    choose encoders₁ htransition hpin using hstep
    have hnext : ∀ i, (encoders₁ i).pinState.toNat < 4 := by
      intro i
      rw [hpin]
      exact newPinState_lt i pinb
    obtain ⟨u, encoders', hrun, heach, hlast⟩ := ih hnext
    refine ⟨() :: u, encoders', StepMachine.run_cons_eq_ok.mpr
      ⟨(), encoders₁, u, isrStep_of_transitions htransition, hrun, rfl⟩, ?_, hlast⟩
    intro i
    exact StepMachine.run_cons_eq_ok.mpr ⟨(), encoders₁ i, u, htransition i, heach i, rfl⟩

/-! ### Counts -/

/-- What a count of an encoder says of the states that its pins went through from 00 on. -/
structure CountsWinding (states : List UInt8) (e : Encoder) : Prop where
  lift : ∃! ls, Lifts 0 ls (states.map phase)
  count : ∀ ls, Lifts 0 ls (states.map phase) → e.currentValue = .ofInt (ls.getLastD 0)
  phase : (e.currentValue.toNat : ZMod 4) = phase e.pinState

lemma cast_toNat_ofInt (z : ℤ) : ((UInt16.ofInt z).toNat : ZMod 4) = z := by
  have hmod : ((UInt16.ofInt z).toNat : ℤ) = z % 65536 := by
    rw [UInt16.ofInt, UInt16.toNat_ofNat']
    omega
  rw [← Int.cast_natCast, hmod, ZMod.intCast_eq_intCast_iff_dvd_sub]
  omega

lemma countsWinding {states : List UInt8} {e : Encoder} {u : List Unit}
    (hstates : ∀ new ∈ states, new.toNat < 4) (hone : OneAtATime 0 states)
    (hrun : StepMachine.run transitionStep ⟨0, 0, 0⟩ states = .ok (u, e)) : CountsWinding states e := by
  obtain ⟨u', e', hrun', hlast, hcount⟩ := transitionStep_run (e := ⟨0, 0, 0⟩) (by decide) hstates
  rw [hrun] at hrun'
  cases hrun'
  obtain ⟨hwalk, hvalue⟩ := hcount hone
  have hzero : phase 0 = ((0 : ℤ) : ZMod 4) := rfl
  have hchain : (((0 : ℤ) : ZMod 4) :: states.map phase).IsChain Neighbours := hwalk
  have hvalue' : e.currentValue = .ofInt (winding (phase 0) (states.map phase)) :=
    hvalue.trans (UInt16.zero_add _)
  refine ⟨?_, ?_, ?_⟩
  · obtain ⟨ls, hls⟩ := exists_lifts hchain
    exact ⟨ls, hls, fun ls' hls' => hls'.unique (by decide) hls⟩
  · intro ls hls
    rw [hls.getLastD_eq (by decide), Int.zero_add, hvalue', hzero]
  · rw [hvalue', cast_toNat_ofInt, cast_winding hwalk, hlast, List.getLastD_map]
    exact sub_zero _

/-- `Encoder_getValue` returns the displacement at the last `Encoder_sample`. -/
lemma CountsWinding.sampled {encoders : Encoders} {i : Fin NUM_ENCODERS} {states : List UInt8}
    (h : CountsWinding states (encoders i)) {ls : List ℤ} (hls : Lifts 0 ls (states.map Proofs.phase)) :
    getEncoderValue (sampleEncoders encoders) i = .ofInt (ls.getLastD 0) :=
  h.count ls hls

lemma ChangesOne.symm {old new : UInt8} (h : ChangesOne old new) : ChangesOne new old := by
  unfold ChangesOne at h ⊢
  rwa [UInt8.xor_comm]

/-- A walk of the pins and the same walk backwards. -/
lemma OneAtATime.turnBack {pinState : UInt8} {states : List UInt8} (h : OneAtATime pinState states) :
    OneAtATime pinState (states ++ (pinState :: states).reverse) := by
  have hback : (pinState :: states).reverse.IsChain ChangesOne := by
    rw [List.isChain_reverse]
    exact h.imp fun _ _ => ChangesOne.symm
  apply List.IsChain.append h hback
  intro last hlast next hnext
  rw [List.head?_reverse] at hnext
  obtain rfl := Option.mem_unique hlast hnext
  exact .inl (UInt8.xor_self (a := last))

lemma turnBack_count {e e' : Encoder} {states : List UInt8} {u : List Unit}
    (hold : e.pinState.toNat < 4) (hstates : ∀ new ∈ states, new.toNat < 4)
    (hone : OneAtATime e.pinState states)
    (hrun : StepMachine.run transitionStep e (states ++ (e.pinState :: states).reverse) = .ok (u, e')) :
    e'.currentValue = e.currentValue := by
  have hall : ∀ new ∈ states ++ (e.pinState :: states).reverse, new.toNat < 4 := by
    intro new hnew
    simp only [List.mem_append, List.mem_reverse, List.mem_cons] at hnew
    rcases hnew with hnew | rfl | hnew
    · exact hstates new hnew
    · exact hold
    · exact hstates new hnew
  obtain ⟨u', e'', hrun', -, hcount⟩ := transitionStep_run hold hall
  rw [hrun] at hrun'
  cases hrun'
  obtain ⟨hwalk, hvalue⟩ := hcount hone.turnBack
  rw [List.map_append, List.map_reverse, List.map_cons] at hwalk hvalue
  have hforth : (phase e.pinState :: states.map phase).IsChain Neighbours := hwalk.left_of_append
  rw [hvalue, winding_return (by decide) hforth]
  exact UInt16.add_zero _

/-- As long as its pins change one at a time, an encoder counts the displacement of the only lift of their
walk. Going back the same way restores the count, and only its own pins matter. -/
theorem quadrature_counts_winding (i : Fin NUM_ENCODERS) (ports : List UInt8)
    (hone : OneAtATime 0 (ports.map (newPinState i))) :
    ∃ u encoders, StepMachine.run isrStep initialEncoders ports = .ok (u, encoders) ∧
      CountsWinding (ports.map (newPinState i)) (encoders i) ∧
      (∀ port walk, newPinState i port = (encoders i).pinState →
        OneAtATime (encoders i).pinState (walk.map (newPinState i)) →
        ∃ u' encoders', StepMachine.run isrStep encoders (walk ++ (port :: walk).reverse) =
          .ok (u', encoders') ∧ (encoders' i).currentValue = (encoders i).currentValue) ∧
      ∀ ports', ports'.map (newPinState i) = ports.map (newPinState i) →
        ∃ u' encoders', StepMachine.run isrStep initialEncoders ports' = .ok (u', encoders') ∧
          encoders' i = encoders i := by
  have hpins : ∀ samples : List UInt8, ∀ new ∈ samples.map (newPinState i), new.toNat < 4 := by
    intro samples new hnew
    obtain ⟨pinb, -, rfl⟩ := List.mem_map.mp hnew
    exact newPinState_lt i pinb
  have hzero : ∀ j, (initialEncoders j).pinState.toNat < 4 :=
    fun _ => show (0 : UInt8).toNat < 4 by decide
  obtain ⟨u, encoders, hrun, heach, hstates⟩ := isrStep_run hzero ports
  refine ⟨u, encoders, hrun, countsWinding (hpins ports) hone (heach i), ?_, ?_⟩
  · intro port walk hport hwalk
    obtain ⟨u', encoders', hrun', heach', -⟩ := isrStep_run hstates (walk ++ (port :: walk).reverse)
    refine ⟨u', encoders', hrun', ?_⟩
    have hi := heach' i
    rw [List.map_append, List.map_reverse, List.map_cons, hport] at hi
    exact turnBack_count (hstates i) (hpins walk) hwalk hi
  · intro ports' hsame
    obtain ⟨u', encoders', hrun', heach', -⟩ := isrStep_run hzero ports'
    have hi := heach' i
    rw [hsame, heach i] at hi
    exact ⟨u', encoders', hrun', (Prod.mk.inj (Except.ok.inj hi)).2.symm⟩

/-- The first encoder winds once around the cycle and one state further, while the second one bounces. -/
def windOnce : List UInt8 :=
  [0b0110, 0b0011, 0b0101, 0b0000, 0b0110]

theorem quadrature_counts_winding_once :
    ∃ u encoders, StepMachine.run isrStep initialEncoders windOnce = .ok (u, encoders) ∧
      CountsWinding (windOnce.map (newPinState 0)) (encoders 0) ∧ (encoders 0).currentValue = 5 := by
  have hone : OneAtATime 0 (windOnce.map (newPinState 0)) := by
    unfold OneAtATime
    decide
  obtain ⟨u, encoders, hrun, hcount, -, -⟩ := quadrature_counts_winding 0 windOnce hone
  refine ⟨u, encoders, hrun, hcount, ?_⟩
  have hfive : ∃ r, StepMachine.run isrStep initialEncoders windOnce = .ok r ∧
      (r.2 0).currentValue = 5 := by
    decide
  obtain ⟨r, hr, hvalue⟩ := hfive
  rw [hrun] at hr
  cases hr
  exact hvalue

end Orazio.Proofs
