import Orazio.Proofs.Cadence

/-!
# Lost epochs

A tick may raise `comm_handle` at any position of the loop. A raise between the test of the flag and
the statement that clears it is forgotten, unless another tick raises before the loop is back at its
head.
-/

namespace Orazio.Proofs

variable {F π : Type} [PinDriver π] [CFloat F]

/-- The positions of the loop from the test of `comm_handle` to the statement that clears it. -/
def handling : Pc → Bool
  | .driveUpdate | .driveControl | .commHandle | .watchdog | .rxPacketsBefore | .clearCommHandle => true
  | .setTickCounter | .setWatchdogCount | .head | .clearIdleCycles => false

/-- The handling of an epoch begins. -/
def beginsEpoch (s : MainState F π) : MainInput → Bool
  | .tick _ => false
  | .step _ => decide (s.pc = .head ∧ s.commHandle ≠ 0)

/-- A tick at one of these positions raises. -/
def raisesAt (positions : Pc → Bool) (s : MainState F π) : MainInput → Bool
  | .tick encoders => positions s.pc && decide (Raises encoders s)
  | .step _ => false

/-- Since the handling of the latest epoch of a run began, or since its start, a tick at one of these
positions has raised. -/
def raisedSince (positions : Pc → Bool) (s : MainState F π) (inputs : List MainInput) : Bool :=
  StepMachine.latch MainState.mainStep (raisesAt positions) beginsEpoch false s inputs

section

variable (positions : Pc → Bool) {s₀ s s' : MainState F π} {inputs : List MainInput}
  {events : List MainEvent} {event : MainEvent}

lemma raisedSince_tick {encoders : Fin NUM_MOTORS → UInt16}
    (hrun : StepMachine.run MainState.mainStep s₀ inputs = .ok (events, s))
    (hstep : s.mainStep (.tick encoders) = .ok (event, s')) :
    raisedSince positions s₀ (inputs ++ [.tick encoders]) =
      (positions s.pc && decide (Raises encoders s) || raisedSince positions s₀ inputs) := by
  rw [raisedSince, StepMachine.latch_concat _ _ _ hrun hstep]
  simp [raisesAt, beginsEpoch, raisedSince]

lemma raisedSince_step {io : UartIo}
    (hrun : StepMachine.run MainState.mainStep s₀ inputs = .ok (events, s))
    (hstep : s.mainStep (.step io) = .ok (event, s')) :
    raisedSince positions s₀ (inputs ++ [.step io]) =
      (raisedSince positions s₀ inputs && !decide (s.pc = .head ∧ s.commHandle ≠ 0)) := by
  rw [raisedSince, StepMachine.latch_concat _ _ _ hrun hstep]
  simp [raisesAt, beginsEpoch, raisedSince]

end

/-- What `comm_handle` says of the raises of a run. -/
structure FlagTells (s₀ : MainState F π) (inputs : List MainInput) (s : MainState F π) : Prop where
  all : raisedSince (fun _ => true) s₀ inputs =
    (raisedSince handling s₀ inputs || raisedSince (fun pc => !handling pc) s₀ inputs)
  idle : handling s.pc = false →
    s.commHandle = if raisedSince (fun pc => !handling pc) s₀ inputs = true then 1 else 0
  busy : handling s.pc = true → raisedSince (fun pc => !handling pc) s₀ inputs = false

lemma FlagTells.tick {s₀ s s' : MainState F π} {inputs : List MainInput} {events : List MainEvent}
    {encoders : Fin NUM_MOTORS → UInt16} {event : MainEvent} (h : FlagTells s₀ inputs s)
    (hrun : StepMachine.run MainState.mainStep s₀ inputs = .ok (events, s))
    (hstep : s.mainStep (.tick encoders) = .ok (event, s')) :
    FlagTells s₀ (inputs ++ [.tick encoders]) s' := by
  have htick := mainStep_tick_eq_ok hstep
  have hflag := onTimerTick_flagTick htick
  have hraises := raises_iff htick
  have hhandle : s'.commHandle = if Raises encoders s then 1 else s.commHandle := by
    rw [hflag.commHandle]
    simp only [hraises]
  constructor
  · simp only [raisedSince_tick _ hrun hstep, h.all]
    cases handling s.pc <;> cases decide (Raises encoders s) <;> simp
  · intro hidle
    rw [hflag.pc] at hidle
    rw [raisedSince_tick _ hrun hstep, hhandle, hidle, h.idle hidle]
    by_cases hr : Raises encoders s
    · simp [hr]
    · simp [hr]
  · intro hbusy
    rw [hflag.pc] at hbusy
    rw [raisedSince_tick _ hrun hstep, hbusy, h.busy hbusy]
    rfl

/-- The step from the head that begins the handling of an epoch. -/
lemma flagTells_begins {s₀ s s' : MainState F π} {inputs : List MainInput} {events : List MainEvent}
    {io : UartIo} {event : MainEvent} (hbegins : s.pc = .head ∧ s.commHandle ≠ 0)
    (hrun : StepMachine.run MainState.mainStep s₀ inputs = .ok (events, s))
    (hstep : s.mainStep (.step io) = .ok (event, s')) : FlagTells s₀ (inputs ++ [.step io]) s' := by
  have hflag := loopStep_flagStep (show s.loopStep io = .ok (event, s') from hstep)
  have hreset : ∀ positions, raisedSince positions s₀ (inputs ++ [.step io]) = false := by
    intro positions
    rw [raisedSince_step _ hrun hstep]
    simp [hbegins]
  have hpc : s'.pc = .driveUpdate := by
    rw [hflag.pc, if_pos hbegins]
  constructor
  · simp only [hreset, Bool.or_false]
  · intro hidle
    rw [hpc] at hidle
    cases hidle
  · intro _
    exact hreset _

lemma FlagTells.step {s₀ s s' : MainState F π} {inputs : List MainInput} {events : List MainEvent}
    {io : UartIo} {event : MainEvent} (h : FlagTells s₀ inputs s)
    (hbegins : ¬(s.pc = .head ∧ s.commHandle ≠ 0))
    (hrun : StepMachine.run MainState.mainStep s₀ inputs = .ok (events, s))
    (hstep : s.mainStep (.step io) = .ok (event, s')) : FlagTells s₀ (inputs ++ [.step io]) s' := by
  have hflag := loopStep_flagStep (show s.loopStep io = .ok (event, s') from hstep)
  have hkeep : ∀ positions, raisedSince positions s₀ (inputs ++ [.step io]) =
      raisedSince positions s₀ inputs := by
    intro positions
    rw [raisedSince_step _ hrun hstep]
    simp [hbegins]
  have hpc := hflag.pc
  rw [if_neg hbegins] at hpc
  constructor
  · simp only [hkeep, h.all]
  · intro hidle
    rw [hkeep, hflag.commHandle]
    -- the clearing statement is the only way from the handling of an epoch to the idle loop
    by_cases hclear : s.pc = .clearCommHandle
    · have hnone := h.busy (by rw [hclear]; rfl)
      rw [if_pos hclear, hnone]
      rfl
    · rw [if_neg hclear]
      apply h.idle
      rw [hpc] at hidle
      revert hidle hclear
      cases s.pc <;> simp [Pc.next, handling]
  · intro hbusy
    rw [hkeep]
    apply h.busy
    rw [hpc] at hbusy
    revert hbusy
    cases s.pc <;> simp [Pc.next, handling]

lemma mainStep_flagTells {s₀ s s' : MainState F π} {inputs : List MainInput} {events : List MainEvent}
    {input : MainInput} {event : MainEvent} (h : FlagTells s₀ inputs s)
    (hrun : StepMachine.run MainState.mainStep s₀ inputs = .ok (events, s))
    (hstep : s.mainStep input = .ok (event, s')) : FlagTells s₀ (inputs ++ [input]) s' := by
  cases input with
  | tick encoders => exact h.tick hrun hstep
  | step io =>
    by_cases hbegins : s.pc = .head ∧ s.commHandle ≠ 0
    · exact flagTells_begins hbegins hrun hstep
    · exact h.step hbegins hrun hstep

lemma boot_flagTells {eeprom : Nat → UInt8} {pins : π} {s₀ : MainState F π}
    (hboot : boot eeprom pins = .ok s₀) : FlagTells s₀ [] s₀ := by
  unfold boot startMain at hboot
  split at hboot
  · cases hboot
  · split at hboot
    · cases hboot
    · cases hboot
      exact ⟨rfl, fun _ => rfl, fun _ => rfl⟩

/-- Whenever the loop is at its head, a raise since the handling of the latest epoch began has left
`comm_handle` at 1 if and only if, provided that a tick raised during the handling, another one raised
after the flag was cleared. -/
theorem epoch_remembered_iff (eeprom : Nat → UInt8) (pins : π) (s₀ s : MainState F π)
    (inputs : List MainInput) (events : List MainEvent) (hboot : boot eeprom pins = .ok s₀)
    (hrun : StepMachine.run MainState.mainStep s₀ inputs = .ok (events, s)) (hhead : s.pc = .head) :
    (raisedSince (fun _ => true) s₀ inputs = true → s.commHandle = 1) ↔
      (raisedSince handling s₀ inputs = true →
        raisedSince (fun pc => !handling pc) s₀ inputs = true) := by
  have htells : FlagTells s₀ inputs s := by
    have hinv := StepMachine.run_history
      (fun inputs events s => StepMachine.run MainState.mainStep s₀ inputs = .ok (events, s) ∧
        FlagTells s₀ inputs s)
      ⟨rfl, boot_flagTells hboot⟩
      (by
        rintro inputs events s input event s' ⟨hrun, htells⟩ hstep
        exact ⟨StepMachine.run_concat_eq_ok.mpr ⟨events, s, event, hrun, hstep, rfl⟩,
          mainStep_flagTells htells hrun hstep⟩) hrun
    exact hinv.2
  have hidle := htells.idle (by rw [hhead]; rfl)
  rw [htells.all, hidle]
  cases raisedSince handling s₀ inputs <;>
    cases raisedSince (fun pc => !handling pc) s₀ inputs <;> decide

/-- Boot, an epoch, and the two ticks of the next one. -/
def secondRaise : List MainInput :=
  startInputs ++ epochInputs [] ++ List.replicate 2 (.tick fun _ => 0)

/-- Two ticks between the two first statements of an epoch. -/
def raiseWhileHandling : List MainInput :=
  startInputs ++ List.replicate 2 (.tick fun _ => 0) ++ [.step ⟨0, [], 0⟩] ++ epochInputs []

/-- A raise in the idle loop is remembered. -/
theorem epoch_remembered_iff_second :
    ∃ (s₀ s : MainState ExactFloat Pins) (events : List MainEvent),
      boot (fun _ => 0xFF) Pins.zero = .ok s₀ ∧
      StepMachine.run MainState.mainStep s₀ secondRaise = .ok (events, s) ∧
      raisedSince (fun _ => true) s₀ secondRaise = true ∧ s.commHandle = 1 := by
  obtain ⟨s₀, hboot, hraised, hnone, ⟨events, s⟩, hrun, hhead⟩ :
      ∃ s₀, boot (F := ExactFloat) (fun _ => 0xFF) Pins.zero = .ok s₀ ∧
        raisedSince (fun _ => true) s₀ secondRaise = true ∧
        raisedSince handling s₀ secondRaise = false ∧
        ∃ r, StepMachine.run MainState.mainStep s₀ secondRaise = .ok r ∧ r.2.pc = .head := by
    decide +kernel
  refine ⟨s₀, s, events, hboot, hrun, hraised, ?_⟩
  apply (epoch_remembered_iff _ _ s₀ s secondRaise events hboot hrun hhead).mpr _ hraised
  intro hhandling
  exact absurd (hnone.symm.trans hhandling) (by decide)

/-- The second tick raises `comm_handle`, which the epoch then clears. -/
theorem raise_forgotten :
    ∃ (s₀ s : MainState ExactFloat Pins) (events : List MainEvent),
      boot (fun _ => 0xFF) Pins.zero = .ok s₀ ∧
      StepMachine.run MainState.mainStep s₀ raiseWhileHandling = .ok (events, s) ∧ s.pc = .head ∧
      raisedSince (fun _ => true) s₀ raiseWhileHandling = true ∧ s.commHandle ≠ 1 := by
  obtain ⟨s₀, hboot, hraised, ⟨events, s⟩, hrun, hhead, hcleared⟩ :
      ∃ s₀, boot (F := ExactFloat) (fun _ => 0xFF) Pins.zero = .ok s₀ ∧
        raisedSince (fun _ => true) s₀ raiseWhileHandling = true ∧
        ∃ r, StepMachine.run MainState.mainStep s₀ raiseWhileHandling = .ok r ∧ r.2.pc = .head ∧
          r.2.commHandle ≠ 1 := by
    decide +kernel
  exact ⟨s₀, s, events, hboot, hrun, hhead, hraised, hcleared⟩

end Orazio.Proofs
