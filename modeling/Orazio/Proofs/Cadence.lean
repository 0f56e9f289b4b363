import Orazio.Lib.Countdown
import Orazio.Model.Bench
import Orazio.Proofs.MainLoop

/-!
# The communication cadence

The counter that divides the timer ticks into epochs has 8 bits, the parameter it is loaded with 16.
The ticks raise `comm_handle` with the period of a countdown counter.
-/

namespace Orazio.Proofs

variable {F π : Type}

/-! ### The variables that ticks and main loop share -/

/-- The next position in the loop, if no epoch begins. -/
def Pc.next : Pc → Pc
  | .setTickCounter => .setWatchdogCount
  | .setWatchdogCount => .head
  | .head => .head
  | .driveUpdate => .driveControl
  | .driveControl => .commHandle
  | .commHandle => .watchdog
  | .watchdog => .rxPacketsBefore
  | .rxPacketsBefore => .clearCommHandle
  | .clearCommHandle => .clearIdleCycles
  | .clearIdleCycles => .head

/-- What a statement of the loop does to the variables of `orazio.c`. -/
structure FlagStep (s s' : MainState F π) : Prop where
  tickCounter : s.pc ≠ .setTickCounter → s'.tickCounter = s.tickCounter
  commHandle : s'.commHandle = if s.pc = .clearCommHandle then 0 else s.commHandle
  timerDurationMs : s'.timerDurationMs = s.timerDurationMs
  pc : s'.pc = if s.pc = .head ∧ s.commHandle ≠ 0 then .driveUpdate else Pc.next s.pc

/-- What a tick does to them. -/
structure FlagTick (s s' : MainState F π) : Prop where
  tickCounter : s'.tickCounter =
    if s.tickCounter - 1 = 0 then s.env.systemParams.commCycles.toUInt8 else s.tickCounter - 1
  commHandle : s'.commHandle = if s.tickCounter - 1 = 0 then 1 else s.commHandle
  timerDurationMs : s'.timerDurationMs = s.timerDurationMs
  pc : s'.pc = s.pc

variable [PinDriver π] [CFloat F]

lemma loopStep_flagStep {s s' : MainState F π} {io : UartIo} {event : MainEvent}
    (h : s.loopStep io = .ok (event, s')) : FlagStep s s' := by
  unfold MainState.loopStep at h
  cases hpc : s.pc <;> simp only [hpc] at h
  case head =>
    by_cases hraised : s.commHandle = 0
    · have hset : (s.setEnv (MainState.setIdleCycles (s.env.systemStatus.idleCycles + 1) s.env)).commHandle
          = 0 := hraised
      simp only [hset, ne_eq, not_true_eq_false, if_false] at h
      cases h
      constructor <;> simp [MainState.setEnv, hpc, hraised, Pc.next]
    · have hset : (s.setEnv (MainState.setIdleCycles (s.env.systemStatus.idleCycles + 1) s.env)).commHandle
          ≠ 0 := hraised
      simp only [if_pos hset] at h
      cases h
      constructor <;> simp [MainState.setEnv, hpc, hraised]
  all_goals
    try split at h
    all_goals
      cases h
      try constructor <;> simp [MainState.setEnv, hpc, Pc.next]

lemma mainStep_tick_eq_ok {encoders : Fin NUM_MOTORS → UInt16} {s s' : MainState F π}
    {event : MainEvent} (h : s.mainStep (.tick encoders) = .ok (event, s')) :
    s.onTimerTick encoders = .ok s' := by
  unfold MainState.mainStep at h
  simp only at h
  split at h
  · cases h
  · next htick =>
    cases h
    exact htick

omit [CFloat F] in
lemma onTimerTick_flagTick {encoders : Fin NUM_MOTORS → UInt16} {s s' : MainState F π}
    (h : s.onTimerTick encoders = .ok s') : FlagTick s s' := by
  unfold MainState.onTimerTick at h
  split at h
  · cases h
  · next g hbridge =>
    obtain ⟨pins, rfl⟩ := hBridgeApplyControl_eq_ok hbridge
    have hcycles : (Orazio_jointsHandle encoders s.env).systemParams = s.env.systemParams := rfl
    by_cases hzero : s.tickCounter - 1 = 0
    · simp only [MainState.setEnv, if_pos hzero] at h
      cases h
      constructor <;> simp [hzero, hcycles]
    · simp only [MainState.setEnv, if_neg hzero] at h
      cases h
      constructor <;> simp [hzero]

/-! ### The ticks that raise -/

/-- A tick sets `comm_handle` to 1. -/
def Raises (encoders : Fin NUM_MOTORS → UInt16) (s : MainState F π) : Prop :=
  ∃ s', { s with commHandle := 0 }.onTimerTick encoders = .ok s' ∧ s'.commHandle = 1

instance decidableRaises (encoders : Fin NUM_MOTORS → UInt16) (s : MainState F π) :
    Decidable (Raises encoders s) :=
  StepMachine.decidableExistsOk _ _

omit [CFloat F] in
lemma raises_iff {encoders : Fin NUM_MOTORS → UInt16} {s s' : MainState F π}
    (h : s.onTimerTick encoders = .ok s') : Raises encoders s ↔ s.tickCounter - 1 = 0 := by
  constructor
  · rintro ⟨t, ht, hraised⟩
    rw [(onTimerTick_flagTick ht).commHandle] at hraised
    by_contra hzero
    simp only [if_neg hzero] at hraised
    exact absurd hraised (by decide)
  · intro hzero
    unfold MainState.onTimerTick at h
    cases hbridge : Orazio_hBridgeApplyControl (Orazio_jointsHandle encoders s.env) with
    | error e =>
      rw [hbridge] at h
      cases h
    | ok g =>
      unfold Raises MainState.onTimerTick
      have hsame : Orazio_hBridgeApplyControl
          (Orazio_jointsHandle encoders { s with commHandle := 0 }.env) = .ok g := hbridge
      simp only [hsame, MainState.setEnv, if_pos hzero]
      exact ⟨_, rfl, rfl⟩

/-- The number of ticks of a run. -/
def ticks (inputs : List MainInput) : ℕ :=
  inputs.countP fun
    | .tick _ => true
    | .step _ => false

/-- Which ticks of a run raise `comm_handle`. -/
def tickRaises : MainState F π → List MainInput → List Bool
  | _, [] => []
  | s, input :: inputs =>
    match s.mainStep input with
    | .error _ => []
    | .ok (_, s') =>
      match input with
      | .tick encoders => decide (Raises encoders s) :: tickRaises s' inputs
      | .step _ => tickRaises s' inputs

/-- `comm_cycles` has this value before every step of a run. -/
def CyclesConstant (cycles : UInt16) : MainState F π → List MainInput → Prop :=
  StepMachine.Always MainState.mainStep fun s _ _ _ => s.env.systemParams.commCycles = cycles

instance decidableCyclesConstant (cycles : UInt16) (s : MainState F π) (inputs : List MainInput) :
    Decidable (CyclesConstant cycles s inputs) :=
  StepMachine.decidableAlways _ _ _

/-- The counter goes down from 0 to 255. -/
lemma toNat_sub_one (n : UInt8) : (n - 1).toNat = (n.toNat + (256 - 1)) % 256 := by
  rw [UInt8.toNat_sub]
  congr 1
  exact Nat.add_comm _ _

/-- In the loop the ticks are the calls of a countdown counter. -/
lemma tickRaises_eq_calls {s s' : MainState F π} {inputs : List MainInput} {events : List MainEvent}
    {cycles : UInt16} (hpc : s.pc ≠ .setTickCounter)
    (hrun : StepMachine.run MainState.mainStep s inputs = .ok (events, s'))
    (hconst : CyclesConstant cycles s inputs) :
    tickRaises s inputs =
      Countdown.calls 256 cycles.toNat s.tickCounter.toNat (ticks inputs) := by
  induction inputs generalizing s events with
  | nil => rfl
  | cons input inputs ih =>
    obtain ⟨event, t, events', hstep, hrest, rfl⟩ := StepMachine.run_cons_eq_ok.mp hrun
    obtain ⟨hcycles, hconst'⟩ := (StepMachine.always_cons hstep inputs).mp hconst
    cases input with
    | step io =>
      have hflag := loopStep_flagStep (show s.loopStep io = .ok (event, t) from hstep)
      have hpc' : t.pc ≠ .setTickCounter := by
        rw [hflag.pc]
        split
        · decide
        · cases s.pc <;> decide
      rw [tickRaises, hstep]
      simp only
      rw [ih hpc' hrest hconst', hflag.tickCounter hpc]
      rfl
    | tick encoders =>
      have htick := mainStep_tick_eq_ok hstep
      have hflag := onTimerTick_flagTick htick
      have hpc' : t.pc ≠ .setTickCounter := by
        rw [hflag.pc]
        exact hpc
      have hcount : ticks (.tick encoders :: inputs) = ticks inputs + 1 := by
        simp [ticks]
      have hzero : (s.tickCounter.toNat + (256 - 1)) % 256 = 0 ↔ s.tickCounter - 1 = 0 := by
        rw [← toNat_sub_one]
        exact UInt8.toNat_inj (b := 0)
      rw [tickRaises, hstep]
      simp only
      rw [ih hpc' hrest hconst', hcount, Countdown.calls, Countdown.call, hflag.tickCounter]
      simp only [hzero, raises_iff htick, hcycles]
      by_cases h : s.tickCounter - 1 = 0
      · simp only [if_pos h]
        rw [decide_eq_true h, UInt16.toNat_toUInt8]
      · simp only [if_neg h]
        rw [decide_eq_false h, toNat_sub_one]

/-- From the step of `main` that sets `tick_counter` on, let `comm_cycles` stay the same. The ticks that
raise `comm_handle` are those with a multiple of `comm_cycles` if and only if that fits into the counter,
with 256 as 0, or none of the ticks has raised yet. -/
theorem comm_cadence_iff (s s₁ s' : MainState F π) (io : UartIo) (event : MainEvent)
    (inputs : List MainInput) (events : List MainEvent) (cycles : UInt16) (hpos : 1 ≤ cycles.toNat)
    (hpc : s.pc = .setTickCounter) (hcycles : s.env.systemParams.commCycles = cycles)
    (hset : s.mainStep (.step io) = .ok (event, s₁))
    (hrun : StepMachine.run MainState.mainStep s₁ inputs = .ok (events, s'))
    (hconst : CyclesConstant cycles s₁ inputs) :
    tickRaises s₁ inputs = Countdown.everyNth cycles.toNat (ticks inputs) ↔
      cycles.toNat ≤ 256 ∨ ticks inputs < (cycles.toNat - 1) % 256 + 1 := by
  have hcounter : s₁.tickCounter.toNat = cycles.toNat % 256 := by
    unfold MainState.mainStep MainState.loopStep at hset
    simp only [hpc] at hset
    cases hset
    rw [hcycles]
    exact UInt16.toNat_toUInt8 cycles
  have hpc₁ : s₁.pc ≠ .setTickCounter := by
    rw [(loopStep_flagStep hset).pc, hpc]
    simp [Pc.next]
  have hperiod : Countdown.period 256 cycles.toNat = (cycles.toNat - 1) % 256 + 1 := by
    have hsum : cycles.toNat + (256 - 1) = cycles.toNat - 1 + 256 := by omega
    rw [Countdown.period, hsum, Nat.add_mod_right]
  rw [tickRaises_eq_calls hpc₁ hrun hconst, hcounter, Countdown.calls_load (by decide),
    Countdown.everyNth_eq_iff (Countdown.period_pos 256 cycles.toNat)
      (Countdown.period_le_load (by decide) hpos),
    Countdown.period_eq_iff (by decide) hpos, hperiod]

/-- An EEPROM with the default parameters but these `comm_cycles`. -/
def storedCycles (commCycles : UInt16) : Nat → UInt8 :=
  EEPROM_write SYSTEM_PARAM_OFFSET { initSystemParams with commCycles }.bytes (storedParams 100)

/-- With `comm_cycles` 2, the second and the fourth tick raise, also with epochs between them. -/
theorem comm_cadence_iff_two :
    ∃ (s s₁ s' : MainState ExactFloat Pins) (event : MainEvent) (events : List MainEvent),
      boot (storedCycles 2) Pins.zero = .ok s ∧
      s.mainStep (.step ⟨0, [], 0⟩) = .ok (event, s₁) ∧
      StepMachine.run MainState.mainStep s₁ (epochInputs [] ++ epochInputs []) = .ok (events, s') ∧
      tickRaises s₁ (epochInputs [] ++ epochInputs []) = Countdown.everyNth 2 4 := by
  obtain ⟨s, hboot, hpc, hcycles, ⟨event, s₁⟩, hset, hconst, ⟨events, s'⟩, hrun, -⟩ :
      ∃ s, boot (F := ExactFloat) (storedCycles 2) Pins.zero = .ok s ∧ s.pc = .setTickCounter ∧
        s.env.systemParams.commCycles = 2 ∧
        ∃ r, s.mainStep (.step ⟨0, [], 0⟩) = .ok r ∧
          CyclesConstant 2 r.2 (epochInputs [] ++ epochInputs []) ∧
          ∃ t, StepMachine.run MainState.mainStep r.2 (epochInputs [] ++ epochInputs []) = .ok t ∧
            True := by
    decide +kernel
  exact ⟨s, s₁, s', event, events, hboot, hset, hrun,
    (comm_cadence_iff s s₁ s' _ event _ events 2 (by decide) hpc hcycles hset hrun hconst).mpr
      (.inl (by decide))⟩

/-- With `comm_cycles` 300 the counter is loaded with 44, and the 44th tick raises. -/
theorem cadence_shortened :
    ∃ (s s₁ s' : MainState ExactFloat Pins) (event : MainEvent) (events : List MainEvent),
      boot (storedCycles 300) Pins.zero = .ok s ∧ s.pc = .setTickCounter ∧
      s.mainStep (.step ⟨0, [], 0⟩) = .ok (event, s₁) ∧
      StepMachine.run MainState.mainStep s₁ (List.replicate 44 (.tick fun _ => 0)) =
        .ok (events, s') ∧
      CyclesConstant 300 s₁ (List.replicate 44 (.tick fun _ => 0)) ∧
      tickRaises s₁ (List.replicate 44 (.tick fun _ => 0)) ≠ Countdown.everyNth 300 44 := by
  obtain ⟨s, hboot, hpc, ⟨event, s₁⟩, hset, hconst, hraises, ⟨events, s'⟩, hrun, -⟩ :
      ∃ s, boot (F := ExactFloat) (storedCycles 300) Pins.zero = .ok s ∧ s.pc = .setTickCounter ∧
        ∃ r, s.mainStep (.step ⟨0, [], 0⟩) = .ok r ∧
          CyclesConstant 300 r.2 (List.replicate 44 (.tick fun _ => 0)) ∧
          tickRaises r.2 (List.replicate 44 (.tick fun _ => 0)) ≠ Countdown.everyNth 300 44 ∧
          ∃ t, StepMachine.run MainState.mainStep r.2 (List.replicate 44 (.tick fun _ => 0)) = .ok t ∧
            True := by
    decide +kernel
  exact ⟨s, s₁, s', event, events, hboot, hpc, hset, hrun, hconst, hraises⟩

end Orazio.Proofs
