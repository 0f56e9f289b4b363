import Orazio.Proofs.MotionPackets

/-!
# The main loop refines the control machine

Every step of the firmware is a step of the control machine, and every run from boot one of its
runs.
-/

namespace Orazio.Proofs

variable {F π : Type}

/-! ### Steps -/

def loopView (s : MainState F π) : LoopView :=
  ⟨s.pc, control s.env, s.rxPacketsBefore⟩

lemma enableDrive_control (g : Globals F π) : control (enableDrive g) = (control g).sync := by
  unfold enableDrive Control.sync
  by_cases hseq : g.lastDriveControlSeq ≠ g.driveControl.header.seq
  · rw [if_pos hseq, if_pos (show (control g).lastSeq ≠ (control g).driveSeq from hseq)]
    rfl
  · rw [if_neg hseq, if_neg (show ¬(control g).lastSeq ≠ (control g).driveSeq from hseq)]

lemma watchdogBlock_control (s : MainState F π) :
    (s.watchdogBlock.1, control s.watchdogBlock.2) = (control s.env).watchdog s.rxPacketsBefore := by
  have hcycles : (control s.env).watchdogCycles = s.env.systemParams.watchdogCycles := rfl
  have hnext : (control s.env).nextCount s.rxPacketsBefore = s.nextWatchdogCount := rfl
  unfold MainState.watchdogBlock Control.watchdog
  rw [hcycles, hnext]
  by_cases hzero : s.env.systemParams.watchdogCycles = 0
  · simp [hzero]
  · by_cases hcount : s.nextWatchdogCount = 0
    · simp only [ne_eq, hzero, not_false_eq_true, if_true, if_false, MainState.setWatchdogCount,
        hcount, and_self]
      rfl
    · simp only [ne_eq, hzero, not_false_eq_true, if_true, if_false, MainState.setWatchdogCount,
        hcount, false_and]
      rfl

variable [PinDriver π]

lemma hBridgeApplyControl_eq_ok {g g' : Globals F π} (h : Orazio_hBridgeApplyControl g = .ok g') :
    ∃ pins, g' = { g with pins } := by
  unfold Orazio_hBridgeApplyControl at h
  split at h
  · cases h
  · split at h
    · cases h
    · next pins _ => exact ⟨pins, (Except.ok.inj h).symm⟩

omit [PinDriver π] in
/-- A tick sets the output of a disabled joint to zero. -/
lemma jointsHandle_loopStep (encoders : Fin NUM_MOTORS → UInt16) (s : MainState F π) (pins : π) :
    LoopStep (loopView s) .tick
      ⟨s.pc, control { Orazio_jointsHandle encoders s.env with pins }, s.rxPacketsBefore⟩ := by
  apply LoopStep.tick (c := control s.env) fun i =>
    ((control (Orazio_jointsHandle encoders s.env)).outputs i)
  intro i hmode
  have hmode' : (s.env.jointControl.joints i).mode = JointDisabled := hmode
  simp only [control, Orazio_jointsHandle, handleJoint, JointController.handle, if_pos hmode']

/-- Between two calls of `Orazio_commHandle` no packet is pending. -/
def QueueEmpty (s : MainState F π) : Prop :=
  ∃ ph, DeferredRep orazioConfig s.system ph []

omit [PinDriver π] in
lemma QueueEmpty.setEnv {s : MainState F π} (h : QueueEmpty s) (g : Globals F π) :
    QueueEmpty (s.setEnv g) :=
  h.imp fun _ hrep => DeferredRep.setEnv hrep g

variable [CFloat F]

omit [PinDriver π] in
lemma driveUpdate_control {g g' : Globals F π} (h : Orazio_driveUpdate g = .ok g') :
    control g' = control g := by
  unfold Orazio_driveUpdate at h
  split at h
  · cases h
  · cases h
    rfl

omit [PinDriver π] in
/-- The controller runs if the drive is enabled. -/
lemma driveControl_cases {g g' : Globals F π} {ran : Bool}
    (h : Orazio_driveControl g = .ok (ran, g')) :
    (ran = false ∧ (enableDrive g).driveEnable = 0 ∧ g' = enableDrive g) ∨
      (ran = true ∧ (enableDrive g).driveEnable ≠ 0 ∧ ∃ joints,
        g' = { enableDrive g with jointControl := { (enableDrive g).jointControl with joints } }) := by
  unfold Orazio_driveControl at h
  simp only at h
  split at h
  · next henable =>
    split at h
    · cases h
    · next joints _ =>
      cases h
      exact .inr ⟨rfl, henable, joints, rfl⟩
  · next hzero =>
    cases h
    exact .inl ⟨rfl, not_not.mp hzero, rfl⟩

omit [PinDriver π] in
lemma driveControl_control {g g' : Globals F π} {ran : Bool}
    (h : Orazio_driveControl g = .ok (ran, g')) :
    ran = decide ((control g).sync.enable ≠ 0) ∧
      control g' = { (control g).sync with joints := g'.jointControl.joints } ∧
      ((control g).sync.enable = 0 → g'.jointControl.joints = (control g).joints) := by
  have hsync := enableDrive_control g
  have hjoints : (enableDrive g).jointControl = g.jointControl := by
    unfold enableDrive
    split <;> rfl
  have henable : (control g).sync.enable = (enableDrive g).driveEnable := by
    rw [← hsync]
    rfl
  obtain ⟨rfl, hzero, rfl⟩ | ⟨rfl, hne, joints, rfl⟩ := driveControl_cases h
  · refine ⟨by simp [henable, hzero], ?_, ?_⟩
    · rw [← hsync]
      rfl
    · intro _
      rw [hjoints]
      rfl
  · refine ⟨by simp [henable, hne], ?_, ?_⟩
    · rw [← hsync]
      rfl
    · intro hen
      exact absurd (henable ▸ hen) hne

/-- What a step of the main loop does, with the results of the calls in it. -/
inductive MainStep (s : MainState F π) : MainEvent → MainState F π → Prop
  | tick (encoders : Fin NUM_MOTORS → UInt16) (pins : π) (tickCounter commHandle : UInt8) :
      MainStep s .tick
        { s.setEnv { Orazio_jointsHandle encoders s.env with pins } with tickCounter, commHandle }
  | setTickCounter (hpc : s.pc = .setTickCounter) (tickCounter : UInt8) :
      MainStep s .assign { s with tickCounter, pc := .setWatchdogCount }
  | setWatchdogCount (hpc : s.pc = .setWatchdogCount) :
      MainStep s .assign { s.setEnv (MainState.setWatchdogCount
        s.env.systemParams.watchdogCycles.toInt16 s.env) with pc := .head }
  | head (hpc : s.pc = .head) (pc : Pc) (idle : UInt32) (hnext : pc = .head ∨ pc = .driveUpdate) :
      MainStep s .head { s.setEnv (MainState.setIdleCycles idle s.env) with pc }
  | driveUpdate (hpc : s.pc = .driveUpdate) {g : Globals F π} (h : Orazio_driveUpdate s.env = .ok g) :
      MainStep s .driveUpdate { s.setEnv g with pc := .driveControl }
  | driveControl (hpc : s.pc = .driveControl) {ran : Bool} {g : Globals F π}
      (h : Orazio_driveControl s.env = .ok (ran, g)) :
      MainStep s (.driveControl ran g.jointControl.joints) { s.setEnv g with pc := .commHandle }
  | commHandle (hpc : s.pc = .commHandle) {io : UartIo} {e : CommEvent} {system : System F π}
      (h : Orazio_commHandle io s.system = .ok (e, system)) :
      MainStep s (.commHandle e) { s with system, pc := .watchdog }
  | watchdog (hpc : s.pc = .watchdog) :
      MainStep s (.watchdog s.watchdogBlock.1)
        { s.setEnv s.watchdogBlock.2 with pc := .rxPacketsBefore }
  | rxPacketsBefore (hpc : s.pc = .rxPacketsBefore) :
      MainStep s .assign
        { s with rxPacketsBefore := s.env.systemStatus.rxPackets, pc := .clearCommHandle }
  | clearCommHandle (hpc : s.pc = .clearCommHandle) :
      MainStep s .assign { s with commHandle := 0, pc := .clearIdleCycles }
  | clearIdleCycles (hpc : s.pc = .clearIdleCycles) :
      MainStep s .assign { s.setEnv (MainState.setIdleCycles 0 s.env) with pc := .head }

lemma mainStep_tick {encoders : Fin NUM_MOTORS → UInt16} {s s' : MainState F π}
    (h : s.onTimerTick encoders = .ok s') : MainStep s .tick s' := by
  unfold MainState.onTimerTick at h
  split at h
  · cases h
  · next g hbridge =>
    obtain ⟨pins, rfl⟩ := hBridgeApplyControl_eq_ok hbridge
    simp only at h
    split at h <;> cases h <;> exact .tick encoders pins _ _

lemma mainStep_cases {s s' : MainState F π} {input : MainInput} {event : MainEvent}
    (h : s.mainStep input = .ok (event, s')) : MainStep s event s' := by
  cases input with
  | tick encoders =>
    unfold MainState.mainStep at h
    simp only at h
    split at h
    · cases h
    · next htick =>
      cases h
      exact mainStep_tick htick
  | step io =>
    replace h : s.loopStep io = .ok (event, s') := h
    unfold MainState.loopStep at h
    cases hpc : s.pc with
    | setTickCounter =>
      simp only [hpc] at h
      cases h
      exact .setTickCounter hpc _
    | setWatchdogCount =>
      simp only [hpc] at h
      cases h
      exact .setWatchdogCount hpc
    | head =>
      simp only [hpc] at h
      split at h
      · cases h
        exact .head hpc .driveUpdate _ (.inr rfl)
      · cases h
        exact .head hpc s.pc _ (.inl hpc)
    | driveUpdate =>
      simp only [hpc] at h
      split at h
      · cases h
      · next hupdate =>
        cases h
        exact .driveUpdate hpc hupdate
    | driveControl =>
      simp only [hpc] at h
      split at h
      · cases h
      · next hcontrol =>
        cases h
        exact .driveControl hpc hcontrol
    | commHandle =>
      simp only [hpc] at h
      split at h
      · cases h
      · next hcomm =>
        cases h
        exact .commHandle hpc hcomm
    | watchdog =>
      simp only [hpc] at h
      cases h
      exact .watchdog hpc
    | rxPacketsBefore =>
      simp only [hpc] at h
      cases h
      exact .rxPacketsBefore hpc
    | clearCommHandle =>
      simp only [hpc] at h
      cases h
      exact .clearCommHandle hpc
    | clearIdleCycles =>
      simp only [hpc] at h
      cases h
      exact .clearIdleCycles hpc

/-- Every step of the firmware is a step of the control machine. -/
lemma mainStep_loopStep {s s' : MainState F π} {input : MainInput} {event : MainEvent}
    (hqueue : QueueEmpty s) (h : s.mainStep input = .ok (event, s')) :
    LoopStep (loopView s) event (loopView s') ∧ QueueEmpty s' := by
  have hview : loopView s = ⟨s.pc, control s.env, s.rxPacketsBefore⟩ := rfl
  cases mainStep_cases h with
  | tick encoders pins => exact ⟨jointsHandle_loopStep encoders s pins, hqueue.setEnv _⟩
  | setTickCounter hpc =>
    rw [hview, hpc]
    exact ⟨.setTickCounter, hqueue⟩
  | setWatchdogCount hpc =>
    rw [hview, hpc]
    exact ⟨.setWatchdogCount, hqueue.setEnv _⟩
  | head hpc pc idle hnext =>
    rw [hview, hpc]
    obtain rfl | rfl := hnext
    · exact ⟨.idle, hqueue.setEnv _⟩
    · exact ⟨.wake, hqueue.setEnv _⟩
  | @driveUpdate hpc g hupdate =>
    rw [hview, hpc]
    refine ⟨?_, hqueue.setEnv g⟩
    change LoopStep _ _ ⟨.driveControl, control g, s.rxPacketsBefore⟩
    rw [driveUpdate_control hupdate]
    exact .driveUpdate
  | @driveControl hpc ran g hcontrol =>
    rw [hview, hpc]
    obtain ⟨hran, hsync, hkept⟩ := driveControl_control hcontrol
    refine ⟨?_, hqueue.setEnv g⟩
    change LoopStep _ _ ⟨.commHandle, control g, s.rxPacketsBefore⟩
    rw [hran, hsync]
    exact .driveControl g.jointControl.joints hkept
  | @commHandle hpc io e system hcomm =>
    rw [hview, hpc]
    obtain ⟨ph, hrep⟩ := hqueue
    obtain ⟨hstep, hrep'⟩ := commHandle_commStep hrep hcomm
    exact ⟨.commHandle e (control system.env) hstep, hrep'⟩
  | watchdog hpc =>
    rw [hview, hpc]
    refine ⟨?_, hqueue.setEnv _⟩
    have hran : s.watchdogBlock.1 = ((control s.env).watchdog s.rxPacketsBefore).1 :=
      congrArg Prod.fst (watchdogBlock_control s)
    have hblock : control s.watchdogBlock.2 = ((control s.env).watchdog s.rxPacketsBefore).2 :=
      congrArg Prod.snd (watchdogBlock_control s)
    change LoopStep _ (.watchdog s.watchdogBlock.1)
      ⟨.rxPacketsBefore, control s.watchdogBlock.2, s.rxPacketsBefore⟩
    rw [hran, hblock]
    exact .watchdog
  | rxPacketsBefore hpc =>
    rw [hview, hpc]
    exact ⟨.rxPacketsBefore, hqueue⟩
  | clearCommHandle hpc =>
    rw [hview, hpc]
    exact ⟨.clearCommHandle, hqueue⟩
  | clearIdleCycles hpc =>
    rw [hview, hpc]
    exact ⟨.clearIdleCycles, hqueue.setEnv _⟩

/-! ### Runs -/

/-- The control of the joints after the initialisation. -/
def initControl (watchdogCycles : UInt16) : Control where
  joints := fun _ => ⟨JointDisabled, 0⟩
  outputs := fun _ => 0
  driveSeq := 0
  lastSeq := 0
  enable := 0
  watchdogCycles := watchdogCycles
  watchdogCount := 0
  rxPackets := 0

lemma initSubsystems_eq_ok {g g' : Globals F π} (h : initSubsystems g = .ok g') :
    ∃ g₁, Orazio_paramInit g = .ok g₁ ∧
      Orazio_driveInit (Orazio_hBridgeInit (Orazio_jointsInit g₁)) = .ok g' := by
  unfold initSubsystems at h
  split at h
  · cases h
  · next g₁ hinit => exact ⟨g₁, hinit, h⟩

/-- The initialisation handles the parameters and resets the joint controllers. -/
lemma initSubsystems_change {g g' : Globals F π} (h : initSubsystems g = .ok g') :
    ParamChange { g with jointControllers := fun _ => .zero } g' ∧
      g'.lastDriveControlSeq = g.driveControl.header.seq := by
  obtain ⟨g₁, hinit, hdrive⟩ := initSubsystems_eq_ok h
  have hchange := paramInit_change hinit
  obtain ⟨bridges, pins, hbridge⟩ := hBridgeInit_eq (Orazio_jointsInit g₁)
  rw [hbridge] at hdrive
  obtain ⟨controller, status, rfl, hheader⟩ := driveInit_eq_ok hdrive
  have hseq : g₁.driveControl.header.seq = g.driveControl.header.seq := by
    rw [hchange.driveControl]
  exact ⟨⟨hchange.systemStatus, hchange.jointStatus, hheader.trans hchange.driveStatus,
    hchange.jointControl, hchange.driveControl, hchange.response, hchange.endEpoch, rfl,
    .inr hseq, hchange.driveEnable, hchange.uart, hchange.globalSeq, hchange.sent⟩, hseq⟩

lemma startMain_eq_ok {g : Globals F π} {s : MainState F π} (h : startMain g = .ok s) :
    ∃ g', initSubsystems g = .ok g' ∧ s.pc = .setTickCounter ∧ s.rxPacketsBefore = 0 ∧
      s.env = { g' with uart := UART_init g'.systemParams.commSpeed, globalSeq := 0 } ∧
      QueueEmpty s ∧ TxHolds s.system.handler.baseHandler.toTxFields [] := by
  unfold startMain at h
  split at h
  · cases h
  · next g' hinit =>
    obtain ⟨system, hcomm, hrep, htx, henv⟩ :=
      commInit_rep (⟨staticHandler, fun _ => 0, g'⟩ : System F π)
    rw [hcomm] at h
    cases h
    exact ⟨g', hinit, rfl, rfl, henv, ⟨.hunt, hrep⟩, htx⟩

/-- After boot the machine is at its beginning. -/
lemma boot_loopView {eeprom : Nat → UInt8} {pins : π} {s : MainState F π}
    (h : boot eeprom pins = .ok s) :
    loopView s = ⟨.setTickCounter, initControl s.env.systemParams.watchdogCycles, 0⟩ ∧
      QueueEmpty s := by
  obtain ⟨g, hinit, hpc, hbefore, henv, hqueue, -⟩ := startMain_eq_ok h
  obtain ⟨hchange, hseq⟩ := initSubsystems_change hinit
  refine ⟨?_, hqueue⟩
  have hcontrol : control s.env = initControl s.env.systemParams.watchdogCycles := by
    rw [henv]
    simp only [control, hchange.jointControl, hchange.driveControl, hchange.jointControllers,
      hchange.driveEnable, hchange.systemStatus, hseq]
    rfl
  unfold loopView
  rw [hpc, hbefore, hcontrol]

/-- Every run of the firmware is a run of the control machine. -/
lemma mainRun_loopRun {s s' : MainState F π} {inputs : List MainInput} {events : List MainEvent}
    (hqueue : QueueEmpty s) (h : StepMachine.run MainState.mainStep s inputs = .ok (events, s')) :
    LoopRun (loopView s) events (loopView s') ∧ QueueEmpty s' := by
  induction inputs generalizing s events with
  | nil =>
    cases h
    exact ⟨.nil _, hqueue⟩
  | cons input inputs ih =>
    obtain ⟨event, t, events', hstep, hrun, rfl⟩ := StepMachine.run_cons_eq_ok.mp h
    obtain ⟨hfirst, hqueue'⟩ := mainStep_loopStep hqueue hstep
    obtain ⟨hrest, hqueue''⟩ := ih hqueue' hrun
    exact ⟨.cons hfirst hrest, hqueue''⟩

end Orazio.Proofs
