import Orazio.Proofs.Cadence

/-!
# The time base of the controller

The timer is created once with the period that the parameters have at boot. The controller takes its
time step from the parameters whenever they change, so it follows the parameters, not the timer.
-/

namespace Orazio.Proofs

open CFloat

variable {F π : Type} [CFloat F]

/-- Milliseconds in seconds, as `Orazio_driveInit` computes them. -/
def seconds (ms : Int) : F :=
  const (1 / 1000) * ofInt ms

/-- The arithmetic tells periods of up to 16 bits apart. -/
def TellsMillisecondsApart (F : Type) [CFloat F] : Prop :=
  ∀ m n : Int, m.natAbs < 65536 → n.natAbs < 65536 → (seconds m : F) = seconds n → m = n

/-- The time step of the controller and the parameter it is computed from. -/
def timeBase (g : Globals F π) : F × Int16 :=
  (g.driveController.jointsDt, g.systemParams.timerPeriodMs)

/-- The controller has the time step of the parameters. -/
def FollowsPeriod (g : Globals F π) : Prop :=
  (timeBase g).1 = seconds (timeBase g).2.toInt

lemma FollowsPeriod.congr {g g' : Globals F π} (h : FollowsPeriod g) (hsame : timeBase g' = timeBase g) :
    FollowsPeriod g' := by
  unfold FollowsPeriod
  rw [hsame]
  exact h

/-! ### Sending -/

lemma sendPacket_timeBase {p : PacketVar} {x x' : TxFields × Globals F π}
    (h : Orazio_sendPacket p x = .ok x') : timeBase x'.2 = timeBase x.2 := by
  obtain ⟨status, -, henv, -⟩ := sendPacket_eq_ok h
  have hcount : ∀ g : Globals F π, timeBase (countSent status g) = timeBase g := by
    intro g
    unfold countSent
    split <;> rfl
  have hseq : timeBase (p.setSeq x.2.globalSeq x.2) = timeBase x.2 := by
    cases p <;> rfl
  calc timeBase x'.2
      = timeBase (countSent status (p.setSeq x.2.globalSeq x.2)) := by rw [henv]; rfl
    _ = timeBase (p.setSeq x.2.globalSeq x.2) := hcount _
    _ = timeBase x.2 := hseq

lemma sendResponse_timeBase {packet : PacketBytes} {result : PacketStatus}
    {x x' : TxFields × Globals F π} (h : Orazio_sendResponse packet result x = .ok x') :
    timeBase x'.2 = timeBase x.2 := by
  unfold Orazio_sendResponse at h
  rw [sendPacket_timeBase h]
  rfl

lemma sendPeriodic_timeBase {flag : UInt8} {p : PacketVar} {x x' : TxFields × Globals F π}
    (h : sendPeriodic flag p x = .ok x') : timeBase x'.2 = timeBase x.2 := by
  unfold sendPeriodic at h
  split at h
  · exact sendPacket_timeBase h
  · cases h
    rfl

lemma sendStatus_timeBase {x x' : TxFields × Globals F π} (h : sendStatus x = .ok x') :
    timeBase x'.2 = timeBase x.2 := by
  obtain ⟨y₁, y₂, y₃, h₁, h₂, h₃, h₄⟩ := sendStatus_eq_ok h
  rw [sendPacket_timeBase h₄, sendPeriodic_timeBase h₃, sendPeriodic_timeBase h₂,
    sendPeriodic_timeBase h₁]

omit [CFloat F] in
lemma flushOutput_timeBase {io : UartIo} {x x' : TxFields × Globals F π} {output : List UInt8}
    (h : Orazio_flushOutputBuffers io x = .ok (output, x')) : timeBase x'.2 = timeBase x.2 := by
  unfold Orazio_flushOutputBuffers at h
  split at h
  · cases h
    rfl
  · cases h

/-! ### Parameters -/

lemma driveInit_followsPeriod {g g' : Globals F π} (h : Orazio_driveInit g = .ok g') :
    FollowsPeriod g' := by
  unfold Orazio_driveInit at h
  simp only at h
  split at h
  · cases h
  · next controller status hinit =>
    cases h
    unfold DifferentialDriveController.init DifferentialDriveController.reset at hinit
    split at hinit
    · cases hinit
      rfl
    · cases hinit
    · cases hinit

variable [PinDriver π]

/-- Setting the parameters of the system or of the drive initialises the drive. -/
lemma paramSet_followsPeriod {paramType : UInt8} {g g' : Globals F π} {r : PacketStatus}
    (hg : paramType ≠ ParamSystem → FollowsPeriod g) (h : Orazio_paramSet paramType g = .ok (r, g')) :
    FollowsPeriod g' := by
  unfold Orazio_paramSet at h
  by_cases hsystem : paramType = ParamSystem
  · rw [if_pos hsystem] at h
    split at h
    · cases h
    · next hinit =>
      cases h
      exact driveInit_followsPeriod hinit
  · rw [if_neg hsystem] at h
    split at h
    · cases h
      exact hg hsystem
    · split at h
      · split at h
        · cases h
        · next hinit =>
          cases h
          exact driveInit_followsPeriod hinit
      · cases h
        exact hg hsystem

lemma paramLoad_followsPeriod {paramType : UInt8} {g g' : Globals F π} {r : PacketStatus}
    (hg : FollowsPeriod g) (h : Orazio_paramLoad paramType g = .ok (r, g')) : FollowsPeriod g' := by
  obtain ⟨-, -, rfl⟩ | ⟨v, offset, r', hblock, -, hset⟩ := paramLoad_eq_ok h
  · exact hg
  · apply paramSet_followsPeriod _ hset
    intro hne
    obtain ⟨hsystem, -⟩ | ⟨-, rfl, -⟩ | ⟨-, rfl, -⟩ := paramBlock_cases hblock
    · exact absurd hsystem hne
    · exact hg.congr rfl
    · exact hg.congr rfl

lemma runParamAction_followsPeriod {ctl : ParamControlPacket} {g g' : Globals F π} {r : PacketStatus}
    (hg : FollowsPeriod g) (h : runParamAction ctl g = .ok (r, g')) : FollowsPeriod g' := by
  obtain ⟨-, -, rfl⟩ | ⟨-, hload⟩ | ⟨-, -, rfl⟩ | ⟨-, -, rfl⟩ := runParamAction_eq_ok h
  · exact hg
  · exact paramLoad_followsPeriod hg hload
  · apply hg.congr
    unfold Orazio_paramSave
    split <;> rfl
  · exact hg

lemma setReceived_followsPeriod {type : UInt8} {g g' : Globals F π} {r : PacketStatus}
    (hg : type ≠ SYSTEM_PARAM_PACKET_ID → FollowsPeriod g) (h : setReceived type g = .ok (r, g')) :
    FollowsPeriod g' := by
  unfold setReceived at h
  by_cases hsystem : type = SYSTEM_PARAM_PACKET_ID
  · rw [if_pos hsystem] at h
    exact paramSet_followsPeriod (fun hne => absurd rfl hne) h
  · rw [if_neg hsystem] at h
    have hkeep := hg hsystem
    split at h
    · exact paramSet_followsPeriod (fun _ => hkeep) h
    · split at h
      · exact paramSet_followsPeriod (fun _ => hkeep) h
      · cases h
        exact hkeep

/-! ### Actions -/

lemma copyToVarAndSend_followsPeriod {p : PacketBytes} {v : PacketVar} {x x' : TxFields × Globals F π}
    (hv : v = .systemParams → (headerOf p).type = SYSTEM_PARAM_PACKET_ID) (hg : FollowsPeriod x.2)
    (h : Orazio_copyToVarAndSend p (some v) x = .ok x') : FollowsPeriod x'.2 := by
  obtain ⟨w, g, r, g', y, hcopy, hset, hsend, hresponse⟩ := copyToVarAndSend_eq_ok h
  obtain ⟨hw, -, hcopied⟩ := copyArgs_eq_ok hcopy
  cases hw
  have hreceived : FollowsPeriod g' := by
    apply setReceived_followsPeriod _ hset
    intro hne
    have hother : v ≠ .systemParams := fun he => hne (hv he)
    apply hg.congr
    rw [hcopied]
    cases v with
    | systemParams => exact absurd rfl hother
    | _ => rfl
  exact hreceived.congr ((sendResponse_timeBase hresponse).trans (sendPacket_timeBase hsend))

lemma handleParamControl_followsPeriod {p : PacketBytes} {x x' : TxFields × Globals F π}
    (hg : FollowsPeriod x.2) (h : Orazio_handleParamControlPacket p x = .ok x') :
    FollowsPeriod x'.2 := by
  obtain ⟨r, g, hrun, hanswer⟩ := handleParamControlPacket_eq_ok h
  have hseq : FollowsPeriod (setRxSeq (ParamControlPacket.ofBytes p).header.seq x.2) := hg.congr rfl
  have hhandled : FollowsPeriod g := runParamAction_followsPeriod hseq hrun
  obtain ⟨-, hresponse⟩ | ⟨v, offset, y, -, hsend, hresponse⟩ := hanswer
  · exact hhandled.congr (sendResponse_timeBase hresponse)
  · exact hhandled.congr ((sendResponse_timeBase hresponse).trans (sendPacket_timeBase hsend))

/-- The action of a pending packet. -/
lemma deferredAction_followsPeriod {mem : Addr → UInt8} {p : Pending}
    (hs : Stored orazioConfig mem p) {action : OrazioAction}
    (haction : actionOf orazioConfig p.type = some action) {x x' : TxFields × Globals F π}
    (hg : FollowsPeriod x.2) (h : deferredAction action (fun k => mem (p.packet + k)) x = .ok x') :
    FollowsPeriod x'.2 := by
  obtain ⟨i, hmem, htype, hi, hcfg⟩ := orazioConfig_action haction
  obtain ⟨hheader, -⟩ := hs.header hcfg
  rw [← htype, UInt8.ofNat_toNat] at hheader
  have hcopy : ∀ (v : PacketVar) (g g' : Globals F π),
      copyArgs (fun k => mem (p.packet + k)) (some v) g = .ok (v, g') → v ≠ .systemParams →
      timeBase g = timeBase x.2 → FollowsPeriod g' := by
    intro v g g' hcopied hv hsame
    obtain ⟨-, -, rfl⟩ := copyArgs_eq_ok hcopied
    apply hg.congr
    rw [← hsame]
    cases v with
    | systemParams => exact absurd rfl hv
    | _ => rfl
  simp only [orazioInstalls, List.mem_cons, List.not_mem_nil, or_false] at hmem
  rcases hmem with rfl | rfl | rfl | rfl | rfl | rfl
  · cases hi
    exact handleParamControl_followsPeriod hg h
  · cases hi
    exact copyToVarAndSend_followsPeriod (fun _ => hheader) hg h
  · cases hi
    obtain ⟨v, g, hcopied, hresponse⟩ := copyToVarAndDisableDrive_eq_ok h
    obtain ⟨hv, -⟩ := copyArgs_eq_ok hcopied
    cases hv
    exact (hcopy _ _ _ hcopied (by decide) rfl).congr (sendResponse_timeBase hresponse)
  · cases hi
    exact copyToVarAndSend_followsPeriod (fun hv => by cases hv) hg h
  · cases hi
    obtain ⟨v, g, hcopied, hresponse⟩ := copyToVar_eq_ok h
    obtain ⟨hv, -⟩ := copyArgs_eq_ok hcopied
    cases hv
    exact (hcopy _ _ _ hcopied (by decide) rfl).congr (sendResponse_timeBase hresponse)
  · cases hi
    exact copyToVarAndSend_followsPeriod (fun hv => by cases hv) hg h

lemma commHandle_followsPeriod {io : UartIo} {s s' : System F π} {ph : Phase (Fin PACKET_TYPE_MAX)}
    {e : CommEvent} (hrep : DeferredRep orazioConfig s ph []) (hg : FollowsPeriod s.env)
    (hcomm : Orazio_commHandle io s = .ok (e, s')) : FollowsPeriod s'.env := by
  obtain ⟨s₁, ph', ps, errors, -, hrep₁, -, -, ⟨acted, closed, hans⟩, -, henv⟩ :=
    commHandle_answered hrep hcomm
  have hbegin : FollowsPeriod (beginEpoch s₁).env := by
    apply hg.congr
    unfold beginEpoch
    rw [henv]
    rfl
  have hacted : FollowsPeriod acted.2 :=
    runActions_invariant (fun x => FollowsPeriod x.2)
      (fun p hp _ _ _ haction hx hact =>
        deferredAction_followsPeriod (hrep₁.queued.stored p hp) haction hx hact)
      hans.actions hbegin
  exact hacted.congr ((flushOutput_timeBase hans.flush).trans (sendStatus_timeBase hans.status))

/-! ### The statements of the loop -/

omit [PinDriver π] in
lemma driveUpdate_timeBase {g g' : Globals F π} (h : Orazio_driveUpdate g = .ok g') :
    timeBase g' = timeBase g := by
  unfold Orazio_driveUpdate DifferentialDriveController.update at h
  simp only at h
  split at h
  · cases h
  · next controller status hupdate =>
    cases h
    split at hupdate
    · cases hupdate
      rfl
    · cases hupdate
    · cases hupdate

omit [PinDriver π] in
lemma driveControl_timeBase {g g' : Globals F π} {ran : Bool}
    (h : Orazio_driveControl g = .ok (ran, g')) : timeBase g' = timeBase g := by
  have henable : timeBase (enableDrive g) = timeBase g := by
    unfold enableDrive
    split <;> rfl
  obtain ⟨-, -, rfl⟩ | ⟨-, -, joints, rfl⟩ := driveControl_cases h
  · exact henable
  · exact henable

omit [CFloat F] [PinDriver π] in
lemma watchdogBlock_timeBase (s : MainState F π) : timeBase s.watchdogBlock.2 = timeBase s.env := by
  unfold MainState.watchdogBlock
  split
  · simp only
    split <;> rfl
  · rfl

/-! ### Runs -/

/-- What holds in every state since boot. -/
structure TimeBaseInvariant (durationMs : UInt16) (s : MainState F π) : Prop where
  queue : QueueEmpty s
  follows : FollowsPeriod s.env
  timer : s.timerDurationMs = durationMs

lemma mainStep_timeBase {durationMs : UInt16} {s s' : MainState F π} {input : MainInput}
    {event : MainEvent} (h : TimeBaseInvariant durationMs s)
    (hstep : s.mainStep input = .ok (event, s')) : TimeBaseInvariant durationMs s' := by
  obtain ⟨-, hqueue⟩ := mainStep_loopStep h.queue hstep
  have hg := h.follows
  refine ⟨hqueue, ?_, ?_⟩
  · cases mainStep_cases hstep with
    | tick encoders pins => exact hg.congr rfl
    | setTickCounter => exact hg
    | setWatchdogCount => exact hg.congr rfl
    | head => exact hg.congr rfl
    | @driveUpdate _ g hupdate => exact hg.congr (driveUpdate_timeBase hupdate)
    | @driveControl _ ran g hcontrol => exact hg.congr (driveControl_timeBase hcontrol)
    | @commHandle _ io e system hcomm =>
      obtain ⟨ph, hrep⟩ := h.queue
      exact commHandle_followsPeriod hrep hg hcomm
    | watchdog => exact hg.congr (watchdogBlock_timeBase s)
    | rxPacketsBefore => exact hg
    | clearCommHandle => exact hg
    | clearIdleCycles => exact hg.congr rfl
  · rw [← h.timer]
    cases mainStep_cases hstep <;> rfl

/-- The timer gets the period in the parameters, converted to an unsigned number. -/
lemma boot_timeBase {eeprom : Nat → UInt8} {pins : π} {s : MainState F π}
    (h : boot eeprom pins = .ok s) :
    TimeBaseInvariant s.env.systemParams.timerPeriodMs.toUInt16 s := by
  obtain ⟨g, hinit, -, -, henv, hqueue, -⟩ := startMain_eq_ok h
  obtain ⟨g₁, -, hdrive⟩ := initSubsystems_eq_ok hinit
  refine ⟨hqueue, ?_, ?_⟩
  · apply (driveInit_followsPeriod hdrive).congr
    rw [henv]
    rfl
  · unfold boot startMain at h
    split at h
    · cases h
    · split at h
      · cases h
      · cases h
        rfl

/-- The conversion of the period keeps what is not negative. -/
lemma int16_eq_toUInt16_iff (now first : Int16) :
    now.toInt = first.toUInt16.toNat ↔ now = first ∧ 0 ≤ first := by
  have hnow := now.toInt_lt
  have hfirst := first.toInt_lt
  have hlow := first.le_toInt
  have hsigned : first.toInt = Int.bmod first.toUInt16.toNat (2 ^ 16) :=
    BitVec.toInt_eq_toNat_bmod first.toBitVec
  have hbits := first.toUInt16.toNat_lt
  have hconv : (first.toUInt16.toNat : Int) = first.toInt % 65536 := by
    rw [hsigned, Int.bmod_def]
    omega
  rw [hconv, ← Int16.toInt_inj, Int16.le_iff_toInt_le]
  simp only [Int16.toInt_zero]
  omega

/-- In every state since boot, the controller has the time step of the running timer if and only if the
period in the parameters is the one of the boot and not negative. -/
theorem time_base_iff (hmillis : TellsMillisecondsApart F) (eeprom : Nat → UInt8) (pins : π)
    (s₀ s : MainState F π) (inputs : List MainInput) (events : List MainEvent)
    (hboot : boot eeprom pins = .ok s₀)
    (hrun : StepMachine.run MainState.mainStep s₀ inputs = .ok (events, s)) :
    s.env.driveController.jointsDt = const (1 / 1000) * ofInt s.timerDurationMs.toNat ↔
      s.env.systemParams.timerPeriodMs = s₀.env.systemParams.timerPeriodMs ∧
        0 ≤ s₀.env.systemParams.timerPeriodMs := by
  have hinv := StepMachine.run_invariant (TimeBaseInvariant s₀.env.systemParams.timerPeriodMs.toUInt16)
    (boot_timeBase hboot) (fun _ _ _ _ h hstep => mainStep_timeBase h hstep) hrun
  have hfollows : s.env.driveController.jointsDt = seconds s.env.systemParams.timerPeriodMs.toInt :=
    hinv.follows
  have hlow := s.env.systemParams.timerPeriodMs.le_toInt
  have hhigh := s.env.systemParams.timerPeriodMs.toInt_lt
  have hduration := s₀.env.systemParams.timerPeriodMs.toUInt16.toNat_lt
  rw [hfollows, hinv.timer, ← int16_eq_toUInt16_iff]
  constructor
  · intro h
    exact hmillis _ _ (by omega) (by omega) h
  · intro h
    rw [h]
    rfl

lemma exactFloat_tellsMillisecondsApart : TellsMillisecondsApart ExactFloat := by
  intro m n _ _ h
  have hvalue : (1 / 1000 : Rat) * m = 1 / 1000 * n := congrArg ExactFloat.value h
  have hone : (1000 : Rat) * (1 / 1000) = 1 := by decide +kernel
  have hscaled := congrArg (fun x : Rat => 1000 * x) hvalue
  simp only [← Rat.mul_assoc, hone, Rat.one_mul] at hscaled
  exact Rat.intCast_inj.mp hscaled

/-- The bytes of a packet with the default parameters of the system but this period. -/
def periodPacket (timerPeriodMs : Int16) : List UInt8 :=
  SystemParamPacket.bytes { initSystemParams with
    header := ⟨SYSTEM_PARAM_PACKET_ID, sizeofSystemParamPacket, 1⟩
    timerPeriodMs := timerPeriodMs }

/-- Boot and an epoch that receives a packet with the period of the boot. -/
theorem time_base_iff_same :
    ∃ (s₀ s : MainState ExactFloat Pins) (events : List MainEvent),
      boot (fun _ => 0xFF) Pins.zero = .ok s₀ ∧
      StepMachine.run MainState.mainStep s₀ (startInputs ++ epochInputs (frame (periodPacket 10))) =
        .ok (events, s) ∧
      s.env.systemStatus.rxPackets = 1 ∧
      s.env.driveController.jointsDt = const (1 / 1000) * ofInt s.timerDurationMs.toNat := by
  obtain ⟨s₀, hboot, hpos, ⟨events, s⟩, hrun, hreceived, hsame⟩ :
      ∃ s₀, boot (F := ExactFloat) (fun _ => 0xFF) Pins.zero = .ok s₀ ∧
        0 ≤ s₀.env.systemParams.timerPeriodMs ∧
        ∃ r, StepMachine.run MainState.mainStep s₀
            (startInputs ++ epochInputs (frame (periodPacket 10))) = .ok r ∧
          r.2.env.systemStatus.rxPackets = 1 ∧
          r.2.env.systemParams.timerPeriodMs = s₀.env.systemParams.timerPeriodMs := by
    decide +kernel
  exact ⟨s₀, s, events, hboot, hrun, hreceived,
    (time_base_iff exactFloat_tellsMillisecondsApart _ _ s₀ s _ events hboot hrun).mpr ⟨hsame, hpos⟩⟩

/-- A packet of parameters changes the period; at the next epoch the timer still has the one of the
boot. -/
theorem timer_not_restarted :
    ∃ (s₀ s : MainState ExactFloat Pins) (events : List MainEvent),
      boot (fun _ => 0xFF) Pins.zero = .ok s₀ ∧
      StepMachine.run MainState.mainStep s₀ (startInputs ++ epochInputs (frame (periodPacket 20)) ++
        (epochInputs []).take 3) = .ok (events, s) ∧ s.pc = .driveUpdate ∧
      s.env.driveController.jointsDt ≠ const (1 / 1000) * ofInt s.timerDurationMs.toNat := by
  obtain ⟨s₀, hboot, ⟨events, s⟩, hrun, hpc, hdiffers⟩ :
      ∃ s₀, boot (F := ExactFloat) (fun _ => 0xFF) Pins.zero = .ok s₀ ∧
        ∃ r, StepMachine.run MainState.mainStep s₀ (startInputs ++
            epochInputs (frame (periodPacket 20)) ++ (epochInputs []).take 3) = .ok r ∧
          r.2.pc = .driveUpdate ∧
          r.2.env.driveController.jointsDt ≠ const (1 / 1000) * ofInt r.2.timerDurationMs.toNat := by
    decide +kernel
  exact ⟨s₀, s, events, hboot, hrun, hpc, hdiffers⟩

end Orazio.Proofs
