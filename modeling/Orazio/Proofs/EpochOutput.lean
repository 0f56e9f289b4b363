import Orazio.Model.Bench
import Orazio.Proofs.EpochActions
import Orazio.Proofs.MainLoop

/-!
# What an epoch sends

A call of `Orazio_commHandle` begins with an empty transmit ring and offers it the frames that the
pending packets and the periodic mask call for. Its output is complete exactly when they fit.
-/

namespace Orazio.Proofs

variable {F π : Type}

/-- The pending packets of the deferred handler. -/
def pendingPackets (s : System F π) : List PacketBytes :=
  (List.range s.handler.pendingPacketsSize.toNat).map fun (n : Nat) i =>
    s.mem (s.handler.pendingPackets n + i)

lemma DeferredRep.pendingPackets {s : System F π} {ph : Phase (Fin PACKET_TYPE_MAX)}
    {ps : List Pending} (h : DeferredRep orazioConfig s ph ps) :
    pendingPackets s = ps.map fun p i => s.mem (p.packet + i) := by
  have hsize : s.handler.pendingPacketsSize.toNat = ps.length := by
    have := h.size
    omega
  rw [Proofs.pendingPackets, hsize]
  apply List.ext_getElem
  · simp
  · intro n h₁ h₂
    have hn : n < ps.length := by simpa using h₂
    have hpacket := h.queued.pending n hn
    rw [Int.zero_add] at hpacket
    simp only [List.getElem_map, List.getElem_range, hpacket]

/-! ### An epoch -/

variable [CFloat F]

lemma sendPeriodic_handles {flag : UInt8} {v : PacketVar} (hv : v ∈ statusVars)
    {x x' : TxFields × Globals F π} (hstatus : StatusHeaders x.2)
    (h : sendPeriodic flag v x = .ok x') :
    Handles (paramsOf x.2) (periodicFrame (paramsOf x.2).current.mask flag ⟨typeOf v, v.sizeof⟩)
      x x' := by
  have hmask : (paramsOf x.2).current.mask = x.2.systemParams.periodicPacketMask := rfl
  unfold sendPeriodic at h
  rw [hmask, periodicFrame]
  by_cases hflag : x.2.systemParams.periodicPacketMask &&& flag ≠ 0
  · rw [if_pos hflag] at h
    rw [if_pos hflag, ← hstatus v hv]
    have hsame := sendPacket_sameHeaders h
    exact ⟨hsame.paramsOf, hsame.statusHeaders hstatus, sendPacket_sends_packet h⟩
  · rw [if_neg hflag] at h
    cases h
    rw [if_neg hflag]
    exact ⟨rfl, hstatus, .nil rfl rfl⟩

lemma sendStatus_handles {x x' : TxFields × Globals F π} (hstatus : StatusHeaders x.2)
    (h : sendStatus x = .ok x') :
    Handles (paramsOf x.2) (periodicFrames (paramsOf x.2).current.mask ++ [.endEpoch]) x x' := by
  obtain ⟨y₁, y₂, y₃, h₁, h₂, h₃, h₄⟩ := sendStatus_eq_ok h
  obtain ⟨hp₁, hs₁, hsends₁⟩ := sendPeriodic_handles (by decide) hstatus h₁
  obtain ⟨hp₂, hs₂, hsends₂⟩ := sendPeriodic_handles (by decide) hs₁ h₂
  obtain ⟨hp₃, hs₃, hsends₃⟩ := sendPeriodic_handles (by decide) hs₂ h₃
  have hsame := sendPacket_sameHeaders h₄
  rw [hp₁] at hp₂ hsends₂
  rw [hp₂] at hp₃ hsends₃
  refine ⟨hsame.paramsOf.trans hp₃, hsame.statusHeaders hs₃, ?_⟩
  exact ((hsends₁.trans hsends₂).trans hsends₃).trans (sendEndEpoch_sends hs₃ h₄)

variable [PinDriver π]

/-- The actions of the pending packets send the frames that these call for. -/
lemma runActions_handles {mem : Addr → UInt8} {ps : List Pending}
    (hs : ∀ p ∈ ps, Stored orazioConfig mem p) {x x' : TxFields × Globals F π}
    {executed : List (Executed OrazioAction)} (hstatus : StatusHeaders x.2)
    (h : runActions deferredAction orazioConfig mem ps x = .ok (executed, x')) :
    Handles ((paramsOf x.2).changeAll (ps.map fun p i => mem (p.packet + i)))
      ((paramsOf x.2).replyAll (ps.map fun p i => mem (p.packet + i))) x x' := by
  induction ps generalizing x executed with
  | nil =>
    cases h
    exact ⟨rfl, hstatus, .nil rfl rfl⟩
  | cons p ps ih =>
    obtain ⟨first, rest, y, hfirst, hrest, -⟩ := runActions_cons_eq_ok h
    have hstored := hs p List.mem_cons_self
    obtain ⟨hnone, -, -⟩ | ⟨action, haction, -, hact⟩ := runAction_eq_ok hfirst
    · exact absurd hnone (actionOf_stored hstored)
    · obtain ⟨hparams, hstatus', hsends⟩ := deferredAction_handles hstored haction hstatus hact
      have htail := ih (fun q hq => hs q (List.mem_cons_of_mem p hq)) hstatus' hrest
      rw [hparams] at htail
      exact ⟨htail.params, htail.status, hsends.trans htail.sends⟩

/-- What the answers of an epoch send, from an empty ring. -/
lemma Answered.frames {io : UartIo} {statuses : List PacketStatus} {s s' : System F π}
    {ps : List Pending} {acted closed : TxFields × Globals F π} {e : CommEvent}
    (h : Answered io statuses s ps acted closed e s') (hs : ∀ p ∈ ps, Stored orazioConfig s.mem p)
    (hstatus : StatusHeaders s.env) (hring : TxHolds s.handler.baseHandler.toTxFields []) :
    List.Forall₂ Transmits e.sent
        (epochFrames (paramsOf s.env) (ps.map fun p i => s.mem (p.packet + i))) ∧
      e.sent.map accepted = BoundedBuffer.offer 256 0
        ((epochFrames (paramsOf s.env) (ps.map fun p i => s.mem (p.packet + i))).map
          Outgoing.wireSize) ∧
      e.output = framesOf e.sent ∧ TxHolds s'.handler.baseHandler.toTxFields [] ∧
      StatusHeaders s'.env := by
  have hbegin : SameHeaders s.env (beginEpoch s).env :=
    ⟨fun v => by cases v <;> rfl, rfl, rfl⟩
  obtain ⟨hparams, hstatus₁, hsends₁⟩ :=
    runActions_handles hs (hbegin.statusHeaders hstatus) h.actions
  rw [hbegin.paramsOf] at hparams hsends₁
  obtain ⟨-, hstatus₂, hsends₂⟩ := sendStatus_handles hstatus₁ h.status
  rw [hparams] at hsends₂
  obtain ⟨new, hsent, htransmits, hnew⟩ := hsends₁.trans hsends₂
  obtain ⟨hq, hoffer, -⟩ := hnew [] hring
  obtain ⟨hflush, henv⟩ := flushOutputBuffers_eq_ok h.flush
  have hsize : closed.1.txSize.toNat = (framesOf new).length := by
    have := hq.size_eq
    simp only [List.nil_append] at this
    omega
  obtain ⟨tx, hloop, hempty⟩ := flushOutputLoop_holds hq
  rw [hsize, ← List.nil_append (framesOf new), hloop] at hflush
  obtain ⟨houtput, htx⟩ := Prod.mk.inj hflush
  have hnew : e.sent = new := by
    rw [h.sent_eq, henv]
    exact hsent
  have hsame : SameHeaders closed.2 s'.env := by
    rw [henv]
    exact ⟨fun v => by cases v <;> rfl, rfl, rfl⟩
  rw [hnew, epochFrames, List.append_assoc]
  refine ⟨htransmits, hoffer, ?_, ?_, hsame.statusHeaders hstatus₂⟩
  · rw [houtput, List.nil_append]
  · rw [htx]
    exact hempty

/-! ### Runs -/

/-- Between two epochs no packet is pending, the transmit ring is empty, and the status packets have
their own headers. -/
structure OutputReady (s : MainState F π) : Prop where
  queue : QueueEmpty s
  ring : TxHolds s.system.handler.baseHandler.toTxFields []
  status : StatusHeaders s.env

lemma updateOdometry_header (ctr : DifferentialDriveController F) (leftTicks rightTicks : Int16)
    (status : DifferentialDriveStatusPacket F) :
    (ctr.updateOdometry leftTicks rightTicks status).1.header = status.header := by
  unfold DifferentialDriveController.updateOdometry
  split <;> rfl

omit [PinDriver π] in
lemma driveUpdate_sameHeaders {g g' : Globals F π} (h : Orazio_driveUpdate g = .ok g') :
    SameHeaders g g' := by
  unfold Orazio_driveUpdate at h
  split at h
  · cases h
  · next controller status hupdate =>
    cases h
    have hheader : status.header = g.driveStatus.header := by
      unfold DifferentialDriveController.update at hupdate
      split at hupdate
      · cases hupdate
        exact updateOdometry_header _ _ _ _
      · cases hupdate
      · cases hupdate
    refine ⟨fun v => ?_, rfl, rfl⟩
    cases v with
    | driveStatus => exact congrArg kindOf hheader
    | _ => rfl

omit [PinDriver π] in
lemma driveControl_sameHeaders {g g' : Globals F π} {ran : Bool}
    (h : Orazio_driveControl g = .ok (ran, g')) : SameHeaders g g' := by
  have henable : SameHeaders g (enableDrive g) := by
    unfold enableDrive
    split
    · exact ⟨fun v => by cases v <;> rfl, rfl, rfl⟩
    · exact .refl g
  obtain ⟨-, -, rfl⟩ | ⟨-, -, joints, rfl⟩ := driveControl_cases h
  · exact henable
  · exact henable.trans ⟨fun v => by cases v <;> rfl, rfl, rfl⟩

omit [CFloat F] [PinDriver π] in
lemma watchdogBlock_sameHeaders (s : MainState F π) : SameHeaders s.env s.watchdogBlock.2 := by
  unfold MainState.watchdogBlock
  split
  · simp only
    split <;> exact ⟨fun v => by cases v <;> rfl, rfl, rfl⟩
  · exact .refl _

/-- Only a call of `Orazio_commHandle` receives or sends. -/
lemma mainStep_sameHeaders {s s' : MainState F π} {input : MainInput} {event : MainEvent}
    (h : s.mainStep input = .ok (event, s')) :
    (s'.system.handler = s.system.handler ∧ SameHeaders s.env s'.env) ∨
      ∃ io e, Orazio_commHandle io s.system = .ok (e, s'.system) := by
  cases mainStep_cases h with
  | driveUpdate _ hupdate => exact .inl ⟨rfl, driveUpdate_sameHeaders hupdate⟩
  | driveControl _ hcontrol => exact .inl ⟨rfl, driveControl_sameHeaders hcontrol⟩
  | commHandle _ hcomm => exact .inr ⟨_, _, hcomm⟩
  | watchdog => exact .inl ⟨rfl, watchdogBlock_sameHeaders s⟩
  | _ => exact .inl ⟨rfl, fun v => by cases v <;> rfl, rfl, rfl⟩

/-- A call of `Orazio_commHandle` from the beginning of an epoch. -/
lemma commHandle_frames {io : UartIo} {s s₁ s' : System F π} {statuses : List PacketStatus}
    {ph : Phase (Fin PACKET_TYPE_MAX)} {e : CommEvent} (hrep : DeferredRep orazioConfig s ph [])
    (hring : TxHolds s.handler.baseHandler.toTxFields []) (hstatus : StatusHeaders s.env)
    (hflush : Orazio_flushInputBuffers io s = .ok (statuses, s₁))
    (hcomm : Orazio_commHandle io s = .ok (e, s')) :
    List.Forall₂ Transmits e.sent (epochFrames (paramsOf s.env) (pendingPackets s₁)) ∧
      e.sent.map accepted = BoundedBuffer.offer 256 0
        ((epochFrames (paramsOf s.env) (pendingPackets s₁)).map Outgoing.wireSize) ∧
      e.output = framesOf e.sent ∧ (∃ ph', DeferredRep orazioConfig s' ph' []) ∧
      TxHolds s'.handler.baseHandler.toTxFields [] ∧ StatusHeaders s'.env := by
  obtain ⟨s₂, ph', ps, errors, hflush', hrep₁, hrep', -, ⟨acted, closed, hans⟩, htx, henv⟩ :=
    commHandle_answered hrep hcomm
  rw [hflush] at hflush'
  cases hflush'
  have hsame : SameHeaders s.env s₁.env := by
    rw [henv]
    exact ⟨fun v => by cases v <;> rfl, rfl, rfl⟩
  have hframes := hans.frames hrep₁.queued.stored (hsame.statusHeaders hstatus) (by rw [htx]; exact hring)
  rw [hsame.paramsOf, ← hrep₁.pendingPackets] at hframes
  obtain ⟨htransmits, hoffer, houtput, hempty, hstatus'⟩ := hframes
  exact ⟨htransmits, hoffer, houtput, ⟨ph', hrep'⟩, hempty, hstatus'⟩

lemma mainStep_ready {s s' : MainState F π} {input : MainInput} {event : MainEvent}
    (hready : OutputReady s) (h : s.mainStep input = .ok (event, s')) : OutputReady s' := by
  obtain ⟨-, hqueue⟩ := mainStep_loopStep hready.queue h
  obtain ⟨hhandler, hsame⟩ | ⟨io, e, hcomm⟩ := mainStep_sameHeaders h
  · refine ⟨hqueue, ?_, hsame.statusHeaders hready.status⟩
    rw [hhandler]
    exact hready.ring
  · obtain ⟨ph, hrep⟩ := hready.queue
    obtain ⟨s₁, -, -, -, hflush, -⟩ := commHandle_answered hrep hcomm
    obtain ⟨-, -, -, -, hring, hstatus⟩ :=
      commHandle_frames hrep hready.ring hready.status hflush hcomm
    exact ⟨hqueue, hring, hstatus⟩

lemma boot_ready {eeprom : Nat → UInt8} {pins : π} {s : MainState F π}
    (h : boot eeprom pins = .ok s) : OutputReady s := by
  obtain ⟨g, hinit, -, -, henv, hqueue, hring⟩ := startMain_eq_ok h
  obtain ⟨hchange, -⟩ := initSubsystems_change hinit
  refine ⟨hqueue, hring, ?_⟩
  have hstatic : StatusHeaders { (Globals.static eeprom pins : Globals F π) with
      jointControllers := fun _ => .zero } := by
    intro v hv
    simp only [statusVars, List.mem_cons, List.not_mem_nil, or_false] at hv
    rcases hv with rfl | rfl | rfl | rfl | rfl <;> rfl
  have hsame : SameHeaders g s.env := by
    rw [henv]
    exact ⟨fun v => by cases v <;> rfl, rfl, rfl⟩
  exact hsame.statusHeaders (hchange.statusHeaders hstatic)

lemma mainRun_ready {s s' : MainState F π} {inputs : List MainInput} {events : List MainEvent}
    (hready : OutputReady s) (h : StepMachine.run MainState.mainStep s inputs = .ok (events, s')) :
    OutputReady s' :=
  StepMachine.run_invariant OutputReady hready (fun _ _ _ _ hs hstep => mainStep_ready hs hstep) h

/-- In every reachable state, a call of `Orazio_commHandle` gives the UART the frames of the packets
it has queued, and its output is complete if and only if the frames that the pending packets and the
periodic mask call for fit into the transmit ring. -/
theorem epoch_output_iff (eeprom : Nat → UInt8) (pins : π) (s₀ s : MainState F π)
    (inputs : List MainInput) (events : List MainEvent) (io : UartIo) (statuses : List PacketStatus)
    (s₁ s' : System F π) (e : CommEvent) (hboot : boot eeprom pins = .ok s₀)
    (hrun : StepMachine.run MainState.mainStep s₀ inputs = .ok (events, s))
    (hflush : Orazio_flushInputBuffers io s.system = .ok (statuses, s₁))
    (hcomm : Orazio_commHandle io s.system = .ok (e, s')) :
    e.output = (queuedPackets e.sent).flatMap frame ∧
      (EpochComplete (pendingPackets s₁) e.sent ↔
        EpochFits (paramsOf s.env) (pendingPackets s₁)) := by
  obtain ⟨⟨ph, hrep⟩, hring, hstatus⟩ := mainRun_ready (boot_ready hboot) hrun
  obtain ⟨htransmits, hoffer, houtput, -, -, -⟩ :=
    commHandle_frames hrep hring hstatus hflush hcomm
  exact ⟨houtput, epochComplete_iff htransmits hoffer⟩

/-- The bytes of a packet with the default joint parameters. -/
def jointParamPacket (seq : UInt16) : List UInt8 :=
  JointParamPacket.bytes
    { initJointParams with header := ⟨JOINT_PARAM_PACKET_ID, sizeofJointParamPacket, seq⟩ }

/-- The bytes of a packet with the default parameters of the drive. -/
def driveParamPacket (seq : UInt16) : List UInt8 :=
  DifferentialDriveParamPacket.bytes (F := ExactFloat)
    { initDriveParams with
      header := ⟨DIFFERENTIAL_DRIVE_PARAM_PACKET_ID, sizeofDriveParamPacket, seq⟩ }

/-- Boot and two ticks, up to the first call of `Orazio_commHandle`. -/
def commInputs : List MainInput :=
  startInputs ++ List.replicate 2 (.tick fun _ => 0) ++ List.replicate 3 (.step ⟨0, [], 0⟩)

/-- One packet of parameters with all status packets. -/
theorem epoch_output_iff_joint_params :
    ∃ (s₀ s : MainState ExactFloat Pins) (events : List MainEvent) (statuses : List PacketStatus)
      (s₁ s' : System ExactFloat Pins) (e : CommEvent),
      boot (fun _ => 0xFF) Pins.zero = .ok s₀ ∧
      StepMachine.run MainState.mainStep s₀ commInputs = .ok (events, s) ∧
      Orazio_flushInputBuffers ⟨0, frame (jointParamPacket 1), 0⟩ s.system = .ok (statuses, s₁) ∧
      Orazio_commHandle ⟨0, frame (jointParamPacket 1), 0⟩ s.system = .ok (e, s') ∧
      (pendingPackets s₁).length = 1 ∧ EpochComplete (pendingPackets s₁) e.sent := by
  obtain ⟨s₀, hboot, ⟨events, s⟩, hrun, ⟨statuses, s₁⟩, hflush, hone, hfits, ⟨e, s'⟩, hcomm, -⟩ :
      ∃ s₀, boot (F := ExactFloat) (fun _ => 0xFF) Pins.zero = .ok s₀ ∧
        ∃ r, StepMachine.run MainState.mainStep s₀ commInputs = .ok r ∧
          ∃ f, Orazio_flushInputBuffers ⟨0, frame (jointParamPacket 1), 0⟩ r.2.system = .ok f ∧
          (pendingPackets f.2).length = 1 ∧ EpochFits (paramsOf r.2.env) (pendingPackets f.2) ∧
          ∃ c, Orazio_commHandle ⟨0, frame (jointParamPacket 1), 0⟩ r.2.system = .ok c ∧ True := by
    decide +kernel
  exact ⟨s₀, s, events, statuses, s₁, s', e, hboot, hrun, hflush, hcomm, hone,
    (epoch_output_iff (fun _ => 0xFF) Pins.zero s₀ s commInputs events _ statuses s₁ s' e
      hboot hrun hflush hcomm).2.mpr hfits⟩

/-- The bytes of two packets of joint parameters and one of the drive. -/
def threeParamPackets : List UInt8 :=
  frame (jointParamPacket 1) ++ frame (jointParamPacket 2) ++ frame (driveParamPacket 3)

/-- Three pending packets of parameters and all status packets: the end of epoch is refused. -/
theorem end_epoch_refused :
    ∃ (s₀ s : MainState ExactFloat Pins) (events : List MainEvent) (statuses : List PacketStatus)
      (s₁ s' : System ExactFloat Pins) (e : CommEvent),
      boot (fun _ => 0xFF) Pins.zero = .ok s₀ ∧
      StepMachine.run MainState.mainStep s₀ commInputs = .ok (events, s) ∧ s.pc = .commHandle ∧
      Orazio_flushInputBuffers ⟨0, threeParamPackets, 0⟩ s.system = .ok (statuses, s₁) ∧
      Orazio_commHandle ⟨0, threeParamPackets, 0⟩ s.system = .ok (e, s') ∧
      (pendingPackets s₁).length = 3 ∧ ¬EpochComplete (pendingPackets s₁) e.sent ∧
      (queuedPackets e.sent).countP (isOfType END_EPOCH_PACKET_ID) = 0 := by
  obtain ⟨s₀, hboot, ⟨events, s⟩, hrun, hpc, ⟨statuses, s₁⟩, hflush, hthree, ⟨e, s'⟩, hcomm, hnone⟩ :
      ∃ s₀, boot (F := ExactFloat) (fun _ => 0xFF) Pins.zero = .ok s₀ ∧
        ∃ r, StepMachine.run MainState.mainStep s₀ commInputs = .ok r ∧ r.2.pc = .commHandle ∧
          ∃ f, Orazio_flushInputBuffers ⟨0, threeParamPackets, 0⟩ r.2.system = .ok f ∧
          (pendingPackets f.2).length = 3 ∧
          ∃ c, Orazio_commHandle ⟨0, threeParamPackets, 0⟩ r.2.system = .ok c ∧
          (queuedPackets c.1.sent).countP (isOfType END_EPOCH_PACKET_ID) = 0 := by
    decide +kernel
  refine ⟨s₀, s, events, statuses, s₁, s', e, hboot, hrun, hpc, hflush, hcomm, hthree, ?_, hnone⟩
  intro hcomplete
  exact absurd (hcomplete.endEpoch.symm.trans hnone) (by decide)

end Orazio.Proofs
