import Orazio.Model.Main
import Orazio.Proofs.DeferredSoundness

/-!
# The deferred handler of the firmware

The six packet types of the firmware are installed with separate buffers. A call of
`Orazio_commHandle` receives bytes, runs the actions of the pending packets and empties the queue.
-/

namespace Orazio.Proofs

variable {F π : Type}

/-! ### Installed packets -/

def orazioInstalls : List (Install OrazioAction) :=
  [⟨PARAM_CONTROL_PACKET_ID, sizeofParamControlPacket, 0, PBUFNO,
      some ⟨.handleParamControlPacket, none⟩⟩,
    ⟨SYSTEM_PARAM_PACKET_ID, sizeofSystemParamPacket, 12, PBUFNO,
      some ⟨.copyToVarAndSend, some .systemParams⟩⟩,
    ⟨JOINT_CONTROL_PACKET_ID, sizeofJointControlPacket, 62, PBUFNO,
      some ⟨.copyToVarAndDisableDrive, some .jointControl⟩⟩,
    ⟨JOINT_PARAM_PACKET_ID, sizeofJointParamPacket, 82, PBUFNO,
      some ⟨.copyToVarAndSend, some .jointParams⟩⟩,
    ⟨DIFFERENTIAL_DRIVE_CONTROL_PACKET_ID, sizeofDriveControlPacket, 154, PBUFNO,
      some ⟨.copyToVar, some .driveControl⟩⟩,
    ⟨DIFFERENTIAL_DRIVE_PARAM_PACKET_ID, sizeofDriveParamPacket, 178, PBUFNO,
      some ⟨.copyToVarAndSend, some .driveParams⟩⟩]

abbrev orazioConfig : Fin PACKET_TYPE_MAX → Option (Install OrazioAction) :=
  installedFor orazioInstalls

lemma orazioInstalls_validSetup : ValidSetup orazioInstalls := by
  refine ⟨?_, ?_⟩
  · intro i hi
    simp only [orazioInstalls, List.mem_cons, List.not_mem_nil, or_false] at hi
    rcases hi with rfl | rfl | rfl | rfl | rfl | rfl <;> constructor <;> decide
  · change orazioInstalls.Pairwise fun i i' =>
      i.type ≠ i'.type ∧ (i.bufferEnd ≤ i'.buffer ∨ i'.bufferEnd ≤ i.buffer)
    decide

lemma orazioConfig_valid : ValidInstalls orazioConfig :=
  orazioInstalls_validSetup.validInstalls

lemma installDeferred_cons (h : DeferredPacketHandler OrazioAction) (type size : UInt8)
    (buffer : Nat) (action : OrazioAction) (installs : List (Install OrazioAction)) :
    installDeferred h (⟨type, size, buffer, PBUFNO, some action⟩ :: installs) =
      installIgnored type size buffer action h >>= fun h => installDeferred h installs := by
  rw [installDeferred, installIgnored]
  cases h.installPacket type size buffer PBUFNO (some action) <;> rfl

lemma initializePackets_eq (h : DeferredPacketHandler OrazioAction) :
    Orazio_initializePackets h = installDeferred h orazioInstalls := by
  have hlast : ∀ x : Except Fault (DeferredPacketHandler OrazioAction),
      (x >>= fun h => installDeferred h []) = x := by
    intro x
    cases x <;> rfl
  simp only [orazioInstalls, installDeferred_cons, hlast]
  rfl

lemma installDeferred_toTxFields {installs : List (Install OrazioAction)}
    {h h' : DeferredPacketHandler OrazioAction} (hinstall : installDeferred h installs = .ok h') :
    h'.baseHandler.toTxFields = h.baseHandler.toTxFields := by
  induction installs generalizing h with
  | nil =>
    cases hinstall
    rfl
  | cons i installs ih =>
    rw [installDeferred] at hinstall
    split at hinstall
    · cases hinstall
    · next h₁ hfirst =>
      rw [ih hinstall]
      unfold DeferredPacketHandler.installPacket at hfirst
      split at hfirst
      · split at hfirst
        · cases hfirst
        · cases hfirst
          unfold PacketHandler.installPacket
          split
          · split <;> rfl
          · rfl
      · cases hfirst
        rfl

/-- `Orazio_commInit` installs the packets and empties both sides of the handler. -/
lemma commInit_rep (s : System F π) :
    ∃ s', Orazio_commInit s = .ok s' ∧ DeferredRep orazioConfig s' .hunt [] ∧
      TxHolds s'.handler.baseHandler.toTxFields [] ∧
      s'.env = { s.env with uart := UART_init s.env.systemParams.commSpeed, globalSeq := 0 } := by
  obtain ⟨h, hinstall, hinst⟩ := installDeferred_installed
    (by simpa using orazioInstalls_validSetup) (initializeDeferred_installed s.handler)
  have htx := installDeferred_toTxFields hinstall
  rw [List.nil_append] at hinst
  refine ⟨⟨h, s.mem,
    { s.env with uart := UART_init s.env.systemParams.commSpeed, globalSeq := 0 }⟩, ?_,
    hinst.deferredRep _ _, ?_, rfl⟩
  · rw [Orazio_commInit, initializePackets_eq, hinstall]
  · rw [htx]
    exact initializeTx_holds _

/-! ### Received bytes -/

lemma DeferredRep.setEnv {α τ : Type} {cfg : Fin PACKET_TYPE_MAX → Option (Install α)}
    {s : DeferredState α τ} {ph : Phase (Fin PACKET_TYPE_MAX)} {ps : List Pending}
    (h : DeferredRep cfg s ph ps) (env : τ) : DeferredRep cfg { s with env } ph ps :=
  ⟨h.operations, h.queued, h.size, h.max, h.rep, h.slot⟩

/-- At most one packet becomes pending, and only with its checksum byte. -/
lemma queuedBy_length {ρ : Type} (ops : Fin PACKET_TYPE_MAX → PacketOperations ρ)
    (operations : Fin PACKET_TYPE_MAX → Option (Fin PACKET_TYPE_MAX)) (buffer : Option Addr)
    (ph : Phase (Fin PACKET_TYPE_MAX)) (n : Nat) (c : UInt8) :
    (ph.queuedBy n c).length ≤ [(ph.next ops operations buffer c).1].count .syncChecksum := by
  cases ph with
  | complete op packet got =>
    simp only [Phase.queuedBy, Phase.next]
    by_cases hc : c = Bytes.xorSum got
    · by_cases hroom : n < 8 <;> simp [hc, hroom]
    · simp [hc]
  | _ => exact Nat.zero_le _

/-- What `Orazio_flushInputBuffers` counts. -/
def countAll (statuses : List PacketStatus) (g : Globals F π) : Globals F π :=
  statuses.foldl (fun g status => countReceived status g) g

/-- The received bytes make some packets pending, no more than have been counted. -/
lemma flushInputLoop_rep {s : System F π} {ph : Phase (Fin PACKET_TYPE_MAX)} {ps : List Pending}
    (h : DeferredRep orazioConfig s ph ps) (cs : List UInt8) :
    ∃ statuses s' ph' new, flushInputLoop s cs = .ok (statuses, s') ∧
      DeferredRep orazioConfig s' ph' (ps ++ new) ∧
      new.length ≤ statuses.count .syncChecksum ∧
      s'.handler.baseHandler.toTxFields = s.handler.baseHandler.toTxFields ∧
      s'.env = countAll statuses s.env := by
  induction cs generalizing s ph ps with
  | nil => exact ⟨[], s, ph, [], rfl, by simpa using h, Nat.zero_le _, rfl, rfl⟩
  | cons c cs ih =>
    obtain ⟨buffer, s₁, hrx, hrep₁, -, htx₁, henv₁⟩ := h.rxByte orazioConfig_valid c
    have hlen := queuedBy_length (DeferredFields.operations s.handler.packetInfos)
      s.handler.baseHandler.operations buffer ph ps.length c
    generalize hstatus : (ph.next (DeferredFields.operations s.handler.packetInfos)
      s.handler.baseHandler.operations buffer c).1 = status at hrx hlen
    obtain ⟨statuses, s', ph', new, hloop, hrep, hnew, htx, henv⟩ :=
      ih (hrep₁.setEnv (countReceived status s₁.env))
    refine ⟨status :: statuses, s', ph', ph.queuedBy ps.length c ++ new, ?_, ?_, ?_, ?_, ?_⟩
    · rw [flushInputLoop, hrx]
      simp only [hloop]
    · rw [← List.append_assoc]
      exact hrep
    · rw [← List.singleton_append, List.count_append, List.length_append]
      exact Nat.add_le_add hlen hnew
    · rw [htx, htx₁]
    · rw [henv, henv₁]
      rfl

/-- Counting changes the two counters of received packets only. -/
lemma countAll_eq (statuses : List PacketStatus) (g : Globals F π) :
    ∃ errors, countAll statuses g = { g with systemStatus := { g.systemStatus with
      rxPackets := g.systemStatus.rxPackets + UInt16.ofNat (statuses.count .syncChecksum)
      rxPacketErrors := errors } } := by
  induction statuses generalizing g with
  | nil => exact ⟨g.systemStatus.rxPacketErrors, by simp [countAll]⟩
  | cons status statuses ih =>
    obtain ⟨errors, hrest⟩ := ih (countReceived status g)
    refine ⟨errors, ?_⟩
    have hcons : countAll (status :: statuses) g = countAll statuses (countReceived status g) := rfl
    rw [hcons, hrest]
    by_cases hs : status = .syncChecksum
    · subst hs
      simp [countReceived, PacketStatus.code, UInt16.ofNat_add, UInt16.add_assoc, UInt16.add_comm]
    · by_cases hneg : status.code < 0 <;> simp [countReceived, hs, hneg]

/-! ### A call of `Orazio_commHandle` -/

variable [CFloat F] [PinDriver π]

/-- What follows the reception: the actions of the pending packets, the status packets, the bytes
for the UART. -/
structure Answered (io : UartIo) (statuses : List PacketStatus) (s : System F π)
    (ps : List Pending) (acted closed : TxFields × Globals F π) (e : CommEvent) (s' : System F π) :
    Prop where
  actions : runActions deferredAction orazioConfig s.mem ps
    (s.handler.baseHandler.toTxFields, (beginEpoch s).env) = .ok (e.executed, acted)
  status : sendStatus acted = .ok closed
  flush : Orazio_flushOutputBuffers io closed =
    .ok (e.output, s'.handler.baseHandler.toTxFields, s'.env)
  statuses_eq : e.statuses = statuses
  sent_eq : e.sent = s'.env.sent

lemma answerReceived_answered {io : UartIo} {statuses : List PacketStatus} {s s' : System F π}
    {ph : Phase (Fin PACKET_TYPE_MAX)} {ps : List Pending} {e : CommEvent}
    (h : DeferredRep orazioConfig s ph ps) (hans : answerReceived io statuses s = .ok (e, s')) :
    (∃ acted closed, Answered io statuses s ps acted closed e s') ∧ DeferredRep orazioConfig s' ph [] := by
  have hprocess := (h.setEnv (beginEpoch s).env).process orazioConfig_valid deferredAction
  unfold answerReceived at hans
  cases hrun : runActions deferredAction orazioConfig s.mem ps
      (s.handler.baseHandler.toTxFields, (beginEpoch s).env) with
  | error e =>
    rw [hrun] at hprocess
    simp only at hprocess
    rw [show (beginEpoch s).processPendingPackets deferredAction = .error e from hprocess] at hans
    cases hans
  | ok r =>
    obtain ⟨executed, x⟩ := r
    rw [hrun] at hprocess
    simp only at hprocess
    obtain ⟨s₁, hprocess, hrep₁, -, htx₁, -, henv₁⟩ := hprocess
    rw [show (beginEpoch s).processPendingPackets deferredAction = .ok (executed, s₁) from hprocess]
      at hans
    simp only [htx₁, henv₁] at hans
    split at hans
    · cases hans
    · next y hstatus =>
      split at hans
      · cases hans
      · next output z hflush =>
        cases hans
        exact ⟨⟨x, y, hrun, hstatus, hflush, rfl, rfl⟩, hrep₁.operations, hrep₁.queued, hrep₁.size,
          hrep₁.max, hrep₁.rep.congr z.1 _, hrep₁.slot⟩

/-- A call of `Orazio_commHandle` from an empty queue: some packets become pending and are
answered. -/
lemma commHandle_answered {io : UartIo} {s s' : System F π} {ph : Phase (Fin PACKET_TYPE_MAX)}
    {e : CommEvent} (h : DeferredRep orazioConfig s ph [])
    (hcomm : Orazio_commHandle io s = .ok (e, s')) :
    ∃ s₁ ph' ps errors, Orazio_flushInputBuffers io s = .ok (e.statuses, s₁) ∧
      DeferredRep orazioConfig s₁ ph' ps ∧ DeferredRep orazioConfig s' ph' [] ∧
      ps.length ≤ e.received ∧ (∃ acted closed, Answered io e.statuses s₁ ps acted closed e s') ∧
      s₁.handler.baseHandler.toTxFields = s.handler.baseHandler.toTxFields ∧
      s₁.env = { s.env with systemStatus := { s.env.systemStatus with
        rxBufferSize := io.rxBufferFull
        rxPackets := s.env.systemStatus.rxPackets + UInt16.ofNat e.received
        rxPacketErrors := errors } } := by
  unfold Orazio_commHandle at hcomm
  split at hcomm
  · cases hcomm
  · next statuses s₁ hflush =>
    have hflush' := hflush
    unfold Orazio_flushInputBuffers at hflush'
    split at hflush'
    · obtain ⟨statuses', s₂, ph', new, hloop, hrep, hnew, htx, henv⟩ :=
        flushInputLoop_rep (h.setEnv { s.env with
          systemStatus := { s.env.systemStatus with rxBufferSize := io.rxBufferFull } }) io.received
      rw [hloop] at hflush'
      cases hflush'
      obtain ⟨⟨acted, closed, hans⟩, hrep'⟩ := answerReceived_answered hrep hcomm
      obtain ⟨errors, hcount⟩ := countAll_eq statuses { s.env with
        systemStatus := { s.env.systemStatus with rxBufferSize := io.rxBufferFull } }
      have hstatuses := hans.statuses_eq
      refine ⟨s₁, ph', [] ++ new, errors, ?_, hrep, hrep', ?_, ?_, htx, ?_⟩
      · rw [hstatuses]
        exact hflush
      · rw [CommEvent.received, hstatuses]
        exact hnew
      · rw [hstatuses]
        exact ⟨acted, closed, hans⟩
      · rw [henv, hcount, CommEvent.received, hstatuses]
    · cases hflush'

end Orazio.Proofs
