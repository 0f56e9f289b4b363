import Orazio.Proofs.FirmwareReception

/-!
# What the firmware changes when it sends

Sending a packet stamps its header, counts and fills the transmit ring. The variables that decide
how the joints move stay as they are, as long as the packet is not the drive control.
-/

namespace Orazio.Proofs

variable {F π : Type}

/-! ### The variables that decide how the joints move -/

structure Control where
  joints : Fin NUM_MOTORS → JointControl
  outputs : Fin NUM_MOTORS → Int16
  driveSeq : UInt16
  lastSeq : UInt16
  enable : UInt8
  watchdogCycles : UInt16
  watchdogCount : Int16
  rxPackets : UInt16

def control (g : Globals F π) : Control where
  joints := g.jointControl.joints
  outputs := fun i => (g.jointControllers i).output
  driveSeq := g.driveControl.header.seq
  lastSeq := g.lastDriveControlSeq
  enable := g.driveEnable
  watchdogCycles := g.systemParams.watchdogCycles
  watchdogCount := g.systemStatus.watchdogCount
  rxPackets := g.systemStatus.rxPackets

lemma setHeader_control {p : PacketVar} (hp : p ≠ .driveControl) (h : PacketHeader)
    (g : Globals F π) : control (p.setHeader h g) = control g := by
  cases p with
  | driveControl => exact absurd rfl hp
  | _ => rfl

lemma countSent_control (status : PacketStatus) (g : Globals F π) :
    control (countSent status g) = control g := by
  unfold countSent
  split <;> rfl

lemma record_control (g : Globals F π) (sent : List Sent) :
    control { g with sent } = control g := rfl

/-! ### Sending -/

variable [CFloat F]

/-- The packet as it is sent. -/
def sentBytes (p : PacketVar) (g : Globals F π) : List UInt8 :=
  (p.bytes g).take (p.header g).size.toNat

/-- A call of `Orazio_sendPacket` that does not read beyond its packet. -/
lemma sendPacket_eq_ok {p : PacketVar} {x x' : TxFields × Globals F π}
    (h : Orazio_sendPacket p x = .ok x') :
    ∃ status, x.1.sendPacket (p.memory (p.setSeq x.2.globalSeq x.2)) = (status, x'.1) ∧
      x'.2 = { countSent status (p.setSeq x.2.globalSeq x.2) with
        sent := x.2.sent ++ [⟨p, sentBytes p (p.setSeq x.2.globalSeq x.2), status⟩] } ∧
      (status = .success → (p.header x.2).size ≤ p.sizeof) := by
  have hsent : (p.setSeq x.2.globalSeq x.2).sent = x.2.sent := by cases p <;> rfl
  have hsize : (p.header (p.setSeq x.2.globalSeq x.2)).size = (p.header x.2).size := by
    cases p <;> rfl
  unfold Orazio_sendPacket at h
  simp only at h
  split at h
  · cases h
  · next hin =>
    cases h
    refine ⟨_, rfl, ?_, ?_⟩
    · rw [hsent]
      rfl
    · intro hs
      rw [← hsize]
      exact UInt8.not_lt.mp fun hlt => hin ⟨hs, hlt⟩

lemma sendPacket_control {p : PacketVar} (hp : p ≠ .driveControl) {x x' : TxFields × Globals F π}
    (h : Orazio_sendPacket p x = .ok x') : control x'.2 = control x.2 := by
  obtain ⟨status, -, henv, -⟩ := sendPacket_eq_ok h
  rw [henv, record_control, countSent_control]
  exact setHeader_control hp _ _

lemma sendResponse_control {packet : PacketBytes} {result : PacketStatus}
    {x x' : TxFields × Globals F π} (h : Orazio_sendResponse packet result x = .ok x') :
    control x'.2 = control x.2 := by
  unfold Orazio_sendResponse at h
  rw [sendPacket_control (by decide) h]
  rfl

lemma sendPeriodic_control {flag : UInt8} {p : PacketVar} (hp : p ≠ .driveControl)
    {x x' : TxFields × Globals F π} (h : sendPeriodic flag p x = .ok x') :
    control x'.2 = control x.2 := by
  unfold sendPeriodic at h
  split at h
  · exact sendPacket_control hp h
  · cases h
    rfl

lemma sendStatus_eq_ok {x x' : TxFields × Globals F π} (h : sendStatus x = .ok x') :
    ∃ y₁ y₂ y₃, sendPeriodic PSystemStatusFlag .systemStatus x = .ok y₁ ∧
      sendPeriodic PJointStatusFlag .jointStatus y₁ = .ok y₂ ∧
      sendPeriodic PDriveStatusFlag .driveStatus y₂ = .ok y₃ ∧
      Orazio_sendPacket .endEpoch y₃ = .ok x' := by
  unfold sendStatus at h
  cases h₁ : sendPeriodic PSystemStatusFlag .systemStatus x with
  | error e => simp [h₁, bind, Except.bind] at h
  | ok y₁ =>
    cases h₂ : sendPeriodic PJointStatusFlag .jointStatus y₁ with
    | error e => simp [h₁, h₂, bind, Except.bind] at h
    | ok y₂ =>
      cases h₃ : sendPeriodic PDriveStatusFlag .driveStatus y₂ with
      | error e => simp [h₁, h₂, h₃, bind, Except.bind] at h
      | ok y₃ =>
        simp only [h₁, h₂, h₃, bind, Except.bind] at h
        exact ⟨y₁, y₂, y₃, rfl, h₂, h₃, h⟩

lemma sendStatus_control {x x' : TxFields × Globals F π} (h : sendStatus x = .ok x') :
    control x'.2 = control x.2 := by
  obtain ⟨y₁, y₂, y₃, h₁, h₂, h₃, h₄⟩ := sendStatus_eq_ok h
  calc control x'.2 = control y₃.2 := sendPacket_control (by decide) h₄
    _ = control y₂.2 := sendPeriodic_control (by decide) h₃
    _ = control y₁.2 := sendPeriodic_control (by decide) h₂
    _ = control x.2 := sendPeriodic_control (by decide) h₁

/-- Flushing takes the whole queue from the ring. -/
lemma flushOutputLoop_holds {t : TxFields} {q : List UInt8} (h : TxHolds t q) :
    ∃ t', flushOutputLoop t q.length = (q, t') ∧ TxHolds t' [] := by
  induction q generalizing t with
  | nil => exact ⟨t, rfl, h⟩
  | cons c q ih =>
    obtain ⟨t₁, hbyte, h₁⟩ := txByte_cons h
    obtain ⟨t', hloop, h'⟩ := ih h₁
    refine ⟨t', ?_, h'⟩
    simp only [List.length_cons, flushOutputLoop, hbyte, hloop]

omit [CFloat F] in
lemma flushOutputBuffers_eq_ok {io : UartIo} {x : TxFields × Globals F π} {output : List UInt8}
    {tx : TxFields} {g : Globals F π} (h : Orazio_flushOutputBuffers io x = .ok (output, tx, g)) :
    (output, tx) = flushOutputLoop x.1 x.1.txSize.toNat ∧
      g = { x.2 with systemStatus := { x.2.systemStatus with txBufferSize := io.txBufferFull } } := by
  unfold Orazio_flushOutputBuffers at h
  split at h
  · cases h
    exact ⟨rfl, rfl⟩
  · cases h

variable [PinDriver π]

/-- What follows the actions of an epoch leaves the control of the joints alone. -/
lemma Answered.control {io : UartIo} {statuses : List PacketStatus} {s s' : System F π}
    {ps : List Pending} {acted closed : TxFields × Globals F π} {e : CommEvent}
    (h : Answered io statuses s ps acted closed e s') :
    control s'.env = control acted.2 := by
  rw [(flushOutputBuffers_eq_ok h.flush).2]
  exact sendStatus_control h.status

end Orazio.Proofs
