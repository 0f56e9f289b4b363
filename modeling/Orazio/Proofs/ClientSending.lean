import Orazio.Proofs.ClientReception
import Orazio.Proofs.FirmwareSending

/-!
# What the client sends

`_sendPacket` numbers a packet and puts its frame into the transmit ring, or refuses it. Nothing that
is sent changes what the client receives.
-/

namespace Orazio.Proofs

variable {F : Type} [CFloat F]

/-- `_sendPacket` puts the packet into the transmit ring. -/
def Accepted (cl : OrazioClient F) (p : PacketBytes) : Prop :=
  (p 0).toNat < PACKET_TYPE_MAX ∧ packetSizes (p 0) ≠ 0 ∧ p 1 = packetSizes (p 0) ∧
    cl.packetHandler.txSize + ((p 1).toNat + 3) ≤ BUFFER_SIZE_MAX

instance (cl : OrazioClient F) (p : PacketBytes) : Decidable (Accepted cl p) :=
  inferInstanceAs (Decidable (_ ∧ _))

lemma setPacketSeq_zero (p : PacketBytes) (seq : UInt16) : setPacketSeq p seq 0 = p 0 := rfl

lemma setPacketSeq_one (p : PacketBytes) (seq : UInt16) : setPacketSeq p seq 1 = p 1 := rfl

lemma setPacketSeq_seq (p : PacketBytes) (seq : UInt16) :
    LittleEndian.getU16 (setPacketSeq p seq) 2 = seq :=
  LittleEndian.getU16_eq rfl rfl

variable {cl : OrazioClient F} {p : PacketBytes}

omit [CFloat F] in
/-- `_sendPacket` on a packet that fits. -/
lemma sendPacket_accepted (h : Accepted cl p) :
    ∃ tx, cl.packetHandler.toTxFields.sendPacket (setPacketSeq p (cl.globalSeq + 1)) =
        (.success, tx) ∧
      cl.sendPacket p = (.success, setPacketSeq p (cl.globalSeq + 1),
        { cl with
          globalSeq := cl.globalSeq + 1
          packetHandler := { cl.packetHandler with toTxFields := tx } }) := by
  obtain ⟨htype, hsize, hexpected, hroom⟩ := h
  have hfree : ¬BUFFER_SIZE_MAX - cl.packetHandler.txSize <
      (setPacketSeq p (cl.globalSeq + 1) 1).toNat + 3 := by
    rw [setPacketSeq_one]
    omega
  simp only [OrazioClient.sendPacket]
  rw [if_neg (by omega), if_neg hsize, if_neg (by simpa using hexpected)]
  simp only [PacketHandler.sendPacket, TxFields.sendPacket]
  rw [if_neg hfree]
  exact ⟨_, rfl, rfl⟩

omit [CFloat F] in
/-- `_sendPacket` refuses any other packet. -/
lemma sendPacket_refused (h : ¬Accepted cl p) :
    ∃ status p', status ≠ .success ∧
      cl.sendPacket p = (status, p', { cl with globalSeq := cl.globalSeq + 1 }) := by
  simp only [OrazioClient.sendPacket]
  by_cases htype : PACKET_TYPE_MAX ≤ (p 0).toNat
  · rw [if_pos htype]
    exact ⟨.unknownType, p, by decide, rfl⟩
  · rw [if_neg htype]
    by_cases hsize : packetSizes (p 0) = 0
    · rw [if_pos hsize]
      exact ⟨.unknownType, p, by decide, rfl⟩
    · rw [if_neg hsize]
      by_cases hexpected : p 1 = packetSizes (p 0)
      · rw [if_neg (by simpa using hexpected)]
        have hfull : BUFFER_SIZE_MAX - cl.packetHandler.txSize <
            (setPacketSeq p (cl.globalSeq + 1) 1).toNat + 3 := by
          rw [setPacketSeq_one]
          by_contra hroom
          exact h ⟨by omega, hsize, hexpected, by omega⟩
        simp only [PacketHandler.sendPacket, TxFields.sendPacket]
        rw [if_pos hfull]
        exact ⟨.txBufferFull, _, by decide, rfl⟩
      · rw [if_pos hexpected]
        exact ⟨.invalidSize, p, by decide, rfl⟩

omit [CFloat F] in
/-- `_flushBuffer` empties the transmit ring. -/
lemma flushBuffer_holds {q : List UInt8} (h : TxHolds cl.packetHandler.toTxFields q) :
    ∃ tx, cl.flushBuffer =
        (q, { cl with packetHandler := { cl.packetHandler with toTxFields := tx } }) ∧
      TxHolds tx [] := by
  obtain ⟨tx, hloop, hempty⟩ := flushOutputLoop_holds h
  have hsize : cl.packetHandler.txSize.toNat = q.length := by
    have := h.size_eq
    omega
  refine ⟨tx, ?_, hempty⟩
  simp only [OrazioClient.flushBuffer, hsize, hloop]

/-- What calls leave of the sender: the drive command, and a transmit ring. -/
structure KeepsSender (cl cl' : OrazioClient F) : Prop where
  driveControlPacket : cl'.driveControlPacket = cl.driveControlPacket
  ring : (∃ q, TxHolds cl.packetHandler.toTxFields q) →
    ∃ q, TxHolds cl'.packetHandler.toTxFields q

omit [CFloat F] in
lemma KeepsSender.trans {cl cl' cl'' : OrazioClient F} (h : KeepsSender cl cl')
    (h' : KeepsSender cl' cl'') : KeepsSender cl cl'' :=
  ⟨h'.driveControlPacket.trans h.driveControlPacket, fun hring => h'.ring (h.ring hring)⟩

omit [CFloat F] in
lemma SameSender.keepsSender {cl cl' : OrazioClient F} (h : SameSender cl cl') :
    KeepsSender cl cl' := by
  refine ⟨h.driveControlPacket, ?_⟩
  rw [h.tx]
  exact id

omit [CFloat F] in
lemma flushBuffer_keepsSender (cl : OrazioClient F) : KeepsSender cl cl.flushBuffer.2 := by
  refine ⟨rfl, ?_⟩
  rintro ⟨q, hq⟩
  obtain ⟨tx, hflush, hempty⟩ := flushBuffer_holds hq
  rw [hflush]
  exact ⟨[], hempty⟩

omit [CFloat F] in
/-- A packet for which the ring has room follows what is queued. -/
lemma sendPacket_queues {cl : OrazioClient F} {p : PacketBytes} {q : List UInt8}
    (hacc : Accepted cl p) (hq : TxHolds cl.packetHandler.toTxFields q) :
    ∃ tx, cl.sendPacket p = (.success, setPacketSeq p (cl.globalSeq + 1),
        { cl with
          globalSeq := cl.globalSeq + 1
          packetHandler := { cl.packetHandler with toTxFields := tx } }) ∧
      TxHolds tx (q ++ frame (packetOf (setPacketSeq p (cl.globalSeq + 1)))) := by
  obtain ⟨tx, htx, hsend⟩ := sendPacket_accepted hacc
  obtain ⟨-, hfull⟩ | ⟨-, t, hroom, hholds⟩ :=
    sendPacket_cases hq (setPacketSeq p (cl.globalSeq + 1))
  · rw [htx] at hfull
    cases hfull
  · rw [htx] at hroom
    cases hroom
    exact ⟨tx, hsend, hholds⟩

omit [CFloat F] in
lemma sendPacket_keepsSender (cl : OrazioClient F) (p : PacketBytes) :
    KeepsSender cl (cl.sendPacket p).2.2 := by
  by_cases hacc : Accepted cl p
  · obtain ⟨tx, htx, hsend⟩ := sendPacket_accepted hacc
    refine ⟨by rw [hsend], ?_⟩
    rintro ⟨q, hq⟩
    obtain ⟨tx', hsend', hholds⟩ := sendPacket_queues hacc hq
    rw [hsend']
    exact ⟨_, hholds⟩
  · obtain ⟨status, p', -, hsend⟩ := sendPacket_refused hacc
    rw [hsend]
    exact ⟨rfl, id⟩

/-- Sending and flushing leave the receiver alone. -/
lemma Receiving.congr {ph : Phase ClientVar} (h : Receiving cl ph) (tx : TxFields) (seq : UInt16)
    (control : DifferentialDriveControlPacket F) :
    Receiving { cl with
      packetHandler := { cl.packetHandler with toTxFields := tx }
      globalSeq := seq
      driveControlPacket := control } ph :=
  ⟨h.operations, h.rep.congr tx cl.packets⟩

/-- The first critical section of a sync cycle leaves the receiver alone. -/
lemma syncSend_receiving {ph : Phase ClientVar} (h : Receiving cl ph) :
    Receiving (syncSend cl).2.2 ph := by
  have hflush : Receiving cl.flushBuffer.2 ph := h.congr _ _ _
  unfold syncSend
  simp only
  by_cases hseq : cl.flushBuffer.2.driveControlPacket.header.seq ≠ 0
  · rw [if_pos hseq]
    by_cases hacc : Accepted cl.flushBuffer.2 fun i =>
        cl.flushBuffer.2.driveControlPacket.bytes.getD i 0
    · obtain ⟨tx, -, hsend⟩ := sendPacket_accepted hacc
      rw [hsend]
      exact hflush.congr tx _ _
    · obtain ⟨status, p', -, hsend⟩ := sendPacket_refused hacc
      rw [hsend]
      exact hflush.congr cl.flushBuffer.2.packetHandler.toTxFields _ _
  · rw [if_neg hseq]
    exact hflush

end Orazio.Proofs
