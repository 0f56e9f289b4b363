import Orazio.Proofs.EpochPlan

/-!
# The frames of the firmware

`Orazio_sendPacket` offers the frame of a packet to the transmit ring. The frames of an action are
those that its packet calls for.
-/

namespace Orazio.Proofs

variable {F π : Type}

/-! ### Headers -/

def ramView (g : Globals F π) : ParamView where
  kind := fun b => kindOf (b.var.header g)
  mask := g.systemParams.periodicPacketMask

def eepromView (eeprom : Nat → UInt8) : ParamView where
  kind := fun b => ⟨eeprom b.offset, eeprom (b.offset + 1)⟩
  mask := eeprom (SYSTEM_PARAM_OFFSET + 20)

def paramsOf (g : Globals F π) : Params :=
  ⟨ramView g, eepromView g.eeprom⟩

/-- The packets that only the firmware writes to. -/
def statusVars : List PacketVar :=
  [.response, .endEpoch, .systemStatus, .jointStatus, .driveStatus]

def typeOf : PacketVar → UInt8
  | .systemParams => SYSTEM_PARAM_PACKET_ID
  | .jointParams => JOINT_PARAM_PACKET_ID
  | .driveParams => DIFFERENTIAL_DRIVE_PARAM_PACKET_ID
  | .systemStatus => SYSTEM_STATUS_PACKET_ID
  | .jointStatus => JOINT_STATUS_PACKET_ID
  | .driveStatus => DIFFERENTIAL_DRIVE_STATUS_PACKET_ID
  | .jointControl => JOINT_CONTROL_PACKET_ID
  | .driveControl => DIFFERENTIAL_DRIVE_CONTROL_PACKET_ID
  | .response => RESPONSE_PACKET_ID
  | .endEpoch => END_EPOCH_PACKET_ID

/-- The packets that only the firmware writes to have their own headers. -/
def StatusHeaders (g : Globals F π) : Prop :=
  ∀ v ∈ statusVars, kindOf (v.header g) = ⟨typeOf v, v.sizeof⟩

/-- Nothing changes that the frames of an epoch depend on. -/
structure SameHeaders (g g' : Globals F π) : Prop where
  kind : ∀ v : PacketVar, kindOf (v.header g') = kindOf (v.header g)
  mask : g'.systemParams.periodicPacketMask = g.systemParams.periodicPacketMask
  eeprom : g'.eeprom = g.eeprom

namespace SameHeaders

variable {g g' g'' : Globals F π}

lemma refl (g : Globals F π) : SameHeaders g g :=
  ⟨fun _ => rfl, rfl, rfl⟩

lemma trans (h : SameHeaders g g') (h' : SameHeaders g' g'') : SameHeaders g g'' :=
  ⟨fun v => (h'.kind v).trans (h.kind v), h'.mask.trans h.mask, h'.eeprom.trans h.eeprom⟩

lemma paramsOf (h : SameHeaders g g') : paramsOf g' = paramsOf g := by
  simp only [Proofs.paramsOf, ramView, h.kind, h.mask, h.eeprom]

lemma statusHeaders (h : SameHeaders g g') (hstatus : StatusHeaders g) : StatusHeaders g' := by
  intro v hv
  rw [h.kind v]
  exact hstatus v hv

end SameHeaders

lemma setSeq_sameHeaders (p : PacketVar) (seq : UInt16) (g : Globals F π) :
    SameHeaders g (p.setSeq seq g) := by
  refine ⟨fun v => ?_, ?_, ?_⟩
  · cases p <;> cases v <;> rfl
  · cases p <;> rfl
  · cases p <;> rfl

lemma countSent_sameHeaders (status : PacketStatus) (g : Globals F π) (sent : List Sent) :
    SameHeaders g { countSent status g with sent } := by
  unfold countSent
  split
  · exact ⟨fun v => by cases v <;> rfl, rfl, rfl⟩
  · exact ⟨fun v => by cases v <;> rfl, rfl, rfl⟩

lemma setRxSeq_sameHeaders (seq : UInt16) (g : Globals F π) : SameHeaders g (setRxSeq seq g) :=
  ⟨fun v => by cases v <;> rfl, rfl, rfl⟩

variable [CFloat F]

lemma sendPacket_sameHeaders {p : PacketVar} {x x' : TxFields × Globals F π}
    (h : Orazio_sendPacket p x = .ok x') : SameHeaders x.2 x'.2 := by
  obtain ⟨status, -, henv, -⟩ := sendPacket_eq_ok h
  rw [henv]
  exact (setSeq_sameHeaders p _ x.2).trans (countSent_sameHeaders status _ _)

lemma sendResponse_sameHeaders {p : PacketBytes} {r : PacketStatus} {x x' : TxFields × Globals F π}
    (h : Orazio_sendResponse p r x = .ok x') : SameHeaders x.2 x'.2 := by
  unfold Orazio_sendResponse at h
  apply SameHeaders.trans _ (sendPacket_sameHeaders h)
  exact ⟨fun v => by cases v <;> rfl, rfl, rfl⟩

/-! ### Sending -/

/-- The bytes of the queued packets on the wire. -/
def framesOf (sent : List Sent) : List UInt8 :=
  (queuedPackets sent).flatMap frame

/-- The frames `outs` are offered to the transmit ring, one after another. -/
def Sends (outs : List Outgoing) (x x' : TxFields × Globals F π) : Prop :=
  ∃ new, x'.2.sent = x.2.sent ++ new ∧ List.Forall₂ Transmits new outs ∧
    ∀ q, TxHolds x.1 q → TxHolds x'.1 (q ++ framesOf new) ∧
      new.map accepted = BoundedBuffer.offer 256 q.length (outs.map Outgoing.wireSize) ∧
      (q ++ framesOf new).length =
        BoundedBuffer.fill 256 q.length (outs.map Outgoing.wireSize)

namespace Sends

variable {outs outs' : List Outgoing} {x y z : TxFields × Globals F π}

omit [CFloat F] in
lemma nil (htx : y.1 = x.1) (hsent : y.2.sent = x.2.sent) : Sends [] x y := by
  refine ⟨[], by simp [hsent], .nil, fun q hq => ⟨?_, rfl, ?_⟩⟩
  · rw [htx]
    simpa [framesOf, queuedPackets] using hq
  · simp [framesOf, queuedPackets, BoundedBuffer.fill]

omit [CFloat F] in
lemma trans (h : Sends outs x y) (h' : Sends outs' y z) : Sends (outs ++ outs') x z := by
  obtain ⟨new, hsent, hcarry, hring⟩ := h
  obtain ⟨new', hsent', hcarry', hring'⟩ := h'
  refine ⟨new ++ new', ?_, List.rel_append hcarry hcarry', fun q hq => ?_⟩
  · rw [hsent', hsent, List.append_assoc]
  · obtain ⟨hq₁, hoffer₁, hfill₁⟩ := hring q hq
    obtain ⟨hq₂, hoffer₂, hfill₂⟩ := hring' _ hq₁
    have hframes : q ++ framesOf (new ++ new') = q ++ framesOf new ++ framesOf new' := by
      simp [framesOf, queuedPackets]
    rw [hframes, List.map_append, List.map_append, BoundedBuffer.offer_append,
      BoundedBuffer.fill_append, ← hfill₁, ← hoffer₁, ← hoffer₂]
    exact ⟨hq₂, rfl, hfill₂⟩

end Sends

lemma memory_header (p : PacketVar) (g : Globals F π) :
    p.memory g 0 = (p.header g).type ∧ p.memory g 1 = (p.header g).size := by
  cases p <;> exact ⟨rfl, rfl⟩

lemma packetOf_memory {p : PacketVar} {g : Globals F π} (h : (p.header g).size ≤ p.sizeof) :
    packetOf (p.memory g) = sentBytes p g := by
  rw [packetOf, (memory_header p g).2, sentBytes]
  apply List.ext_getElem
  · rw [Bytes.length_read, List.length_take, length_bytes]
    exact (Nat.min_eq_left (UInt8.le_iff_toNat_le.mp h)).symm
  · intro i h₁ h₂
    rw [Bytes.getElem_read, List.getElem_take, PacketVar.memory, Nat.zero_add,
      List.getD_eq_getElem?_getD, List.getElem?_eq_getElem, Option.getD_some]

lemma txSendPacket_status (t : TxFields) (header : PacketBytes) :
    (t.sendPacket header).1 = .success ∨ (t.sendPacket header).1 = .txBufferFull := by
  unfold TxFields.sendPacket
  dsimp only
  split
  · exact .inr rfl
  · exact .inl rfl

/-- A call of `Orazio_sendPacket` offers one frame. -/
lemma sendPacket_sends {p : PacketVar} {o : Outgoing} {x x' : TxFields × Globals F π}
    (hsize : o.size = (p.header x.2).size.toNat)
    (hcarry : (p.header x.2).size ≤ p.sizeof →
      Carries (sentBytes p (p.setSeq x.2.globalSeq x.2)) o)
    (h : Orazio_sendPacket p x = .ok x') : Sends [o] x x' := by
  obtain ⟨status, hsend, henv, hin⟩ := sendPacket_eq_ok h
  have hheader : p.memory (p.setSeq x.2.globalSeq x.2) 1 = (p.header x.2).size := by
    rw [(memory_header _ _).2]
    exact congrArg FrameKind.size ((setSeq_sameHeaders p x.2.globalSeq x.2).kind p)
  refine ⟨[⟨p, sentBytes p (p.setSeq x.2.globalSeq x.2), status⟩], ?_, ?_, ?_⟩
  · rw [henv]
  · refine .cons ?_ .nil
    have hstatus := txSendPacket_status x.1 (p.memory (p.setSeq x.2.globalSeq x.2))
    rw [hsend] at hstatus
    obtain hsuccess | hfull := hstatus
    · exact .inl ⟨hsuccess, hcarry (hin hsuccess)⟩
    · exact .inr hfull
  · intro q hq
    obtain ⟨hfull, hcases⟩ | ⟨hroom, tx, hcases, hq'⟩ :=
      sendPacket_cases hq (p.memory (p.setSeq x.2.globalSeq x.2))
    · rw [hsend] at hcases
      obtain ⟨rfl, htx⟩ := Prod.mk.inj hcases
      rw [htx]
      have hno : ¬q.length + o.wireSize ≤ 256 := by
        rw [hheader] at hfull
        simp only [Outgoing.wireSize, hsize]
        omega
      simp only [List.map_cons, List.map_nil, BoundedBuffer.offer, BoundedBuffer.fill, if_neg hno]
      simpa [framesOf, queuedPackets, accepted] using hq
    · rw [hsend] at hcases
      obtain ⟨rfl, rfl⟩ := Prod.mk.inj hcases
      have hyes : q.length + o.wireSize ≤ 256 := by
        rw [hheader] at hroom
        simp only [Outgoing.wireSize, hsize]
        omega
      have hle : (p.header (p.setSeq x.2.globalSeq x.2)).size ≤ p.sizeof := by
        rw [← (memory_header _ _).2, hheader]
        exact hin rfl
      rw [packetOf_memory hle] at hq'
      simp only [List.map_cons, List.map_nil, BoundedBuffer.offer, BoundedBuffer.fill, if_pos hyes]
      refine ⟨by simpa [framesOf, queuedPackets] using hq', by simp [accepted], ?_⟩
      simp only [framesOf, queuedPackets, List.filter_cons, decide_true, if_true, List.filter_nil,
        List.map_cons, List.map_nil, List.flatMap_cons, List.flatMap_nil, List.append_nil,
        List.length_append, length_frame, (hcarry (hin rfl)).length, Outgoing.wireSize]

/-! ### The packets of the firmware -/

/-- What is sent of a packet begins with its type. -/
lemma sentBytes_carries {p : PacketVar} {g : Globals F π} (h : (p.header g).size ≤ p.sizeof) :
    Carries (sentBytes p g) (.packet (kindOf (p.header g))) where
  length := by
    rw [sentBytes, List.length_take, length_bytes]
    exact Nat.min_eq_left (UInt8.le_iff_toNat_le.mp h)
  head := by
    have hhead : (p.bytes g).head? = some (p.header g).type := by cases p <;> rfl
    rw [sentBytes, List.head?_take, hhead]
    simp only [Outgoing.label, kindOf, ← UInt8.toNat_inj]
    rfl
  answer := by
    intro request hrequest
    cases hrequest

lemma setSeq_carries {p : PacketVar} (seq : UInt16) {g : Globals F π}
    (h : (p.header g).size ≤ p.sizeof) :
    Carries (sentBytes p (p.setSeq seq g)) (.packet (kindOf (p.header g))) := by
  have hkind := (setSeq_sameHeaders p seq g).kind p
  rw [← hkind]
  apply sentBytes_carries
  rw [show (p.header (p.setSeq seq g)).size = (p.header g).size from congrArg FrameKind.size hkind]
  exact h

/-- A variable is sent with the header it has. -/
lemma sendPacket_sends_packet {p : PacketVar} {x x' : TxFields × Globals F π}
    (h : Orazio_sendPacket p x = .ok x') : Sends [.packet (kindOf (p.header x.2))] x x' :=
  sendPacket_sends rfl (fun hle => setSeq_carries _ hle) h

lemma sendEndEpoch_sends {x x' : TxFields × Globals F π} (hstatus : StatusHeaders x.2)
    (h : Orazio_sendPacket .endEpoch x = .ok x') : Sends [.endEpoch] x x' := by
  have hkind := hstatus .endEpoch (by decide)
  apply sendPacket_sends _ _ h
  · exact (congrArg (fun kind => kind.size.toNat) hkind).symm
  · intro hle
    have hcarry := setSeq_carries x.2.globalSeq hle
    rw [hkind] at hcarry
    refine ⟨hcarry.length, hcarry.head, ?_⟩
    intro request hrequest
    cases hrequest

lemma answeredBy_bytes (r : ResponsePacket) :
    answeredBy (r.bytes.take sizeofResponsePacket.toNat) = (r.pType, r.pSeq) := by
  have hseq : LittleEndian.getU16
      (fun i => (r.bytes.take sizeofResponsePacket.toNat).getD i 0) 5 = r.pSeq :=
    LittleEndian.getU16_eq rfl rfl
  exact Prod.ext rfl hseq

/-- The response repeats type and sequence number of the packet it answers. -/
lemma sendResponse_sends {p : PacketBytes} {r : PacketStatus} {x x' : TxFields × Globals F π}
    (hstatus : StatusHeaders x.2) (h : Orazio_sendResponse p r x = .ok x') :
    Sends [.response (requestOf p).1 (requestOf p).2] x x' := by
  have hkind : kindOf x.2.response.header = ⟨RESPONSE_PACKET_ID, sizeofResponsePacket⟩ :=
    hstatus .response (by decide)
  have hsize : x.2.response.header.size = sizeofResponsePacket := congrArg FrameKind.size hkind
  unfold Orazio_sendResponse at h
  have hsends := sendPacket_sends (o := .response (requestOf p).1 (requestOf p).2) ?_ ?_ h
  · exact hsends
  · exact (congrArg UInt8.toNat hsize).symm
  · intro hle
    have hcarry := setSeq_carries x.2.globalSeq hle
    refine ⟨?_, ?_, ?_⟩
    · rw [hcarry.length]
      exact congrArg UInt8.toNat hsize
    · rw [hcarry.head]
      exact congrArg (fun kind => (Outgoing.packet kind).label) hkind
    · intro request hrequest
      cases hrequest
      simp only [sentBytes, PacketVar.header, PacketVar.setSeq, PacketVar.setHeader, hsize]
      exact answeredBy_bytes _

end Orazio.Proofs
