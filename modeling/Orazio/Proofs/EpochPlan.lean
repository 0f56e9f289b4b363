import Mathlib.Data.List.Forall2
import Orazio.Lib.BoundedBuffer
import Orazio.Proofs.ParamBlocks

/-!
# What an epoch should send

The frames that the pending packets and the periodic mask call for depend on little: the headers of
the three blocks of parameters and the mask, in the variables and in the EEPROM.
-/

namespace Orazio.Proofs

/-! ### Parameters -/

/-- The type and the size in a header. -/
structure FrameKind where
  type : UInt8
  size : UInt8
  deriving DecidableEq

def kindOf (h : PacketHeader) : FrameKind :=
  ⟨h.type, h.size⟩

/-- The headers of the blocks of parameters and `periodic_packet_mask`. -/
@[ext]
structure ParamView where
  kind : ParamBlock → FrameKind
  mask : UInt8

namespace ParamView

/-- The bytes `m` taken for any block. -/
def ofPacket (m : PacketBytes) : ParamView where
  kind := fun _ => ⟨m 0, m 1⟩
  mask := m 20

/-- The view `dst` with a block from `src`. -/
def copyBlock (b : ParamBlock) (src dst : ParamView) : ParamView where
  kind := Function.update dst.kind b (src.kind b)
  mask := if b = .system then src.mask else dst.mask

end ParamView

/-- The parameters in the variables and those in the EEPROM. -/
structure Params where
  current : ParamView
  stored : ParamView

/-! ### Frames -/

inductive Outgoing
  | packet (kind : FrameKind)
  | response (type : UInt8) (seq : UInt16)
  | endEpoch
  deriving DecidableEq

namespace Outgoing

def size : Outgoing → Nat
  | packet kind => kind.size.toNat
  | response _ _ => sizeofResponsePacket.toNat
  | endEpoch => sizeofEndEpochPacket.toNat

/-- The bytes of the frame, with synchronisation and checksum. -/
def wireSize (o : Outgoing) : Nat :=
  o.size + 3

/-- The first byte of the packet, if there is one. -/
def label : Outgoing → Option UInt8
  | packet kind => if kind.size = 0 then none else some kind.type
  | response _ _ => some RESPONSE_PACKET_ID
  | endEpoch => some END_EPOCH_PACKET_ID

/-- The packet that the frame answers. -/
def answers : Outgoing → Option (UInt8 × UInt16)
  | response type seq => some (type, seq)
  | _ => none

end Outgoing

/-- The type and the sequence number of a packet, as its response repeats them. -/
def requestOf (p : PacketBytes) : UInt8 × UInt16 :=
  ((headerOf p).type, (headerOf p).seq)

namespace Params

/-- A `ParamControlPacket` may copy a block between the variables and the EEPROM. -/
def runControl (v : Params) (action : UInt8) (b : ParamBlock) : Params :=
  if action = ParamLoad then { v with current := .copyBlock b v.stored v.current }
  else if action = ParamSave then { v with stored := .copyBlock b v.current v.stored }
  else v

/-- The block that the packet `p` is about, and the parameters once it is handled. -/
def change (v : Params) (p : PacketBytes) : Option ParamBlock × Params :=
  let ctl := ParamControlPacket.ofBytes p
  if (headerOf p).type = PARAM_CONTROL_PACKET_ID then
    match ParamBlock.ofParamType ctl.paramType with
    | none => (none, v)
    | some b => (some b, v.runControl ctl.action b)
  else
    match ParamBlock.ofType (headerOf p).type with
    | none => (none, v)
    | some b => (some b, { v with current := .copyBlock b (.ofPacket p) v.current })

/-- The frames that a packet calls for: its block of parameters, if it has one, and the response. -/
def reply (v : Params) (p : PacketBytes) : List Outgoing :=
  ((v.change p).1.toList.map fun b => .packet ((v.change p).2.current.kind b)) ++
    [.response (requestOf p).1 (requestOf p).2]

/-- The parameters once all packets are handled. -/
def changeAll (v : Params) : List PacketBytes → Params
  | [] => v
  | p :: ps => (v.change p).2.changeAll ps

/-- The frames that all packets call for. -/
def replyAll (v : Params) : List PacketBytes → List Outgoing
  | [] => []
  | p :: ps => v.reply p ++ (v.change p).2.replyAll ps

end Params

/-- A status packet if its bit is set. -/
def periodicFrame (mask flag : UInt8) (kind : FrameKind) : List Outgoing :=
  if mask &&& flag ≠ 0 then [.packet kind] else []

/-- The status packets of an epoch. -/
def periodicFrames (mask : UInt8) : List Outgoing :=
  periodicFrame mask PSystemStatusFlag ⟨SYSTEM_STATUS_PACKET_ID, sizeofSystemStatusPacket⟩ ++
    periodicFrame mask PJointStatusFlag ⟨JOINT_STATUS_PACKET_ID, sizeofJointStatusPacket⟩ ++
    periodicFrame mask PDriveStatusFlag
      ⟨DIFFERENTIAL_DRIVE_STATUS_PACKET_ID, sizeofDriveStatusPacket⟩

/-- The frames of an epoch, in their order. -/
def epochFrames (v : Params) (pending : List PacketBytes) : List Outgoing :=
  v.replyAll pending ++ periodicFrames (v.changeAll pending).current.mask ++ [.endEpoch]

/-- No block of parameters has the label of a response or of an end of epoch. -/
def Outgoing.Genuine : Outgoing → Prop
  | packet kind => (packet kind).label ≠ some RESPONSE_PACKET_ID ∧
      (packet kind).label ≠ some END_EPOCH_PACKET_ID
  | _ => True

instance : DecidablePred Outgoing.Genuine
  | .packet kind => inferInstanceAs (Decidable ((Outgoing.packet kind).label ≠
      some RESPONSE_PACKET_ID ∧ (Outgoing.packet kind).label ≠ some END_EPOCH_PACKET_ID))
  | .response _ _ | .endEpoch => inferInstanceAs (Decidable True)

/-- All frames fit into the transmit ring together, and their labels are genuine. -/
def EpochFits (v : Params) (pending : List PacketBytes) : Prop :=
  ((epochFrames v pending).map Outgoing.wireSize).sum ≤ 256 ∧
    ∀ o ∈ epochFrames v pending, o.Genuine

instance (v : Params) (pending : List PacketBytes) : Decidable (EpochFits v pending) :=
  inferInstanceAs (Decidable (_ ∧ _))

/-! ### Completeness -/

/-- The packets that an epoch queues. -/
def queuedPackets (sent : List Sent) : List (List UInt8) :=
  (sent.filter fun x => x.status = .success).map Sent.packet

def isOfType (type : UInt8) (packet : List UInt8) : Bool :=
  packet.head? = some type

/-- The type and the sequence number that a response repeats. -/
def answeredBy (packet : List UInt8) : UInt8 × UInt16 :=
  let response := ResponsePacket.ofBytes fun i => packet.getD i 0
  (response.pType, response.pSeq)

/-- No packet is refused, the responses are those to the pending packets, and the one end of epoch is
the last frame. -/
structure EpochComplete (pending : List PacketBytes) (sent : List Sent) : Prop where
  accepted : ∀ x ∈ sent, x.status ≠ .txBufferFull
  responses : (((queuedPackets sent).filter (isOfType RESPONSE_PACKET_ID)).map answeredBy).Perm
    (pending.map requestOf)
  endEpoch : (queuedPackets sent).countP (isOfType END_EPOCH_PACKET_ID) = 1
  last : ∃ packet, (queuedPackets sent).getLast? = some packet ∧
    isOfType END_EPOCH_PACKET_ID packet = true

/-- What a frame says of the packet that is sent in it. -/
structure Carries (packet : List UInt8) (o : Outgoing) : Prop where
  length : packet.length = o.size
  head : packet.head? = o.label
  answer : ∀ request, o.answers = some request → answeredBy packet = request

/-- A call of `Orazio_sendPacket` for a frame. -/
def Transmits (x : Sent) (o : Outgoing) : Prop :=
  (x.status = .success ∧ Carries x.packet o) ∨ x.status = .txBufferFull

/-- Whether a packet has been queued. -/
def accepted (x : Sent) : Bool :=
  x.status = .success

/-! ### When an epoch is complete -/

lemma carries_countP {packets : List (List UInt8)} {outs : List Outgoing}
    (h : List.Forall₂ Carries packets outs) (type : UInt8) :
    packets.countP (isOfType type) = outs.countP fun o => o.label = some type := by
  induction h with
  | nil => rfl
  | @cons packet o packets outs hcarry _ ih =>
    rw [List.countP_cons, List.countP_cons, ih, isOfType, hcarry.head]

lemma carries_answers {packets : List (List UInt8)} {outs : List Outgoing}
    (h : List.Forall₂ Carries packets outs) (hgenuine : ∀ o ∈ outs, o.Genuine) :
    (packets.filter (isOfType RESPONSE_PACKET_ID)).map answeredBy =
      outs.filterMap Outgoing.answers := by
  induction h with
  | nil => rfl
  | @cons packet o packets outs hcarry _ ih =>
    have hrest := ih fun o ho => hgenuine o (List.mem_cons_of_mem _ ho)
    have hfirst := hgenuine o List.mem_cons_self
    have htype : isOfType RESPONSE_PACKET_ID packet =
        decide (o.label = some RESPONSE_PACKET_ID) := by
      rw [isOfType, hcarry.head]
    cases o with
    | packet kind =>
      rw [List.filter_cons_of_neg (by simpa [htype] using hfirst.1), hrest]
      rfl
    | response type seq =>
      rw [List.filter_cons_of_pos (by rw [htype]; rfl), List.map_cons, hrest,
        hcarry.answer (type, seq) rfl]
      rfl
    | endEpoch =>
      rw [List.filter_cons_of_neg (by rw [htype]; decide), hrest]
      rfl

/-- A block of parameters that looks like a response. -/
def Outgoing.looksLike (type : UInt8) : Outgoing → Bool
  | packet kind => (packet kind).label = some type
  | _ => false

lemma countP_response (outs : List Outgoing) :
    (outs.countP fun o => o.label = some RESPONSE_PACKET_ID) =
      (outs.filterMap Outgoing.answers).length +
        outs.countP (Outgoing.looksLike RESPONSE_PACKET_ID) := by
  induction outs with
  | nil => rfl
  | cons o outs ih =>
    rw [List.countP_cons, List.countP_cons, ih]
    cases o with
    | packet kind => exact Nat.add_assoc _ _ _
    | response type seq =>
      have hanswers : (Outgoing.response type seq :: outs).filterMap Outgoing.answers =
          (type, seq) :: outs.filterMap Outgoing.answers := rfl
      rw [hanswers, List.length_cons]
      simp only [Outgoing.looksLike, Outgoing.label, decide_true, if_true, Bool.false_eq_true,
        if_false]
      omega
    | endEpoch => rfl

lemma reply_answers (v : Params) (p : PacketBytes) :
    (v.reply p).filterMap Outgoing.answers = [requestOf p] := by
  unfold Params.reply
  cases (v.change p).1 <;> rfl

lemma replyAll_answers (v : Params) (ps : List PacketBytes) :
    (v.replyAll ps).filterMap Outgoing.answers = ps.map requestOf := by
  induction ps generalizing v with
  | nil => rfl
  | cons p ps ih =>
    rw [Params.replyAll, List.filterMap_append, reply_answers, ih]
    rfl

/-- A frame with the packet of a variable of the firmware. -/
def Outgoing.IsPacket : Outgoing → Prop
  | packet _ => True
  | _ => False

lemma periodicFrames_isPacket {mask : UInt8} {o : Outgoing} (h : o ∈ periodicFrames mask) :
    o.IsPacket := by
  simp only [periodicFrames, periodicFrame, List.mem_append] at h
  rcases h with (h | h) | h <;> split at h <;> simp at h <;> subst h <;> trivial

lemma epochFrames_answers (v : Params) (pending : List PacketBytes) :
    (epochFrames v pending).filterMap Outgoing.answers = pending.map requestOf := by
  have hperiodic : (periodicFrames (v.changeAll pending).current.mask).filterMap
      Outgoing.answers = [] := by
    rw [List.filterMap_eq_nil_iff]
    intro o ho
    have hpacket := periodicFrames_isPacket ho
    cases o with
    | packet kind => rfl
    | response type seq => exact hpacket.elim
    | endEpoch => exact hpacket.elim
  rw [epochFrames, List.filterMap_append, List.filterMap_append, replyAll_answers, hperiodic]
  simp [Outgoing.answers]

lemma replyAll_ne_endEpoch (v : Params) (ps : List PacketBytes) {o : Outgoing}
    (h : o ∈ v.replyAll ps) : o ≠ .endEpoch := by
  induction ps generalizing v with
  | nil => cases h
  | cons p ps ih =>
    rw [Params.replyAll, List.mem_append] at h
    rcases h with h | h
    · simp only [Params.reply, List.mem_append, List.mem_map, List.mem_singleton] at h
      rcases h with ⟨b, -, rfl⟩ | rfl <;> simp
    · exact ih _ h

/-- The end of epoch is alone among the frames exactly when no block of parameters looks like one. -/
lemma countP_endEpoch (v : Params) (pending : List PacketBytes) :
    ((epochFrames v pending).countP fun o => o.label = some END_EPOCH_PACKET_ID) =
      1 + (epochFrames v pending).countP (Outgoing.looksLike END_EPOCH_PACKET_ID) := by
  have hbody : ∀ outs : List Outgoing, (∀ o ∈ outs, o ≠ .endEpoch) →
      (outs.countP fun o => o.label = some END_EPOCH_PACKET_ID) =
        outs.countP (Outgoing.looksLike END_EPOCH_PACKET_ID) := by
    intro outs hne
    apply List.countP_congr
    intro o ho
    cases o with
    | packet kind => rfl
    | response type seq => exact Iff.rfl
    | endEpoch => exact absurd rfl (hne _ ho)
  have hperiodic : ∀ o ∈ periodicFrames (v.changeAll pending).current.mask, o ≠ .endEpoch := by
    rintro o ho rfl
    exact periodicFrames_isPacket ho
  rw [epochFrames, List.countP_append, List.countP_append, List.countP_append, List.countP_append,
    hbody _ fun o ho => replyAll_ne_endEpoch v pending ho, hbody _ hperiodic, Nat.add_comm 1]
  rfl

lemma genuine_iff (o : Outgoing) : o.Genuine ↔
    ¬o.looksLike RESPONSE_PACKET_ID = true ∧ ¬o.looksLike END_EPOCH_PACKET_ID = true := by
  cases o <;> simp [Outgoing.Genuine, Outgoing.looksLike]

lemma transmits_carries {sent : List Sent} {outs : List Outgoing}
    (h : List.Forall₂ Transmits sent outs) (haccepted : ∀ x ∈ sent, x.status ≠ .txBufferFull) :
    List.Forall₂ Carries (queuedPackets sent) outs := by
  induction h with
  | nil => exact .nil
  | @cons x o sent outs hfirst _ ih =>
    obtain ⟨hstatus, hcarry⟩ | hfull := hfirst
    · have hqueued : queuedPackets (x :: sent) = x.packet :: queuedPackets sent := by
        simp [queuedPackets, hstatus]
      rw [hqueued]
      exact .cons hcarry (ih fun y hy => haccepted y (List.mem_cons_of_mem x hy))
    · exact absurd hfull (haccepted x List.mem_cons_self)

lemma accepted_iff {sent : List Sent} {outs : List Outgoing}
    (h : List.Forall₂ Transmits sent outs) :
    (∀ x ∈ sent, x.status ≠ .txBufferFull) ↔ ∀ b ∈ sent.map accepted, b = true := by
  rw [List.forall_mem_map]
  induction h with
  | nil => simp
  | @cons x o sent outs hfirst _ ih =>
    rw [List.forall_mem_cons, List.forall_mem_cons, ih]
    apply and_congr_left
    intro _
    obtain ⟨hstatus, -⟩ | hfull := hfirst
    · simp [accepted, hstatus]
    · simp [accepted, hfull]

lemma carries_last {packets : List (List UInt8)} {outs : List Outgoing} {o : Outgoing}
    (h : List.Forall₂ Carries packets (outs ++ [o])) :
    ∃ packet, packets.getLast? = some packet ∧ Carries packet o := by
  have hdrop := List.forall₂_drop_append packets outs [o] h
  rw [List.forall₂_cons_right_iff] at hdrop
  obtain ⟨packet, rest, hcarry, hrest, heq⟩ := hdrop
  rw [List.forall₂_nil_right_iff] at hrest
  subst hrest
  refine ⟨packet, ?_, hcarry⟩
  rw [← List.take_append_drop outs.length packets, heq]
  simp

/-- An epoch whose frames are offered to an empty ring is complete exactly when they fit. -/
theorem epochComplete_iff {v : Params} {pending : List PacketBytes} {sent : List Sent}
    (hsent : List.Forall₂ Transmits sent (epochFrames v pending))
    (hoffer : sent.map accepted =
      BoundedBuffer.offer 256 0 ((epochFrames v pending).map Outgoing.wireSize)) :
    EpochComplete pending sent ↔ EpochFits v pending := by
  have hroom : (∀ x ∈ sent, x.status ≠ .txBufferFull) ↔
      ((epochFrames v pending).map Outgoing.wireSize).sum ≤ 256 := by
    rw [accepted_iff hsent, hoffer, BoundedBuffer.offer_all_iff 256 0 (Nat.zero_le _), Nat.zero_add]
  constructor
  · intro h
    have hcarry := transmits_carries hsent h.accepted
    have hresponses : (epochFrames v pending).countP (Outgoing.looksLike RESPONSE_PACKET_ID) = 0 := by
      have hlength := h.responses.length_eq
      rw [List.length_map, List.length_map, ← List.countP_eq_length_filter,
        carries_countP hcarry, countP_response, epochFrames_answers, List.length_map] at hlength
      omega
    have hends : (epochFrames v pending).countP (Outgoing.looksLike END_EPOCH_PACKET_ID) = 0 := by
      have hone := h.endEpoch
      rw [carries_countP hcarry, countP_endEpoch] at hone
      omega
    rw [List.countP_eq_zero] at hresponses hends
    refine ⟨hroom.mp h.accepted, ?_⟩
    intro o ho
    exact (genuine_iff o).mpr ⟨hresponses o ho, hends o ho⟩
  · rintro ⟨hsum, hgenuine⟩
    have haccepted := hroom.mpr hsum
    have hcarry := transmits_carries hsent haccepted
    refine ⟨haccepted, ?_, ?_, ?_⟩
    · rw [carries_answers hcarry hgenuine, epochFrames_answers]
    · have hends : (epochFrames v pending).countP (Outgoing.looksLike END_EPOCH_PACKET_ID) = 0 := by
        rw [List.countP_eq_zero]
        intro o ho
        exact ((genuine_iff o).mp (hgenuine o ho)).2
      rw [carries_countP hcarry, countP_endEpoch, hends]
    · obtain ⟨packet, hlast, hend⟩ := carries_last hcarry
      refine ⟨packet, hlast, ?_⟩
      rw [isOfType, hend.head]
      rfl

end Orazio.Proofs
