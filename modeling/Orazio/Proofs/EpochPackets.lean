import Orazio.Proofs.ClientSync
import Orazio.Proofs.EpochNumbers

/-!
# The packets of an epoch

As long as the blocks of parameters have their own headers, each packet that the firmware queues is one for a
variable of the client, and only the last one ends the epoch.
-/

namespace Orazio.Proofs

/-! ### Headers of parameters -/

/-- The type and the size of a block. -/
def ownKind (b : ParamBlock) : FrameKind :=
  ⟨typeOf b.var, b.var.sizeof⟩

/-- The blocks have their own headers, in the variables and in the EEPROM. -/
structure OwnHeaders (v : Params) : Prop where
  current : ∀ b, v.current.kind b = ownKind b
  stored : ∀ b, v.stored.kind b = ownKind b

/-- A packet of parameters has the size of its block. -/
def OwnSize (p : PacketBytes) : Prop :=
  ∀ b, ParamBlock.ofType (headerOf p).type = some b → (headerOf p).size = b.var.sizeof

lemma copyBlock_own {b : ParamBlock} {src dst : ParamView} (hsrc : src.kind b = ownKind b)
    (hdst : ∀ b, dst.kind b = ownKind b) (b' : ParamBlock) : (ParamView.copyBlock b src dst).kind b' = ownKind b' := by
  rw [ParamView.copyBlock]
  by_cases hb : b' = b
  · subst hb
    exact (Function.update_self _ _ _).trans hsrc
  · exact (Function.update_of_ne hb _ _).trans (hdst b')

lemma OwnHeaders.runControl {v : Params} (h : OwnHeaders v) (action : UInt8) (b : ParamBlock) :
    OwnHeaders (v.runControl action b) := by
  unfold Params.runControl
  split
  · exact ⟨copyBlock_own (h.stored b) h.current, h.stored⟩
  · split
    · exact ⟨h.current, copyBlock_own (h.current b) h.stored⟩
    · exact h

lemma typeOf_ofType {type : UInt8} {b : ParamBlock} (h : ParamBlock.ofType type = some b) : typeOf b.var = type := by
  unfold ParamBlock.ofType at h
  split at h
  · next htype =>
    cases h
    exact htype.symm
  · split at h
    · next htype =>
      cases h
      exact htype.symm
    · split at h
      · next htype =>
        cases h
        exact htype.symm
      · cases h

/-- Handling a packet keeps the headers. -/
lemma OwnHeaders.change {v : Params} (h : OwnHeaders v) {p : PacketBytes} (hp : OwnSize p) :
    OwnHeaders (v.change p).2 := by
  unfold Params.change
  dsimp only
  split
  · split
    · exact h
    · exact h.runControl _ _
  · split
    · exact h
    · next b hb =>
      have hkind : (ParamView.ofPacket p).kind b = ownKind b :=
        congrArg₂ FrameKind.mk (typeOf_ofType hb).symm (hp b hb)
      exact ⟨copyBlock_own hkind h.current, h.stored⟩

lemma OwnHeaders.changeAll {v : Params} (h : OwnHeaders v) {ps : List PacketBytes} (hps : ∀ p ∈ ps, OwnSize p) :
    OwnHeaders (v.changeAll ps) := by
  induction ps generalizing v with
  | nil => exact h
  | cons p ps ih =>
    rw [List.forall_mem_cons] at hps
    exact ih (h.change hps.1) hps.2

/-- A pending packet has the size that its type is installed with. -/
lemma Stored.ownSize {mem : Addr → UInt8} {q : Pending} (hs : Stored orazioConfig mem q) :
    OwnSize fun k => mem (q.packet + k) := by
  obtain ⟨action, haction⟩ := Option.ne_none_iff_exists'.mp (actionOf_stored hs)
  obtain ⟨i, hmem, htype, -, hcfg⟩ := orazioConfig_action haction
  obtain ⟨hheader, hsize⟩ := hs.header hcfg
  rw [← htype, UInt8.ofNat_toNat] at hheader
  intro b hb
  rw [hheader] at hb
  rw [hsize]
  simp only [orazioInstalls, List.mem_cons, List.not_mem_nil, or_false] at hmem
  rcases hmem with rfl | rfl | rfl | rfl | rfl | rfl <;> cases hb <;> rfl

/-! ### Frames -/

/-- The frame is one for a variable of the client. -/
structure Outgoing.IsFor (o : Outgoing) (v : ClientVar) : Prop where
  size : o.size = v.sizeof.toNat
  label : o.label = some v.type

/-- The frame is one for a variable of the client, but does not end the epoch. -/
def Outgoing.Inside (o : Outgoing) : Prop :=
  ∃ v : ClientVar, v ≠ .endEpoch ∧ o.IsFor v

lemma ownKind_inside (b : ParamBlock) : (Outgoing.packet (ownKind b)).Inside := by
  cases b with
  | system => exact ⟨.systemParam, by decide, rfl, rfl⟩
  | joints => exact ⟨.jointParam, by decide, rfl, rfl⟩
  | drive => exact ⟨.driveParam, by decide, rfl, rfl⟩

lemma replyAll_inside {v : Params} (h : OwnHeaders v) {ps : List PacketBytes} (hps : ∀ p ∈ ps, OwnSize p) :
    ∀ o ∈ v.replyAll ps, o.Inside := by
  induction ps generalizing v with
  | nil => exact fun o ho => absurd ho List.not_mem_nil
  | cons p ps ih =>
    rw [List.forall_mem_cons] at hps
    have hchange := h.change hps.1
    intro o ho
    obtain ho | ho := List.mem_append.mp ho
    · obtain ho | ho := List.mem_append.mp ho
      · obtain ⟨b, -, rfl⟩ := List.mem_map.mp ho
        rw [hchange.current b]
        exact ownKind_inside b
      · rw [List.mem_singleton.mp ho]
        exact ⟨.response, by decide, rfl, rfl⟩
    · exact ih hchange hps.2 o ho

lemma periodicFrames_inside {mask : UInt8} {o : Outgoing} (ho : o ∈ periodicFrames mask) : o.Inside := by
  have hone : ∀ flag kind, o ∈ periodicFrame mask flag kind → o = .packet kind := by
    intro flag kind h
    unfold periodicFrame at h
    split at h
    · exact List.mem_singleton.mp h
    · cases h
  obtain ho | ho := List.mem_append.mp ho
  · obtain ho | ho := List.mem_append.mp ho
    · rw [hone _ _ ho]
      exact ⟨.systemStatus, by decide, rfl, rfl⟩
    · rw [hone _ _ ho]
      exact ⟨.jointStatus, by decide, rfl, rfl⟩
  · rw [hone _ _ ho]
    exact ⟨.driveStatus, by decide, rfl, rfl⟩

/-- A packet that has been queued begins with the header of its variable and the number of the epoch. -/
lemma Transmits.header {x : Sent} {o : Outgoing} {v : ClientVar} {seq : UInt16} (h : Transmits x o)
    (hfor : o.IsFor v) (hstamped : Stamped seq x) (hsuccess : x.status = .success) :
    x.packet.length = v.sizeof.toNat ∧
      ∃ payload, x.packet = PacketHeader.bytes ⟨v.type, v.sizeof, seq⟩ ++ payload := by
  have hcarries : Carries x.packet o := by
    obtain ⟨-, hcarries⟩ | hfull := h
    · exact hcarries
    · rw [hsuccess] at hfull
      cases hfull
  have hlength : x.packet.length = v.sizeof.toNat := hcarries.length.trans hfor.size
  have hfour : 4 ≤ v.sizeof.toNat := by cases v <;> decide
  obtain ⟨type, payload, hpacket⟩ := hstamped hsuccess (hlength ▸ hfour)
  rw [hlength, UInt8.ofNat_toNat] at hpacket
  have htype : some type = some v.type := by
    rw [← hfor.label, ← hcarries.head, hpacket]
    rfl
  obtain rfl := Option.some.inj htype
  exact ⟨hlength, payload, hpacket⟩

lemma isPacket_of_header {packet payload : List UInt8} {v : ClientVar} {seq : UInt16}
    (hlength : packet.length = v.sizeof.toNat)
    (hpacket : packet = PacketHeader.bytes ⟨v.type, v.sizeof, seq⟩ ++ payload) :
    IsPacket (v, packet) ∧ seqOf packet = seq := by
  refine ⟨⟨hlength, LittleEndian.u16 seq ++ payload, hpacket⟩, ?_⟩
  rw [hpacket]
  exact LittleEndian.getU16_eq rfl rfl

/-! ### Epochs -/

lemma queuedPackets_append (sent sent' : List Sent) :
    queuedPackets (sent ++ sent') = queuedPackets sent ++ queuedPackets sent' := by
  rw [queuedPackets, List.filter_append, List.map_append]
  rfl

/-- The queued packets among frames inside of an epoch. -/
lemma queued_inside {seq : UInt16} {sent : List Sent} {outs : List Outgoing}
    (h : List.Forall₂ Transmits sent outs) (hinside : ∀ o ∈ outs, o.Inside)
    (hstamped : ∀ x ∈ sent, Stamped seq x) :
    ∃ body : List (ClientVar × List UInt8), body.map Prod.snd = queuedPackets sent ∧
      ∀ p ∈ body, IsPacket p ∧ p.1 ≠ .endEpoch ∧ seqOf p.2 = seq := by
  induction h with
  | nil => exact ⟨[], rfl, fun p hp => absurd hp List.not_mem_nil⟩
  | @cons x o sent outs htransmits _ ih =>
    rw [List.forall_mem_cons] at hinside hstamped
    obtain ⟨body, hbody, hall⟩ := ih hinside.2 hstamped.2
    by_cases hsuccess : x.status = .success
    · obtain ⟨v, hne, hfor⟩ := hinside.1
      obtain ⟨hlength, payload, hpacket⟩ := htransmits.header hfor hstamped.1 hsuccess
      obtain ⟨hpacket, hseq⟩ := isPacket_of_header hlength hpacket
      refine ⟨(v, x.packet) :: body, ?_, ?_⟩
      · rw [List.map_cons, hbody, queuedPackets, queuedPackets, List.filter_cons_of_pos (by simpa using hsuccess)]
        rfl
      · rw [List.forall_mem_cons]
        exact ⟨⟨hpacket, hne, hseq⟩, hall⟩
    · refine ⟨body, ?_, hall⟩
      rw [hbody, queuedPackets, queuedPackets, List.filter_cons_of_neg (by simpa using hsuccess)]

/-- The end of the epoch has been queued. -/
def EndsEpoch (e : CommEvent) : Prop :=
  ∃ packet ∈ queuedPackets e.sent, isOfType END_EPOCH_PACKET_ID packet = true

instance : DecidablePred EndsEpoch := fun _ => inferInstanceAs (Decidable (∃ _ ∈ _, _))

/-- What an epoch of the firmware puts on the link. -/
structure PutsOnLink (seq : UInt16) (e : CommEvent) (epoch : Epoch) : Prop where
  wellFormed : epoch.WellFormed
  number : epoch.seq = seq
  packets : epoch.packets.map Prod.snd = queuedPackets e.sent
  numbered : ∀ packet ∈ queuedPackets e.sent, seqOf packet = seq
  output : e.output = wire epoch.packets

lemma isOfType_of_isPacket {p : ClientVar × List UInt8} (hp : IsPacket p) (v : ClientVar) :
    isOfType v.type p.2 = decide (p.1 = v) := by
  obtain ⟨-, payload, hpayload⟩ := hp
  rw [isOfType, hpayload, List.head?_cons]
  obtain ⟨w, packet⟩ := p
  cases v <;> cases w <;> rfl

lemma wire_eq (ps : List (ClientVar × List UInt8)) : wire ps = (ps.map Prod.snd).flatMap frame := by
  rw [List.flatMap_map]
  rfl

/-- An epoch whose end has been queued is an epoch on the link. -/
lemma exists_putsOnLink {v : Params} {pending : List PacketBytes} {seq : UInt16} {e : CommEvent}
    (hown : OwnHeaders v) (hpending : ∀ p ∈ pending, OwnSize p)
    (h : List.Forall₂ Transmits e.sent (epochFrames v pending)) (houtput : e.output = framesOf e.sent)
    (hstamped : ∀ x ∈ e.sent, Stamped seq x) (hends : EndsEpoch e) : ∃ epoch, PutsOnLink seq e epoch := by
  generalize hbody : v.replyAll pending ++ periodicFrames (v.changeAll pending).current.mask = outs at *
  rw [epochFrames, hbody] at h
  have hinside : ∀ o ∈ outs, o.Inside := by
    intro o ho
    rw [← hbody] at ho
    obtain ho | ho := List.mem_append.mp ho
    · exact replyAll_inside hown hpending o ho
    · exact periodicFrames_inside ho
  have hfront := List.forall₂_take_append e.sent outs [.endEpoch] h
  obtain ⟨x, rest, hx, hnil, hback⟩ :=
    List.forall₂_cons_right_iff.mp (List.forall₂_drop_append e.sent outs [.endEpoch] h)
  obtain rfl := List.forall₂_nil_right_iff.mp hnil
  have hsplit := List.take_append_drop outs.length e.sent
  rw [hback] at hsplit
  generalize e.sent.take outs.length = front at hfront hsplit
  rw [← hsplit, List.forall_mem_append, List.forall_mem_singleton] at hstamped
  obtain ⟨body, hbody', hall⟩ := queued_inside hfront hinside hstamped.1
  have hqueued : queuedPackets e.sent = body.map Prod.snd ++ queuedPackets [x] := by
    rw [← hsplit, queuedPackets_append, hbody']
  have hsuccess : x.status = .success := by
    by_contra hrefused
    have hnone : queuedPackets [x] = [] := by
      rw [queuedPackets, List.filter_cons_of_neg (by simpa using hrefused)]
      rfl
    obtain ⟨packet, hmem, htype⟩ := hends
    rw [hqueued, hnone, List.append_nil] at hmem
    obtain ⟨p, hp, rfl⟩ := List.mem_map.mp hmem
    obtain ⟨hpacket, hne, -⟩ := hall p hp
    have hend := isOfType_of_isPacket hpacket .endEpoch
    rw [decide_eq_false hne] at hend
    exact absurd (htype.symm.trans hend) (by decide)
  have hfor : Outgoing.endEpoch.IsFor .endEpoch := ⟨rfl, rfl⟩
  obtain ⟨hlength, payload, hpacket⟩ := hx.header hfor hstamped.2 hsuccess
  have hend : x.packet = endEpochPacket seq := by
    have hempty : payload = [] := by
      rw [hpacket, List.length_append] at hlength
      exact List.eq_nil_of_length_eq_zero (Nat.add_left_cancel hlength)
    rw [hpacket, hempty]
    rfl
  have hone : queuedPackets [x] = [endEpochPacket seq] := by
    rw [queuedPackets, List.filter_cons_of_pos (by simpa using hsuccess), ← hend]
    rfl
  have hpackets : (Epoch.packets ⟨body, seq⟩).map Prod.snd = queuedPackets e.sent := by
    rw [hqueued, hone, Epoch.packets, List.map_append]
    rfl
  refine ⟨⟨body, seq⟩, ⟨fun p hp => (hall p hp).1, fun p hp => (hall p hp).2.1⟩, rfl, hpackets, ?_, ?_⟩
  · rw [hqueued, hone]
    intro packet hmem
    obtain hmem | hmem := List.mem_append.mp hmem
    · obtain ⟨p, hp, rfl⟩ := List.mem_map.mp hmem
      exact (hall p hp).2.2
    · rw [List.mem_singleton.mp hmem]
      exact LittleEndian.getU16_eq rfl rfl
  · rw [houtput, framesOf, wire_eq, hpackets]

end Orazio.Proofs
