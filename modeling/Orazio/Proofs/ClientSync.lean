import Orazio.Proofs.ClientMirror

/-!
# Synchronising with whole epochs

On a link that carries epochs of whole frames, each cycle of `OrazioClient_sync` reads exactly one epoch.
-/

namespace Orazio.Proofs

open Journal

/-- The bytes of a packet with the type and the size of its variable. -/
def IsPacket (p : ClientVar × List UInt8) : Prop :=
  p.2.length = p.1.sizeof.toNat ∧ ∃ payload, p.2 = p.1.type :: p.1.sizeof :: payload

/-- The frames of some packets. -/
def wire (ps : List (ClientVar × List UInt8)) : List UInt8 :=
  ps.flatMap fun p => frame p.2

/-- The packets of an epoch, and the number in the packet that ends it. -/
structure Epoch where
  body : List (ClientVar × List UInt8)
  seq : UInt16

namespace Epoch

def packets (e : Epoch) : List (ClientVar × List UInt8) :=
  e.body ++ [(.endEpoch, endEpochPacket e.seq)]

/-- Only its last packet ends the epoch. -/
structure WellFormed (e : Epoch) : Prop where
  packet : ∀ p ∈ e.body, IsPacket p
  inside : ∀ p ∈ e.body, p.1 ≠ .endEpoch

end Epoch

lemma isPacket_endEpoch (seq : UInt16) : IsPacket (.endEpoch, endEpochPacket seq) :=
  ⟨rfl, LittleEndian.u16 seq, rfl⟩

lemma Epoch.WellFormed.isPacket {e : Epoch} (h : e.WellFormed) : ∀ p ∈ e.packets, IsPacket p := by
  intro p hp
  obtain hp | hp := List.mem_append.mp hp
  · exact h.packet p hp
  · rw [List.mem_singleton.mp hp]
    exact isPacket_endEpoch e.seq

variable {F : Type} [CFloat F]

/-! ### Frames -/

lemma packetsOn_frame {p : ClientVar × List UInt8} (hp : IsPacket p) (n : Nat) :
    packetsOn (F := F) n (frame p.2) = [⟨n + (frame p.2).length, p.1, p.2⟩] ∧
      Phase.hunt.after (ClientVar.operations (F := F)) clientTable (some ClientVar.packetBuffer)
        (frame p.2) = .hunt := by
  obtain ⟨hlen, payload, hpayload⟩ := hp
  obtain ⟨hlt, htable⟩ := clientTable_type p.1
  exact Phase.deliveries_frame htable (clientTable_fixedOps _ _ htable) ClientVar.packetBuffer hpayload hlen n

lemma packetsIn_wire {ps : List (ClientVar × List UInt8)} (hps : ∀ p ∈ ps, IsPacket p) :
    packetsIn (F := F) (wire ps) = ps ∧
      Phase.hunt.after (ClientVar.operations (F := F)) clientTable (some ClientVar.packetBuffer)
        (wire ps) = .hunt := by
  induction ps with
  | nil => exact ⟨rfl, rfl⟩
  | cons p ps ih =>
    rw [List.forall_mem_cons] at hps
    obtain ⟨hpackets, hwhole⟩ := ih hps.2
    obtain ⟨hframe, hhunt⟩ := packetsOn_frame (F := F) hps.1 0
    have hwire : wire (p :: ps) = frame p.2 ++ wire ps := rfl
    have hfirst : packetsIn (F := F) (frame p.2) = [p] := by
      rw [packetsIn, hframe]
      rfl
    rw [hwire, packetsIn_append hhunt, hfirst, hpackets, Phase.after_append, hhunt]
    exact ⟨rfl, hwhole⟩

variable {cl cl' : OrazioClient F} [LawfulFloatBytes F]

/-- `_readPacket` reads exactly one frame. -/
lemma readPacket_frame (h : Receiving cl .hunt) {p : ClientVar × List UInt8} (hp : IsPacket p) (n : Nat)
    (rest : List UInt8) :
    ∃ r cl', OrazioClient.readPacket n cl (frame p.2 ++ rest) = .ok (some (r, cl', rest)) ∧
      Reads cl (frame p.2) cl' := by
  obtain ⟨hframe, hhunt⟩ := packetsOn_frame (F := F) hp n
  obtain ⟨result, hread, hnone, -⟩ := readPacket_stores h (List.replicate n 0) (frame p.2 ++ rest)
    (List.append_nil _).symm
  rw [List.length_replicate] at hread hnone
  rw [packetsOn] at hframe
  cases result with
  | none =>
    have hempty := hnone rfl
    rw [Phase.deliveries_append, hframe] at hempty
    cases hempty
  | some result =>
    obtain ⟨r, cl', rest'⟩ := result
    obtain ⟨read, d, hlink, hreads, hds, hstop, -⟩ := readPacket_follows h hread
    rw [packetsOn] at hds
    have hlength : read.length = (frame p.2).length := by
      obtain ⟨more, hmore, -⟩ | ⟨more, hmore, -⟩ := List.append_eq_append_iff.mp hlink
      · rw [hmore, Phase.deliveries_append, hframe] at hds
        obtain ⟨rfl, -⟩ := List.cons.inj hds
        exact Nat.add_left_cancel hstop.symm
      · rw [hmore, Phase.deliveries_append, hds] at hframe
        obtain ⟨rfl, -⟩ := List.cons.inj hframe
        rw [← hmore] at hstop
        exact Nat.add_left_cancel hstop.symm
    obtain ⟨rfl, rfl⟩ := List.append_inj hlink.symm hlength
    exact ⟨r, cl', hread, hreads⟩

/-! ### The number of the last epoch -/

/-- The number in the bytes of a packet. -/
def seqOf (packet : List UInt8) : UInt16 :=
  LittleEndian.getU16 (fun i => packet.getD i 0) 2

lemma seqOf_header (h : PacketHeader) : seqOf h.bytes = h.seq :=
  LittleEndian.getU16_eq rfl rfl

omit [LawfulFloatBytes F] in
/-- The client has seen the end of the epoch whose packet was the last of its type. -/
lemma Reads.endEpoch_seq {read : List UInt8} (h : Reads cl read cl') :
    cl'.packets.endEpoch.seq =
      ((latest (packetsIn (F := F) read) .endEpoch).map seqOf).getD cl.packets.endEpoch.seq := by
  have hbytes : cl'.packets.endEpoch.bytes =
      (latest (packetsIn (F := F) read) .endEpoch).getD cl.packets.endEpoch.bytes := h.bytes .endEpoch
  rw [← seqOf_header, hbytes]
  cases latest (packetsIn (F := F) read) .endEpoch with
  | none => exact seqOf_header _
  | some packet => rfl

/-! ### Synchronising -/

/-- A frame of another type leaves the number of the last epoch, the end of an epoch sets it. -/
lemma readPacket_seq (h : Receiving cl .hunt) {p : ClientVar × List UInt8} (hp : IsPacket p) (rest : List UInt8) :
    ∃ r cl', OrazioClient.readPacket 0 cl (frame p.2 ++ rest) = .ok (some (r, cl', rest)) ∧
      Reads cl (frame p.2) cl' ∧
      cl'.packets.endEpoch.seq = if p.1 = .endEpoch then seqOf p.2 else cl.packets.endEpoch.seq := by
  obtain ⟨r, cl', hread, hreads⟩ := readPacket_frame h hp 0 rest
  refine ⟨r, cl', hread, hreads, ?_⟩
  have hpackets : packetsIn (F := F) (frame p.2) = [] ++ [p] := by
    rw [packetsIn, (packetsOn_frame (F := F) hp 0).1]
    rfl
  rw [hreads.endEpoch_seq, hpackets, latest_concat]
  by_cases hend : p.1 = .endEpoch
  · rw [if_pos hend, if_pos hend.symm]
    rfl
  · rw [if_neg hend, if_neg (Ne.symm hend)]
    rfl

/-- The reading loop passes over the packets of an epoch and stops behind its end. -/
lemma syncRead_body {ps : List (ClientVar × List UInt8)} (hps : ∀ p ∈ ps, IsPacket p)
    (hinside : ∀ p ∈ ps, p.1 ≠ .endEpoch) (h : Receiving cl .hunt) {seq : UInt16}
    (hseq : cl.packets.endEpoch.seq ≠ seq) {n : Nat} (hn : ps.length < n) (rest : List UInt8) :
    ∃ cl', syncRead cl.packets.endEpoch.seq cl (wire ps ++ (frame (endEpochPacket seq) ++ rest)) n =
        .ok (some (cl', rest)) ∧
      Reads cl (wire ps ++ frame (endEpochPacket seq)) cl' ∧ cl'.packets.endEpoch.seq = seq := by
  induction ps generalizing cl n with
  | nil =>
    obtain ⟨r, cl', hread, hreads, hseq'⟩ := readPacket_seq h (isPacket_endEpoch seq) rest
    rw [if_pos rfl] at hseq'
    have hend : cl'.packets.endEpoch.seq = seq := hseq'.trans (LittleEndian.getU16_eq rfl rfl)
    obtain ⟨n, rfl⟩ := Nat.exists_eq_succ_of_ne_zero (Nat.ne_of_gt hn)
    refine ⟨cl', ?_, hreads, hend⟩
    change syncRead _ cl (frame (endEpochPacket seq) ++ rest) (n + 1) = _
    rw [syncRead, hread]
    dsimp only
    rw [hend, if_neg hseq]
  | cons p ps ih =>
    rw [List.forall_mem_cons] at hps hinside
    obtain ⟨n, rfl⟩ := Nat.exists_eq_succ_of_ne_zero (Nat.ne_of_gt (Nat.zero_lt_of_lt hn))
    obtain ⟨r, cl₁, hread, hreads, hseq₁⟩ :=
      readPacket_seq h hps.1 (wire ps ++ (frame (endEpochPacket seq) ++ rest))
    rw [if_neg hinside.1] at hseq₁
    have hwire : wire (p :: ps) = frame p.2 ++ wire ps := rfl
    obtain ⟨cl', hsync, hreads', hend⟩ := ih hps.2 hinside.2 hreads.receiving (hseq₁ ▸ hseq)
      (Nat.lt_of_succ_lt_succ hn)
    refine ⟨cl', ?_, ?_, hend⟩
    · rw [hwire, List.append_assoc, syncRead, hread]
      dsimp only
      rw [hseq₁, if_pos rfl]
      rw [hseq₁] at hsync
      exact hsync
    · rw [hwire, List.append_assoc]
      exact hreads.trans hreads'

lemma length_le_wire (ps : List (ClientVar × List UInt8)) : ps.length ≤ (wire ps).length := by
  induction ps with
  | nil => exact Nat.le_refl 0
  | cons p ps ih =>
    have hwire : wire (p :: ps) = frame p.2 ++ wire ps := rfl
    rw [hwire, List.length_append, length_frame, List.length_cons]
    omega

/-- The bytes of some epochs. -/
def epochsWire (epochs : List Epoch) : List UInt8 :=
  epochs.flatMap fun e => wire e.packets

/-- Each cycle of `OrazioClient_sync` reads one epoch. -/
lemma sync_epochs (h : Receiving cl .hunt) {epochs : List Epoch} (hwell : ∀ e ∈ epochs, e.WellFormed)
    (hseq : (cl.packets.endEpoch.seq :: epochs.map Epoch.seq).IsChain (· ≠ ·)) (rest : List UInt8) :
    ∃ written cl', OrazioClient_sync (epochsWire epochs ++ rest) cl epochs.length =
        .ok (some (written, cl', rest)) ∧ Reads cl (epochsWire epochs) cl' := by
  induction epochs generalizing cl with
  | nil => exact ⟨[], cl, rfl, .nil rfl h⟩
  | cons e epochs ih =>
    rw [List.forall_mem_cons] at hwell
    rw [List.map_cons, List.isChain_cons_cons] at hseq
    have hsend := syncSend_follows h
    have hkeep : (syncSend cl).2.2.packets.endEpoch.seq = cl.packets.endEpoch.seq := hsend.endEpoch_seq
    have hepoch : wire e.packets = wire e.body ++ frame (endEpochPacket e.seq) := by
      rw [wire, Epoch.packets, List.flatMap_append]
      rfl
    have hwire : epochsWire (e :: epochs) ++ rest =
        wire e.body ++ (frame (endEpochPacket e.seq) ++ (epochsWire epochs ++ rest)) := by
      rw [epochsWire, List.flatMap_cons, hepoch, List.append_assoc, List.append_assoc]
      rfl
    have hfuel : e.body.length < (epochsWire (e :: epochs) ++ rest).length := by
      have hbody := length_le_wire e.body
      rw [hwire, List.length_append, List.length_append, length_frame]
      omega
    obtain ⟨cl₁, hread, hreads, hend⟩ := syncRead_body hwell.1.packet hwell.1.inside hsend.receiving
      (hkeep ▸ hseq.1) hfuel (epochsWire epochs ++ rest)
    obtain ⟨written, cl', hsync, hreads'⟩ := ih hreads.receiving hwell.2 (hend ▸ hseq.2)
    refine ⟨(syncSend cl).1 ++ written, cl', ?_, ?_⟩
    · rw [hwire] at hread ⊢
      rw [List.length_cons, OrazioClient_sync]
      dsimp only
      rw [hread]
      dsimp only
      rw [hsync]
    · have hall := (hsend.trans hreads).trans hreads'
      rw [← hepoch] at hall
      exact hall

end Orazio.Proofs
