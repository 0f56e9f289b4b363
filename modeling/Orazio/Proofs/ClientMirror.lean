import Orazio.Lib.Journal
import Orazio.Proofs.BlockingSend
import Orazio.Proofs.ParamBlocks

/-!
# The variables of the client mirror the link

Whatever bytes arrive, and however the calls of the client follow each other, each variable holds the last
packet of its type that the frame decoder finds in the part of the link that has been read.
-/

namespace Orazio.Proofs

/-! ### Packets in a byte string -/

section Decoder

variable {ρ σ : Type} {ops : ρ → PacketOperations σ} {operations : Fin PACKET_TYPE_MAX → Option ρ}

/-- A packet together with the operation that its type selects. -/
def Delivered.content (d : Delivered ρ) : ρ × List UInt8 :=
  (d.op, d.packet)

/-- Which packets the decoder finds does not depend on where the string begins. -/
lemma Phase.deliveries_content (buffer : Option Addr) (ph : Phase ρ) (n n' : Nat) (cs : List UInt8) :
    (ph.deliveries ops operations buffer n cs).map Delivered.content =
      (ph.deliveries ops operations buffer n' cs).map Delivered.content := by
  induction cs generalizing ph n n' with
  | nil => rfl
  | cons c cs ih =>
    have harrival : (ph.arrival n c).map Delivered.content = (ph.arrival n' c).map Delivered.content := by
      cases ph with
      | complete op packet got =>
        rw [Phase.arrival, Phase.arrival]
        split <;> rfl
      | _ => rfl
    rw [Phase.deliveries, Phase.deliveries, List.map_append, List.map_append, harrival, ih _ (n + 1) (n' + 1)]

lemma Phase.after_append (buffer : Option Addr) (ph : Phase ρ) (cs cs' : List UInt8) :
    ph.after ops operations buffer (cs ++ cs') =
      (ph.after ops operations buffer cs).after ops operations buffer cs' :=
  List.foldl_append

/-- The payload of a packet, up to its last byte. -/
lemma Phase.deliveries_body (buffer : Option Addr) {op : ρ} {packet : Addr} {got cs : List UInt8}
    (hne : cs ≠ []) (hlen : got.length + cs.length = (ops op).size.toNat) (n : Nat) :
    (Phase.body op packet got).deliveries ops operations buffer n cs = [] ∧
      (Phase.body op packet got).after ops operations buffer cs = .complete op packet (got ++ cs) := by
  induction cs generalizing got n with
  | nil => exact absurd rfl hne
  | cons c cs ih =>
    rw [List.length_cons] at hlen
    by_cases hlast : cs = []
    · subst hlast
      have hnext : (Phase.body op packet got).next ops operations buffer c =
          (.syncPayloadComplete, .complete op packet (got ++ [c])) := if_pos hlen
      rw [Phase.deliveries, Phase.after, List.foldl_cons, hnext]
      exact ⟨rfl, rfl⟩
    · have hpos := List.length_pos_of_ne_nil hlast
      have hnext : (Phase.body op packet got).next ops operations buffer c =
          (.syncPayload, .body op packet (got ++ [c])) := if_neg (by omega)
      have hlen' : (got ++ [c]).length + cs.length = (ops op).size.toNat := by
        rw [List.length_append, List.length_singleton]
        omega
      obtain ⟨hnone, hafter⟩ := ih hlast hlen' (n + 1)
      rw [List.append_assoc] at hafter
      rw [Phase.deliveries, Phase.after, List.foldl_cons, hnext]
      exact ⟨hnone, hafter⟩

/-- A whole frame is one packet. -/
lemma Phase.deliveries_frame {t : Fin PACKET_TYPE_MAX} {op : ρ} (ht : operations t = some op)
    (hfixed : FixedOp ops t op) (address : Addr) {packet payload : List UInt8}
    (hpacket : packet = (ops op).type :: (ops op).size :: payload)
    (hlen : packet.length = (ops op).size.toNat) (n : Nat) :
    Phase.hunt.deliveries ops operations (some address) n (frame packet) =
        [⟨n + (frame packet).length, op, packet⟩] ∧
      Phase.hunt.after ops operations (some address) (frame packet) = .hunt := by
  have hAA : (Phase.hunt : Phase ρ).next ops operations (some address) 0xAA = (.syncAA, .sawAA) := rfl
  have h55 : (Phase.sawAA : Phase ρ).next ops operations (some address) 0x55 = (.sync55, .sawSync) := rfl
  have htype : (Phase.sawSync : Phase ρ).next ops operations (some address) (ops op).type =
      (.syncType, .sawType op) := by
    have hlt : (ops op).type.toNat < PACKET_TYPE_MAX := by
      rw [hfixed.type]
      exact t.isLt
    have hop : operations ⟨(ops op).type.toNat, hlt⟩ = some op := by
      rw [← ht]
      exact congrArg operations (Fin.ext hfixed.type)
    rw [Phase.next, dif_pos hlt, hop]
  have hsize : (Phase.sawType op).next ops operations (some address) (ops op).size =
      (.syncSize, .body op address [(ops op).type, (ops op).size]) := by
    rw [Phase.next, if_neg (not_not_intro rfl)]
  have hlast : (Phase.complete op address packet).next ops operations (some address) (Bytes.xorSum packet) =
      (.syncChecksum, .hunt) := if_pos rfl
  have harrival : (Phase.complete op address packet).arrival (n + 4 + payload.length) (Bytes.xorSum packet) =
      [⟨n + 4 + payload.length + 1, op, packet⟩] := if_pos rfl
  have hlength : packet.length = payload.length + 2 := by rw [hpacket, List.length_cons, List.length_cons]
  have hne : payload ≠ [] := by
    rintro rfl
    have hthree := hfixed.three_le
    rw [List.length_nil] at hlength
    omega
  have hframe : frame packet =
      [0xAA, 0x55, (ops op).type, (ops op).size] ++ (payload ++ [Bytes.xorSum packet]) := by
    subst hpacket
    rfl
  have hhead : Phase.hunt.deliveries ops operations (some address) n
        [0xAA, 0x55, (ops op).type, (ops op).size] = [] ∧
      Phase.hunt.after ops operations (some address) [0xAA, 0x55, (ops op).type, (ops op).size] =
        .body op address [(ops op).type, (ops op).size] := by
    simp only [Phase.deliveries, Phase.after, List.foldl_cons, List.foldl_nil, hAA, h55, htype, hsize]
    exact ⟨rfl, trivial⟩
  have hbody : (Phase.body op address [(ops op).type, (ops op).size]).deliveries ops operations
        (some address) (n + 4) payload = [] ∧
      (Phase.body op address [(ops op).type, (ops op).size]).after ops operations (some address) payload =
        .complete op address packet := by
    have hcount : [(ops op).type, (ops op).size].length + payload.length = (ops op).size.toNat := by
      rw [← hlen, hlength]
      exact Nat.add_comm 2 _
    rw [hpacket]
    exact Phase.deliveries_body _ hne hcount _
  rw [hframe, Phase.deliveries_append, Phase.after_append, hhead.1, hhead.2, List.nil_append]
  change (Phase.body op address _).deliveries ops operations (some address) (n + 4) _ = _ ∧ _
  rw [Phase.deliveries_append, Phase.after_append, hbody.1, hbody.2, List.nil_append, Phase.deliveries,
    Phase.after, List.foldl_cons, hlast, harrival, List.length_append, List.length_append]
  change [(⟨n + 4 + payload.length + 1, op, packet⟩ : Delivered ρ)] =
    [⟨n + (4 + (payload.length + 1)), op, packet⟩] ∧ _
  rw [Nat.add_assoc, Nat.add_assoc]
  exact ⟨rfl, rfl⟩

end Decoder

/-! ### The bytes of the variables -/

open Journal

variable {F : Type} [CFloat F]

lemma length_clientBytes (v : ClientVar) (ps : ClientPackets F) : (v.bytes ps).length = v.sizeof.toNat := by
  cases v <;>
    simp only [ClientVar.bytes, ClientVar.sizeof, PacketHeader.bytes, ResponsePacket.bytes,
      SystemParamPacket.bytes, SystemStatusPacket.bytes, JointParamPacket.bytes, JointParams.bytes,
      JointStatusPacket.bytes, JointInfo.bytes, DifferentialDriveParamPacket.bytes,
      DifferentialDriveStatusPacket.bytes, FloatBytes.length_bytes, List.length_append, List.length_cons,
      List.length_nil, LittleEndian.length_u16, LittleEndian.length_u32, LittleEndian.length_i16] <;>
    rfl

/-- A variable that has been overwritten. -/
lemma clientBytes_ofMemory [LawfulFloatBytes F] (v : ClientVar) (m : PacketBytes) (ps : ClientPackets F) :
    v.bytes (v.ofMemory m ps) = Bytes.read m 0 v.sizeof.toNat := by
  cases v with
  | systemParam => exact systemParam_bytes_ofBytes m
  | jointParam => exact jointParam_bytes_ofBytes m
  | driveParam => exact driveParam_bytes_ofBytes m
  | endEpoch => exact header_bytes_ofBytes m
  | response =>
    simp only [ClientVar.bytes, ClientVar.ofMemory, ResponsePacket.ofBytes, ResponsePacket.bytes,
      header_bytes_ofBytes, LittleEndian.u16_getU16]
    rfl
  | systemStatus =>
    simp only [ClientVar.bytes, ClientVar.ofMemory, SystemStatusPacket.ofBytes, SystemStatusPacket.bytes,
      header_bytes_ofBytes, LittleEndian.u16_getU16, LittleEndian.u32_getU32, LittleEndian.i16_getI16]
    rfl
  | jointStatus =>
    simp only [ClientVar.bytes, ClientVar.ofMemory, JointStatusPacket.ofBytes, JointStatusPacket.bytes,
      JointInfo.ofBytes, JointInfo.bytes, header_bytes_ofBytes, LittleEndian.u16_getU16,
      LittleEndian.i16_getI16]
    rfl
  | driveStatus =>
    simp only [ClientVar.bytes, ClientVar.ofMemory, DifferentialDriveStatusPacket.ofBytes,
      DifferentialDriveStatusPacket.bytes, getFloat, header_bytes_ofBytes, LawfulFloatBytes.bytes_ofBytes]
    rfl

lemma clientBytes_ofMemory_of_ne {v v' : ClientVar} (h : v' ≠ v) (m : PacketBytes) (ps : ClientPackets F) :
    v'.bytes (v.ofMemory m ps) = v'.bytes ps := by
  cases v <;> cases v' <;> first | rfl | exact absurd rfl h

/-- A packet replaces the bytes of its variable. -/
lemma Stores.bytes [LawfulFloatBytes F] {ps ps' : ClientPackets F} {d : Delivered ClientVar}
    (h : Stores ps d ps') (hlen : d.packet.length = d.op.sizeof.toNat) (v : ClientVar) :
    v.bytes ps' = (latest [d.content] v).getD (v.bytes ps) := by
  obtain ⟨m, hm, rfl⟩ := h
  have hlatest : latest [d.content] v = if v = d.op then some d.packet else none := latest_concat [] d.op v _
  rw [hlatest]
  by_cases hv : v = d.op
  · subst hv
    rw [if_pos rfl, clientBytes_ofMemory, Option.getD_some, ← hlen]
    apply List.ext_getElem
    · rw [Bytes.length_read]
    · intro i hi hi'
      rw [Bytes.getElem_read, Nat.zero_add, hm i hi', List.getD_eq_getElem _ _ hi']
  · rw [if_neg hv, clientBytes_ofMemory_of_ne hv]
    rfl

/-! ### Reading -/

/-- The packets that the decoder finds in a byte string. -/
def packetsIn (read : List UInt8) : List (ClientVar × List UInt8) :=
  (packetsOn (F := F) 0 read).map Delivered.content

/-- The client reads a byte string, and each variable becomes the last packet of its type. -/
structure Reads (cl : OrazioClient F) (read : List UInt8) (cl' : OrazioClient F) : Prop where
  receiving : Receiving cl' .hunt
  whole : Phase.hunt.after (ClientVar.operations (F := F)) clientTable (some ClientVar.packetBuffer) read = .hunt
  bytes : ∀ v : ClientVar,
    v.bytes cl'.packets = (latest (packetsIn (F := F) read) v).getD (v.bytes cl.packets)

variable {cl cl' cl'' : OrazioClient F} {read read' : List UInt8}

lemma packetsIn_append (h : Phase.hunt.after (ClientVar.operations (F := F)) clientTable
      (some ClientVar.packetBuffer) read = .hunt) (read' : List UInt8) :
    packetsIn (F := F) (read ++ read') = packetsIn (F := F) read ++ packetsIn (F := F) read' := by
  rw [packetsIn, packetsOn, Phase.deliveries_append, h, List.map_append]
  exact congrArg (packetsIn read ++ ·) (Phase.deliveries_content _ _ _ _ _)

lemma Reads.nil (hpackets : cl'.packets = cl.packets) (h : Receiving cl' .hunt) : Reads cl [] cl' :=
  ⟨h, rfl, fun v => congrArg v.bytes hpackets⟩

lemma Reads.trans (h : Reads cl read cl') (h' : Reads cl' read' cl'') : Reads cl (read ++ read') cl'' := by
  refine ⟨h'.receiving, ?_, fun v => ?_⟩
  · rw [Phase.after_append, h.whole]
    exact h'.whole
  · rw [packetsIn_append h.whole, latest_append, h'.bytes, h.bytes]
    cases latest (packetsIn (F := F) read') v <;> rfl

/-- `_readPacket` reads up to the end of the first packet. -/
lemma readPacket_follows [LawfulFloatBytes F] (h : Receiving cl .hunt) {n : Nat} {r : Reception}
    {link rest : List UInt8} (hread : OrazioClient.readPacket n cl link = .ok (some (r, cl', rest))) :
    ∃ read d, link = read ++ rest ∧ Reads cl read cl' ∧ packetsOn (F := F) n read = [d] ∧
      d.stop = n + read.length ∧ r.stop = n + read.length := by
  obtain ⟨result, hresult, -, hsome⟩ := readPacket_stores h (List.replicate n 0) link
    (List.append_nil _).symm
  rw [List.length_replicate] at hresult hsome
  obtain rfl := Except.ok.inj (hresult.symm.trans hread)
  obtain ⟨d, read, hlink, hds, hhunt, hstop, hrec, hon, hstores, h', -⟩ := hsome r cl' rest rfl
  rw [List.length_append, List.length_replicate] at hstop
  refine ⟨read, d, hlink, ⟨h', hhunt, fun v => ?_⟩, hds, hrec.stop.symm.trans hstop, hstop⟩
  have hcontent : packetsIn (F := F) read = [d.content] := by
    rw [packetsIn, packetsOn, Phase.deliveries_content _ _ 0 n, hds]
    rfl
  rw [hcontent]
  exact hstores.bytes hon.length v

/-- The loop of a blocking call. -/
lemma awaitResponse_follows [LawfulFloatBytes F] {type : UInt8} {seq : UInt16} (h : Receiving cl .hunt)
    {timeout n : Nat} {link : List UInt8} {w : Waited F}
    (hawait : OrazioClient.awaitResponse type seq n cl link timeout = .ok (some w)) :
    ∃ read, link = read ++ w.link ∧ Reads cl read w.client := by
  induction timeout generalizing cl n link w with
  | zero =>
    cases hawait
    exact ⟨[], rfl, .nil rfl h⟩
  | succ timeout ih =>
    rw [OrazioClient.awaitResponse] at hawait
    split at hawait
    · cases hawait
    · cases hawait
    · next r cl₁ rest hread =>
      obtain ⟨read, -, rfl, hreads, -⟩ := readPacket_follows h hread
      split at hawait
      · cases hawait
        exact ⟨read, rfl, hreads⟩
      · split at hawait
        · cases hawait
        · cases hawait
        · next w' hrest =>
          cases hawait
          obtain ⟨read', rfl, hreads'⟩ := ih hreads.receiving hrest
          exact ⟨read ++ read', (List.append_assoc _ _ _).symm, hreads.trans hreads'⟩

/-! ### Calls -/

omit [CFloat F] in
lemma sendPacket_packets (cl : OrazioClient F) (p : PacketBytes) : (cl.sendPacket p).2.2.packets = cl.packets := by
  by_cases hacc : Accepted cl p
  · obtain ⟨tx, -, hsend⟩ := sendPacket_accepted hacc
    rw [hsend]
  · obtain ⟨status, p', -, hsend⟩ := sendPacket_refused hacc
    rw [hsend]

lemma sendPacket_receiving (h : Receiving cl .hunt) (p : PacketBytes) : Receiving (cl.sendPacket p).2.2 .hunt := by
  by_cases hacc : Accepted cl p
  · obtain ⟨tx, -, hsend⟩ := sendPacket_accepted hacc
    rw [hsend]
    exact h.congr tx _ _
  · obtain ⟨status, p', -, hsend⟩ := sendPacket_refused hacc
    rw [hsend]
    exact h.congr cl.packetHandler.toTxFields _ _

lemma syncSend_follows (h : Receiving cl .hunt) : Reads cl [] (syncSend cl).2.2 := by
  refine .nil ?_ (syncSend_receiving h)
  unfold syncSend
  dsimp only
  split
  · exact sendPacket_packets _ _
  · rfl

lemma call_follows [LawfulFloatBytes F] (h : Receiving cl .hunt) {p : PacketBytes} {timeout : Int}
    {link : List UInt8} {r : SendResult F} (hcall : OrazioClient_sendPacket p timeout link cl = .ok (some r)) :
    ∃ read, link = read ++ r.link ∧ Reads cl read r.client := by
  have hpackets := sendPacket_packets cl p
  have hreceiving := sendPacket_receiving h p
  unfold OrazioClient_sendPacket at hcall
  generalize cl.sendPacket p = sent at hcall hpackets hreceiving
  obtain ⟨status, p', cl₁⟩ := sent
  dsimp only at hcall hpackets hreceiving
  split at hcall
  · cases hcall
    exact ⟨[], rfl, .nil hpackets hreceiving⟩
  · split at hcall
    · cases hcall
    · cases hcall
    · next w hawait =>
      cases hcall
      have hflush : Receiving cl₁.flushBuffer.2 .hunt := hreceiving.congr _ _ _
      obtain ⟨read, hlink, hreads⟩ := awaitResponse_follows hflush hawait
      have hsent : Reads cl [] cl₁.flushBuffer.2 := .nil hpackets hflush
      exact ⟨read, hlink, hsent.trans hreads⟩

lemma clientTable_type (v : ClientVar) :
    ∃ hlt : v.type.toNat < PACKET_TYPE_MAX, clientTable ⟨v.type.toNat, hlt⟩ = some v := by
  cases v <;> exact ⟨by decide, rfl⟩

/-- `OrazioClient_get` returns the bytes of the variable. -/
lemma get_eq {ph : Phase ClientVar} (h : Receiving cl ph) (v : ClientVar) :
    OrazioClient_get v.type cl = .ok (.success, v.bytes cl.packets) := by
  obtain ⟨hlt, htable⟩ := clientTable_type v
  rw [OrazioClient_get, dif_pos hlt, h.operations, htable]
  dsimp only
  rw [if_pos rfl, List.take_of_length_le (length_clientBytes v _).le]

/-! ### Runs -/

/-- The bytes that the firmware sends during an event. -/
def emittedBy : LinkEvent F → List UInt8
  | .emit bytes => bytes
  | .sendPacket call => call.emitted
  | _ => []

/-- A step takes some bytes from the link, and the variables mirror them. -/
lemma linkStep_follows [LawfulFloatBytes F] {s s' : LinkState F} {input : LinkInput F} {e : LinkEvent F}
    (h : Receiving s.client .hunt) (hstep : linkStep s input = .ok (e, s')) :
    ∃ read, s.link ++ emittedBy e = read ++ s'.link ∧ Reads s.client read s'.client := by
  cases input with
  | emit bytes =>
    cases hstep
    exact ⟨[], rfl, .nil rfl h⟩
  | sendPacket p timeout emitted =>
    rw [linkStep] at hstep
    split at hstep
    · cases hstep
    · cases hstep
    · next r hcall =>
      cases hstep
      exact call_follows h hcall
  | syncSend =>
    cases hstep
    exact ⟨[], List.append_nil _, syncSend_follows h⟩
  | syncRead =>
    rw [linkStep] at hstep
    split at hstep
    · cases hstep
    · cases hstep
    · next r client link hread =>
      cases hstep
      obtain ⟨read, -, hlink, hreads, -⟩ := readPacket_follows h hread
      exact ⟨read, (List.append_nil _).trans hlink, hreads⟩
  | setBaseVelocity tv rv =>
    cases hstep
    exact ⟨[], List.append_nil _, .nil rfl (h.congr s.client.packetHandler.toTxFields s.client.globalSeq _)⟩

/-- In every run of the client, whatever bytes arrive, `OrazioClient_get` returns the last packet of its type
that the decoder finds in the bytes read so far, and what the variable was initialised with before. -/
theorem get_mirrors_link [LawfulFloatBytes F] (cl₀ : OrazioClient F) {inputs : List (LinkInput F)}
    {events : List (LinkEvent F)} {s : LinkState F}
    (h : StepMachine.run linkStep ⟨cl₀.init, []⟩ inputs = .ok (events, s)) :
    ∃ read, events.flatMap emittedBy = read ++ s.link ∧ ∀ v : ClientVar,
      OrazioClient_get v.type s.client =
        .ok (.success, (latest (packetsIn (F := F) read) v).getD (v.bytes cl₀.init.packets)) := by
  have hfollows : ∃ read, events.flatMap emittedBy = read ++ s.link ∧
      Reads cl₀.init read s.client := by
    refine StepMachine.run_history (fun _ events s => ∃ read,
      events.flatMap emittedBy = read ++ s.link ∧ Reads cl₀.init read s.client)
      ⟨[], rfl, .nil rfl (init_receiving cl₀)⟩ ?_ h
    rintro is events s i e s' ⟨read, hlink, hreads⟩ hstep
    obtain ⟨read', hlink', hreads'⟩ := linkStep_follows hreads.receiving hstep
    refine ⟨read ++ read', ?_, hreads.trans hreads'⟩
    rw [List.flatMap_append, hlink, List.append_assoc, List.flatMap_singleton, hlink', List.append_assoc]
  obtain ⟨read, hlink, hreads⟩ := hfollows
  refine ⟨read, hlink, fun v => ?_⟩
  rw [get_eq hreads.receiving, hreads.bytes]

/-- Memory that is zero, for a client with numbers in the single precision format. -/
def blankClient : OrazioClient BitFloat where
  packetHandler := zeroClient.packetHandler
  globalSeq := 0
  packets :=
    { response := .ofBytes fun _ => 0
      endEpoch := .ofBytes fun _ => 0
      systemParam := .ofBytes fun _ => 0
      systemStatus := .ofBytes fun _ => 0
      jointParam := .ofBytes fun _ => 0
      jointStatus := .ofBytes fun _ => 0
      driveParam := .ofBytes fun _ => 0
      driveStatus := .ofBytes fun _ => 0 }
  packetBuffer := fun _ => 0
  driveControlPacket := .ofBytes fun _ => 0

/-- The bytes of the packet that ends an epoch. -/
def endEpochPacket (seq : UInt16) : List UInt8 :=
  PacketHeader.bytes ⟨END_EPOCH_PACKET_ID, sizeofEndEpochPacket, seq⟩

theorem get_mirrors_link_noise :
    ∃ (events : List (LinkEvent BitFloat)) (s : LinkState BitFloat) (read : List UInt8),
      StepMachine.run linkStep ⟨blankClient.init, []⟩
        [.emit ([0xAA, 7] ++ frame (endEpochPacket 9) ++ [0xAA]), .syncSend, .syncRead] = .ok (events, s) ∧
      events.flatMap emittedBy = read ++ s.link ∧ ∀ v : ClientVar,
        OrazioClient_get v.type s.client =
          .ok (.success, (latest (packetsIn (F := BitFloat) read) v).getD
            (v.bytes blankClient.init.packets)) := by
  have hrun : ∃ r, StepMachine.run linkStep ⟨blankClient.init, []⟩
      [.emit ([0xAA, 7] ++ frame (endEpochPacket 9) ++ [0xAA]), .syncSend, .syncRead] = .ok r ∧ True := by
    decide +kernel
  obtain ⟨⟨events, s⟩, hrun, -⟩ := hrun
  obtain ⟨read, hread, hget⟩ := get_mirrors_link blankClient hrun
  exact ⟨events, s, read, hrun, hread, hget⟩

end Orazio.Proofs
