import Mathlib.Tactic.IntervalCases
import Orazio.Model.OrazioClient
import Orazio.Proofs.Delivery

/-!
# What the client reads

The packets that the client receives are those that the frame decoder finds on the link, and the
cached response is the last response among them.
-/

namespace Orazio.Proofs

/-! ### Packets on a link -/

section Decoder

variable {ρ σ : Type}

/-- The packets that the decoder finds in a byte string when it has read `n` bytes before. -/
def Phase.deliveries (ops : ρ → PacketOperations σ) (operations : Fin PACKET_TYPE_MAX → Option ρ)
    (buffer : Option Addr) (ph : Phase ρ) (n : Nat) : List UInt8 → List (Delivered ρ)
  | [] => []
  | c :: cs =>
    ph.arrival n c ++ Phase.deliveries ops operations buffer (ph.next ops operations buffer c).2 (n + 1) cs

/-- The phase behind a byte string. -/
def Phase.after (ops : ρ → PacketOperations σ) (operations : Fin PACKET_TYPE_MAX → Option ρ)
    (buffer : Option Addr) : Phase ρ → List UInt8 → Phase ρ :=
  List.foldl fun ph c => (ph.next ops operations buffer c).2

lemma Phase.deliveries_append (ops : ρ → PacketOperations σ) (operations : Fin PACKET_TYPE_MAX → Option ρ)
    (buffer : Option Addr) (ph : Phase ρ) (n : Nat) (cs cs' : List UInt8) :
    ph.deliveries ops operations buffer n (cs ++ cs') = ph.deliveries ops operations buffer n cs ++
      (ph.after ops operations buffer cs).deliveries ops operations buffer (n + cs.length) cs' := by
  induction cs generalizing ph n with
  | nil => rfl
  | cons c cs ih =>
    have hlen : n + 1 + cs.length = n + (c :: cs).length := by
      rw [List.length_cons, Nat.add_assoc, Nat.add_comm 1]
    rw [List.cons_append, Phase.deliveries, ih, Phase.deliveries, List.append_assoc, hlen]
    rfl

end Decoder

variable {F : Type} [CFloat F]

/-- The operations that the client installs. -/
def clientTable : Fin PACKET_TYPE_MAX → Option ClientVar :=
  fun t => OrazioClient.installed.find? fun v => v.type.toNat = t

/-- The packets that a client which hunts for a frame finds on a link. -/
def packetsOn (n : Nat) (link : List UInt8) : List (Delivered ClientVar) :=
  Phase.deliveries (ClientVar.operations (F := F)) clientTable (some ClientVar.packetBuffer) .hunt n
    link

def responseOf (packet : List UInt8) : ResponsePacket :=
  .ofBytes fun i => packet.getD i 0

/-- The cached response after a packet has been received. -/
def cacheAfter (cached : ResponsePacket) (d : Delivered ClientVar) : ResponsePacket :=
  if d.op = .response then responseOf d.packet else cached

/-- A packet is copied to its variable. -/
def Stores (ps : ClientPackets F) (d : Delivered ClientVar) (ps' : ClientPackets F) : Prop :=
  ∃ m : PacketBytes, (∀ i < d.packet.length, m i = d.packet.getD i 0) ∧ ps' = d.op.ofMemory m ps

/-- The packets are copied to their variables, one after another. -/
def StoresAll : ClientPackets F → List (Delivered ClientVar) → ClientPackets F → Prop
  | ps, [], ps' => ps' = ps
  | ps, d :: ds, ps' => ∃ ps₁, Stores ps d ps₁ ∧ StoresAll ps₁ ds ps'

/-- What a blocking call reads: the packets up to the first one after which the cached response
matches, or `timeout` of them. -/
def awaitOn (type : UInt8) (seq : UInt16) (cached : ResponsePacket) :
    Nat → List (Delivered ClientVar) → Option (PacketStatus × List (Delivered ClientVar))
  | 0, _ => some (.timeout, [])
  | _ + 1, [] => none
  | timeout + 1, d :: ds =>
    if (cacheAfter cached d).pType = type ∧ (cacheAfter cached d).pSeq = seq then some (.success, [d])
    else (awaitOn type seq (cacheAfter cached d) timeout ds).map fun w => (w.1, d :: w.2)

/-! ### The client follows the decoder -/

/-- The client has the installed operations and receives in phase `ph`. -/
structure Receiving (cl : OrazioClient F) (ph : Phase ClientVar) : Prop where
  operations : cl.packetHandler.operations = clientTable
  rep : Rep ClientVar.operations cl.packetHandler ⟨cl.packetBuffer, cl.packets⟩ ph

/-- What receiving leaves alone. -/
structure SameSender (cl cl' : OrazioClient F) : Prop where
  tx : cl'.packetHandler.toTxFields = cl.packetHandler.toTxFields
  globalSeq : cl'.globalSeq = cl.globalSeq
  driveControlPacket : cl'.driveControlPacket = cl.driveControlPacket

omit [CFloat F] in
lemma SameSender.trans {cl cl' cl'' : OrazioClient F} (h : SameSender cl cl')
    (h' : SameSender cl' cl'') : SameSender cl cl'' :=
  ⟨h'.tx.trans h.tx, h'.globalSeq.trans h.globalSeq,
    h'.driveControlPacket.trans h.driveControlPacket⟩

lemma installPackets_operations (h : PacketHandler ClientVar) :
    (OrazioClient.installPackets (F := F) h.initializeHandler).operations = clientTable := by
  funext t
  obtain ⟨t, ht⟩ := t
  change t < 16 at ht
  interval_cases t <;> rfl

lemma clientTable_fixedOps : FixedOps (ClientVar.operations (F := F)) clientTable := by
  intro t v hv
  have htype : v.type.toNat = t := by simpa using List.find?_some hv
  refine ⟨htype, ?_, ?_⟩
  · change 3 ≤ v.sizeof.toNat
    cases v <;> decide
  · change v.sizeof.toNat ≤ 254
    cases v <;> decide

lemma init_receiving (cl : OrazioClient F) : Receiving cl.init .hunt :=
  ⟨installPackets_operations cl.packetHandler,
    installAll_rxFn ClientVar.operations cl.packetHandler.initializeHandler OrazioClient.installed⟩

lemma responseOfBytes_congr {m m' : PacketBytes} (h : ∀ i, i < 8 → m i = m' i) :
    ResponsePacket.ofBytes m = ResponsePacket.ofBytes m' := by
  simp only [ResponsePacket.ofBytes, PacketHeader.ofBytes, LittleEndian.getU16, h 0 (by omega),
    h 1 (by omega), h 2 (by omega), h 3 (by omega), h 4 (by omega), h 5 (by omega),
    h 6 (by omega), h 7 (by omega)]

/-- The bytes of a complete packet in the packet buffer. -/
lemma Holding.byte {ρ σ : Type} {ops : ρ → PacketOperations σ} {h : PacketHandler ρ} {w : World σ}
    {op : ρ} {packet : Addr} {got : List UInt8} (hold : Holding ops h w op packet got) {i : Nat}
    (hi : i < got.length) : w.mem (packet + i) = got.getD i 0 :=
  (Bytes.getD_of_read hold.stored hi).symm

/-- Only a response changes the cached one. -/
lemma Stores.response {ps ps' : ClientPackets F} {d : Delivered ClientVar} (h : Stores ps d ps')
    (hlen : d.packet.length = d.op.sizeof.toNat) : ps'.response = cacheAfter ps.response d := by
  obtain ⟨stop, op, packet⟩ := d
  obtain ⟨m, hm, rfl⟩ := h
  cases op with
  | response =>
    rw [cacheAfter, if_pos rfl]
    apply responseOfBytes_congr
    intro i hi
    apply hm
    rw [hlen]
    exact hi
  | _ => rfl

/-- A complete packet is copied to its variable. -/
lemma copyToBuffer_complete {h : PacketHandler ClientVar} {w : World (ClientPackets F)}
    {v : ClientVar} {packet : Addr} {got : List UInt8}
    (hold : Holding ClientVar.operations h w v packet got) (hlen : got.length = v.sizeof.toNat) :
    ∃ w', v.copyToBuffer packet w = .ok w' ∧ ∀ n, Stores w.env ⟨n, v, got⟩ w'.env := by
  obtain ⟨payload, hgot⟩ := hold.header
  have hsize : w.mem (packet + 1) = v.sizeof := by
    rw [hold.byte (by rw [hgot]; simp), hgot]
    rfl
  unfold ClientVar.copyToBuffer
  rw [hsize, if_neg (by simp)]
  refine ⟨_, rfl, fun n => ⟨_, fun i hi => ?_, rfl⟩⟩
  rw [if_pos (by rw [← hlen]; exact hi)]
  exact hold.byte hi

/-- The callbacks of the client always return. -/
lemma client_worldStep {h : PacketHandler ClientVar} {w : World (ClientPackets F)}
    {ph : Phase ClientVar} (hrep : Rep ClientVar.operations h w ph) (c : UInt8) :
    ∃ w', WorldStep ClientVar.operations w (some ClientVar.packetBuffer) ph c w' ∧
      ∀ n, StoresAll w.env (ph.arrival n c) w'.env := by
  cases ph with
  | hunt => exact ⟨w, rfl, fun _ => rfl⟩
  | sawAA => exact ⟨w, rfl, fun _ => rfl⟩
  | sawSync => exact ⟨w, rfl, fun _ => rfl⟩
  | sawType v =>
    by_cases hc : (ClientVar.operations (F := F) v).size ≠ c
    · exact ⟨w, by rw [WorldStep, if_pos hc], fun _ => rfl⟩
    · refine ⟨(w.store ClientVar.packetBuffer v.type).store (ClientVar.packetBuffer + 1) v.sizeof,
        ?_, fun _ => rfl⟩
      rw [WorldStep, if_neg hc]
      exact ⟨w, rfl, rfl⟩
  | body v packet got => exact ⟨_, rfl, fun _ => rfl⟩
  | complete v packet got =>
    obtain ⟨-, hold, hlen⟩ := hrep
    by_cases hc : c = Bytes.xorSum got
    · obtain ⟨w', hcopy, hcache⟩ := copyToBuffer_complete hold hlen
      refine ⟨w', ?_, fun n => ?_⟩
      · rw [WorldStep, if_pos hc]
        exact hcopy
      · rw [Phase.arrival, if_pos hc]
        exact ⟨w'.env, hcache (n + 1), rfl⟩
    · refine ⟨w, ?_, fun n => ?_⟩
      · rw [WorldStep, if_neg hc]
      · rw [Phase.arrival, if_neg hc]
        rfl

/-- A byte moves the client as the decoder says. -/
lemma rxByte_receiving {cl : OrazioClient F} {ph : Phase ClientVar} (h : Receiving cl ph) (c : UInt8) :
    ∃ cl', cl.rxByte c = .ok
        ((ph.next (ClientVar.operations (F := F)) clientTable (some ClientVar.packetBuffer) c).1,
          ph.delivery ClientVar.operations ⟨cl.packetBuffer, cl.packets⟩ c, cl') ∧
      Receiving cl' (ph.next (ClientVar.operations (F := F)) clientTable
        (some ClientVar.packetBuffer) c).2 ∧ SameSender cl cl' ∧
      ∀ n, StoresAll cl.packets (ph.arrival n c) cl'.packets := by
  obtain ⟨w', hw, hcache⟩ := client_worldStep h.rep c
  obtain ⟨r, hrx, hworld, hspec⟩ := rxByte_of_worldStep
    (fun _ t v hv _ => clientTable_fixedOps t v (h.operations ▸ hv)) h.rep hw
  have hops := h.operations
  rw [← hops]
  refine ⟨{ cl with
    packetHandler := r.handler
    packetBuffer := r.world.mem
    packets := r.world.env }, ?_, ⟨hspec.operations.trans hops, hspec.rep⟩,
    ⟨hspec.tx, rfl, rfl⟩, fun n => ?_⟩
  · rw [OrazioClient.rxByte, hrx, ← hspec.status, ← hspec.received]
  · have hstores := hcache n
    rw [← hworld] at hstores
    exact hstores

/-! ### Whole packets -/

/-- What was handed to `on_receive_fn` is the packet that the decoder found. -/
structure IsReception (r : Reception) (d : Delivered ClientVar) : Prop where
  stop : r.stop = d.stop
  received : ∃ rec, r.received = some rec ∧ rec.op = d.op ∧ rec.bytes d.packet.length = d.packet

/-- The decoder found the packet in its frame. -/
structure OnLink (link : List UInt8) (d : Delivered ClientVar) : Prop where
  length : d.packet.length = d.op.sizeof.toNat
  inside : d.stop ≤ link.length
  segment : frame d.packet <:+ link.take d.stop

/-- A packet that is completed by the byte `c`. -/
lemma delivery_complete {cl : OrazioClient F} {v : ClientVar} {packet : Addr} {got : List UInt8}
    (h : Receiving cl (.complete v packet got)) (n : Nat) :
    IsReception ⟨n + 1, (Phase.complete v packet got).delivery ClientVar.operations
      ⟨cl.packetBuffer, cl.packets⟩ (Bytes.xorSum got)⟩ ⟨n + 1, v, got⟩ := by
  obtain ⟨-, hold, -⟩ := h.rep
  refine ⟨rfl, ⟨v, packet, cl.packetBuffer⟩, ?_, rfl, hold.stored⟩
  rw [Phase.delivery, if_pos rfl]
  rfl

/-- A packet that its checksum completes is on the link, behind the bytes that were skipped. -/
lemma Receiving.onLink_complete {cl : OrazioClient F} {v : ClientVar} {packet : Addr} {got : List UInt8}
    (h : Receiving cl (.complete v packet got)) {before skipped : List UInt8}
    (hbefore : before = skipped ++ (Phase.complete v packet got).received (ClientVar.operations (F := F))) :
    OnLink (before ++ [Bytes.xorSum got]) ⟨before.length + 1, v, got⟩ := by
  obtain ⟨-, -, hsize⟩ := h.rep
  have hlen : (before ++ [Bytes.xorSum got]).length = before.length + 1 := by simp
  refine ⟨hsize, hlen.ge, ?_⟩
  rw [List.take_of_length_le (by simp), hbefore, List.append_assoc]
  exact ⟨skipped, by simp [frame, Phase.received]⟩

/-- Reading stops behind the first packet that the decoder finds, and waits if there is none. -/
lemma readPacket_stores {cl : OrazioClient F} {ph : Phase ClientVar} (h : Receiving cl ph)
    (before link : List UInt8) {skipped : List UInt8}
    (hbefore : before = skipped ++ ph.received (ClientVar.operations (F := F))) :
    ∃ result, OrazioClient.readPacket before.length cl link = .ok result ∧
      (result = none → ph.deliveries (ClientVar.operations (F := F)) clientTable
        (some ClientVar.packetBuffer) before.length link = []) ∧
      ∀ r cl' rest, result = some (r, cl', rest) → ∃ d read, link = read ++ rest ∧
        ph.deliveries (ClientVar.operations (F := F)) clientTable (some ClientVar.packetBuffer)
            before.length read = [d] ∧
        ph.after (ClientVar.operations (F := F)) clientTable (some ClientVar.packetBuffer) read = .hunt ∧
        r.stop = (before ++ read).length ∧ IsReception r d ∧ OnLink (before ++ read) d ∧
        Stores cl.packets d cl'.packets ∧ Receiving cl' .hunt ∧ SameSender cl cl' := by
  induction link generalizing cl ph before skipped with
  | nil =>
    refine ⟨none, rfl, fun _ => rfl, ?_⟩
    intro r cl' rest hnone
    cases hnone
  | cons c link ih =>
    obtain ⟨cl₁, hrx, h₁, hsame, hcache⟩ := rxByte_receiving h c
    rw [OrazioClient.readPacket, hrx]
    simp only
    by_cases hsync : (ph.next (ClientVar.operations (F := F)) clientTable
        (some ClientVar.packetBuffer) c).1 = .syncChecksum
    · rw [if_pos hsync]
      refine ⟨_, rfl, Option.some_ne_none _ |>.elim, ?_⟩
      intro r cl' rest hsome
      cases hsome
      obtain ⟨v, packet, got, rfl, rfl⟩ :=
        (next_syncChecksum _ _ (some ClientVar.packetBuffer) ph c).mp hsync
      have harrival : (Phase.complete v packet got).arrival before.length (Bytes.xorSum got) =
          [⟨before.length + 1, v, got⟩] := if_pos rfl
      have hnext : ((Phase.complete v packet got).next (ClientVar.operations (F := F)) clientTable
          (some ClientVar.packetBuffer) (Bytes.xorSum got)).2 = .hunt := by
        rw [Phase.next, if_pos rfl]
      have hlen : (before ++ [Bytes.xorSum got]).length = before.length + 1 := by simp
      refine ⟨⟨before.length + 1, v, got⟩, [Bytes.xorSum got], rfl, ?_, hnext, hlen.symm,
        delivery_complete h before.length, h.onLink_complete hbefore, ?_, ?_, hsame⟩
      · rw [Phase.deliveries, harrival]
        rfl
      · have hstores := hcache before.length
        rw [harrival] at hstores
        obtain ⟨ps, hstores, hps⟩ := hstores
        rw [hps]
        exact hstores
      · rw [hnext] at h₁
        exact h₁
    · rw [if_neg hsync]
      have harrival := arrival_of_not_syncChecksum hsync before.length
      have hlen : (before ++ [c]).length = before.length + 1 := by simp
      obtain ⟨skipped', hbefore'⟩ : ∃ skipped', before ++ [c] = skipped' ++
          (ph.next (ClientVar.operations (F := F)) clientTable (some ClientVar.packetBuffer)
            c).2.received (ClientVar.operations (F := F)) := by
        obtain hgrow | hhunt := next_received (clientTable_fixedOps (F := F))
          (some ClientVar.packetBuffer) ph c
        · exact ⟨skipped, by rw [hgrow, hbefore, List.append_assoc]⟩
        · exact ⟨before ++ [c], by rw [hhunt]; simp [Phase.received]⟩
      obtain ⟨result, hread, hnone, hresult⟩ := ih h₁ (before ++ [c]) hbefore'
      rw [hlen] at hread hnone hresult
      refine ⟨result, hread, ?_, ?_⟩
      · intro heq
        rw [Phase.deliveries, harrival, List.nil_append, hnone heq]
      intro r cl' rest hsome
      obtain ⟨d, read, hlink, hds, hhunt, hstop, hrec, hon, hstores, h', hsame'⟩ := hresult r cl' rest hsome
      have happend : before ++ c :: read = before ++ [c] ++ read := by simp
      refine ⟨d, c :: read, by rw [hlink]; rfl, ?_, hhunt, ?_, hrec, ?_, ?_, h', hsame.trans hsame'⟩
      · rw [Phase.deliveries, harrival, List.nil_append, hds]
      · rw [happend, hstop]
      · rw [happend]
        exact hon
      · have hsilent := hcache before.length
        rw [harrival] at hsilent
        have hkeep : cl₁.packets = cl.packets := hsilent
        rw [← hkeep]
        exact hstores

/-- Reading stops behind the first packet that the decoder finds. -/
lemma readPacket_reads {cl : OrazioClient F} {ph : Phase ClientVar} (h : Receiving cl ph)
    (before link : List UInt8) {skipped : List UInt8}
    (hbefore : before = skipped ++ ph.received (ClientVar.operations (F := F))) :
    ∃ result, OrazioClient.readPacket before.length cl link = .ok result ∧
      ∀ r cl' rest, result = some (r, cl', rest) → ∃ d read, link = read ++ rest ∧
        ph.deliveries (ClientVar.operations (F := F)) clientTable (some ClientVar.packetBuffer)
            before.length link = d :: packetsOn (F := F) (before ++ read).length rest ∧
        r.stop = (before ++ read).length ∧ IsReception r d ∧ OnLink (before ++ read) d ∧
        cl'.packets.response = cacheAfter cl.packets.response d ∧ Receiving cl' .hunt ∧
        SameSender cl cl' := by
  obtain ⟨result, hread, -, hresult⟩ := readPacket_stores h before link hbefore
  refine ⟨result, hread, ?_⟩
  intro r cl' rest hsome
  obtain ⟨d, read, rfl, hds, hhunt, hstop, hrec, hon, hstores, h', hsame⟩ := hresult r cl' rest hsome
  refine ⟨d, read, rfl, ?_, hstop, hrec, hon, hstores.response hon.length, h', hsame⟩
  rw [Phase.deliveries_append, hds, hhunt, List.length_append]
  rfl

end Orazio.Proofs
