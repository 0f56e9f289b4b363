import Orazio.Lib.Bytes
import Orazio.Model.PacketHandler

/-!
# The frame decoder

What the receive side of the packet handler is for, without its registers and its buffer: a
`Phase` carries the bytes of the frame received so far, and `Phase.next` decodes one more byte.
`rxByte_of_worldStep` and `rxByte_refines` show that the handler follows the decoder.
-/

namespace Orazio.Proofs

variable {ρ σ : Type}

/-- How far the receiver is within a frame. In `body` and `complete` the bytes from the type
byte on have been received into the buffer `packet`. -/
inductive Phase (ρ : Type)
  | hunt
  | sawAA
  | sawSync
  | sawType (op : ρ)
  | body (op : ρ) (packet : Addr) (got : List UInt8)
  | complete (op : ρ) (packet : Addr) (got : List UInt8)

namespace Phase

/-- The bytes of the current frame received so far. -/
def received (ops : ρ → PacketOperations σ) : Phase ρ → List UInt8
  | hunt => []
  | sawAA => [0xAA]
  | sawSync => [0xAA, 0x55]
  | sawType op => [0xAA, 0x55, (ops op).type]
  | body _ _ got => 0xAA :: 0x55 :: got
  | complete _ _ got => 0xAA :: 0x55 :: got

/-- One byte of input; `buffer` is what `initialize_buffer_fn` answers if it is asked. -/
def next (ops : ρ → PacketOperations σ) (operations : Fin PACKET_TYPE_MAX → Option ρ)
    (buffer : Option Addr) : Phase ρ → UInt8 → PacketStatus × Phase ρ
  | hunt, c => if c = 0xAA then (.syncAA, sawAA) else (.unsync, hunt)
  | sawAA, c => if c = 0x55 then (.sync55, sawSync) else (.unsync, hunt)
  | sawSync, c =>
    if hc : c.toNat < PACKET_TYPE_MAX then
      match operations ⟨c.toNat, hc⟩ with
      | none => (.unknownType, hunt)
      | some op => (.syncType, sawType op)
    else (.unsync, hunt)
  | sawType op, c =>
    if (ops op).size ≠ c then (.invalidSize, hunt)
    else
      match buffer with
      | none => (.rxBufferError, hunt)
      | some packet => (.syncSize, body op packet [(ops op).type, c])
  | body op packet got, c =>
    if got.length + 1 = (ops op).size.toNat then
      (.syncPayloadComplete, complete op packet (got ++ [c]))
    else (.syncPayload, body op packet (got ++ [c]))
  | complete _ _ got, c => if c = Bytes.xorSum got then (.syncChecksum, hunt) else (.checksumError, hunt)

/-- The call of `on_receive_fn` made for a byte. -/
def delivery (ops : ρ → PacketOperations σ) (w : World σ) : Phase ρ → UInt8 →
    Option (PacketHandler.Received ρ)
  | complete op packet got, c =>
    if c = Bytes.xorSum got then (ops op).onReceiveFn.map fun _ => ⟨op, packet, w.mem⟩ else none
  | _, _ => none

end Phase

/-- The operation has type `t` and a fixed size from 3 to 254. -/
structure FixedOp (ops : ρ → PacketOperations σ) (t : Fin PACKET_TYPE_MAX) (op : ρ) : Prop where
  type : (ops op).type.toNat = t
  three_le : 3 ≤ (ops op).size.toNat
  le_max : (ops op).size.toNat ≤ 254

def FixedOps (ops : ρ → PacketOperations σ) (operations : Fin PACKET_TYPE_MAX → Option ρ) : Prop :=
  ∀ t op, operations t = some op → FixedOp ops t op

/-- The registers and the buffer of a handler that has received the packet bytes `got`. -/
structure Holding (ops : ρ → PacketOperations σ) (h : PacketHandler ρ) (w : World σ) (op : ρ)
    (packet : Addr) (got : List UInt8) : Prop where
  installed : ∃ t, h.operations t = some op ∧ FixedOp ops t op
  currentOp : h.rxCurrentOp = some op
  currentPacket : h.rxCurrentPacket = some packet
  checksum : h.rxChecksum = Bytes.xorSum got
  stored : Bytes.read w.mem packet got.length = got
  header : ∃ payload, got = (ops op).type :: (ops op).size :: payload

/-- The handler is in the given phase. -/
def Rep (ops : ρ → PacketOperations σ) (h : PacketHandler ρ) (w : World σ) : Phase ρ → Prop
  | .hunt => h.rxFn = .rxAA
  | .sawAA => h.rxFn = .rx55
  | .sawSync => h.rxFn = .rxType ∧ h.rxChecksum = 0
  | .sawType op => h.rxFn = .rxSize ∧ h.rxCurrentOp = some op ∧ h.rxChecksum = (ops op).type ∧
      ∃ t, h.operations t = some op ∧ FixedOp ops t op
  | .body op packet got => h.rxFn = .rxPayload ∧ Holding ops h w op packet got ∧
      h.rxBufferEnd = some (packet + got.length) ∧ got.length < (ops op).size.toNat ∧
      h.rxBytesToRead.toNat + got.length = (ops op).size.toNat
  | .complete op packet got => h.rxFn = .rxChecksum ∧ Holding ops h w op packet got ∧
      got.length = (ops op).size.toNat

/-- The world after a byte: callbacks are asked for a buffer and told about a complete packet,
the bytes in between go to the buffer. -/
def WorldStep (ops : ρ → PacketOperations σ) (w : World σ) (buffer : Option Addr) :
    Phase ρ → UInt8 → World σ → Prop
  | .sawType op, c, w' =>
    if (ops op).size ≠ c then w' = w
    else ∃ w₁, (ops op).initializeBufferFn (ops op).type (ops op).size w = .ok (buffer, w₁) ∧
      w' = match buffer with
        | none => w₁
        | some packet => (w₁.store packet (ops op).type).store (packet + 1) (ops op).size
  | .body _ packet got, c, w' => w' = w.store (packet + got.length) c
  | .complete op packet got, c, w' =>
    if c = Bytes.xorSum got then
      match (ops op).onReceiveFn with
      | none => w' = w
      | some onReceive => onReceive packet w = .ok w'
    else w' = w
  | _, _, w' => w' = w

/-- What a byte does to a handler in phase `ph`. -/
structure RxSpec (ops : ρ → PacketOperations σ) (h : PacketHandler ρ) (w : World σ) (ph : Phase ρ)
    (c : UInt8) (buffer : Option Addr) (r : PacketHandler.RxResult ρ σ) : Prop where
  status : r.status = (ph.next ops h.operations buffer c).1
  rep : Rep ops r.handler r.world (ph.next ops h.operations buffer c).2
  operations : r.handler.operations = h.operations
  tx : r.handler.toTxFields = h.toTxFields
  received : r.received = ph.delivery ops w c

variable {ops : ρ → PacketOperations σ} {h : PacketHandler ρ} {w w' : World σ} {c : UInt8}
  {buffer : Option Addr}

lemma bytesToRead_toNat {s : UInt8} (hs : 3 ≤ s.toNat) :
    (s - sizeofPacketHeader + sizeofPacketSeq).toNat + 2 = s.toNat := by
  have := s.toNat_lt
  simp only [sizeofPacketHeader, sizeofPacketSeq, UInt8.toNat_add, UInt8.toNat_sub, UInt8.reduceToNat]
  omega

lemma countdown_toNat {b : UInt8} (hb : 0 < b.toNat) : (b - 1).toNat = b.toNat - 1 := by
  have := b.toNat_lt
  simp only [UInt8.toNat_sub, UInt8.reduceToNat]
  omega

lemma countdown_eq_zero {b : UInt8} (hb : 0 < b.toNat) : b - 1 = 0 ↔ b.toNat = 1 := by
  rw [← UInt8.toNat_inj, countdown_toNat hb]
  simp only [UInt8.reduceToNat]
  omega

lemma rxByte_hunt (hrep : Rep ops h w .hunt) :
    ∃ r, h.rxByte ops w c = .ok r ∧ r.world = w ∧ RxSpec ops h w .hunt c buffer r := by
  have hfn : h.rxFn = .rxAA := hrep
  refine ⟨⟨(h.rxAA c).1, (h.rxAA c).2, w, none⟩, ?_, rfl, ?_⟩
  · simp [PacketHandler.rxByte, hfn]
  · unfold PacketHandler.rxAA
    by_cases hc : c = 0xAA
    · rw [if_pos hc]
      exact ⟨by simp [Phase.next, hc], by simp [Phase.next, hc, Rep], rfl, rfl, rfl⟩
    · rw [if_neg hc]
      exact ⟨by simp [Phase.next, hc], by simp [Phase.next, hc, Rep, hfn], rfl, rfl, rfl⟩

lemma rxByte_sawAA (hrep : Rep ops h w .sawAA) :
    ∃ r, h.rxByte ops w c = .ok r ∧ r.world = w ∧ RxSpec ops h w .sawAA c buffer r := by
  have hfn : h.rxFn = .rx55 := hrep
  refine ⟨⟨(h.rx55 c).1, (h.rx55 c).2, w, none⟩, ?_, rfl, ?_⟩
  · simp [PacketHandler.rxByte, hfn]
  · unfold PacketHandler.rx55
    by_cases hc : c = 0x55
    · rw [if_pos hc]
      exact ⟨by simp [Phase.next, hc], by simp [Phase.next, hc, Rep], rfl, rfl, rfl⟩
    · rw [if_neg hc]
      exact ⟨by simp [Phase.next, hc], by simp [Phase.next, hc, Rep], rfl, rfl, rfl⟩

lemma rxByte_sawSync
    (hfix : ∀ t op, h.operations t = some op → (t : Nat) = c.toNat → FixedOp ops t op)
    (hrep : Rep ops h w .sawSync) :
    ∃ r, h.rxByte ops w c = .ok r ∧ r.world = w ∧ RxSpec ops h w .sawSync c buffer r := by
  obtain ⟨hfn, hsum⟩ := hrep
  refine ⟨⟨(h.rxType c).1, (h.rxType c).2, w, none⟩, ?_, rfl, ?_⟩
  · simp [PacketHandler.rxByte, hfn]
  · unfold PacketHandler.rxType
    by_cases hc : c.toNat < PACKET_TYPE_MAX
    · cases hop : h.operations ⟨c.toNat, hc⟩ with
      | none => constructor <;> simp [Phase.next, Phase.delivery, hc, hop, Rep]
      | some op =>
        have hfixed := hfix _ _ hop rfl
        have htype : (ops op).type = c := UInt8.toNat_inj.mp hfixed.type
        constructor <;> simp [Phase.next, Phase.delivery, hc, hop, Rep, hsum, htype]
        exact ⟨_, hop, hfixed⟩
    · constructor <;> simp [Phase.next, Phase.delivery, hc, Rep]

lemma rxByte_sawType {op : ρ} (hrep : Rep ops h w (.sawType op))
    (hw : WorldStep ops w buffer (.sawType op) c w') :
    ∃ r, h.rxByte ops w c = .ok r ∧ r.world = w' ∧ RxSpec ops h w (.sawType op) c buffer r := by
  obtain ⟨hfn, hop, hsum, t, ht, hfixed⟩ := hrep
  have hmin := hfixed.three_le
  have hmax := hfixed.le_max
  have hany : (ops op).size ≠ PACKET_SIZE_ANY := by
    intro h
    rw [h] at hmax
    simp [PACKET_SIZE_ANY] at hmax
  rw [WorldStep] at hw
  by_cases hsize : (ops op).size = c
  · subst hsize
    rw [if_neg (by simp)] at hw
    obtain ⟨w₁, hinit, rfl⟩ := hw
    have hnot : ¬((ops op).size ≠ PACKET_SIZE_ANY ∧ (ops op).size ≠ (ops op).size) := by simp
    simp only [PacketHandler.rxByte, hfn, PacketHandler.rxSize, hop, if_neg hnot, hinit]
    cases buffer with
    | none =>
      refine ⟨_, rfl, rfl, ?_⟩
      constructor <;> simp [Phase.next, Phase.delivery, Rep]
    | some packet =>
      refine ⟨_, rfl, rfl, ?_⟩
      have hlen := bytesToRead_toNat hmin
      constructor
      · simp [Phase.next]
      · simp only [Phase.next, ne_eq, not_true_eq_false, if_false, Rep, List.length_cons,
          List.length_nil, true_and]
        refine ⟨⟨⟨t, ht, hfixed⟩, rfl, rfl, ?_, ?_, ⟨[], rfl⟩⟩, by omega, by omega⟩
        · simp [hsum, Bytes.xorSum]
        · simp [Bytes.read, World.store, Function.update, List.range_succ]
      · rfl
      · rfl
      · rfl
  · rw [if_pos hsize] at hw
    subst hw
    simp only [PacketHandler.rxByte, hfn, PacketHandler.rxSize, hop, ne_eq, hany, hsize,
      not_false_eq_true, and_self, if_true]
    refine ⟨_, rfl, rfl, ?_⟩
    constructor <;> simp [Phase.next, Phase.delivery, hsize, Rep]

lemma rxByte_body {op : ρ} {packet : Addr} {got : List UInt8}
    (hrep : Rep ops h w (.body op packet got)) :
    ∃ r, h.rxByte ops w c = .ok r ∧ r.world = w.store (packet + got.length) c ∧
      RxSpec ops h w (.body op packet got) c buffer r := by
  obtain ⟨hfn, hold, hend, hlt, hleft⟩ := hrep
  obtain ⟨payload, hgot⟩ := hold.header
  have hpos : 0 < h.rxBytesToRead.toNat := by omega
  have hsum : h.rxChecksum ^^^ c = Bytes.xorSum (got ++ [c]) := by
    rw [Bytes.xorSum_concat, hold.checksum]
  have hmem : Bytes.read (Function.update w.mem (packet + got.length) c) packet (got ++ [c]).length =
      got ++ [c] := by
    rw [List.length_append, List.length_singleton, Bytes.read_update_end, hold.stored]
  have hhead : ∃ payload, got ++ [c] = (ops op).type :: (ops op).size :: payload :=
    ⟨payload ++ [c], by simp [hgot]⟩
  simp only [PacketHandler.rxByte, hfn, PacketHandler.rxPayload, hend]
  by_cases hlast : h.rxBytesToRead.toNat = 1
  · have hfull : got.length + 1 = (ops op).size.toNat := by omega
    rw [if_pos ((countdown_eq_zero hpos).mpr hlast)]
    refine ⟨_, rfl, rfl, ?_⟩
    constructor
    · simp [Phase.next, hfull]
    · simp only [Phase.next, hfull, if_true, Rep, true_and]
      refine ⟨⟨hold.installed, hold.currentOp, hold.currentPacket, hsum, hmem, hhead⟩, ?_⟩
      simpa using hfull
    · rfl
    · rfl
    · rfl
  · have hmore : ¬got.length + 1 = (ops op).size.toNat := by omega
    rw [if_neg (fun hz => hlast ((countdown_eq_zero hpos).mp hz))]
    refine ⟨_, rfl, rfl, ?_⟩
    constructor
    · simp [Phase.next, hmore]
    · simp only [Phase.next, hmore, if_false, Rep, List.length_append, List.length_singleton]
      refine ⟨trivial, ⟨hold.installed, hold.currentOp, hold.currentPacket, hsum, hmem, hhead⟩,
        ?_, ?_, ?_⟩
      · rw [Nat.add_assoc]
      · omega
      · rw [countdown_toNat hpos]
        omega
    · rfl
    · rfl
    · rfl

lemma rxByte_complete {op : ρ} {packet : Addr} {got : List UInt8}
    (hrep : Rep ops h w (.complete op packet got))
    (hw : WorldStep ops w buffer (.complete op packet got) c w') :
    ∃ r, h.rxByte ops w c = .ok r ∧ r.world = w' ∧
      RxSpec ops h w (.complete op packet got) c buffer r := by
  obtain ⟨hfn, hold, -⟩ := hrep
  rw [WorldStep] at hw
  simp only [PacketHandler.rxByte, hfn, PacketHandler.rxChecksumByte, hold.checksum, hold.currentOp,
    hold.currentPacket]
  by_cases hc : c = Bytes.xorSum got
  · rw [if_pos hc] at hw ⊢
    cases hrecv : (ops op).onReceiveFn with
    | none =>
      rw [hrecv] at hw
      refine ⟨_, rfl, hw.symm, ?_⟩
      constructor <;> simp [Phase.next, Phase.delivery, hc, hrecv, Rep]
    | some onReceive =>
      simp only [hrecv] at hw
      simp only [hw]
      refine ⟨_, rfl, rfl, ?_⟩
      constructor <;> simp [Phase.next, Phase.delivery, hc, hrecv, Rep]
  · rw [if_neg hc] at hw ⊢
    refine ⟨_, rfl, hw.symm, ?_⟩
    constructor <;> simp [Phase.next, Phase.delivery, hc, Rep]

/-- The handler follows the decoder whenever the callbacks it calls return. -/
theorem rxByte_of_worldStep {ph : Phase ρ}
    (hfix : ph = .sawSync → ∀ t op, h.operations t = some op → (t : Nat) = c.toNat → FixedOp ops t op)
    (hrep : Rep ops h w ph) (hw : WorldStep ops w buffer ph c w') :
    ∃ r, h.rxByte ops w c = .ok r ∧ r.world = w' ∧ RxSpec ops h w ph c buffer r := by
  cases ph with
  | hunt => subst hw; exact rxByte_hunt hrep
  | sawAA => subst hw; exact rxByte_sawAA hrep
  | sawSync => subst hw; exact rxByte_sawSync (hfix rfl) hrep
  | sawType op => exact rxByte_sawType hrep hw
  | body op packet got => subst hw; exact rxByte_body hrep
  | complete op packet got => exact rxByte_complete hrep hw

/-- A byte that has been received moved the world as some answer of the callbacks allows. -/
lemma worldStep_of_rxByte {ph : Phase ρ} (hrep : Rep ops h w ph)
    {r : PacketHandler.RxResult ρ σ} (hrx : h.rxByte ops w c = .ok r) :
    ∃ buffer w', WorldStep ops w buffer ph c w' := by
  cases ph with
  | hunt => exact ⟨none, w, rfl⟩
  | sawAA => exact ⟨none, w, rfl⟩
  | sawSync => exact ⟨none, w, rfl⟩
  | body op packet got => exact ⟨none, _, rfl⟩
  | sawType op =>
    obtain ⟨hfn, hop, -, t, ht⟩ := hrep
    by_cases hsize : (ops op).size = c
    · subst hsize
      have hnot : ¬((ops op).size ≠ PACKET_SIZE_ANY ∧ (ops op).size ≠ (ops op).size) := by simp
      simp only [PacketHandler.rxByte, hfn, PacketHandler.rxSize, hop, if_neg hnot] at hrx
      cases hinit : (ops op).initializeBufferFn (ops op).type (ops op).size w with
      | error e => simp [hinit] at hrx
      | ok answer => exact ⟨answer.1, _, by rw [WorldStep, if_neg (by simp)]; exact ⟨_, hinit, rfl⟩⟩
    · exact ⟨none, w, by rw [WorldStep, if_pos hsize]⟩
  | complete op packet got =>
    obtain ⟨hfn, hold, -⟩ := hrep
    by_cases hc : c = Bytes.xorSum got
    · simp only [PacketHandler.rxByte, hfn, PacketHandler.rxChecksumByte, hold.checksum,
        hold.currentOp, hold.currentPacket, if_pos hc] at hrx
      cases hrecv : (ops op).onReceiveFn with
      | none => exact ⟨none, w, by simp [WorldStep, hc, hrecv]⟩
      | some onReceive =>
        cases hcall : onReceive packet w with
        | error e => simp [hrecv, hcall] at hrx
        | ok w' => exact ⟨none, w', by simp [WorldStep, hc, hrecv, hcall]⟩
    · exact ⟨none, w, by rw [WorldStep, if_neg hc]⟩

theorem rxByte_refines (hfix : FixedOps ops h.operations) {ph : Phase ρ} (hrep : Rep ops h w ph)
    {r : PacketHandler.RxResult ρ σ} (hrx : h.rxByte ops w c = .ok r) :
    ∃ buffer, WorldStep ops w buffer ph c r.world ∧ RxSpec ops h w ph c buffer r := by
  obtain ⟨buffer, w', hw⟩ := worldStep_of_rxByte hrep hrx
  obtain ⟨r', hrx', hworld, hspec⟩ := rxByte_of_worldStep (fun _ t op ht _ => hfix t op ht) hrep hw
  rw [hrx] at hrx'
  cases hrx'
  exact ⟨buffer, hworld ▸ hw, hspec⟩

/-- The phase does not depend on the transmit fields nor on what lies outside the memory. -/
lemma Rep.congr {ρ σ : Type} {ops : ρ → PacketOperations σ} {h : PacketHandler ρ} {w : World σ}
    {ph : Phase ρ} (hrep : Rep ops h w ph) (tx : TxFields) (env : σ) :
    Rep ops { h with toTxFields := tx } ⟨w.mem, env⟩ ph := by
  have hold : ∀ op packet got, Holding ops h w op packet got →
      Holding ops { h with toTxFields := tx } ⟨w.mem, env⟩ op packet got :=
    fun op packet got h => ⟨h.installed, h.currentOp, h.currentPacket, h.checksum, h.stored, h.header⟩
  cases ph with
  | body op packet got => exact ⟨hrep.1, hold op packet got hrep.2.1, hrep.2.2⟩
  | complete op packet got => exact ⟨hrep.1, hold op packet got hrep.2.1, hrep.2.2⟩
  | _ => exact hrep

end Orazio.Proofs
