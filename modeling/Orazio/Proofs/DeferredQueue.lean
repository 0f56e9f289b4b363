import Orazio.Lib.RingBuffer
import Orazio.Model.DeferredPacketHandler
import Orazio.Proofs.Delivery

/-!
# The queue of the deferred packet handler

The pending packets form one queue, and the ring of each type holds the packets of that type in
the same order. A frame under reception is written to the cell behind the ring of its type, which
no pending packet occupies.
-/

namespace Orazio.Proofs

open RingBuffer

variable {α τ : Type}

/-! ### Installed types and their buffers -/

/-- The arguments of `DeferredPacketHandler_installPacket`. -/
structure Install (α : Type) where
  type : UInt8
  size : UInt8
  buffer : Nat
  numBuffers : Int
  action : Option α

/-- The pointers to the buffers of a type. -/
def Install.cells (i : Install α) (k : Int) : Option Addr :=
  if 0 ≤ k ∧ k < i.numBuffers then some (i.buffer + k.toNat * i.size.toNat) else none

/-- The end of the memory of the buffers of a type. -/
def Install.bufferEnd (i : Install α) : Nat :=
  i.buffer + i.numBuffers.toNat * i.size.toNat

/-- Fixed sizes, one or two buffers for each type, and no overlap. -/
structure ValidInstalls (cfg : Fin PACKET_TYPE_MAX → Option (Install α)) : Prop where
  size : ∀ t i, cfg t = some i → 4 ≤ i.size.toNat ∧ i.size.toNat ≤ 254
  buffers : ∀ t i, cfg t = some i → 1 ≤ i.numBuffers ∧ i.numBuffers ≤ PACKETS_PER_TYPE_MAX
  disjoint : ∀ t t' i i', t ≠ t' → cfg t = some i → cfg t' = some i' →
    i.bufferEnd ≤ i'.buffer ∨ i'.bufferEnd ≤ i.buffer

lemma cells_eq_some {i : Install α} {k : Int} {a : Nat} (h : i.cells k = some a) :
    0 ≤ k ∧ k < i.numBuffers ∧ a = i.buffer + k.toNat * i.size.toNat := by
  unfold Install.cells at h
  by_cases hk : 0 ≤ k ∧ k < i.numBuffers
  · rw [if_pos hk] at h
    exact ⟨hk.1, hk.2, (Option.some.inj h).symm⟩
  · rw [if_neg hk] at h
    cases h

lemma cells_within {i : Install α} {k : Int} {a : Nat} (h : i.cells k = some a) :
    i.buffer ≤ a ∧ a + i.size.toNat ≤ i.bufferEnd := by
  obtain ⟨h₀, hlt, rfl⟩ := cells_eq_some h
  have hle : (k.toNat + 1) * i.size.toNat ≤ i.numBuffers.toNat * i.size.toNat :=
    Nat.mul_le_mul_right _ (by omega)
  rw [Nat.succ_mul] at hle
  unfold Install.bufferEnd
  omega

/-- Distinct buffers of one type do not overlap. -/
lemma cells_apart {i : Install α} {k k' : Int} {a a' : Nat} (h : i.cells k = some a)
    (h' : i.cells k' = some a') (hne : k ≠ k') :
    a + i.size.toNat ≤ a' ∨ a' + i.size.toNat ≤ a := by
  obtain ⟨h₀, -, rfl⟩ := cells_eq_some h
  obtain ⟨h₀', -, rfl⟩ := cells_eq_some h'
  by_cases hlt : k < k'
  · have hle : (k.toNat + 1) * i.size.toNat ≤ k'.toNat * i.size.toNat :=
      Nat.mul_le_mul_right _ (by omega)
    rw [Nat.succ_mul] at hle
    omega
  · have hle : (k'.toNat + 1) * i.size.toNat ≤ k.toNat * i.size.toNat :=
      Nat.mul_le_mul_right _ (by omega)
    rw [Nat.succ_mul] at hle
    omega

/-! ### The queue -/

/-- A pending packet: its type, its buffer and its bytes. -/
structure Pending where
  type : Fin PACKET_TYPE_MAX
  packet : Nat
  bytes : List UInt8

/-- The entry of an installed type whose pending packets are `ps`. -/
structure InfoRep (t : Fin PACKET_TYPE_MAX) (i : Install α) (info : DeferredPacketOps α)
    (ps : List Pending) : Prop where
  type : info.type.toNat = t
  size : info.size = i.size
  callbacks : info.callbacks = true
  buffers : info.packetBuffers = i.cells
  max : info.packetBuffersMax = i.numBuffers
  action : info.deferredAction = i.action
  holds : Holds i.numBuffers i.cells info.packetBuffersStart info.packetBuffersEnd
    info.packetBuffersSize (ps.map fun p => some p.packet)

/-- The buffer of the pending packet contains its bytes, which start with its type and size. -/
def Stored (cfg : Fin PACKET_TYPE_MAX → Option (Install α)) (mem : Addr → UInt8) (p : Pending) :
    Prop :=
  ∃ i payload, cfg p.type = some i ∧ p.bytes = UInt8.ofNat p.type :: i.size :: payload ∧
    p.bytes.length = i.size.toNat ∧ Bytes.read mem p.packet p.bytes.length = p.bytes

def ofType (t : Fin PACKET_TYPE_MAX) (ps : List Pending) : List Pending :=
  ps.filter fun p => p.type = t

/-- The packets `ps` are pending from index `pnum` on. -/
structure Queued (cfg : Fin PACKET_TYPE_MAX → Option (Install α)) (d : DeferredFields α)
    (mem : Addr → UInt8) (pnum : Int) (ps : List Pending) : Prop where
  info : ∀ t i, cfg t = some i → InfoRep t i (d.packetInfos t) (ofType t ps)
  pending : ∀ (k : Nat) (hk : k < ps.length), d.pendingPackets (pnum + k) = ps[k].packet
  stored : ∀ p ∈ ps, Stored cfg mem p

/-- The buffer behind the ring of the type `op` is free, and it is `packet`. -/
def Claims (cfg : Fin PACKET_TYPE_MAX → Option (Install α)) (d : DeferredFields α)
    (op : Fin PACKET_TYPE_MAX) (packet : Addr) : Prop :=
  ∃ i, cfg op = some i ∧ (d.packetInfos op).packetBuffersSize < i.numBuffers ∧
    i.cells (d.packetInfos op).packetBuffersEnd = some packet

/-- The buffer that a frame under reception is written to. -/
def Phase.buffer {ρ : Type} : Phase ρ → Option (ρ × Addr)
  | .body op packet _ => some (op, packet)
  | .complete op packet _ => some (op, packet)
  | _ => none

/-- The handler receives in phase `ph` and has the packets `ps` pending. -/
structure DeferredRep (cfg : Fin PACKET_TYPE_MAX → Option (Install α)) (s : DeferredState α τ)
    (ph : Phase (Fin PACKET_TYPE_MAX)) (ps : List Pending) : Prop where
  operations : ∀ t, s.handler.baseHandler.operations t = (cfg t).map fun _ => t
  queued : Queued cfg s.handler.toDeferredFields s.mem 0 ps
  size : s.handler.pendingPacketsSize = ps.length
  max : ps.length ≤ 8
  rep : Rep (DeferredFields.operations s.handler.packetInfos) s.handler.baseHandler
    ⟨s.mem, s.handler.toDeferredFields⟩ ph
  slot : ∀ op packet, ph.buffer = some (op, packet) →
    Claims cfg s.handler.toDeferredFields op packet

variable {cfg : Fin PACKET_TYPE_MAX → Option (Install α)} {d : DeferredFields α}
  {mem : Addr → UInt8} {pnum : Int} {ps : List Pending}

lemma ofType_cons_self (p : Pending) (ps : List Pending) :
    ofType p.type (p :: ps) = p :: ofType p.type ps := by
  simp [ofType]

lemma ofType_cons_of_ne {t : Fin PACKET_TYPE_MAX} {p : Pending} (h : p.type ≠ t)
    (ps : List Pending) : ofType t (p :: ps) = ofType t ps := by
  simp [ofType, h]

lemma ofType_concat_self (p : Pending) (ps : List Pending) :
    ofType p.type (ps ++ [p]) = ofType p.type ps ++ [p] := by
  simp [ofType]

lemma ofType_concat_of_ne {t : Fin PACKET_TYPE_MAX} {p : Pending} (h : p.type ≠ t)
    (ps : List Pending) : ofType t (ps ++ [p]) = ofType t ps := by
  simp [ofType, h]

/-- A pending packet lies in a cell of its type, which is not the one behind the ring. -/
lemma InfoRep.cell {t : Fin PACKET_TYPE_MAX} {i : Install α} {info : DeferredPacketOps α}
    (h : InfoRep t i info ps) {p : Pending} (hp : p ∈ ps) :
    ∃ k, i.cells k = some p.packet ∧
      (info.packetBuffersSize < i.numBuffers → k ≠ info.packetBuffersEnd) := by
  obtain ⟨k, hk, rfl⟩ := List.getElem_of_mem hp
  have hlen : k < (ps.map fun p => some p.packet).length := by simpa using hk
  refine ⟨slot i.numBuffers info.packetBuffersStart k, ?_, ?_⟩
  · rw [h.holds.cell k hlen, List.getElem_map]
  · intro hroom
    exact h.holds.cell_ne_stop (by rw [← h.holds.size_eq]; exact hroom) hlen

/-- The free buffer of a type does not overlap any pending packet. -/
lemma Claims.apart (hvalid : ValidInstalls cfg) (hq : Queued cfg d mem pnum ps)
    {op : Fin PACKET_TYPE_MAX} {packet : Nat} (hc : Claims cfg d op packet) {i : Install α}
    (hi : cfg op = some i) {p : Pending} (hp : p ∈ ps) :
    packet + i.size.toNat ≤ p.packet ∨ p.packet + p.bytes.length ≤ packet := by
  obtain ⟨i', hi', hroom, hcell⟩ := hc
  rw [hi] at hi'
  cases hi'
  obtain ⟨j, payload, hj, -, hlen, -⟩ := hq.stored p hp
  have hmem : p ∈ ofType p.type ps := by simpa [ofType] using hp
  obtain ⟨k, hk, hne⟩ := (hq.info p.type j hj).cell hmem
  rw [hlen]
  by_cases heq : p.type = op
  · rw [heq, hi] at hj
    cases hj
    rw [heq] at hne
    exact (cells_apart hk hcell (hne hroom)).symm
  · have h₁ := cells_within hk
    have h₂ := cells_within hcell
    rcases hvalid.disjoint p.type op j i heq hj hi with h | h <;> omega

/-- Writing to the free buffer of a type leaves the pending packets alone. -/
lemma Queued.store (hvalid : ValidInstalls cfg) (hq : Queued cfg d mem pnum ps)
    {op : Fin PACKET_TYPE_MAX} {packet : Nat} (hc : Claims cfg d op packet) {i : Install α}
    (hi : cfg op = some i) {k : Nat} (hk : k < i.size.toNat) (c : UInt8) :
    Queued cfg d (Function.update mem (packet + k) c) pnum ps := by
  refine ⟨hq.info, hq.pending, ?_⟩
  intro p hp
  obtain ⟨j, payload, hj, hbytes, hlen, hread⟩ := hq.stored p hp
  refine ⟨j, payload, hj, hbytes, hlen, ?_⟩
  have hapart := hc.apart hvalid hq hi hp
  rw [Bytes.read_update_outside mem c (by omega), hread]

/-- The packet in the free buffer of its type becomes pending. -/
lemma Queued.put (hq : Queued cfg d mem 0 ps) (hsize : d.pendingPacketsSize = ps.length)
    {p : Pending} (hc : Claims cfg d p.type p.packet) (hs : Stored cfg mem p) :
    Queued cfg (d.addPending p.type p.packet) mem 0 (ps ++ [p]) := by
  refine ⟨?_, ?_, ?_⟩
  · intro t i hi
    have hinfo := hq.info t i hi
    by_cases ht : p.type = t
    · subst ht
      obtain ⟨i', hi', hroom, hcell⟩ := hc
      rw [hi] at hi'
      cases hi'
      have hclaim := hinfo.holds.claim (by rw [← hinfo.holds.size_eq]; exact hroom)
      rw [ofType_concat_self, d.addPending_self]
      refine ⟨hinfo.type, hinfo.size, hinfo.callbacks, hinfo.buffers, hinfo.max, hinfo.action, ?_⟩
      rw [List.map_append, List.map_singleton, ← hcell]
      simp only [DeferredPacketOps.put, hinfo.max]
      exact hclaim
    · rw [ofType_concat_of_ne ht, d.addPending_of_ne (Ne.symm ht)]
      exact hinfo
  · intro k hk
    simp only [DeferredFields.addPending, hsize, Int.zero_add]
    by_cases hlast : k < ps.length
    · rw [Function.update_of_ne (by omega), List.getElem_append_left hlast]
      have := hq.pending k hlast
      rwa [Int.zero_add] at this
    · have heq : k = ps.length := by
        simp only [List.length_append, List.length_singleton] at hk
        omega
      subst heq
      simp
  · intro q hmem
    rcases List.mem_append.mp hmem with hmem | hmem
    · exact hq.stored q hmem
    · rw [List.mem_singleton.mp hmem]
      exact hs

/-- The first pending packet is taken from the ring of its type. -/
lemma Queued.get {p : Pending} (hq : Queued cfg d mem pnum (p :: ps)) :
    Queued cfg (d.setInfo p.type (d.packetInfos p.type).get) mem (pnum + 1) ps := by
  refine ⟨?_, ?_, fun q hmem => hq.stored q (List.mem_cons_of_mem p hmem)⟩
  · intro t i hi
    have hinfo := hq.info t i hi
    by_cases ht : p.type = t
    · subst ht
      rw [ofType_cons_self] at hinfo
      rw [d.setInfo_self]
      have hget := hinfo.holds.get rfl
      refine ⟨hinfo.type, hinfo.size, hinfo.callbacks, hinfo.buffers, hinfo.max, hinfo.action, ?_⟩
      simp only [DeferredPacketOps.get, hinfo.max]
      exact hget
    · rw [ofType_cons_of_ne ht] at hinfo
      rw [d.setInfo_of_ne (Ne.symm ht)]
      exact hinfo
  · intro k hk
    have hnext := hq.pending (k + 1) (by simpa using hk)
    have hcast : pnum + 1 + (k : Int) = pnum + ((k + 1 : Nat) : Int) := by omega
    change d.pendingPackets (pnum + 1 + k) = ps[k].packet
    rw [hcast]
    exact hnext

/-! ### Receiving -/

/-- The packet that becomes pending with a byte when `n` packets are pending. -/
def Phase.queuedBy (n : Nat) : Phase (Fin PACKET_TYPE_MAX) → UInt8 → List Pending
  | .complete op packet got, c => if c = Bytes.xorSum got ∧ n < 8 then [⟨op, packet, got⟩] else []
  | _, _ => []

/-- What a byte does to the fields and the memory of a handler with the packets `ps` pending. -/
structure QueueStep (cfg : Fin PACKET_TYPE_MAX → Option (Install α)) (d : DeferredFields α)
    (ps : List Pending) (ph : Phase (Fin PACKET_TYPE_MAX)) (w : World (DeferredFields α)) : Prop where
  queued : Queued cfg w.env w.mem 0 ps
  size : w.env.pendingPacketsSize = ps.length
  max : ps.length ≤ 8
  operations : DeferredFields.operations w.env.packetInfos = DeferredFields.operations d.packetInfos
  slot : ∀ op packet, ph.buffer = some (op, packet) → Claims cfg w.env op packet

lemma operations_update (infos : Fin PACKET_TYPE_MAX → DeferredPacketOps α)
    (t : Fin PACKET_TYPE_MAX) {info : DeferredPacketOps α} (htype : info.type = (infos t).type)
    (hsize : info.size = (infos t).size) (hcallbacks : info.callbacks = (infos t).callbacks) :
    DeferredFields.operations (Function.update infos t info) = DeferredFields.operations infos := by
  funext t'
  by_cases ht : t' = t
  · subst ht
    simp only [DeferredFields.operations, Function.update_self, htype, hsize, hcallbacks]
  · simp only [DeferredFields.operations, Function.update_of_ne ht]

lemma infoIndex_eq {type : UInt8} {t : Fin PACKET_TYPE_MAX} (h : type.toNat = t) :
    DeferredFields.infoIndex type = .ok t := by
  have hlt : type.toNat < PACKET_TYPE_MAX := by
    rw [h]
    exact t.isLt
  rw [DeferredFields.infoIndex, dif_pos hlt]
  congr 1
  exact Fin.ext h

/-- The pointers of an installed type are read within `packet_buffers`. -/
lemma InfoRep.packetBuffer {t : Fin PACKET_TYPE_MAX} {i : Install α} {info : DeferredPacketOps α}
    (h : InfoRep t i info ps) (hmax : i.numBuffers ≤ PACKETS_PER_TYPE_MAX) {k : Int} (h₀ : 0 ≤ k)
    (hk : k < i.numBuffers) :
    ∃ packet, info.packetBuffer k = .ok (some packet) ∧ i.cells k = some packet := by
  have hcells : i.cells k = some (i.buffer + k.toNat * i.size.toNat) := if_pos ⟨h₀, hk⟩
  refine ⟨_, ?_, hcells⟩
  rw [DeferredPacketOps.packetBuffer, if_pos ⟨h₀, by omega⟩, h.buffers, hcells]

section Callbacks

variable {w : World (DeferredFields α)} {t : Fin PACKET_TYPE_MAX} {i : Install α}

lemma initializeBuffer_full (h : InfoRep t i (w.env.packetInfos t) ps) {type : UInt8}
    (htype : type.toNat = t) (size : UInt8)
    (hfull : i.numBuffers ≤ (w.env.packetInfos t).packetBuffersSize) :
    DeferredFields.initializeBuffer type size w = .ok (none, w) := by
  have hmax := h.max
  simp only [DeferredFields.initializeBuffer, infoIndex_eq htype]
  rw [if_pos (by omega)]

lemma initializeBuffer_room (h : InfoRep t i (w.env.packetInfos t) ps)
    (hmax : i.numBuffers ≤ PACKETS_PER_TYPE_MAX) {type : UInt8} (htype : type.toNat = t)
    (size : UInt8) (hroom : (w.env.packetInfos t).packetBuffersSize < i.numBuffers) :
    ∃ packet, DeferredFields.initializeBuffer type size w = .ok (some packet, w) ∧
      i.cells (w.env.packetInfos t).packetBuffersEnd = some packet := by
  have hnum := h.max
  obtain ⟨packet, hbuffer, hcell⟩ := h.packetBuffer hmax h.holds.stop_nonneg h.holds.stop_lt
  refine ⟨packet, ?_, hcell⟩
  simp only [DeferredFields.initializeBuffer, infoIndex_eq htype]
  rw [if_neg (by omega), hbuffer]

/-- A complete packet in the free buffer of its type passes the assertion. -/
lemma onReceive_eq (h : InfoRep t i (w.env.packetInfos t) ps)
    (hmax : i.numBuffers ≤ PACKETS_PER_TYPE_MAX) {packet : Addr} (htype : (w.mem packet).toNat = t)
    (hcell : i.cells (w.env.packetInfos t).packetBuffersEnd = some packet) :
    DeferredFields.onReceive packet w =
      if w.env.pendingPacketsSize ≥ PENDING_PACKETS_MAX then .ok w
      else .ok { w with env := w.env.addPending t packet } := by
  obtain ⟨packet', hbuffer, hcell'⟩ := h.packetBuffer hmax h.holds.stop_nonneg h.holds.stop_lt
  rw [hcell] at hcell'
  cases hcell'
  simp only [DeferredFields.onReceive, infoIndex_eq htype, hbuffer]
  rw [if_neg (by simp)]

end Callbacks

namespace DeferredRep

variable {s : DeferredState α τ} {ph : Phase (Fin PACKET_TYPE_MAX)}

lemma installed (h : DeferredRep cfg s ph ps) {t op : Fin PACKET_TYPE_MAX}
    (hop : s.handler.baseHandler.operations t = some op) :
    op = t ∧ ∃ i, cfg t = some i ∧ InfoRep t i (s.handler.packetInfos t) (ofType t ps) := by
  rw [h.operations] at hop
  cases hi : cfg t with
  | none => simp [hi] at hop
  | some i =>
    rw [hi] at hop
    exact ⟨(Option.some.inj hop).symm, i, rfl, h.queued.info t i hi⟩

lemma fixedOps (hvalid : ValidInstalls cfg) (h : DeferredRep cfg s ph ps) :
    FixedOps (DeferredFields.operations s.handler.packetInfos) s.handler.baseHandler.operations := by
  intro t op hop
  obtain ⟨rfl, i, hi, hinfo⟩ := h.installed hop
  obtain ⟨hmin, hmax⟩ := hvalid.size op i hi
  have hsize : (DeferredFields.operations s.handler.packetInfos op).size = i.size := hinfo.size
  refine ⟨hinfo.type, ?_, ?_⟩ <;> rw [hsize] <;> omega

/-- A byte that calls nothing back and starts no frame body. -/
lemma queueStep_idle (h : DeferredRep cfg s ph ps) {ph' : Phase (Fin PACKET_TYPE_MAX)}
    (hnone : ph'.buffer = none) :
    QueueStep cfg s.handler.toDeferredFields ps ph' ⟨s.mem, s.handler.toDeferredFields⟩ := by
  refine ⟨h.queued, h.size, h.max, rfl, ?_⟩
  intro op packet hbuffer
  rw [hnone] at hbuffer
  cases hbuffer

/-- The size byte of a frame claims the buffer behind the ring of its type, if there is one. -/
lemma queueStep_sawType (hvalid : ValidInstalls cfg) {op : Fin PACKET_TYPE_MAX}
    (h : DeferredRep cfg s (.sawType op) ps) (c : UInt8) :
    ∃ buffer w', WorldStep (DeferredFields.operations s.handler.packetInfos)
        ⟨s.mem, s.handler.toDeferredFields⟩ buffer (.sawType op) c w' ∧
      QueueStep cfg s.handler.toDeferredFields ps ((Phase.sawType op).next
        (DeferredFields.operations s.handler.packetInfos) s.handler.baseHandler.operations buffer c).2
        w' := by
  obtain ⟨-, -, -, t, ht, -⟩ := h.rep
  obtain ⟨rfl, i, hi, hinfo⟩ := h.installed ht
  obtain ⟨hmin, -⟩ := hvalid.size op i hi
  by_cases hsize : (DeferredFields.operations s.handler.packetInfos op).size = c
  · subst hsize
    have hfn : (DeferredFields.operations s.handler.packetInfos op).initializeBufferFn =
        DeferredFields.initializeBuffer := if_pos hinfo.callbacks
    by_cases hfull : i.numBuffers ≤ (s.handler.packetInfos op).packetBuffersSize
    · refine ⟨none, ⟨s.mem, s.handler.toDeferredFields⟩, ?_, h.queueStep_idle ?_⟩
      · rw [WorldStep, if_neg (by simp), hfn]
        exact ⟨_, initializeBuffer_full (w := ⟨s.mem, s.handler.toDeferredFields⟩) hinfo hinfo.type _
          hfull, rfl⟩
      · simp [Phase.next, Phase.buffer]
    · have hroom : (s.handler.packetInfos op).packetBuffersSize < i.numBuffers := by omega
      obtain ⟨packet, hinit, hcell⟩ := initializeBuffer_room
        (w := ⟨s.mem, s.handler.toDeferredFields⟩) hinfo (hvalid.buffers op i hi).2 hinfo.type
        (DeferredFields.operations s.handler.packetInfos op).size hroom
      have hclaims : Claims cfg s.handler.toDeferredFields op packet := ⟨i, hi, hroom, hcell⟩
      refine ⟨some packet, ((World.mk s.mem s.handler.toDeferredFields).store packet
        (DeferredFields.operations s.handler.packetInfos op).type).store (packet + 1)
        (DeferredFields.operations s.handler.packetInfos op).size, ?_, ?_, h.size, h.max, rfl, ?_⟩
      · rw [WorldStep, if_neg (by simp), hfn]
        exact ⟨_, hinit, rfl⟩
      · have h₁ := h.queued.store hvalid hclaims hi (k := 0) (by omega)
          (DeferredFields.operations s.handler.packetInfos op).type
        exact h₁.store hvalid hclaims hi (k := 1) (by omega)
          (DeferredFields.operations s.handler.packetInfos op).size
      · intro op' packet' hbuffer
        simp only [Phase.next, ne_eq, not_true_eq_false, if_false, Phase.buffer, Option.some.injEq,
          Prod.mk.injEq] at hbuffer
        obtain ⟨rfl, rfl⟩ := hbuffer
        exact hclaims
  · refine ⟨none, ⟨s.mem, s.handler.toDeferredFields⟩, ?_, h.queueStep_idle ?_⟩
    · rw [WorldStep, if_pos hsize]
    · simp [Phase.next, Phase.buffer, hsize]

lemma queueStep_body (hvalid : ValidInstalls cfg) {op : Fin PACKET_TYPE_MAX} {packet : Addr}
    {got : List UInt8} (h : DeferredRep cfg s (.body op packet got) ps) (c : UInt8) :
    ∃ buffer w', WorldStep (DeferredFields.operations s.handler.packetInfos)
        ⟨s.mem, s.handler.toDeferredFields⟩ buffer (.body op packet got) c w' ∧
      QueueStep cfg s.handler.toDeferredFields ps ((Phase.body op packet got).next
        (DeferredFields.operations s.handler.packetInfos) s.handler.baseHandler.operations buffer c).2
        w' := by
  obtain ⟨-, hold, -, hlt, -⟩ := h.rep
  obtain ⟨t, ht, -⟩ := hold.installed
  obtain ⟨rfl, i, hi, hinfo⟩ := h.installed ht
  have hclaims := h.slot op packet rfl
  have hsize : (DeferredFields.operations s.handler.packetInfos op).size = i.size := hinfo.size
  rw [hsize] at hlt
  refine ⟨none, _, rfl, h.queued.store hvalid hclaims hi hlt c, h.size, h.max, rfl, ?_⟩
  intro op' packet' hbuffer
  have hsame : some (op', packet') = some (op, packet) := by
    rw [← hbuffer]
    simp only [Phase.next]
    split <;> rfl
  cases hsame
  exact hclaims

/-- The first byte of a complete packet is its type. -/
lemma type_complete {op : Fin PACKET_TYPE_MAX} {packet : Addr} {got : List UInt8}
    (h : DeferredRep cfg s (.complete op packet got) ps) {i : Install α}
    (hinfo : InfoRep op i (s.handler.packetInfos op) (ofType op ps)) : (s.mem packet).toNat = op := by
  obtain ⟨-, hold, -⟩ := h.rep
  obtain ⟨payload, hgot⟩ := hold.header
  have hstored := hold.stored
  rw [hgot] at hstored
  have hhead : s.mem packet = (DeferredFields.operations s.handler.packetInfos op).type :=
    Bytes.head_of_read_eq_cons hstored
  rw [hhead]
  exact hinfo.type

lemma stored_complete {op : Fin PACKET_TYPE_MAX} {packet : Addr} {got : List UInt8}
    (h : DeferredRep cfg s (.complete op packet got) ps) {i : Install α} (hi : cfg op = some i)
    (hinfo : InfoRep op i (s.handler.packetInfos op) (ofType op ps)) :
    Stored cfg s.mem ⟨op, packet, got⟩ := by
  obtain ⟨-, hold, hlen⟩ := h.rep
  obtain ⟨payload, hgot⟩ := hold.header
  have hofNat : (DeferredFields.operations s.handler.packetInfos op).type = UInt8.ofNat op := by
    rw [← hinfo.type, UInt8.ofNat_toNat]
    rfl
  refine ⟨i, payload, hi, ?_, ?_, hold.stored⟩
  · rw [← hofNat, ← hinfo.size]
    exact hgot
  · rw [← hinfo.size]
    exact hlen

/-- The checksum byte makes the packet pending unless the queue is full. -/
lemma queueStep_complete (hvalid : ValidInstalls cfg) {op : Fin PACKET_TYPE_MAX} {packet : Addr}
    {got : List UInt8} (h : DeferredRep cfg s (.complete op packet got) ps) (c : UInt8) :
    ∃ buffer w', WorldStep (DeferredFields.operations s.handler.packetInfos)
        ⟨s.mem, s.handler.toDeferredFields⟩ buffer (.complete op packet got) c w' ∧
      QueueStep cfg s.handler.toDeferredFields
        (ps ++ (Phase.complete op packet got).queuedBy ps.length c) ((Phase.complete op packet got).next
          (DeferredFields.operations s.handler.packetInfos) s.handler.baseHandler.operations buffer
          c).2 w' := by
  obtain ⟨-, hold, -⟩ := h.rep
  obtain ⟨t, ht, -⟩ := hold.installed
  obtain ⟨rfl, i, hi, hinfo⟩ := h.installed ht
  have hhunt : ((Phase.complete op packet got).next
      (DeferredFields.operations s.handler.packetInfos) s.handler.baseHandler.operations none
      c).2 = .hunt := by
    simp only [Phase.next]
    split <;> rfl
  by_cases hc : c = Bytes.xorSum got
  · have hfn : (DeferredFields.operations s.handler.packetInfos op).onReceiveFn =
        some DeferredFields.onReceive := if_pos hinfo.callbacks
    obtain ⟨i', hi', hroom, hcell⟩ := h.slot op packet rfl
    rw [hi] at hi'
    cases hi'
    have hcall := onReceive_eq (w := ⟨s.mem, s.handler.toDeferredFields⟩) hinfo
      (hvalid.buffers op i hi).2 (h.type_complete hinfo) hcell
    have hsize := h.size
    have hmax := h.max
    by_cases hfull : ps.length < 8
    · rw [if_neg (by simp only [PENDING_PACKETS_MAX]; omega)] at hcall
      have hput := h.queued.put hsize (p := ⟨op, packet, got⟩) ⟨i, hi, hroom, hcell⟩
        (h.stored_complete hi hinfo)
      refine ⟨none, ⟨s.mem, s.handler.toDeferredFields.addPending op packet⟩, ?_, ?_⟩
      · rw [WorldStep, if_pos hc, hfn]
        exact hcall
      · rw [Phase.queuedBy, if_pos ⟨hc, hfull⟩, hhunt]
        refine ⟨hput, ?_, ?_, ?_, ?_⟩
        · simp only [DeferredFields.addPending, List.length_append, List.length_singleton]
          omega
        · simp only [List.length_append, List.length_singleton]
          omega
        · exact operations_update _ op rfl rfl rfl
        · intro op' packet' hbuffer
          cases hbuffer
    · rw [if_pos (by simp only [PENDING_PACKETS_MAX]; omega)] at hcall
      refine ⟨none, ⟨s.mem, s.handler.toDeferredFields⟩, ?_, ?_⟩
      · rw [WorldStep, if_pos hc, hfn]
        exact hcall
      · rw [Phase.queuedBy, if_neg (fun hand => hfull hand.2), List.append_nil]
        exact h.queueStep_idle (by rw [hhunt]; rfl)
  · refine ⟨none, ⟨s.mem, s.handler.toDeferredFields⟩, ?_, ?_⟩
    · rw [WorldStep, if_neg hc]
    · rw [Phase.queuedBy, if_neg (fun hand => hc hand.1), List.append_nil]
      exact h.queueStep_idle (by rw [hhunt]; rfl)

lemma queueStep (hvalid : ValidInstalls cfg) (h : DeferredRep cfg s ph ps) (c : UInt8) :
    ∃ buffer w', WorldStep (DeferredFields.operations s.handler.packetInfos)
        ⟨s.mem, s.handler.toDeferredFields⟩ buffer ph c w' ∧
      QueueStep cfg s.handler.toDeferredFields (ps ++ ph.queuedBy ps.length c) (ph.next
        (DeferredFields.operations s.handler.packetInfos) s.handler.baseHandler.operations buffer c).2
        w' := by
  cases ph with
  | hunt =>
    refine ⟨none, ⟨s.mem, s.handler.toDeferredFields⟩, rfl, ?_⟩
    simp only [Phase.queuedBy, List.append_nil]
    apply h.queueStep_idle
    simp only [Phase.next]
    split <;> rfl
  | sawAA =>
    refine ⟨none, ⟨s.mem, s.handler.toDeferredFields⟩, rfl, ?_⟩
    simp only [Phase.queuedBy, List.append_nil]
    apply h.queueStep_idle
    simp only [Phase.next]
    split <;> rfl
  | sawSync =>
    refine ⟨none, ⟨s.mem, s.handler.toDeferredFields⟩, rfl, ?_⟩
    simp only [Phase.queuedBy, List.append_nil]
    apply h.queueStep_idle
    simp only [Phase.next]
    split
    · split <;> rfl
    · rfl
  | sawType op =>
    simp only [Phase.queuedBy, List.append_nil]
    exact h.queueStep_sawType hvalid c
  | body op packet got =>
    simp only [Phase.queuedBy, List.append_nil]
    exact h.queueStep_body hvalid c
  | complete op packet got => exact h.queueStep_complete hvalid c

/-- A byte received by the deferred handler. -/
theorem rxByte (hvalid : ValidInstalls cfg) (h : DeferredRep cfg s ph ps) (c : UInt8) :
    ∃ buffer s', s.rxByte c = .ok ((ph.next (DeferredFields.operations s.handler.packetInfos)
          s.handler.baseHandler.operations buffer c).1,
        ph.delivery (DeferredFields.operations s.handler.packetInfos)
          ⟨s.mem, s.handler.toDeferredFields⟩ c, s') ∧
      DeferredRep cfg s' (ph.next (DeferredFields.operations s.handler.packetInfos)
          s.handler.baseHandler.operations buffer c).2 (ps ++ ph.queuedBy ps.length c) ∧
      DeferredFields.operations s'.handler.packetInfos =
        DeferredFields.operations s.handler.packetInfos ∧
      s'.handler.baseHandler.toTxFields = s.handler.baseHandler.toTxFields ∧ s'.env = s.env := by
  obtain ⟨buffer, w', hw, hq⟩ := h.queueStep hvalid c
  obtain ⟨r, hrx, hworld, hspec⟩ := rxByte_of_worldStep
    (fun _ t op ht _ => h.fixedOps hvalid t op ht) h.rep hw
  subst hworld
  refine ⟨buffer, ⟨⟨r.world.env, r.handler⟩, r.world.mem, s.env⟩, ?_,
    ⟨?_, hq.queued, hq.size, hq.max, ?_, hq.slot⟩, hq.operations, hspec.tx, rfl⟩
  · rw [DeferredState.rxByte, hrx, ← hspec.status, ← hspec.received]
  · intro t
    rw [← h.operations t]
    exact congrFun hspec.operations t
  · change Rep (DeferredFields.operations r.world.env.packetInfos) r.handler r.world _
    rw [hq.operations]
    exact hspec.rep

end DeferredRep

end Orazio.Proofs
