import Orazio.Proofs.ReceiverSafety

/-!
# Packets of any size

An operation of size `PACKET_SIZE_ANY` takes the size of a frame from the wire for its countdown, but the
header it rebuilds carries the size of the operation.
-/

namespace Orazio.Proofs

variable {ρ σ : Type}

/-- The operation is installed for its type and takes packets of any size. -/
structure AnyOp (ops : ρ → PacketOperations σ) (h : PacketHandler ρ) (op : ρ) : Prop where
  installed : ∃ t, h.operations t = some op ∧ (ops op).type.toNat = t
  size : (ops op).size = PACKET_SIZE_ANY

/-- The payload bytes that the countdown asks for after a size byte. -/
def payloadCount (c : UInt8) : ℕ :=
  (c.toNat + 253) % 256 + 1

lemma bytesToRead_eq (c : UInt8) :
    (c - sizeofPacketHeader + sizeofPacketSeq).toNat = payloadCount c % 256 := by
  have := c.toNat_lt
  simp only [sizeofPacketHeader, sizeofPacketSeq, UInt8.toNat_add, UInt8.toNat_sub, UInt8.reduceToNat,
    payloadCount]
  omega

lemma payloadCount_pos (c : UInt8) : 0 < payloadCount c :=
  Nat.succ_pos _

lemma payloadCount_eq {c : UInt8} (hc : 3 ≤ c.toNat) : payloadCount c + 2 = c.toNat := by
  have := c.toNat_lt
  unfold payloadCount
  omega

lemma payloadCount_of_lt {c : UInt8} (hc : c.toNat < 3) : 254 ≤ payloadCount c := by
  unfold payloadCount
  omega

/-! ### The countdown -/

/-- The registers of a handler and the packet, filled with the payload bytes `got` so far. -/
structure Filling (ops : ρ → PacketOperations σ) (op : ρ) (packet : Addr) (c : UInt8)
    (s : PacketHandler ρ × World σ) (got : List UInt8) : Prop where
  currentOp : s.1.rxCurrentOp = some op
  currentPacket : s.1.rxCurrentPacket = some packet
  checksum : s.1.rxChecksum = Bytes.xorSum ((ops op).type :: c :: got)
  stored : Bytes.read s.2.mem packet (got.length + 2) = (ops op).type :: (ops op).size :: got

/-- There are `left` bytes to come. -/
structure Counting (s : PacketHandler ρ × World σ) (packet : Addr) (got : List UInt8) (left : ℕ) :
    Prop where
  rxFn : s.1.rxFn = .rxPayload
  bufferEnd : s.1.rxBufferEnd = some (packet + (got.length + 2))
  pos : 0 < left
  le : left ≤ 256
  left : s.1.rxBytesToRead.toNat = left % 256

variable {ops : ρ → PacketOperations σ} {op : ρ} {packet : Addr} {c : UInt8}
  {s : PacketHandler ρ × World σ} {got : List UInt8} {left : ℕ}

lemma countdown_mod {b : UInt8} {left : ℕ} (hpos : 0 < left) (hle : left ≤ 256)
    (hb : b.toNat = left % 256) : (b - 1).toNat = (left - 1) % 256 ∧ (b - 1 = 0 ↔ left = 1) := by
  have hcount : (b - 1).toNat = (left - 1) % 256 := by
    simp only [UInt8.toNat_sub, UInt8.reduceToNat]
    omega
  refine ⟨hcount, ?_⟩
  rw [← UInt8.toNat_inj, hcount, UInt8.toNat_zero]
  omega

/-- A payload byte is stored behind those before it, and the last one ends the payload. -/
lemma rxStep_counting (hfill : Filling ops op packet c s got) (hcount : Counting s packet got left)
    (d : UInt8) : ∃ status s', rxStep ops s d = .ok (⟨status, none⟩, s') ∧
      Filling ops op packet c s' (got ++ [d]) ∧
      (left ≠ 1 → status = .syncPayload ∧ Counting s' packet (got ++ [d]) (left - 1)) ∧
      (left = 1 → status = .syncPayloadComplete ∧ s'.1.rxFn = .rxChecksum) := by
  obtain ⟨hdown, hzero⟩ := countdown_mod hcount.pos hcount.le hcount.left
  have hsum : s.1.rxChecksum ^^^ d = Bytes.xorSum ((ops op).type :: c :: (got ++ [d])) := by
    rw [hfill.checksum, ← Bytes.xorSum_concat]
    rfl
  have hlen : (got ++ [d]).length + 2 = got.length + 2 + 1 := by
    rw [List.length_append, List.length_singleton]
  have hstored : Bytes.read (Function.update s.2.mem (packet + (got.length + 2)) d) packet
      ((got ++ [d]).length + 2) = (ops op).type :: (ops op).size :: (got ++ [d]) := by
    rw [hlen, Bytes.read_update_end, hfill.stored]
    rfl
  by_cases hone : left = 1
  · have hstep : rxStep ops s d = .ok (⟨.syncPayloadComplete, none⟩,
        ({ s.1 with
            rxChecksum := s.1.rxChecksum ^^^ d
            rxBufferEnd := some (packet + (got.length + 2) + 1)
            rxBytesToRead := s.1.rxBytesToRead - 1
            rxFn := .rxChecksum }, s.2.store (packet + (got.length + 2)) d)) := by
      simp only [rxStep, PacketHandler.rxByte, hcount.rxFn, PacketHandler.rxPayload, hcount.bufferEnd,
        if_pos (hzero.mpr hone)]
    exact ⟨_, _, hstep, ⟨hfill.currentOp, hfill.currentPacket, hsum, hstored⟩, fun hne => absurd hone hne,
      fun _ => ⟨rfl, rfl⟩⟩
  · have hstep : rxStep ops s d = .ok (⟨.syncPayload, none⟩,
        ({ s.1 with
            rxChecksum := s.1.rxChecksum ^^^ d
            rxBufferEnd := some (packet + (got.length + 2) + 1)
            rxBytesToRead := s.1.rxBytesToRead - 1 }, s.2.store (packet + (got.length + 2)) d)) := by
      simp only [rxStep, PacketHandler.rxByte, hcount.rxFn, PacketHandler.rxPayload, hcount.bufferEnd,
        if_neg (fun h => hone (hzero.mp h))]
    have hpos := hcount.pos
    have hle := hcount.le
    have hend : packet + (got.length + 2) + 1 = packet + ((got ++ [d]).length + 2) := by rw [hlen]; rfl
    exact ⟨_, _, hstep, ⟨hfill.currentOp, hfill.currentPacket, hsum, hstored⟩,
      fun _ => ⟨rfl, hcount.rxFn, congrArg some hend, by omega, by omega, hdown⟩, fun h => absurd h hone⟩

/-- As long as bytes are missing, the payload grows. -/
lemma run_counting (bs : List UInt8) (hfill : Filling ops op packet c s got)
    (hcount : Counting s packet got left) (hlen : bs.length < left) :
    ∃ events s', StepMachine.run (rxStep ops) s bs = .ok (events, s') ∧
      (∀ e ∈ events, e.status = .syncPayload) ∧ Filling ops op packet c s' (got ++ bs) ∧
      Counting s' packet (got ++ bs) (left - bs.length) := by
  induction bs generalizing s got left with
  | nil => exact ⟨[], s, rfl, nofun, by simpa using hfill, by simpa using hcount⟩
  | cons d bs ih =>
    rw [List.length_cons] at hlen
    obtain ⟨status, t, hstep, hfill₁, hmore, -⟩ := rxStep_counting hfill hcount d
    obtain ⟨rfl, hcount₁⟩ := hmore (by omega)
    obtain ⟨events, s', hrun, hall, hfill', hcount'⟩ := ih hfill₁ hcount₁ (by omega)
    have hleft : left - 1 - bs.length = left - (bs.length + 1) := by omega
    rw [List.append_assoc, List.singleton_append] at hfill' hcount'
    rw [hleft] at hcount'
    refine ⟨_, s', StepMachine.run_cons_eq_ok.mpr ⟨_, t, events, hstep, hrun, rfl⟩, ?_, hfill', hcount'⟩
    intro e he
    rcases List.mem_cons.mp he with rfl | he
    · rfl
    · exact hall e he

/-- A payload that has not ended is shorter than the countdown. -/
lemma counting_of_run (bs : List UInt8) (hfill : Filling ops op packet c s got)
    (hcount : Counting s packet got left) {events : List (RxEvent ρ)} {s' : PacketHandler ρ × World σ}
    (hrun : StepMachine.run (rxStep ops) s bs = .ok (events, s'))
    (hall : ∀ e ∈ events, e.status = .syncPayload) : bs.length < left := by
  induction bs generalizing s got left events with
  | nil => exact hcount.pos
  | cons d bs ih =>
    obtain ⟨o, t, os, hstep, hrest, rfl⟩ := StepMachine.run_cons_eq_ok.mp hrun
    obtain ⟨status, t', hstep', hfill₁, hmore, hlast⟩ := rxStep_counting hfill hcount d
    rw [hstep] at hstep'
    cases hstep'
    have hone : left ≠ 1 := by
      intro hone
      have hstatus : status = .syncPayload := hall _ List.mem_cons_self
      rw [(hlast hone).1] at hstatus
      cases hstatus
    have hshort := ih hfill₁ (hmore hone).2 hrest fun e he => hall e (List.mem_cons_of_mem _ he)
    rw [List.length_cons]
    omega

/-! ### Frames -/

/-- The sync bytes and the type select the operation. -/
lemma run_selects (hidle : s.1.rxFn = .rxAA) (hop : AnyOp ops s.1 op) :
    ∃ events h, StepMachine.run (rxStep ops) s [0xAA, 0x55, (ops op).type] = .ok (events, (h, s.2)) ∧
      events.length = 3 ∧ h.rxFn = .rxSize ∧ h.rxCurrentOp = some op ∧ h.rxChecksum = (ops op).type := by
  obtain ⟨t, ht, htype⟩ := hop.installed
  have hlt : (ops op).type.toNat < PACKET_TYPE_MAX := by
    rw [htype]
    exact t.isLt
  have hlookup : s.1.operations ⟨(ops op).type.toNat, hlt⟩ = some op := by
    rw [← ht]
    congr 1
    exact Fin.ext htype
  have hrun : StepMachine.run (rxStep ops) s [0xAA, 0x55, (ops op).type] =
      .ok ([⟨.syncAA, none⟩, ⟨.sync55, none⟩, ⟨.syncType, none⟩],
        ({ s.1 with rxChecksum := (ops op).type, rxCurrentOp := some op, rxFn := .rxSize }, s.2)) := by
    simp only [StepMachine.run, rxStep, PacketHandler.rxByte, hidle, PacketHandler.rxAA, if_true,
      PacketHandler.rx55, PacketHandler.rxType, dif_pos hlt, hlookup, UInt8.zero_xor]
  exact ⟨_, _, hrun, rfl, rfl, rfl, rfl⟩

/-- Any size byte is accepted and starts the countdown. -/
lemma rxStep_anySize {h : PacketHandler ρ} {w w' : World σ} (hfn : h.rxFn = .rxSize)
    (hcur : h.rxCurrentOp = some op) (hsum : h.rxChecksum = (ops op).type)
    (hany : (ops op).size = PACKET_SIZE_ANY)
    (hinit : (ops op).initializeBufferFn (ops op).type (ops op).size w = .ok (some packet, w')) :
    ∃ s', rxStep ops (h, w) c = .ok (⟨.syncSize, none⟩, s') ∧ Filling ops op packet c s' [] ∧
      Counting s' packet [] (payloadCount c) := by
  have hstep : rxStep ops (h, w) c = .ok (⟨.syncSize, none⟩,
      ({ h with
          rxCurrentPacket := some packet
          rxChecksum := h.rxChecksum ^^^ c
          rxBytesToRead := c - sizeofPacketHeader + sizeofPacketSeq
          rxBuffer := some packet
          rxBufferEnd := some (packet + 2)
          rxFn := .rxPayload }, (w'.store packet (ops op).type).store (packet + 1) (ops op).size)) := by
    simp only [rxStep, PacketHandler.rxByte, hfn, PacketHandler.rxSize, hcur, hany, ne_eq,
      not_true_eq_false, false_and, if_false]
    rw [← hany, hinit]
  refine ⟨_, hstep, ⟨hcur, rfl, ?_, ?_⟩, ⟨rfl, rfl, payloadCount_pos c, ?_, bytesToRead_eq c⟩⟩
  · rw [hsum]
    simp [Bytes.xorSum]
  · simp [Bytes.read, World.store, Function.update, List.range_succ]
  · unfold payloadCount
    omega

/-- The bytes up to the size byte bring the receiver to the payload. -/
lemma run_anyHeader (hidle : s.1.rxFn = .rxAA) (hop : AnyOp ops s.1 op) {w' : World σ}
    (hinit : (ops op).initializeBufferFn (ops op).type (ops op).size s.2 = .ok (some packet, w'))
    (c : UInt8) :
    ∃ events s', StepMachine.run (rxStep ops) s [0xAA, 0x55, (ops op).type, c] = .ok (events, s') ∧
      events.length = 4 ∧ Filling ops op packet c s' [] ∧ Counting s' packet [] (payloadCount c) := by
  obtain ⟨events, h, hrun, hlen, hfn, hcur, hsum⟩ := run_selects hidle hop
  obtain ⟨s', hstep, hfill, hcount⟩ := rxStep_anySize (c := c) hfn hcur hsum hop.size hinit
  refine ⟨events ++ [⟨.syncSize, none⟩], s', ?_, ?_, hfill, hcount⟩
  · exact StepMachine.run_concat_eq_ok.mpr ⟨_, _, _, hrun, hstep, rfl⟩
  · rw [List.length_append, hlen, List.length_singleton]

/-- The checksum delivers what the buffer holds. -/
lemma rxStep_filled {h : PacketHandler ρ} {w : World σ} (hfill : Filling ops op packet c (h, w) got)
    (hfn : h.rxFn = .rxChecksum) {onReceive : Addr → World σ → Except Fault (World σ)}
    (hrecv : (ops op).onReceiveFn = some onReceive) (hreturn : ∃ w', onReceive packet w = .ok w') :
    ∃ s', rxStep ops (h, w) (Bytes.xorSum ((ops op).type :: c :: got)) =
      .ok (⟨.syncChecksum, some ⟨op, packet, w.mem⟩⟩, s') := by
  obtain ⟨w', hcall⟩ := hreturn
  have hsum : h.rxChecksum = Bytes.xorSum ((ops op).type :: c :: got) := hfill.checksum
  have hcur : h.rxCurrentOp = some op := hfill.currentOp
  have hpacket : h.rxCurrentPacket = some packet := hfill.currentPacket
  simp only [rxStep, PacketHandler.rxByte, hfn, PacketHandler.rxChecksumByte, hsum, if_true, hcur,
    hpacket, hrecv, hcall]
  exact ⟨_, rfl⟩

/-- A packet of any size from 3 on is delivered with its payload, and with the size of the operation in
its header. -/
lemma run_anyFrame (hidle : s.1.rxFn = .rxAA) (hop : AnyOp ops s.1 op) {w' : World σ}
    (hinit : (ops op).initializeBufferFn (ops op).type (ops op).size s.2 = .ok (some packet, w'))
    {onReceive : Addr → World σ → Except Fault (World σ)} (hrecv : (ops op).onReceiveFn = some onReceive)
    (hreturns : ∀ packet w, ∃ w', onReceive packet w = .ok w') (hc : 3 ≤ c.toNat) {payload : List UInt8}
    (hlen : payload.length + 2 = c.toNat) :
    ∃ events r s', StepMachine.run (rxStep ops) s (frame ((ops op).type :: c :: payload)) =
        .ok (events ++ [⟨.syncChecksum, some r⟩], s') ∧ r.op = op ∧
      r.bytes c.toNat = (ops op).type :: (ops op).size :: payload := by
  have hcount := payloadCount_eq hc
  obtain rfl | ⟨init, last, rfl⟩ := List.eq_nil_or_concat payload
  · rw [List.length_nil] at hlen
    omega
  · rw [List.concat_eq_append, List.length_append, List.length_singleton] at hlen
    obtain ⟨es₁, s₁, hrun₁, -, hfill₁, hcount₁⟩ := run_anyHeader hidle hop hinit c
    obtain ⟨es₂, s₂, hrun₂, -, hfill₂, hcount₂⟩ := run_counting init hfill₁ hcount₁ (by omega)
    obtain ⟨status, s₃, hs₃, hfill₃, -, hlast⟩ := rxStep_counting hfill₂ hcount₂ last
    obtain ⟨-, hfn⟩ := hlast (by omega)
    obtain ⟨s₄, hs₄⟩ := rxStep_filled (h := s₃.1) (w := s₃.2) hfill₃ hfn hrecv (hreturns packet s₃.2)
    refine ⟨es₁ ++ es₂ ++ [⟨status, none⟩], ⟨op, packet, s₃.2.mem⟩, s₄, ?_, rfl, ?_⟩
    · have hbytes : frame ((ops op).type :: c :: init.concat last) = [0xAA, 0x55, (ops op).type, c] ++
          init ++ [last] ++ [Bytes.xorSum ((ops op).type :: c :: ([] ++ init ++ [last]))] := by
        simp [frame]
      rw [hbytes]
      exact StepMachine.run_concat_eq_ok.mpr ⟨_, s₃, _, StepMachine.run_concat_eq_ok.mpr ⟨_, s₂, _,
        StepMachine.run_append_eq_ok.mpr ⟨_, s₁, _, hrun₁, hrun₂, rfl⟩, hs₃, rfl⟩, hs₄, rfl⟩
    · have hstored := hfill₃.stored
      rw [List.nil_append, List.length_append, List.length_singleton] at hstored
      have hsize : init.length + 1 + 2 = c.toNat := hlen
      rw [hsize] at hstored
      rw [List.concat_eq_append]
      exact hstored

/-! ### The claim of the interface -/

/-- During a frame with this size byte the receiver writes only into the 255 bytes from `packet` on. -/
structure WritesInside (ops : ρ → PacketOperations σ) (s : PacketHandler ρ × World σ) (op : ρ)
    (packet : Addr) (c : UInt8) : Prop where
  header : ∀ events s', StepMachine.run (rxStep ops) s [0xAA, 0x55, (ops op).type] = .ok (events, s') →
    ∀ a, .write (some a) ∈ rxAccesses ops s'.1 s'.2 c → packet ≤ a ∧ a < packet + 255
  payload : ∀ bs events s' d,
    StepMachine.run (rxStep ops) s ([0xAA, 0x55, (ops op).type, c] ++ bs) = .ok (events, s') →
    (∀ e ∈ events.drop 4, e.status = .syncPayload) →
    ∀ a, .write (some a) ∈ rxAccesses ops s'.1 s'.2 d → packet ≤ a ∧ a < packet + 255

/-- Every packet of this size is delivered as it was sent, its header included. -/
def DeliversAsSent (ops : ρ → PacketOperations σ) (s : PacketHandler ρ × World σ) (op : ρ) (c : UInt8) :
    Prop :=
  ∀ payload : List UInt8, payload.length + 2 = c.toNat →
    ∃ events r s', StepMachine.run (rxStep ops) s (frame ((ops op).type :: c :: payload)) =
      .ok (events ++ [⟨.syncChecksum, some r⟩], s') ∧ r.op = op ∧
      r.bytes c.toNat = (ops op).type :: c :: payload

/-- A byte of the payload is written behind the bytes before it. -/
lemma Counting.write_mem_iff {t : PacketHandler ρ × World σ} {got : List UInt8} {left : ℕ}
    (hcount : Counting t packet got left) (d : UInt8) (a : Addr) :
    .write (some a) ∈ rxAccesses ops t.1 t.2 d ↔ a = packet + (got.length + 2) := by
  simp [rxAccesses, hcount.rxFn, hcount.bufferEnd]

/-- For the size bytes below 3 the countdown starts again at 65535 and leaves the buffer. -/
lemma WritesInside.three_le (hidle : s.1.rxFn = .rxAA) (hop : AnyOp ops s.1 op) {w' : World σ}
    (hinit : (ops op).initializeBufferFn (ops op).type (ops op).size s.2 = .ok (some packet, w')) {c : UInt8}
    (hinside : WritesInside ops s op packet c) : 3 ≤ c.toNat := by
  obtain ⟨es₁, s₁, hrun₁, hlen₁, hfill₁, hcount₁⟩ := run_anyHeader hidle hop hinit c
  by_contra hsmall
  have hmany := payloadCount_of_lt (Nat.lt_of_not_le hsmall)
  obtain ⟨es₂, s₂, hrun₂, hall, -, hcount₂⟩ := run_counting (List.replicate 253 0) hfill₁ hcount₁
    (by rw [List.length_replicate]; omega)
  have hbound := hinside.payload (List.replicate 253 0) (es₁ ++ es₂) s₂ 0
    (StepMachine.run_append_eq_ok.mpr ⟨_, s₁, _, hrun₁, hrun₂, rfl⟩)
    (by rw [← hlen₁, List.drop_left]; exact hall) _ ((hcount₂.write_mem_iff 0 _).mpr rfl)
  rw [List.nil_append, List.length_replicate] at hbound
  exact Nat.lt_irrefl _ hbound.2

lemma writesInside_of_three_le (hidle : s.1.rxFn = .rxAA) (hop : AnyOp ops s.1 op) {w' : World σ}
    (hinit : (ops op).initializeBufferFn (ops op).type (ops op).size s.2 = .ok (some packet, w')) {c : UInt8}
    (hc : 3 ≤ c.toNat) : WritesInside ops s op packet c := by
  obtain ⟨es₁, s₁, hrun₁, hlen₁, hfill₁, hcount₁⟩ := run_anyHeader hidle hop hinit c
  constructor
  · intro events s' hrun a ha
    obtain ⟨es, h, hrun', -, hfn, hcur, -⟩ := run_selects hidle hop
    rw [hrun] at hrun'
    cases hrun'
    have hnot : ¬((ops op).size ≠ PACKET_SIZE_ANY ∧ (ops op).size ≠ c) := fun h => h.1 hop.size
    simp only [rxAccesses, hfn, hcur, headerWrites, if_neg hnot, hinit, List.mem_cons, reduceCtorEq,
      false_or, List.not_mem_nil, or_false, RxAccess.write.injEq, Option.some.injEq] at ha
    rcases ha with rfl | rfl
    · exact ⟨Nat.le_refl _, Nat.lt_add_of_pos_right (by decide)⟩
    · exact ⟨Nat.le_add_right _ _, Nat.add_lt_add_left (by decide) _⟩
  · intro bs events s' d hrun hall a ha
    obtain ⟨es, t, es₂, hrun₁', hrun₂, rfl⟩ := StepMachine.run_append_eq_ok.mp hrun
    rw [hrun₁] at hrun₁'
    cases hrun₁'
    rw [← hlen₁, List.drop_left] at hall
    have hshort := counting_of_run bs hfill₁ hcount₁ hrun₂ hall
    obtain ⟨es', s₂, hrun₂', -, -, hcount₂⟩ := run_counting bs hfill₁ hcount₁ hshort
    rw [hrun₂] at hrun₂'
    cases hrun₂'
    obtain rfl := (hcount₂.write_mem_iff d a).mp ha
    have hcount := payloadCount_eq hc
    have hmax := c.toNat_lt
    rw [List.nil_append]
    exact ⟨Nat.le_add_right _ _, Nat.add_lt_add_left (by omega) _⟩

theorem writesInside_iff (hidle : s.1.rxFn = .rxAA) (hop : AnyOp ops s.1 op) {w' : World σ}
    (hinit : (ops op).initializeBufferFn (ops op).type (ops op).size s.2 = .ok (some packet, w'))
    (c : UInt8) : WritesInside ops s op packet c ↔ 3 ≤ c.toNat :=
  ⟨fun hinside => hinside.three_le hidle hop hinit, writesInside_of_three_le hidle hop hinit⟩

/-- A packet keeps its header only if it is as long as the size of the operation says. -/
lemma deliversAsSent_size (hidle : s.1.rxFn = .rxAA) (hop : AnyOp ops s.1 op) {w' : World σ}
    (hinit : (ops op).initializeBufferFn (ops op).type (ops op).size s.2 = .ok (some packet, w'))
    {onReceive : Addr → World σ → Except Fault (World σ)} (hrecv : (ops op).onReceiveFn = some onReceive)
    (hreturns : ∀ packet w, ∃ w', onReceive packet w = .ok w') (hc : 3 ≤ c.toNat)
    (hsent : DeliversAsSent ops s op c) : (ops op).size = c := by
  have hlen : (List.replicate (c.toNat - 2) (0 : UInt8)).length + 2 = c.toNat := by
    rw [List.length_replicate]
    omega
  obtain ⟨es, r, t, hrun, -, hbytes⟩ := hsent _ hlen
  obtain ⟨es', r', t', hrun', -, hbytes'⟩ := run_anyFrame hidle hop hinit hrecv hreturns hc hlen
  rw [hrun] at hrun'
  have hevents := (Prod.mk.inj (Except.ok.inj hrun')).1
  obtain ⟨-, hlast⟩ := List.append_inj' hevents rfl
  cases hlast
  rw [hbytes] at hbytes'
  cases hbytes'
  rfl

/-- For a size byte c the receiver stays inside the 255 bytes of the buffer, and delivers the packets of
4 to 253 bytes as they were sent, exactly if c is 3, 254 or 255: below 3 the countdown wraps, and from 4
to 253 the packet arrives with the size of the operation in its header. -/
theorem any_size_packets (hidle : s.1.rxFn = .rxAA) (hop : AnyOp ops s.1 op) {w' : World σ}
    (hinit : (ops op).initializeBufferFn (ops op).type (ops op).size s.2 = .ok (some packet, w'))
    {onReceive : Addr → World σ → Except Fault (World σ)} (hrecv : (ops op).onReceiveFn = some onReceive)
    (hreturns : ∀ packet w, ∃ w', onReceive packet w = .ok w') (c : UInt8) :
    (WritesInside ops s op packet c ∧ (4 ≤ c.toNat → c.toNat ≤ 253 → DeliversAsSent ops s op c)) ↔
      c = 3 ∨ c = 254 ∨ c = 255 := by
  rw [writesInside_iff hidle hop hinit c]
  have hmax := c.toNat_lt
  constructor
  · rintro ⟨hthree, hsent⟩
    have hsize : 4 ≤ c.toNat → 253 < c.toNat := by
      intro hfour
      by_contra hle
      have hc := deliversAsSent_size hidle hop hinit hrecv hreturns hthree
        (hsent hfour (Nat.le_of_not_lt hle))
      rw [← hc, hop.size] at hle
      exact hle (by decide)
    simp only [← UInt8.toNat_inj, UInt8.reduceToNat]
    omega
  · intro hc
    simp only [← UInt8.toNat_inj, UInt8.reduceToNat] at hc
    exact ⟨by omega, fun hfour hle => absurd hle (by omega)⟩

/-! ### The host test with packets of any size -/

/-- The operations of the host test, with a buffer for packets of any size. -/
def anySizeOperations (p : HostPacket) : PacketOperations Unit :=
  { HostPacket.operations p with
    size := PACKET_SIZE_ANY
    initializeBufferFn := fun _ _ w => .ok (some 0x100, w) }

def anySizeReceiver : PacketHandler HostPacket × World Unit :=
  (installAll anySizeOperations HostPacket.staticHandler.initializeHandler [.packet0],
    HostPacket.staticWorld)

lemma anySizeReceiver_anyOp : AnyOp anySizeOperations anySizeReceiver.1 .packet0 :=
  ⟨⟨0, rfl, rfl⟩, rfl⟩

theorem any_size_packets_three :
    WritesInside anySizeOperations anySizeReceiver .packet0 0x100 3 :=
  ((any_size_packets rfl anySizeReceiver_anyOp rfl rfl (fun _ w => ⟨w, rfl⟩) 3).mpr (.inl rfl)).1

/-- A packet of 6 bytes arrives with 255 in the size field of its header, and a frame with the size byte
2 leaves the buffer. -/
theorem any_size_packet_of_six :
    ¬DeliversAsSent anySizeOperations anySizeReceiver .packet0 6 ∧
      ¬WritesInside anySizeOperations anySizeReceiver .packet0 0x100 2 := by
  constructor
  · intro hsent
    have hsize := deliversAsSent_size (s := anySizeReceiver) rfl anySizeReceiver_anyOp rfl rfl
      (fun _ w => ⟨w, rfl⟩) (by decide) hsent
    exact absurd hsize (by decide)
  · rw [writesInside_iff rfl anySizeReceiver_anyOp rfl]
    decide

end Orazio.Proofs
