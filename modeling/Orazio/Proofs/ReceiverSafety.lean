import Orazio.Proofs.Delivery

/-!
# Memory safety of the receiver

`rxAccesses` lists what a call of `PacketHandler_rxByte` reads from the table of operations, which
pointers it uses and which bytes it writes. The callbacks may return any buffer that is valid for the
size of their operation.
-/

namespace Orazio.Proofs

variable {ρ σ : Type}

/-! ### Accesses -/

inductive RxAccess (ρ : Type)
  | table (index : Nat)
  | operation (op : Option ρ)
  | packet (packet : Option Addr)
  | write (address : Option Addr)

/-- The header is written once there is a buffer for the packet. -/
def headerWrites (ops : ρ → PacketOperations σ) (op : Option ρ) (w : World σ) (c : UInt8) :
    List (RxAccess ρ) :=
  match op with
  | none => []
  | some p =>
    if (ops p).size ≠ PACKET_SIZE_ANY ∧ (ops p).size ≠ c then []
    else
      match (ops p).initializeBufferFn (ops p).type (ops p).size w with
      | .ok (some buffer, _) => [.write (some buffer), .write (some (buffer + 1))]
      | _ => []

/-- The accesses of `PacketHandler_rxByte`. -/
def rxAccesses (ops : ρ → PacketOperations σ) (h : PacketHandler ρ) (w : World σ) (c : UInt8) :
    List (RxAccess ρ) :=
  match h.rxFn with
  | .rxAA => []
  | .rx55 => []
  | .rxType => if c.toNat < PACKET_TYPE_MAX then [.table c.toNat] else []
  | .rxSize => .operation h.rxCurrentOp :: headerWrites ops h.rxCurrentOp w c
  | .rxPayload => [.write h.rxBufferEnd]
  | .rxChecksum =>
    if c = h.rxChecksum then [.operation h.rxCurrentOp, .packet h.rxCurrentPacket] else []

/-- A callback of the current operation fails. -/
def CallbackFails (ops : ρ → PacketOperations σ) (h : PacketHandler ρ) (w : World σ) (e : Fault) :
    Prop :=
  ∃ p, h.rxCurrentOp = some p ∧
    ((ops p).initializeBufferFn (ops p).type (ops p).size w = .error e ∨
      ∃ onReceive packet, (ops p).onReceiveFn = some onReceive ∧ h.rxCurrentPacket = some packet ∧
        onReceive packet w = .error e)

section

variable {ops : ρ → PacketOperations σ} {h : PacketHandler ρ} {w : World σ} {c : UInt8} {e : Fault}

lemma rxSize_error (hop : h.rxCurrentOp ≠ none) (hrx : h.rxSize ops w c = .error e) :
    CallbackFails ops h w e := by
  unfold PacketHandler.rxSize at hrx
  cases hcur : h.rxCurrentOp with
  | none => exact absurd hcur hop
  | some p =>
    simp only [hcur] at hrx
    split at hrx
    · cases hrx
    · split at hrx
      · next hinit =>
        cases hrx
        exact ⟨p, hcur, .inl hinit⟩
      · cases hrx
      · cases hrx

lemma rxPayload_ne_error (hwrite : h.rxBufferEnd ≠ none) : h.rxPayload w c ≠ .error e := by
  intro hrx
  unfold PacketHandler.rxPayload at hrx
  cases hend : h.rxBufferEnd with
  | none => exact hwrite hend
  | some bufferEnd =>
    simp only [hend] at hrx
    split at hrx <;> cases hrx

lemma rxChecksum_error (hop : c = h.rxChecksum → h.rxCurrentOp ≠ none)
    (hpacket : c = h.rxChecksum → h.rxCurrentPacket ≠ none)
    (hrx : h.rxChecksumByte ops w c = .error e) : CallbackFails ops h w e := by
  unfold PacketHandler.rxChecksumByte at hrx
  simp only at hrx
  split at hrx
  · next hc =>
    cases hcur : h.rxCurrentOp with
    | none => exact absurd hcur (hop hc)
    | some p =>
      cases hpk : h.rxCurrentPacket with
      | none => exact absurd hpk (hpacket hc)
      | some packet =>
        simp only [hcur, hpk] at hrx
        split at hrx
        · cases hrx
        · next onReceive hreceive =>
          split at hrx
          · next hfail =>
            cases hrx
            exact ⟨p, hcur, .inr ⟨onReceive, packet, hreceive, hpk, hfail⟩⟩
          · cases hrx
  · cases hrx

/-- Without a null pointer among the accesses only a callback can fail. -/
lemma rxByte_error
    (hnull : ∀ a ∈ rxAccesses ops h w c, a ≠ .operation none ∧ a ≠ .packet none ∧ a ≠ .write none)
    (hrx : h.rxByte ops w c = .error e) : CallbackFails ops h w e := by
  unfold rxAccesses at hnull
  unfold PacketHandler.rxByte at hrx
  cases hfn : h.rxFn with
  | rxAA => simp [hfn] at hrx
  | rx55 => simp [hfn] at hrx
  | rxType => simp [hfn] at hrx
  | rxSize =>
    simp only [hfn] at hnull hrx
    exact rxSize_error (fun hop => (hnull _ List.mem_cons_self).1 (by rw [hop])) hrx
  | rxPayload =>
    simp only [hfn] at hnull hrx
    exact absurd hrx (rxPayload_ne_error fun hend => (hnull _ List.mem_cons_self).2.2 (by rw [hend]))
  | rxChecksum =>
    simp only [hfn] at hnull hrx
    apply rxChecksum_error _ _ hrx
    · intro hc hop
      rw [if_pos hc] at hnull
      exact (hnull _ List.mem_cons_self).1 (by rw [hop])
    · intro hc hpacket
      rw [if_pos hc] at hnull
      exact (hnull _ (List.mem_cons_of_mem _ List.mem_cons_self)).2.1 (by rw [hpacket])

end

/-- The byte at `a` is as before, or as a callback of the current operation leaves it. -/
def KeptByHandler (ops : ρ → PacketOperations σ) (h : PacketHandler ρ) (w : World σ) (a : Addr)
    (w' : World σ) : Prop :=
  w'.mem a = w.mem a ∨ ∃ p, h.rxCurrentOp = some p ∧
    ((∃ answer w₁, (ops p).initializeBufferFn (ops p).type (ops p).size w = .ok (answer, w₁) ∧
        w'.mem a = w₁.mem a) ∨
      ∃ onReceive packet, (ops p).onReceiveFn = some onReceive ∧ h.rxCurrentPacket = some packet ∧
        onReceive packet w = .ok w')

lemma store_mem_of_ne {w : World σ} {a b : Addr} (hab : a ≠ b) (c : UInt8) :
    (w.store b c).mem a = w.mem a :=
  Function.update_of_ne hab _ _

section

variable {ops : ρ → PacketOperations σ} {h : PacketHandler ρ} {w : World σ} {c : UInt8}
  {r : PacketHandler.RxResult ρ σ} {a : Addr}

lemma rxSize_kept (hrx : h.rxSize ops w c = .ok r)
    (ha : .write (some a) ∉ headerWrites ops h.rxCurrentOp w c) : KeptByHandler ops h w a r.world := by
  unfold PacketHandler.rxSize at hrx
  cases hcur : h.rxCurrentOp with
  | none =>
    simp only [hcur] at hrx
    cases hrx
  | some p =>
    simp only [hcur, headerWrites] at ha hrx
    split at hrx
    · cases hrx
      exact .inl rfl
    · next hsize =>
      rw [if_neg hsize] at ha
      split at hrx
      · cases hrx
      · next w₁ hinit =>
        cases hrx
        exact .inr ⟨p, hcur, .inl ⟨none, w₁, hinit, rfl⟩⟩
      · next buffer w₁ hinit =>
        cases hrx
        simp only [hinit, List.mem_cons, List.not_mem_nil, not_or, RxAccess.write.injEq,
          Option.some.injEq] at ha
        refine .inr ⟨p, hcur, .inl ⟨some buffer, w₁, hinit, ?_⟩⟩
        rw [store_mem_of_ne ha.2.1, store_mem_of_ne ha.1]

lemma rxPayload_kept (hrx : h.rxPayload w c = .ok r) (ha : h.rxBufferEnd ≠ some a) :
    KeptByHandler ops h w a r.world := by
  unfold PacketHandler.rxPayload at hrx
  cases hend : h.rxBufferEnd with
  | none =>
    simp only [hend] at hrx
    cases hrx
  | some bufferEnd =>
    have hne : a ≠ bufferEnd := by
      rintro rfl
      exact ha hend
    simp only [hend] at hrx
    split at hrx <;> cases hrx <;> exact .inl (store_mem_of_ne hne c)

lemma rxChecksum_kept (hrx : h.rxChecksumByte ops w c = .ok r) : KeptByHandler ops h w a r.world := by
  unfold PacketHandler.rxChecksumByte at hrx
  simp only at hrx
  split at hrx
  · cases hcur : h.rxCurrentOp with
    | none =>
      simp only [hcur] at hrx
      cases hrx
    | some p =>
      cases hpk : h.rxCurrentPacket with
      | none =>
        simp only [hcur, hpk] at hrx
        cases hrx
      | some packet =>
        simp only [hcur, hpk] at hrx
        split at hrx
        · cases hrx
          exact .inl rfl
        · next onReceive hreceive =>
          split at hrx
          · cases hrx
          · next hreturn =>
            cases hrx
            exact .inr ⟨p, hcur, .inr ⟨onReceive, packet, hreceive, hpk, hreturn⟩⟩
  · cases hrx
    exact .inl rfl

/-- The handler writes nowhere else. -/
lemma rxByte_kept (hrx : h.rxByte ops w c = .ok r) (ha : .write (some a) ∉ rxAccesses ops h w c) :
    KeptByHandler ops h w a r.world := by
  unfold rxAccesses at ha
  unfold PacketHandler.rxByte at hrx
  cases hfn : h.rxFn with
  | rxAA =>
    simp only [hfn] at hrx
    cases hrx
    exact .inl rfl
  | rx55 =>
    simp only [hfn] at hrx
    cases hrx
    exact .inl rfl
  | rxType =>
    simp only [hfn] at hrx
    cases hrx
    exact .inl rfl
  | rxSize =>
    simp only [hfn] at ha hrx
    exact rxSize_kept hrx fun hmem => ha (List.mem_cons_of_mem _ hmem)
  | rxPayload =>
    simp only [hfn] at ha hrx
    exact rxPayload_kept hrx fun hend => ha (by rw [hend]; exact List.mem_cons_self)
  | rxChecksum =>
    simp only [hfn] at hrx
    exact rxChecksum_kept hrx

end

/-! ### Safety -/

/-- What a call of `PacketHandler_rxByte` may access, if `valid packet n` says that a buffer of `n`
bytes begins at `packet`. -/
structure RxSafe (ops : ρ → PacketOperations σ) (valid : Addr → Nat → Prop) (h : PacketHandler ρ)
    (w : World σ) (c : UInt8) : Prop where
  table : ∀ i, .table i ∈ rxAccesses ops h w c → i < PACKET_TYPE_MAX
  operation : .operation none ∉ rxAccesses ops h w c
  packet : .packet none ∉ rxAccesses ops h w c
  write : .write none ∉ rxAccesses ops h w c
  inBuffer : ∀ a, .write (some a) ∈ rxAccesses ops h w c →
    ∃ (packet : Addr) (n offset : Nat), valid packet n ∧ a = packet + offset ∧ offset < n
  elsewhere : ∀ r a, h.rxByte ops w c = .ok r → .write (some a) ∉ rxAccesses ops h w c →
    KeptByHandler ops h w a r.world
  header : h.rxFn = .rxSize → ∀ r, h.rxByte ops w c = .ok r → r.status = .syncSize →
    4 ≤ c.toNat ∧ r.handler.rxBytesToRead.toNat = c.toNat - 2
  payload : h.rxFn = .rxPayload → ∃ (p : ρ) (packet : Addr) (offset : Nat), h.rxCurrentOp = some p ∧
    h.rxCurrentPacket = some packet ∧ h.rxBufferEnd = some (packet + offset) ∧ 2 ≤ offset ∧
    offset < (ops p).size.toNat ∧ 0 < h.rxBytesToRead.toNat
  fails : ∀ e, h.rxByte ops w c = .error e → CallbackFails ops h w e

/-- The operation has 4 to 254 bytes and asks for valid buffers. -/
structure SafeOp (ops : ρ → PacketOperations σ) (valid : Addr → Nat → Prop) (p : ρ) : Prop where
  four_le : 4 ≤ (ops p).size.toNat
  le_max : (ops p).size.toNat ≤ 254
  buffer : ∀ w packet w', (ops p).initializeBufferFn (ops p).type (ops p).size w =
    .ok (some packet, w') → ∃ n, (ops p).size.toNat ≤ n ∧ valid packet n

/-- A packet that is being received lies in a buffer of its size. -/
def Phase.Buffered (ops : ρ → PacketOperations σ) (valid : Addr → Nat → Prop) : Phase ρ → Prop
  | body op packet _ => ∃ n, (ops op).size.toNat ≤ n ∧ valid packet n
  | complete op packet _ => ∃ n, (ops op).size.toNat ≤ n ∧ valid packet n
  | _ => True

section

variable {ops : ρ → PacketOperations σ} {valid : Addr → Nat → Prop} {h : PacketHandler ρ} {w : World σ}
  {c : UInt8}

/-- What is left to show for a receiver that uses no null pointer. -/
lemma RxSafe.of_accesses
    (hnull : ∀ a ∈ rxAccesses ops h w c, a ≠ .operation none ∧ a ≠ .packet none ∧ a ≠ .write none)
    (table : ∀ i, .table i ∈ rxAccesses ops h w c → i < PACKET_TYPE_MAX)
    (inBuffer : ∀ a, .write (some a) ∈ rxAccesses ops h w c →
      ∃ (packet : Addr) (n offset : Nat), valid packet n ∧ a = packet + offset ∧ offset < n)
    (header : h.rxFn = .rxSize → ∀ r, h.rxByte ops w c = .ok r → r.status = .syncSize →
      4 ≤ c.toNat ∧ r.handler.rxBytesToRead.toNat = c.toNat - 2)
    (payload : h.rxFn = .rxPayload → ∃ (p : ρ) (packet : Addr) (offset : Nat), h.rxCurrentOp = some p ∧
      h.rxCurrentPacket = some packet ∧ h.rxBufferEnd = some (packet + offset) ∧ 2 ≤ offset ∧
      offset < (ops p).size.toNat ∧ 0 < h.rxBytesToRead.toNat) : RxSafe ops valid h w c where
  table := table
  operation ha := (hnull _ ha).1 rfl
  packet ha := (hnull _ ha).2.1 rfl
  write ha := (hnull _ ha).2.2 rfl
  inBuffer := inBuffer
  elsewhere _ _ hrx ha := rxByte_kept hrx ha
  header := header
  payload := payload
  fails _ hrx := rxByte_error hnull hrx

lemma RxSafe.idle (hfn : h.rxFn = .rxAA ∨ h.rxFn = .rx55) : RxSafe ops valid h w c := by
  have hnone : rxAccesses ops h w c = [] := by
    rcases hfn with hfn | hfn <;> simp [rxAccesses, hfn]
  apply RxSafe.of_accesses
  case hnull => simp [hnone]
  all_goals rcases hfn with hfn | hfn <;> simp [hnone, hfn]

lemma RxSafe.type (hfn : h.rxFn = .rxType) : RxSafe ops valid h w c := by
  have hacc : ∀ a ∈ rxAccesses ops h w c, a = .table c.toNat ∧ c.toNat < PACKET_TYPE_MAX := by
    intro a ha
    simp only [rxAccesses, hfn] at ha
    split at ha
    · next hc => exact ⟨List.mem_singleton.mp ha, hc⟩
    · cases ha
  apply RxSafe.of_accesses
  case hnull =>
    intro a ha
    obtain ⟨rfl, -⟩ := hacc a ha
    simp
  case table =>
    intro i hi
    obtain ⟨heq, hc⟩ := hacc _ hi
    cases heq
    exact hc
  case inBuffer => exact fun a ha => nomatch (hacc _ ha).1
  case header => simp [hfn]
  case payload => simp [hfn]

lemma headerWrites_cases {p : ρ} (hsafe : SafeOp ops valid p) {a : RxAccess ρ}
    (ha : a ∈ headerWrites ops (some p) w c) :
    ∃ (packet : Addr) (n offset : Nat),
      a = .write (some (packet + offset)) ∧ valid packet n ∧ offset < n := by
  have hfour := hsafe.four_le
  unfold headerWrites at ha
  simp only at ha
  split at ha
  · cases ha
  · split at ha
    · next packet w₁ hinit =>
      obtain ⟨n, hn, hvalid⟩ := hsafe.buffer w packet w₁ hinit
      simp only [List.mem_cons, List.not_mem_nil, or_false] at ha
      rcases ha with rfl | rfl
      · exact ⟨packet, n, 0, rfl, hvalid, by omega⟩
      · exact ⟨packet, n, 1, rfl, hvalid, by omega⟩
    · cases ha

lemma RxSafe.size (hfn : h.rxFn = .rxSize) {p : ρ} (hcur : h.rxCurrentOp = some p)
    (hsafe : SafeOp ops valid p) : RxSafe ops valid h w c := by
  have hacc : ∀ a ∈ rxAccesses ops h w c, a = .operation (some p) ∨
      ∃ (packet : Addr) (n offset : Nat),
      a = .write (some (packet + offset)) ∧ valid packet n ∧ offset < n := by
    intro a ha
    simp only [rxAccesses, hfn, hcur, List.mem_cons] at ha
    exact ha.imp_right (headerWrites_cases hsafe)
  apply RxSafe.of_accesses
  case hnull =>
    intro a ha
    obtain rfl | ⟨packet, n, offset, rfl, -, -⟩ := hacc a ha <;> simp
  case table =>
    intro i hi
    obtain heq | ⟨packet, n, offset, heq, -, -⟩ := hacc _ hi <;> cases heq
  case inBuffer =>
    intro a ha
    obtain heq | ⟨packet, n, offset, heq, hvalid, hlt⟩ := hacc _ ha
    · cases heq
    · exact ⟨packet, n, offset, hvalid, Option.some.inj (RxAccess.write.inj heq), hlt⟩
  case header =>
    intro _ r hrx hstatus
    have hfour := hsafe.four_le
    have hmax := hsafe.le_max
    simp only [PacketHandler.rxByte, hfn, PacketHandler.rxSize, hcur] at hrx
    split at hrx
    · cases hrx
      cases hstatus
    · next hsize =>
      split at hrx
      · cases hrx
      · cases hrx
        cases hstatus
      · cases hrx
        have hany : (ops p).size ≠ PACKET_SIZE_ANY := by
          intro hany
          rw [hany] at hmax
          exact absurd hmax (by decide)
        have hc : (ops p).size = c := by
          by_contra hne
          exact hsize ⟨hany, hne⟩
        rw [hc] at hfour
        have hlen := bytesToRead_toNat (s := c) (by omega)
        exact ⟨hfour, Nat.eq_sub_of_add_eq hlen⟩
  case payload => simp [hfn]

lemma RxSafe.body {p : ρ} {packet : Addr} {got : List UInt8} (hrep : Rep ops h w (.body p packet got))
    (hbuffer : (Phase.body p packet got).Buffered ops valid) : RxSafe ops valid h w c := by
  obtain ⟨hfn, hold, hend, hlt, hleft⟩ := hrep
  obtain ⟨n, hn, hvalid⟩ := hbuffer
  obtain ⟨rest, hgot⟩ := hold.header
  have htwo : 2 ≤ got.length := by
    rw [hgot]
    simp
  have hacc : rxAccesses ops h w c = [.write (some (packet + got.length))] := by
    simp only [rxAccesses, hfn, hend]
  apply RxSafe.of_accesses
  case hnull => simp [hacc]
  case table => simp [hacc]
  case inBuffer =>
    intro a ha
    rw [hacc, List.mem_singleton] at ha
    cases ha
    exact ⟨packet, n, got.length, hvalid, rfl, by omega⟩
  case header => simp [hfn]
  case payload => exact fun _ => ⟨p, packet, got.length, hold.currentOp, hold.currentPacket, hend, htwo, hlt,
    by omega⟩

lemma RxSafe.complete {p : ρ} {packet : Addr} {got : List UInt8}
    (hrep : Rep ops h w (.complete p packet got)) : RxSafe ops valid h w c := by
  obtain ⟨hfn, hold, -⟩ := hrep
  have hacc : ∀ a ∈ rxAccesses ops h w c, a = .operation (some p) ∨ a = .packet (some packet) := by
    intro a ha
    simp only [rxAccesses, hfn, hold.currentOp, hold.currentPacket] at ha
    split at ha
    · simpa using ha
    · cases ha
  apply RxSafe.of_accesses
  case hnull =>
    intro a ha
    obtain rfl | rfl := hacc a ha <;> simp
  case table =>
    intro i hi
    obtain heq | heq := hacc _ hi <;> cases heq
  case inBuffer =>
    intro a ha
    obtain heq | heq := hacc _ ha <;> cases heq
  case header => simp [hfn]
  case payload => simp [hfn]

end

/-! ### Runs -/

section

variable {ops : ρ → PacketOperations σ} {valid : Addr → Nat → Prop}

/-- The receiver is in a phase of the decoder, with the operations it began with. -/
def ReceiverInvariant (ops : ρ → PacketOperations σ) (valid : Addr → Nat → Prop)
    (operations : Fin PACKET_TYPE_MAX → Option ρ) (s : PacketHandler ρ × World σ) : Prop :=
  s.1.operations = operations ∧ ∃ ph, Rep ops s.1 s.2 ph ∧ ph.Buffered ops valid

/-- A packet stays in the buffer that was valid when it was asked for. -/
lemma next_buffered {operations : Fin PACKET_TYPE_MAX → Option ρ}
    (hsafe : ∀ t p, operations t = some p → SafeOp ops valid p) {h : PacketHandler ρ}
    {w w' : World σ} {ph : Phase ρ} {buffer : Option Addr} {c : UInt8}
    (hops : h.operations = operations) (hrep : Rep ops h w ph) (hbuffered : ph.Buffered ops valid)
    (hw : WorldStep ops w buffer ph c w') : (ph.next ops operations buffer c).2.Buffered ops valid := by
  cases ph with
  | hunt =>
    simp only [Phase.next]
    split <;> trivial
  | sawAA =>
    simp only [Phase.next]
    split <;> trivial
  | sawSync =>
    simp only [Phase.next]
    split
    · split <;> trivial
    · trivial
  | sawType p =>
    obtain ⟨-, -, -, t, ht, -⟩ := hrep
    rw [hops] at ht
    simp only [Phase.next]
    split
    · trivial
    · next hsize =>
      rw [WorldStep, if_neg hsize] at hw
      obtain ⟨w₁, hinit, -⟩ := hw
      cases buffer with
      | none => trivial
      | some packet => exact (hsafe t p ht).buffer w packet w₁ hinit
  | body p packet got =>
    simp only [Phase.next]
    split <;> exact hbuffered
  | complete p packet got =>
    simp only [Phase.next]
    split <;> trivial

lemma ReceiverInvariant.step {operations : Fin PACKET_TYPE_MAX → Option ρ} (hfix : FixedOps ops operations)
    (hsafe : ∀ t p, operations t = some p → SafeOp ops valid p) {s s' : PacketHandler ρ × World σ}
    {c : UInt8} {e : RxEvent ρ} (hs : ReceiverInvariant ops valid operations s)
    (hstep : rxStep ops s c = .ok (e, s')) : ReceiverInvariant ops valid operations s' := by
  obtain ⟨hops, ph, hrep, hbuffered⟩ := hs
  obtain ⟨buffer, hw, -, hrep', hops', -, -⟩ := rxStep_refines (by rw [hops]; exact hfix) hrep hstep
  rw [hops] at hrep' hops'
  exact ⟨hops', _, hrep', next_buffered hsafe hops hrep hbuffered hw⟩

lemma ReceiverInvariant.safe {operations : Fin PACKET_TYPE_MAX → Option ρ}
    (hsafe : ∀ t p, operations t = some p → SafeOp ops valid p) {s : PacketHandler ρ × World σ}
    (hs : ReceiverInvariant ops valid operations s) (c : UInt8) : RxSafe ops valid s.1 s.2 c := by
  obtain ⟨hops, ph, hrep, hbuffered⟩ := hs
  cases ph with
  | hunt => exact .idle (.inl hrep)
  | sawAA => exact .idle (.inr hrep)
  | sawSync => exact .type hrep.1
  | sawType p =>
    obtain ⟨hfn, hcur, -, t, ht, -⟩ := hrep
    rw [hops] at ht
    exact .size hfn hcur (hsafe t p ht)
  | body p packet got => exact .body hrep hbuffered
  | complete p packet got => exact .complete hrep

lemma installAll_mem {h : PacketHandler ρ} {ps : List ρ} {t : Fin PACKET_TYPE_MAX} {p : ρ}
    (hp : (installAll ops h ps).operations t = some p) : h.operations t = some p ∨ p ∈ ps := by
  induction ps generalizing h with
  | nil => exact .inl hp
  | cons q ps ih =>
    obtain hold | hmem := ih (h := (h.installPacket ops q).2) hp
    · obtain hold | ⟨rfl, -⟩ := installPacket_operations ops h q t p hold
      · exact .inl hold
      · exact .inr List.mem_cons_self
    · exact .inr (List.mem_cons_of_mem q hmem)

end

/-- A receiver with operations of 4 to 254 bytes that ask for valid buffers accesses nothing it must
not, over every stream of bytes. -/
theorem receiver_memory_safe (ops : ρ → PacketOperations σ) (valid : Addr → Nat → Prop)
    (h₀ : PacketHandler ρ) (ps : List ρ) (hps : ∀ p ∈ ps, SafeOp ops valid p) (w : World σ)
    (stream : List UInt8) (events : List (RxEvent ρ)) (s : PacketHandler ρ × World σ)
    (hrun : StepMachine.run (rxStep ops) (installAll ops h₀.initializeHandler ps, w) stream =
      .ok (events, s)) (c : UInt8) :
    RxSafe ops valid s.1 s.2 c := by
  have hinit : ∀ t p, h₀.initializeHandler.operations t = some p → p ∈ ps := by
    intro t p hp
    cases hp
  have hfix : FixedOps ops (installAll ops h₀.initializeHandler ps).operations := by
    apply installAll_fixedOps
    · intro t p hp
      cases hp
    · exact fun p hp => ⟨by have := (hps p hp).four_le; omega, (hps p hp).le_max⟩
  have hsafe : ∀ t p, (installAll ops h₀.initializeHandler ps).operations t = some p →
      SafeOp ops valid p := by
    intro t p hp
    exact hps p ((installAll_mem hp).elim (hinit t p) id)
  have hs : ReceiverInvariant ops valid (installAll ops h₀.initializeHandler ps).operations s := by
    apply StepMachine.run_invariant _ _ (fun s c e s' hs => ReceiverInvariant.step hfix hsafe hs) hrun
    exact ⟨rfl, .hunt, installAll_rxFn ops h₀.initializeHandler ps, trivial⟩
  exact hs.safe hsafe c

/-- The two static variables of the host test. -/
def HostBuffer (packet : Addr) (n : Nat) : Prop :=
  ∃ p : HostPacket, packet = p.buffer ∧ n = p.packetSize.toNat

lemma hostPacket_safe (p : HostPacket) : SafeOp HostPacket.operations HostBuffer p where
  four_le := by cases p <;> decide
  le_max := by cases p <;> decide
  buffer := by
    intro w packet w' hinit
    have hbuffer : (HostPacket.operations p).initializeBufferFn (HostPacket.operations p).type
        (HostPacket.operations p).size w = .ok (some p.buffer, w) := by
      cases p <;> rfl
    rw [hbuffer] at hinit
    cases hinit
    exact ⟨p.packetSize.toNat, Nat.le_refl _, p, rfl, rfl⟩

/-- The receiver of the host test within a packet of type 0. -/
theorem receiver_memory_safe_packet0 :
    ∃ events s, StepMachine.run (rxStep HostPacket.operations)
        (installAll HostPacket.operations HostPacket.staticHandler.initializeHandler
          [.packet0, .packet1], HostPacket.staticWorld) [0xAA, 0x55, 0, 8, 1] = .ok (events, s) ∧
      s.1.rxFn = .rxPayload ∧ RxSafe HostPacket.operations HostBuffer s.1 s.2 4 := by
  obtain ⟨⟨events, s⟩, hrun, hfn⟩ : ∃ r, StepMachine.run (rxStep HostPacket.operations)
      (installAll HostPacket.operations HostPacket.staticHandler.initializeHandler
        [.packet0, .packet1], HostPacket.staticWorld) [0xAA, 0x55, 0, 8, 1] = .ok r ∧
      r.2.1.rxFn = .rxPayload := by
    decide
  exact ⟨events, s, hrun, hfn, receiver_memory_safe HostPacket.operations HostBuffer
    HostPacket.staticHandler [.packet0, .packet1] (fun p _ => hostPacket_safe p)
    HostPacket.staticWorld _ events s hrun 4⟩

end Orazio.Proofs
