import Orazio.Proofs.FrameReception

/-!
# Error detection

The checksum of a frame detects exactly those errors behind the size byte whose byte differences do not
cancel out.
-/

namespace Orazio.Proofs

variable {ρ σ : Type}

/-- The bytes of a frame in front of the payload. -/
def frameHead (op : PacketOperations σ) : List UInt8 :=
  [0xAA, 0x55, op.type, op.size]

/-- The bytes of a frame after the size byte. -/
def frameTail (op : PacketOperations σ) (payload : List UInt8) : List UInt8 :=
  payload ++ [Bytes.xorSum (op.type :: op.size :: payload)]

lemma length_frameTail (op : PacketOperations σ) (payload : List UInt8) :
    (frameTail op payload).length = payload.length + 1 := by
  simp [frameTail]

lemma xorSum_frameTail (op : PacketOperations σ) (payload : List UInt8) :
    Bytes.xorSum (frameTail op payload) = op.type ^^^ op.size := by
  rw [frameTail, Bytes.xorSum_concat, Bytes.xorSum_cons, Bytes.xorSum_cons]
  calc Bytes.xorSum payload ^^^ (op.type ^^^ (op.size ^^^ Bytes.xorSum payload))
      = op.type ^^^ op.size ^^^ (Bytes.xorSum payload ^^^ Bytes.xorSum payload) := by ac_rfl
    _ = op.type ^^^ op.size := by rw [UInt8.xor_self, UInt8.xor_zero]

/-- The differences to a frame cancel out exactly if the checksum fits the payload that arrives. -/
lemma differences_cancel_iff (op : PacketOperations σ) {payload altered : List UInt8} {c : UInt8}
    (hlen : altered.length = payload.length) :
    Bytes.xorSum (Bytes.differences (frameTail op payload) (altered ++ [c])) = 0 ↔
      c = Bytes.xorSum (op.type :: op.size :: altered) := by
  have hsame : (frameTail op payload).length = (altered ++ [c]).length := by
    rw [length_frameTail, List.length_append, List.length_singleton, hlen]
  rw [Bytes.xorSum_differences_eq_zero hsame, xorSum_frameTail, Bytes.xorSum_concat, Bytes.xorSum_cons,
    Bytes.xorSum_cons, ← UInt8.xor_right_inj (Bytes.xorSum altered), ← UInt8.xor_assoc _ _ c,
    UInt8.xor_self, UInt8.zero_xor, eq_comm]
  have hcomm : Bytes.xorSum altered ^^^ (op.type ^^^ op.size) =
      op.type ^^^ (op.size ^^^ Bytes.xorSum altered) := by ac_rfl
  rw [hcomm]

/-- The bytes are answered by `ChecksumError` in the end, nothing is delivered, and the receiver hunts
for the next frame. -/
def Rejects (ops : ρ → PacketOperations σ) (s : PacketHandler ρ × World σ) (stream : List UInt8) : Prop :=
  ∃ events s', StepMachine.run (rxStep ops) s stream = .ok (events ++ [⟨.checksumError, none⟩], s') ∧
    (∀ e ∈ events, Proceeds e) ∧ s'.1.rxFn = .rxAA ∧ s'.1.operations = s.1.operations

/-- The packet is delivered with the last of the bytes, answered by `SyncChecksum`. -/
def Accepts (ops : ρ → PacketOperations σ) (s : PacketHandler ρ × World σ) (op : ρ)
    (packet stream : List UInt8) : Prop :=
  ∃ events e s', StepMachine.run (rxStep ops) s stream = .ok (events ++ [e], s') ∧
    (∀ e ∈ events, Proceeds e) ∧ e.status = .syncChecksum ∧
    (match (ops op).onReceiveFn with
      | none => e.received = none
      | some _ => ∃ r, e.received = some r ∧ r.op = op ∧ r.bytes packet.length = packet) ∧
    s'.1.rxFn = .rxAA ∧ s'.1.operations = s.1.operations

variable {ops : ρ → PacketOperations σ} {s : PacketHandler ρ × World σ} {op : ρ}

/-- The last byte of a frame decides. -/
lemma run_checksum (hrep : Rep ops s.1 s.2 .hunt) {t : Fin PACKET_TYPE_MAX}
    (ht : s.1.operations t = some op) (hfixed : FixedOp ops t op) {packet : Addr} {w' : World σ}
    (hinit : (ops op).initializeBufferFn (ops op).type (ops op).size s.2 = .ok (some packet, w'))
    {payload : List UInt8} (hlen : payload.length + 2 = (ops op).size.toNat) (c : UInt8) :
    (c ≠ Bytes.xorSum ((ops op).type :: (ops op).size :: payload) →
      Rejects ops s (frameHead (ops op) ++ (payload ++ [c]))) ∧
    (c = Bytes.xorSum ((ops op).type :: (ops op).size :: payload) →
      (∀ onReceive, (ops op).onReceiveFn = some onReceive → ∀ packet w, ∃ w', onReceive packet w = .ok w') →
      Accepts ops s op ((ops op).type :: (ops op).size :: payload)
        (frameHead (ops op) ++ (payload ++ [c]))) := by
  obtain ⟨es, h₁, hrun₁, hrep₁, hops₁, hes, -⟩ := run_packet hrep ht hfixed hinit hlen
  generalize storeAll w' packet ((ops op).type :: (ops op).size :: payload) = w₁ at hrun₁ hrep₁
  have hproceed : ∀ e ∈ headerEvents ρ ++ es, Proceeds e := by
    intro e he
    rcases List.mem_append.mp he with he | he
    · exact headerEvents_proceed he
    · exact (hes e he).proceeds
  rw [← List.append_assoc]
  constructor
  · intro hc
    have hstay : WorldStep ops w₁ none (.complete op packet
        ((ops op).type :: (ops op).size :: payload)) c w₁ := by rw [WorldStep, if_neg hc]
    obtain ⟨h₂, hs₂, hrep₂, hops₂⟩ := rxStep_of_worldStep (s := (h₁, w₁)) c none (by simp) hrep₁ hstay
    simp only [Phase.next, if_neg hc, Phase.delivery] at hs₂ hrep₂
    exact ⟨_, _, StepMachine.run_concat_eq_ok.mpr ⟨_, _, _, hrun₁, hs₂, rfl⟩, hproceed, hrep₂,
      hops₂.trans hops₁⟩
  · intro hc hreturns
    cases hrecv : (ops op).onReceiveFn with
    | none =>
      have hstay : WorldStep ops w₁ none (.complete op packet
          ((ops op).type :: (ops op).size :: payload)) c w₁ := by rw [WorldStep, if_pos hc, hrecv]
      obtain ⟨h₂, hs₂, hrep₂, hops₂⟩ := rxStep_of_worldStep (s := (h₁, w₁)) c none (by simp) hrep₁ hstay
      simp only [Phase.next, if_pos hc, Phase.delivery, hrecv, Option.map_none] at hs₂ hrep₂
      exact ⟨_, _, _, StepMachine.run_concat_eq_ok.mpr ⟨_, _, _, hrun₁, hs₂, rfl⟩, hproceed, rfl,
        by rw [hrecv], hrep₂, hops₂.trans hops₁⟩
    | some onReceive =>
      obtain ⟨w₂, hcall⟩ := hreturns onReceive hrecv packet w₁
      have hmove : WorldStep ops w₁ none (.complete op packet
          ((ops op).type :: (ops op).size :: payload)) c w₂ := by
        rw [WorldStep, if_pos hc, hrecv]
        exact hcall
      obtain ⟨h₂, hs₂, hrep₂, hops₂⟩ := rxStep_of_worldStep (s := (h₁, w₁)) c none (by simp) hrep₁ hmove
      simp only [Phase.next, if_pos hc, Phase.delivery, hrecv, Option.map_some] at hs₂ hrep₂
      refine ⟨_, _, _, StepMachine.run_concat_eq_ok.mpr ⟨_, _, _, hrun₁, hs₂, rfl⟩, hproceed, rfl, ?_,
        hrep₂, hops₂.trans hops₁⟩
      rw [hrecv]
      exact ⟨_, rfl, rfl, hrep₁.2.1.stored⟩

/-- A frame whose bytes after the size byte were replaced is rejected with its last byte unless the
differences cancel out, as those of a single byte never do; then the packet that arrives is delivered. -/
theorem errors_detected (hidle : s.1.rxFn = .rxAA) {t : Fin PACKET_TYPE_MAX}
    (ht : s.1.operations t = some op) (hfixed : FixedOp ops t op)
    (hsupplies : ∃ packet w', (ops op).initializeBufferFn (ops op).type (ops op).size s.2 =
      .ok (some packet, w'))
    {payload altered : List UInt8} (hlen : payload.length + 2 = (ops op).size.toNat)
    (haltered : altered.length = payload.length) (c : UInt8) :
    (Bytes.xorSum (Bytes.differences (frameTail (ops op) payload) (altered ++ [c])) ≠ 0 →
      Rejects ops s (frameHead (ops op) ++ (altered ++ [c]))) ∧
    (∀ (i : Nat) (hi : i < (frameTail (ops op) payload).length) (d : UInt8),
      (frameTail (ops op) payload)[i] ≠ d → altered ++ [c] = (frameTail (ops op) payload).set i d →
      Rejects ops s (frameHead (ops op) ++ (altered ++ [c]))) ∧
    (Bytes.xorSum (Bytes.differences (frameTail (ops op) payload) (altered ++ [c])) = 0 →
      (∀ onReceive, (ops op).onReceiveFn = some onReceive → ∀ packet w, ∃ w', onReceive packet w = .ok w') →
      Accepts ops s op ((ops op).type :: (ops op).size :: altered)
        (frameHead (ops op) ++ (altered ++ [c]))) := by
  obtain ⟨packet, w', hinit⟩ := hsupplies
  have hlen' : altered.length + 2 = (ops op).size.toNat := by
    rw [haltered]
    exact hlen
  obtain ⟨hreject, haccept⟩ := run_checksum hidle ht hfixed hinit hlen' c
  have hcancel := differences_cancel_iff (ops op) (c := c) haltered
  have hbad : Bytes.xorSum (Bytes.differences (frameTail (ops op) payload) (altered ++ [c])) ≠ 0 →
      Rejects ops s (frameHead (ops op) ++ (altered ++ [c])) :=
    fun hne => hreject fun hc => hne (hcancel.mpr hc)
  refine ⟨hbad, ?_, fun hzero => haccept (hcancel.mp hzero)⟩
  intro i hi d hd hset
  apply hbad
  rw [hset, ne_eq, Bytes.xorSum_differences_eq_zero (by rw [List.length_set])]
  exact Bytes.xorSum_set_ne hi hd

/-- The receiver of the host test with a packet of type 0 in which one byte changed, or two bytes by the
same difference. -/
theorem errors_detected_packet0 :
    Rejects HostPacket.operations (installAll HostPacket.operations
      HostPacket.staticHandler.initializeHandler [.packet0, .packet1], HostPacket.staticWorld)
      [0xAA, 0x55, 0, 8, 1, 0, 4, 3, 2, 9, 13] ∧
    Accepts HostPacket.operations (installAll HostPacket.operations
      HostPacket.staticHandler.initializeHandler [.packet0, .packet1], HostPacket.staticWorld) .packet0
      [0, 8, 1, 0, 4, 3, 3, 0] [0xAA, 0x55, 0, 8, 1, 0, 4, 3, 3, 0, 13] := by
  have hfixed : FixedOp HostPacket.operations 0 .packet0 := ⟨rfl, by decide, by decide⟩
  have hone := @errors_detected _ _ HostPacket.operations (installAll HostPacket.operations
      HostPacket.staticHandler.initializeHandler [.packet0, .packet1], HostPacket.staticWorld) .packet0
    rfl 0 rfl hfixed ⟨_, _, rfl⟩ [1, 0, 4, 3, 2, 1] [1, 0, 4, 3, 2, 9] rfl rfl 13
  have htwo := @errors_detected _ _ HostPacket.operations (installAll HostPacket.operations
      HostPacket.staticHandler.initializeHandler [.packet0, .packet1], HostPacket.staticWorld) .packet0
    rfl 0 rfl hfixed ⟨_, _, rfl⟩ [1, 0, 4, 3, 2, 1] [1, 0, 4, 3, 3, 0] rfl rfl 13
  refine ⟨hone.2.1 5 (by decide) 9 (by decide) rfl, htwo.2.2 rfl ?_⟩
  intro onReceive hrecv packet w
  cases hrecv
  exact ⟨_, rfl⟩

end Orazio.Proofs
