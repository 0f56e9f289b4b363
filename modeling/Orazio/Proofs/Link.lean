import Orazio.Proofs.FrameReception

/-!
# A sender linked to a receiver

The bytes one handler takes from its transmit ring are fed to another handler.
-/

namespace Orazio.Proofs

variable {ρ ρ' σ : Type}

/-- The packet can be received in this world: an operation with its type and size is installed,
whose callbacks serve it. -/
def Receivable (ops : ρ → PacketOperations σ) (operations : Fin PACKET_TYPE_MAX → Option ρ)
    (w : World σ) (header : PacketBytes) : Prop :=
  4 ≤ (header 1).toNat ∧ (header 1).toNat ≤ 253 ∧
    ∃ t op, operations t = some op ∧ (t : Nat) = (header 0).toNat ∧ (ops op).type = header 0 ∧
      (ops op).size = header 1 ∧ Serves (ops op) w

/-- The packet is what `on_receive_fn` of the operation installed for its type was given. -/
def ReceivedAs (operations : Fin PACKET_TYPE_MAX → Option ρ) (r : PacketHandler.Received ρ)
    (header : PacketBytes) : Prop :=
  (∃ t, operations t = some r.op ∧ (t : Nat) = (header 0).toNat) ∧
    r.bytes (header 1).toNat = packetOf header

variable {ops : ρ → PacketOperations σ}

lemma packetOf_eq_cons (header : PacketBytes) (hsize : 2 ≤ (header 1).toNat) :
    ∃ payload, packetOf header = header 0 :: header 1 :: payload ∧
      payload.length + 2 = (header 1).toNat := by
  obtain ⟨n, hn⟩ : ∃ n, (header 1).toNat = n + 1 + 1 := ⟨(header 1).toNat - 2, by omega⟩
  refine ⟨Bytes.read header 2 n, ?_, ?_⟩
  · rw [packetOf, hn, Bytes.read_succ', Bytes.read_succ']
  · rw [Bytes.length_read, hn]

/-- The frame of a receivable packet is delivered by a receiver that hunts. -/
lemma run_receivable {s : PacketHandler ρ × World σ} (hs : s.1.rxFn = .rxAA) {header : PacketBytes}
    (hp : Receivable ops s.1.operations s.2 header) :
    ∃ events r s', StepMachine.run (rxStep ops) s (frame (packetOf header)) =
        .ok (events ++ [⟨.syncChecksum, some r⟩], s') ∧
      s'.1.rxFn = .rxAA ∧ s'.1.operations = s.1.operations ∧ (∀ e ∈ events, Proceeds e) ∧
      ReceivedAs s.1.operations r header := by
  obtain ⟨hmin, hmax, t, op, hop, ht, htype, hsize, hserves⟩ := hp
  obtain ⟨payload, hpacket, hlen⟩ := packetOf_eq_cons header (by omega)
  have hfixed : FixedOp ops t op := by
    refine ⟨by rw [htype, ht], ?_, ?_⟩ <;> rw [hsize] <;> omega
  have hrep : Rep ops s.1 s.2 .hunt := hs
  obtain ⟨events, r, s', hrun, hrep', hops', hproceeds, hr, hbytes⟩ :=
    run_frame hrep hop hfixed hserves (by rw [hlen, hsize] : payload.length + 2 = _)
  rw [htype, hsize, ← hpacket] at hrun hbytes
  rw [hlen] at hbytes
  exact ⟨events, r, s', hrun, hrep', hops', hproceeds, ⟨t, by rw [hr, hop], ht⟩, hbytes⟩

lemma filterMap_received {events : List (RxEvent ρ)} (h : ∀ e ∈ events, Proceeds e)
    (r : PacketHandler.Received ρ) :
    (events ++ [RxEvent.mk .syncChecksum (some r)]).filterMap RxEvent.received = [r] := by
  have hnone : events.filterMap RxEvent.received = [] := by
    rw [List.filterMap_eq_nil_iff]
    intro e he
    exact (h e he).1
  rw [List.filterMap_append, hnone]
  rfl

lemma status_nonneg {events : List (RxEvent ρ)} (h : ∀ e ∈ events, Proceeds e)
    (received : Option (PacketHandler.Received ρ)) :
    ∀ e ∈ events ++ [RxEvent.mk .syncChecksum received], 0 ≤ e.status.code := by
  intro e he
  rcases List.mem_append.mp he with he | he
  · exact (h e he).2.1
  · rw [List.mem_singleton.mp he]
    simp [PacketStatus.code]

/-- The frames of receivable packets, one after the other. -/
lemma run_receivables {s : PacketHandler ρ × World σ} (hs : s.1.rxFn = .rxAA)
    {packets : List PacketBytes} (hp : ∀ p ∈ packets, ∀ w, Receivable ops s.1.operations w p) :
    ∃ rx s', StepMachine.run (rxStep ops) s (packets.flatMap fun p => frame (packetOf p)) =
        .ok (rx, s') ∧
      s'.1.rxFn = .rxAA ∧ (∀ e ∈ rx, 0 ≤ e.status.code) ∧
      List.Forall₂ (ReceivedAs s.1.operations) (rx.filterMap RxEvent.received) packets := by
  induction packets generalizing s with
  | nil => exact ⟨[], s, rfl, hs, by simp, List.Forall₂.nil⟩
  | cons p packets ih =>
    obtain ⟨events, r, s₁, hrun₁, hs₁, hops₁, hproceeds, has⟩ :=
      run_receivable hs (hp p List.mem_cons_self s.2)
    have hrest : ∀ q ∈ packets, ∀ w, Receivable ops s₁.1.operations w q := by
      intro q hq
      rw [hops₁]
      exact hp q (List.mem_cons_of_mem p hq)
    obtain ⟨rx₂, s₂, hrun₂, hs₂, hstatus₂, hall⟩ := ih hs₁ hrest
    rw [hops₁] at hall
    refine ⟨events ++ [⟨.syncChecksum, some r⟩] ++ rx₂, s₂, ?_, hs₂, ?_, ?_⟩
    · rw [List.flatMap_cons]
      exact StepMachine.run_append_eq_ok.mpr ⟨_, s₁, rx₂, hrun₁, hrun₂, rfl⟩
    · intro e he
      rcases List.mem_append.mp he with he | he
      · exact status_nonneg hproceeds (some r) e he
      · exact hstatus₂ e he
    · rw [List.filterMap_append, filterMap_received hproceeds]
      exact List.Forall₂.cons has hall

/-- What a drained sender has put on the wire is the frames of the accepted packets. -/
lemma txWire_drained (h₀ : PacketHandler ρ') {calls : List TxCall} {events : List TxEvent}
    {sender : PacketHandler ρ'}
    (hrun : StepMachine.run txStep h₀.initializeHandler calls = .ok (events, sender))
    (hdrained : sender.txSize = 0) :
    txWire events = (txAccepted events).flatMap fun p => frame (packetOf p) := by
  obtain ⟨q, hq, hwire⟩ := tx_run_invariant h₀ hrun
  have hnil : q = [] := by
    apply List.eq_nil_of_length_eq_zero
    have := hq.size_eq
    omega
  rw [← hwire, hnil, List.append_nil]

/-- Every packet accepted by a sender that is drained in the end reaches the receiver, once, in
order and unchanged. -/
theorem link_round_trip (ops : ρ → PacketOperations σ) (h₀ : PacketHandler ρ') (calls : List TxCall)
    (events : List TxEvent) (sender : PacketHandler ρ') (receiver : PacketHandler ρ) (w : World σ)
    (hsend : StepMachine.run txStep h₀.initializeHandler calls = .ok (events, sender))
    (hdrained : sender.txSize = 0) (hhunt : receiver.rxFn = .rxAA)
    (hpackets : ∀ p ∈ txAccepted events, ∀ w, Receivable ops receiver.operations w p) :
    ∃ rx s', StepMachine.run (rxStep ops) (receiver, w) (txWire events) = .ok (rx, s') ∧
      List.Forall₂ (ReceivedAs receiver.operations) (rx.filterMap RxEvent.received)
        (txAccepted events) ∧
      (∀ e ∈ rx, 0 ≤ e.status.code) ∧ s'.1.rxFn = .rxAA := by
  obtain ⟨rx, s', hrun, hs', hstatus, hall⟩ := run_receivables (s := (receiver, w)) hhunt hpackets
  rw [← txWire_drained h₀ hsend hdrained] at hrun
  exact ⟨rx, s', hrun, hall, hstatus, hs'⟩

/-- The `Packet0` of the host test with the bytes of some float. -/
def hostPacket0 : PacketBytes :=
  fun i => [0, 8, 1, 0, 4, 3, 2, 1].getD i 0

lemma hostPacket0_receivable (w : World Unit) :
    Receivable HostPacket.operations (installAll HostPacket.operations
      HostPacket.staticHandler.initializeHandler [.packet0, .packet1]).operations w hostPacket0 :=
  ⟨by decide, by decide, 0, .packet0, by decide, rfl, rfl, rfl, ⟨⟨_, _, rfl⟩,
    HostPacket.onReceive, rfl, fun _ w' => ⟨w', rfl⟩⟩⟩

/-- A packet is sent and partly drained, and so is a second one before the ring is emptied. -/
def hostCalls : List TxCall :=
  .sendPacket hostPacket0 :: List.replicate 7 .txByte ++
    .sendPacket hostPacket0 :: List.replicate 15 .txByte

theorem link_round_trip_host :
    ∃ events sender, StepMachine.run txStep HostPacket.staticHandler.initializeHandler hostCalls =
        .ok (events, sender) ∧ txAccepted events = [hostPacket0, hostPacket0] ∧
      ∃ rx s', StepMachine.run (rxStep HostPacket.operations) (installAll HostPacket.operations
          HostPacket.staticHandler.initializeHandler [.packet0, .packet1],
          HostPacket.staticWorld) (txWire events) = .ok (rx, s') ∧
        List.Forall₂ (ReceivedAs (installAll HostPacket.operations
          HostPacket.staticHandler.initializeHandler [.packet0, .packet1]).operations)
          (rx.filterMap RxEvent.received) (txAccepted events) ∧
        (∀ e ∈ rx, 0 ≤ e.status.code) ∧ s'.1.rxFn = .rxAA := by
  obtain ⟨events, sender, hrun, hdrained, haccepted⟩ : ∃ events sender,
      StepMachine.run txStep HostPacket.staticHandler.initializeHandler hostCalls =
        .ok (events, sender) ∧ sender.txSize = 0 ∧ txAccepted events = [hostPacket0, hostPacket0] :=
    ⟨_, _, rfl, by decide, rfl⟩
  refine ⟨events, sender, hrun, haccepted, ?_⟩
  refine link_round_trip HostPacket.operations HostPacket.staticHandler hostCalls events sender _
    HostPacket.staticWorld hrun hdrained (by decide) ?_
  intro p hp
  rw [haccepted] at hp
  have heq : p = hostPacket0 := by simpa using hp
  rw [heq]
  exact hostPacket0_receivable

end Orazio.Proofs
