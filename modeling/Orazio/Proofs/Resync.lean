import Mathlib.Algebra.Group.Nat.Even
import Mathlib.Data.List.DropRight
import Orazio.Proofs.Link

/-!
# Resynchronisation after line noise

Noise without a sync pair in front of a frame. `_rx55` drops the byte that broke the match, so a
run of 0xAA bytes is consumed in pairs: the frame survives if the run in front of it is even.
-/

namespace Orazio.Proofs

variable {ρ ρ' σ : Type} {ops : ρ → PacketOperations σ}

/-- No 0x55 is immediately preceded by 0xAA. -/
def NoSyncPair (noise : List UInt8) : Prop :=
  ¬[0xAA, 0x55] <:+: noise

/-- The number of 0xAA bytes that the noise ends with. -/
def trailingAA (noise : List UInt8) : Nat :=
  (noise.rtakeWhile (· == 0xAA)).length

/-- The frame a fresh handler has in its transmit ring after `sendPacket`. -/
def sentFrame (h₀ : PacketHandler ρ') (header : PacketBytes) : List UInt8 :=
  txContents (h₀.initializeHandler.sendPacket header).2.toTxFields

/-- The last byte of the stream delivers the packet. -/
def DeliversLast (ops : ρ → PacketOperations σ) (s : PacketHandler ρ × World σ)
    (stream : List UInt8) (header : PacketBytes) : Prop :=
  ∃ events r s', StepMachine.run (rxStep ops) s stream =
      .ok (events ++ [⟨.syncChecksum, some r⟩], s') ∧
    ReceivedAs s.1.operations r header

lemma sentFrame_eq (h₀ : PacketHandler ρ') {header : PacketBytes} (hmax : (header 1).toNat ≤ 253) :
    sentFrame h₀ header = frame (packetOf header) := by
  obtain ⟨t', hsend, hholds⟩ :=
    sendPacket_room (initializeTx_holds h₀.toTxFields) header (by simp; omega)
  have htx : (h₀.initializeHandler.sendPacket header).2.toTxFields = t' := by
    change (h₀.toTxFields.initializeTx.sendPacket header).2 = t'
    rw [hsend]
  rw [sentFrame, htx]
  exact hholds.contents_eq

lemma trailingAA_concat (noise : List UInt8) (c : UInt8) :
    trailingAA (noise ++ [c]) = if c = 0xAA then trailingAA noise + 1 else 0 := by
  unfold trailingAA
  by_cases hc : c = 0xAA
  · rw [if_pos hc, List.rtakeWhile_concat_pos _ _ _ (by simpa using hc), List.length_append,
      List.length_singleton]
  · rw [if_neg hc, List.rtakeWhile_concat_neg _ _ _ (by simpa using hc), List.length_nil]

lemma exists_append_of_trailingAA {noise : List UInt8} (h : trailingAA noise ≠ 0) :
    ∃ before, noise = before ++ [0xAA] := by
  cases noise using List.reverseRecOn with
  | nil => exact absurd rfl h
  | append_singleton before c =>
    rw [trailingAA_concat] at h
    by_cases hc : c = 0xAA
    · exact ⟨before, by rw [hc]⟩
    · exact absurd (if_neg hc) h

/-- The scanner after noise: it waits for 0x55 if an odd number of 0xAA bytes came last. -/
def scannerPhase (noise : List UInt8) : Phase ρ :=
  if Even (trailingAA noise) then .hunt else .sawAA

lemma scannerPhase_next (operations : Fin PACKET_TYPE_MAX → Option ρ) {noise : List UInt8}
    {c : UInt8} (hnoise : NoSyncPair (noise ++ [c])) :
    ((scannerPhase noise).next ops operations none c).2 = scannerPhase (noise ++ [c]) := by
  unfold scannerPhase
  rw [trailingAA_concat]
  by_cases hc : c = 0xAA
  · rw [if_pos hc]
    by_cases heven : Even (trailingAA noise)
    · have hodd : ¬Even (trailingAA noise + 1) := fun h => (Nat.even_add_one.mp h) heven
      rw [if_pos heven, if_neg hodd, Phase.next, if_pos hc]
    · have heven' : Even (trailingAA noise + 1) := Nat.even_add_one.mpr heven
      have hne : c ≠ 0x55 := by
        rw [hc]
        decide
      rw [if_neg heven, if_pos heven', Phase.next, if_neg hne]
  · rw [if_neg hc, if_pos Even.zero]
    by_cases heven : Even (trailingAA noise)
    · rw [if_pos heven, Phase.next, if_neg hc]
    · rw [if_neg heven]
      have hne : c ≠ 0x55 := by
        intro h
        have hpos : trailingAA noise ≠ 0 := by
          intro h
          rw [h] at heven
          exact heven Even.zero
        obtain ⟨before, hbefore⟩ := exists_append_of_trailingAA hpos
        apply hnoise
        exact ⟨before, [], by simp [hbefore, h]⟩
      rw [Phase.next, if_neg hne]

lemma noSyncPair_of_append {noise : List UInt8} {c : UInt8} (h : NoSyncPair (noise ++ [c])) :
    NoSyncPair noise := by
  intro hpair
  exact h (hpair.trans (List.prefix_append noise [c]).isInfix)

lemma scanner_worldStep (w : World σ) (noise : List UInt8) (c : UInt8) :
    WorldStep ops w none (scannerPhase noise) c w := by
  unfold scannerPhase
  by_cases heven : Even (trailingAA noise)
  · rw [if_pos heven]
    rfl
  · rw [if_neg heven]
    rfl

/-- Noise without a sync pair calls nothing back and leaves the receiver in the scanner. -/
lemma run_noise (ops : ρ → PacketOperations σ) {s : PacketHandler ρ × World σ}
    (hs : s.1.rxFn = .rxAA) {noise : List UInt8}
    (hnoise : NoSyncPair noise) :
    ∃ events h', StepMachine.run (rxStep ops) s noise = .ok (events, (h', s.2)) ∧
      Rep ops h' s.2 (scannerPhase noise) ∧ h'.operations = s.1.operations := by
  induction noise using List.reverseRecOn with
  | nil => exact ⟨[], s.1, rfl, hs, rfl⟩
  | append_singleton noise c ih =>
    obtain ⟨events, h', hrun, hrep, hops⟩ := ih (noSyncPair_of_append hnoise)
    have hscan : (scannerPhase noise : Phase ρ) ≠ .sawSync := by
      unfold scannerPhase
      split <;> simp
    obtain ⟨h'', hstep, hrep', hops'⟩ := rxStep_of_worldStep (s := (h', s.2)) c none
      (fun h => absurd h hscan) hrep (scanner_worldStep s.2 noise c)
    rw [scannerPhase_next h'.operations hnoise] at hrep'
    exact ⟨_, h'', StepMachine.run_concat_eq_ok.mpr ⟨events, _, _, hrun, hstep, rfl⟩, hrep',
      hops'.trans hops⟩

/-- Bytes that have been received in front do not matter for what the last byte delivers. -/
lemma deliversLast_append {s s₁ : PacketHandler ρ × World σ} {before rest : List UInt8}
    {events₁ : List (RxEvent ρ)} (hrun₁ : StepMachine.run (rxStep ops) s before = .ok (events₁, s₁))
    (hops : s₁.1.operations = s.1.operations) (hne : rest ≠ []) (header : PacketBytes) :
    DeliversLast ops s (before ++ rest) header ↔ DeliversLast ops s₁ rest header := by
  constructor
  · rintro ⟨events, r, s', hrun, has⟩
    obtain ⟨es₁, t, es₂, hr₁, hr₂, heq⟩ := StepMachine.run_append_eq_ok.mp hrun
    rw [hrun₁] at hr₁
    cases hr₁
    have hlen := StepMachine.run_length hr₂
    cases es₂ using List.reverseRecOn with
    | nil => exact absurd (List.length_eq_zero_iff.mp hlen.symm) hne
    | append_singleton es e =>
      rw [← List.append_assoc] at heq
      obtain ⟨-, hlast⟩ := List.append_inj' heq rfl
      cases hlast
      exact ⟨es, r, s', hr₂, by rw [hops]; exact has⟩
  · rintro ⟨events, r, s', hrun, has⟩
    rw [hops] at has
    refine ⟨events₁ ++ events, r, s', ?_, has⟩
    exact StepMachine.run_append_eq_ok.mpr ⟨events₁, s₁, _, hrun₁, hrun, List.append_assoc _ _ _⟩

/-- After noise that leaves the scanner hunting the frame is delivered. -/
lemma deliversLast_of_even {s : PacketHandler ρ × World σ} (hs : s.1.rxFn = .rxAA)
    {noise : List UInt8} (hnoise : NoSyncPair noise) {header : PacketBytes}
    (hp : Receivable ops s.1.operations s.2 header) (heven : Even (trailingAA noise)) :
    DeliversLast ops s (noise ++ frame (packetOf header)) header := by
  obtain ⟨events₁, h', hrun₁, hrep, hops⟩ := run_noise ops hs hnoise
  rw [scannerPhase, if_pos heven] at hrep
  rw [deliversLast_append hrun₁ hops (by simp [frame])]
  obtain ⟨events, r, s', hrun, -, -, -, has⟩ := run_receivable (s := (h', s.2)) hrep (by
    rw [hops]
    exact hp)
  exact ⟨events, r, s', hrun, has⟩

/-- A packet is not delivered by fewer bytes than its frame has. -/
lemma not_deliversLast_of_short {s : PacketHandler ρ × World σ} (hs : s.1.rxFn = .rxAA)
    (hfix : FixedOps ops s.1.operations) {stream : List UInt8} {header : PacketBytes}
    (hp : Receivable ops s.1.operations s.2 header)
    (hshort : stream.length < (frame (packetOf header)).length) :
    ¬DeliversLast ops s stream header := by
  rintro ⟨events, r, s', hrun, ⟨t, ht, heq⟩, -⟩
  obtain ⟨ph, ds, hh⟩ := rx_run_history hfix hs hrun
  obtain ⟨d, hd, hstop⟩ := (hh.delivered events.length).mp
    ⟨_, List.getElem?_concat_length, rfl⟩
  have hsound := hh.sound d hd
  obtain ⟨e, he, hcall⟩ := hsound.call
  rw [hstop, Nat.add_sub_cancel, List.getElem?_concat_length] at he
  cases he
  obtain ⟨-, -, t', op, hop, heq', -, hsize, -⟩ := hp
  have hr : r.op = op := by
    have htt : t = t' := Fin.ext (heq.trans heq'.symm)
    rw [htt, hop] at ht
    exact (Option.some.inj ht).symm
  have hdop : d.op = op := by
    cases hrecv : (ops d.op).onReceiveFn with
    | none => simp [hrecv] at hcall
    | some onReceive =>
      simp only [hrecv, Option.some.injEq] at hcall
      obtain ⟨r', rfl, hop', -⟩ := hcall
      rw [← hop', hr]
  have hlen : d.packet.length = (header 1).toNat := by
    rw [hsound.length, hdop, hsize]
  have hseg := hsound.segment.length_le
  rw [length_frame, hlen] at hseg
  rw [length_frame, length_packetOf] at hshort
  have htake := List.length_take_le' d.stop stream
  omega

/-- After noise that leaves the scanner waiting for 0x55 the sync pair of the frame is lost. -/
lemma not_deliversLast_of_odd {s : PacketHandler ρ × World σ} (hs : s.1.rxFn = .rxAA)
    (hfix : FixedOps ops s.1.operations) {noise : List UInt8} (hnoise : NoSyncPair noise)
    {header : PacketBytes} (hp : Receivable ops s.1.operations s.2 header)
    (hodd : ¬Even (trailingAA noise)) :
    ¬DeliversLast ops s (noise ++ frame (packetOf header)) header := by
  obtain ⟨events₁, h₁, hrun₁, hrep₁, hops₁⟩ := run_noise ops hs hnoise
  rw [scannerPhase, if_neg hodd] at hrep₁
  obtain ⟨h₂, hs₂, hrep₂, hops₂⟩ :=
    rxStep_of_worldStep (s := (h₁, s.2)) 0xAA none (by simp) hrep₁ rfl
  have hhunt₂ : (Phase.sawAA.next ops h₁.operations none 0xAA).2 = .hunt := by
    simp [Phase.next]
  rw [hhunt₂] at hrep₂
  obtain ⟨h₃, hs₃, hrep₃, hops₃⟩ :=
    rxStep_of_worldStep (s := (h₂, s.2)) 0x55 none (by simp) hrep₂ rfl
  have hhunt₃ : (Phase.hunt.next ops h₂.operations none 0x55).2 = .hunt := by
    simp [Phase.next]
  rw [hhunt₃] at hrep₃
  have hops : h₃.operations = s.1.operations := (hops₃.trans hops₂).trans hops₁
  have hrun₃ : StepMachine.run (rxStep ops) s (noise ++ [0xAA, 0x55]) = .ok (_, (h₃, s.2)) :=
    StepMachine.run_append_eq_ok.mpr ⟨events₁, _, _, hrun₁,
      StepMachine.run_cons_eq_ok.mpr ⟨_, _, _, hs₂,
        StepMachine.run_cons_eq_ok.mpr ⟨_, _, _, hs₃, rfl, rfl⟩, rfl⟩, rfl⟩
  have hsplit : noise ++ frame (packetOf header) =
      (noise ++ [0xAA, 0x55]) ++ (packetOf header ++ [Bytes.xorSum (packetOf header)]) := by
    simp [frame]
  rw [hsplit, deliversLast_append hrun₃ hops (by simp)]
  exact not_deliversLast_of_short (s := (h₃, s.2)) hrep₃ (by rw [hops]; exact hfix)
    (by rw [hops]; exact hp) (by simp [frame])

/-- Behind noise without a sync pair a sent frame is delivered exactly if the noise ends with an
even number of 0xAA bytes. -/
theorem resync_iff_even (ops : ρ → PacketOperations σ) (receiver : PacketHandler ρ) (w : World σ)
    (hhunt : receiver.rxFn = .rxAA) (hfix : FixedOps ops receiver.operations) (noise : List UInt8)
    (hnoise : NoSyncPair noise) (sender : PacketHandler ρ') (header : PacketBytes)
    (hp : Receivable ops receiver.operations w header) :
    DeliversLast ops (receiver, w) (noise ++ sentFrame sender header) header ↔
      Even (trailingAA noise) := by
  rw [sentFrame_eq sender hp.2.1]
  constructor
  · intro hdelivers
    by_contra hodd
    exact not_deliversLast_of_odd (s := (receiver, w)) hhunt hfix hnoise hp hodd hdelivers
  · exact deliversLast_of_even (s := (receiver, w)) hhunt hnoise hp

theorem resync_iff_even_host :
    DeliversLast HostPacket.operations (installAll HostPacket.operations
        HostPacket.staticHandler.initializeHandler [.packet0, .packet1], HostPacket.staticWorld)
        ([0x55, 0xAA, 0xAA] ++ sentFrame HostPacket.staticHandler hostPacket0) hostPacket0 ↔
      Even (trailingAA [0x55, 0xAA, 0xAA]) :=
  resync_iff_even HostPacket.operations _ HostPacket.staticWorld (by decide)
    (installAll_fixedOps (by intro t op ht; cases ht) (by decide)) _ (by unfold NoSyncPair; decide) _ _
    (hostPacket0_receivable _)

/-- A single 0xAA in front of the `Packet0` of the host test: no byte delivers anything. -/
theorem noise_costs_frame :
    let receiver := installAll HostPacket.operations HostPacket.staticHandler.initializeHandler
      [.packet0, .packet1]
    receiver.rxFn = .rxAA ∧ FixedOps HostPacket.operations receiver.operations ∧
      NoSyncPair [0xAA] ∧
      Receivable HostPacket.operations receiver.operations HostPacket.staticWorld hostPacket0 ∧
      (∃ events s', StepMachine.run (rxStep HostPacket.operations)
          (receiver, HostPacket.staticWorld)
          ([0xAA] ++ sentFrame HostPacket.staticHandler hostPacket0) = .ok (events, s') ∧
        events.map RxEvent.status = .syncAA :: List.replicate 11 .unsync) ∧
      ¬DeliversLast HostPacket.operations (receiver, HostPacket.staticWorld)
        ([0xAA] ++ sentFrame HostPacket.staticHandler hostPacket0) hostPacket0 := by
  have hall : ∃ events s', StepMachine.run (rxStep HostPacket.operations)
      (installAll HostPacket.operations HostPacket.staticHandler.initializeHandler
        [.packet0, .packet1], HostPacket.staticWorld)
      ([0xAA] ++ sentFrame HostPacket.staticHandler hostPacket0) = .ok (events, s') ∧
      events.map RxEvent.status = .syncAA :: List.replicate 11 .unsync :=
    ⟨_, _, rfl, rfl⟩
  refine ⟨by decide, installAll_fixedOps (by intro t op ht; cases ht) (by decide),
    by unfold NoSyncPair; decide, hostPacket0_receivable _, hall, ?_⟩
  rintro ⟨events, r, s', hrun, -⟩
  obtain ⟨es, t, hrun', hstatus⟩ := hall
  rw [hrun'] at hrun
  cases hrun
  have hmem : PacketStatus.syncChecksum ∈ .syncAA :: List.replicate 11 .unsync := by
    rw [← hstatus]
    simp
  simp at hmem

end Orazio.Proofs
