import Orazio.Lib.StepMachine
import Orazio.Model.HostTest
import Orazio.Proofs.FrameDecoder
import Orazio.Proofs.TransmitRing

/-!
# What the receiver delivers

A receiver is run over a byte stream. Every delivery comes from a complete frame that ends the
stream received so far, and no byte belongs to the frames of two deliveries.
-/

namespace Orazio.Proofs

variable {ρ σ : Type}

structure RxEvent (ρ : Type) where
  status : PacketStatus
  received : Option (PacketHandler.Received ρ)

/-- `PacketHandler_rxByte` as a step on the handler and the world. -/
def rxStep (ops : ρ → PacketOperations σ) (s : PacketHandler ρ × World σ) (c : UInt8) :
    Except Fault (RxEvent ρ × (PacketHandler ρ × World σ)) :=
  match s.1.rxByte ops s.2 c with
  | .error e => .error e
  | .ok r => .ok (⟨r.status, r.received⟩, (r.handler, r.world))

def installAll (ops : ρ → PacketOperations σ) (h : PacketHandler ρ) (ps : List ρ) : PacketHandler ρ :=
  ps.foldl (fun h p => (h.installPacket ops p).2) h

/-- A delivered packet: the number of bytes received when it was delivered, its operation and
its bytes. -/
structure Delivered (ρ : Type) where
  stop : Nat
  op : ρ
  packet : List UInt8

def Delivered.start (d : Delivered ρ) : Nat :=
  d.stop - (d.packet.length + 3)

/-- What is delivered by the byte that comes after `n` others. -/
def Phase.arrival (n : Nat) : Phase ρ → UInt8 → List (Delivered ρ)
  | .complete op _ got, c => if c = Bytes.xorSum got then [⟨n + 1, op, got⟩] else []
  | _, _ => []

/-- The delivery is backed by the stream: the installed operation `op` has the type and the size
that the packet starts with, the last bytes up to `stop` are the frame of the packet, and
`on_receive_fn` was called with the bytes of the packet. -/
structure Delivered.Sound (ops : ρ → PacketOperations σ)
    (operations : Fin PACKET_TYPE_MAX → Option ρ) (stream : List UInt8) (events : List (RxEvent ρ))
    (d : Delivered ρ) : Prop where
  installed : ∃ t payload, operations t = some d.op ∧
    d.packet = UInt8.ofNat t :: (ops d.op).size :: payload
  length : d.packet.length = (ops d.op).size.toNat
  segment : frame d.packet <:+ stream.take d.stop
  call : ∃ e, events[d.stop - 1]? = some e ∧
    match (ops d.op).onReceiveFn with
    | none => e.received = none
    | some _ => ∃ r, e.received = some r ∧ r.op = d.op ∧ r.bytes d.packet.length = d.packet

lemma rxStep_refines {ops : ρ → PacketOperations σ} {s s' : PacketHandler ρ × World σ} {c : UInt8}
    {e : RxEvent ρ} {ph : Phase ρ} (hfix : FixedOps ops s.1.operations) (hrep : Rep ops s.1 s.2 ph)
    (hstep : rxStep ops s c = .ok (e, s')) :
    ∃ buffer, WorldStep ops s.2 buffer ph c s'.2 ∧
      e.status = (ph.next ops s.1.operations buffer c).1 ∧
      Rep ops s'.1 s'.2 (ph.next ops s.1.operations buffer c).2 ∧
      s'.1.operations = s.1.operations ∧ s'.1.toTxFields = s.1.toTxFields ∧
      e.received = ph.delivery ops s.2 c := by
  unfold rxStep at hstep
  cases hrx : s.1.rxByte ops s.2 c with
  | error f => simp [hrx] at hstep
  | ok r =>
    rw [hrx] at hstep
    cases hstep
    obtain ⟨buffer, hw, hspec⟩ := rxByte_refines hfix hrep hrx
    exact ⟨buffer, hw, hspec.status, hspec.rep, hspec.operations, hspec.tx, hspec.received⟩

lemma rxStep_of_worldStep {ops : ρ → PacketOperations σ} {s : PacketHandler ρ × World σ} (c : UInt8)
    {ph : Phase ρ} (buffer : Option Addr) {w' : World σ}
    (hfix : ph = .sawSync → ∀ t op, s.1.operations t = some op → (t : Nat) = c.toNat → FixedOp ops t op)
    (hrep : Rep ops s.1 s.2 ph) (hw : WorldStep ops s.2 buffer ph c w') :
    ∃ h', rxStep ops s c = .ok (⟨(ph.next ops s.1.operations buffer c).1, ph.delivery ops s.2 c⟩,
        (h', w')) ∧
      Rep ops h' w' (ph.next ops s.1.operations buffer c).2 ∧ h'.operations = s.1.operations := by
  obtain ⟨r, hrx, hworld, hspec⟩ := rxByte_of_worldStep hfix hrep hw
  refine ⟨r.handler, ?_, ?_, hspec.operations⟩
  · rw [rxStep, hrx, ← hspec.status, ← hspec.received, ← hworld]
  · rw [← hworld]
    exact hspec.rep

/-! ### Steps of the decoder -/

lemma next_syncChecksum (ops : ρ → PacketOperations σ) (operations : Fin PACKET_TYPE_MAX → Option ρ)
    (buffer : Option Addr) (ph : Phase ρ) (c : UInt8) :
    (ph.next ops operations buffer c).1 = .syncChecksum ↔
      ∃ op packet got, ph = .complete op packet got ∧ c = Bytes.xorSum got := by
  cases ph with
  | hunt => by_cases hc : c = 0xAA <;> simp [Phase.next, hc]
  | sawAA => by_cases hc : c = 0x55 <;> simp [Phase.next, hc]
  | sawSync =>
    by_cases hc : c.toNat < PACKET_TYPE_MAX
    · cases hop : operations ⟨c.toNat, hc⟩ <;> simp [Phase.next, hc, hop]
    · simp [Phase.next, hc]
  | sawType op => by_cases hc : (ops op).size = c <;> cases buffer <;> simp [Phase.next, hc]
  | body op packet got =>
    by_cases hc : got.length + 1 = (ops op).size.toNat <;> simp [Phase.next, hc]
  | complete op packet got => by_cases hc : c = Bytes.xorSum got <;> simp [Phase.next, hc]

/-- A byte that completes nothing extends the current frame or sends the decoder back to
hunting. -/
lemma next_received {ops : ρ → PacketOperations σ} {operations : Fin PACKET_TYPE_MAX → Option ρ}
    (hfix : FixedOps ops operations) (buffer : Option Addr) (ph : Phase ρ) (c : UInt8) :
    ((ph.next ops operations buffer c).2.received ops = ph.received ops ++ [c]) ∨
      (ph.next ops operations buffer c).2 = .hunt := by
  cases ph with
  | hunt => by_cases hc : c = 0xAA <;> simp [Phase.next, Phase.received, hc]
  | sawAA => by_cases hc : c = 0x55 <;> simp [Phase.next, Phase.received, hc]
  | sawSync =>
    by_cases hc : c.toNat < PACKET_TYPE_MAX
    · cases hop : operations ⟨c.toNat, hc⟩ with
      | none => simp [Phase.next, hc, hop]
      | some op =>
        have htype : (ops op).type = c := UInt8.toNat_inj.mp (hfix _ _ hop).type
        simp [Phase.next, Phase.received, hc, hop, htype]
    · simp [Phase.next, hc]
  | sawType op =>
    by_cases hc : (ops op).size = c <;> cases buffer <;> simp [Phase.next, Phase.received, hc]
  | body op packet got =>
    by_cases hc : got.length + 1 = (ops op).size.toNat <;> simp [Phase.next, Phase.received, hc]
  | complete op packet got => by_cases hc : c = Bytes.xorSum got <;> simp [Phase.next, hc]

/-! ### Histories -/

lemma Delivered.Sound.extend {ops : ρ → PacketOperations σ}
    {operations : Fin PACKET_TYPE_MAX → Option ρ} {stream : List UInt8} {events : List (RxEvent ρ)}
    {d : Delivered ρ} (hd : d.Sound ops operations stream events) (hstop : d.stop ≤ stream.length)
    (c : UInt8) (e : RxEvent ρ) : d.Sound ops operations (stream ++ [c]) (events ++ [e]) := by
  refine ⟨hd.installed, hd.length, ?_, ?_⟩
  · rw [List.take_append_of_le_length hstop]
    exact hd.segment
  · obtain ⟨e', he, hcall⟩ := hd.call
    exact ⟨e', List.getElem?_append_left (List.getElem?_eq_some_iff.mp he).1 ▸ he, hcall⟩

/-- The state of a receiver together with everything it has received and delivered. -/
structure RxHistory (ops : ρ → PacketOperations σ) (operations : Fin PACKET_TYPE_MAX → Option ρ)
    (stream : List UInt8) (events : List (RxEvent ρ)) (s : PacketHandler ρ × World σ)
    (ph : Phase ρ) (ds : List (Delivered ρ)) : Prop where
  operations_eq : s.1.operations = operations
  rep : Rep ops s.1 s.2 ph
  current : ∃ before, stream = before ++ ph.received ops ∧ ∀ d ∈ ds, d.stop ≤ before.length
  events_length : events.length = stream.length
  delivered : ∀ i, (∃ e, events[i]? = some e ∧ e.status = .syncChecksum) ↔ ∃ d ∈ ds, d.stop = i + 1
  sound : ∀ d ∈ ds, d.Sound ops operations stream events
  disjoint : ds.Pairwise fun d d' => d.stop ≤ d'.start

lemma RxHistory.nil {ops : ρ → PacketOperations σ} {s : PacketHandler ρ × World σ}
    (hs : s.1.rxFn = .rxAA) : RxHistory ops s.1.operations [] [] s .hunt [] where
  operations_eq := rfl
  rep := hs
  current := ⟨[], rfl, by simp⟩
  events_length := rfl
  delivered := by simp
  sound := by simp
  disjoint := List.Pairwise.nil

lemma getElem?_concat_iff {α : Type} (l : List α) (x : α) (i : Nat) (P : α → Prop) :
    (∃ e, (l ++ [x])[i]? = some e ∧ P e) ↔ (∃ e, l[i]? = some e ∧ P e) ∨ (i = l.length ∧ P x) := by
  rcases Nat.lt_trichotomy i l.length with hi | hi | hi
  · rw [List.getElem?_append_left hi]
    have hne : i ≠ l.length := by omega
    simp [hne]
  · subst hi
    rw [List.getElem?_concat_length, List.getElem?_eq_none (Nat.le_refl _)]
    simp
  · have hne : i ≠ l.length := by omega
    rw [List.getElem?_eq_none (by simp; omega), List.getElem?_eq_none (by omega)]
    simp [hne]

lemma RxHistory.silent {ops : ρ → PacketOperations σ} {operations : Fin PACKET_TYPE_MAX → Option ρ}
    {stream : List UInt8} {events : List (RxEvent ρ)} {s s' : PacketHandler ρ × World σ}
    {ph ph' : Phase ρ} {ds : List (Delivered ρ)} (hh : RxHistory ops operations stream events s ph ds)
    {c : UInt8} {e : RxEvent ρ} (hops : s'.1.operations = operations) (hrep : Rep ops s'.1 s'.2 ph')
    (hnext : ph'.received ops = ph.received ops ++ [c] ∨ ph' = .hunt)
    (hstatus : e.status ≠ .syncChecksum) :
    RxHistory ops operations (stream ++ [c]) (events ++ [e]) s' ph' ds where
  operations_eq := hops
  rep := hrep
  current := by
    obtain ⟨before, hstream, hbefore⟩ := hh.current
    rcases hnext with hnext | hnext
    · exact ⟨before, by rw [hnext, hstream, List.append_assoc], hbefore⟩
    · refine ⟨stream ++ [c], by simp [hnext, Phase.received], ?_⟩
      intro d hd
      have := hbefore d hd
      rw [hstream]
      simp only [List.length_append]
      omega
  events_length := by simp [hh.events_length]
  delivered := by
    intro i
    rw [getElem?_concat_iff]
    simp [hh.delivered i, hstatus]
  sound := by
    intro d hd
    obtain ⟨before, hstream, hbefore⟩ := hh.current
    refine (hh.sound d hd).extend ?_ c e
    have := hbefore d hd
    rw [hstream]
    simp only [List.length_append]
    omega
  disjoint := hh.disjoint

lemma RxHistory.deliver {ops : ρ → PacketOperations σ} {operations : Fin PACKET_TYPE_MAX → Option ρ}
    {stream : List UInt8} {events : List (RxEvent ρ)} {s s' : PacketHandler ρ × World σ}
    {op : ρ} {packet : Addr} {got : List UInt8} {ds : List (Delivered ρ)}
    (hh : RxHistory ops operations stream events s (.complete op packet got) ds)
    (hops : s'.1.operations = operations) (hrep : Rep ops s'.1 s'.2 .hunt) :
    RxHistory ops operations (stream ++ [Bytes.xorSum got])
      (events ++ [⟨.syncChecksum, (Phase.complete op packet got).delivery ops s.2 (Bytes.xorSum got)⟩])
      s' .hunt (ds ++ [⟨stream.length + 1, op, got⟩]) := by
  obtain ⟨before, hstream, hbefore⟩ := hh.current
  obtain ⟨-, hold, hlen⟩ := hh.rep
  have hlast : stream.length = before.length + (got.length + 2) := by
    rw [hstream]
    simp [Phase.received]
  have hstop : ∀ d ∈ ds, d.stop ≤ stream.length := by
    intro d hd
    have := hbefore d hd
    omega
  refine ⟨hops, hrep, ⟨stream ++ [Bytes.xorSum got], by simp [Phase.received], ?_⟩,
    by simp [hh.events_length], ?_, ?_, ?_⟩
  · intro d hd
    rw [List.length_append, List.length_singleton]
    rcases List.mem_append.mp hd with hd | hd
    · have := hstop d hd
      omega
    · obtain rfl := List.mem_singleton.mp hd
      exact Nat.le_refl _
  · intro i
    rw [getElem?_concat_iff, hh.delivered i, hh.events_length]
    simp only [List.mem_append, List.mem_singleton, and_true]
    constructor
    · rintro (⟨d, hd, hi⟩ | hi)
      · exact ⟨d, .inl hd, hi⟩
      · exact ⟨_, .inr rfl, by rw [hi]⟩
    · rintro ⟨d, hd | hd, hi⟩
      · exact .inl ⟨d, hd, hi⟩
      · subst hd
        exact .inr (by simpa using hi.symm)
  · intro d hd
    rcases List.mem_append.mp hd with hd | hd
    · exact (hh.sound d hd).extend (hstop d hd) _ _
    · rw [List.mem_singleton.mp hd]
      obtain ⟨t, ht, hfixed⟩ := hold.installed
      obtain ⟨payload, hgot⟩ := hold.header
      rw [hh.operations_eq] at ht
      refine ⟨⟨t, payload, ht, ?_⟩, hlen, ?_, ?_⟩
      · have htype : (ops op).type = UInt8.ofNat t := by
          rw [← hfixed.type, UInt8.ofNat_toNat]
        rw [← htype]
        exact hgot
      · rw [List.take_of_length_le (by simp), hstream]
        exact ⟨before, by simp [frame, Phase.received]⟩
      · refine ⟨_, by rw [Nat.add_sub_cancel, ← hh.events_length, List.getElem?_concat_length], ?_⟩
        cases hrecv : (ops op).onReceiveFn with
        | none => simp [Phase.delivery, hrecv]
        | some onReceive =>
          refine ⟨⟨op, packet, s.2.mem⟩, by simp [Phase.delivery, hrecv], rfl, ?_⟩
          exact hold.stored
  · rw [List.pairwise_append]
    refine ⟨hh.disjoint, List.pairwise_singleton _ _, ?_⟩
    intro d hd d' hd'
    rw [List.mem_singleton.mp hd']
    have := hbefore d hd
    simp only [Delivered.start]
    omega

lemma arrival_of_not_syncChecksum {ops : ρ → PacketOperations σ}
    {operations : Fin PACKET_TYPE_MAX → Option ρ} {buffer : Option Addr} {ph : Phase ρ} {c : UInt8}
    (hsync : (ph.next ops operations buffer c).1 ≠ .syncChecksum) (n : Nat) :
    ph.arrival n c = [] := by
  cases ph with
  | complete op packet got =>
    by_cases hc : c = Bytes.xorSum got
    · exact absurd (by simp [Phase.next, hc]) hsync
    · rw [Phase.arrival, if_neg hc]
  | _ => rfl

/-- One more byte extends the history as the decoder says. -/
lemma RxHistory.next {ops : ρ → PacketOperations σ} {operations : Fin PACKET_TYPE_MAX → Option ρ}
    (hfix : FixedOps ops operations) {stream : List UInt8} {events : List (RxEvent ρ)}
    {s s' : PacketHandler ρ × World σ} {ph : Phase ρ} {ds : List (Delivered ρ)}
    (hh : RxHistory ops operations stream events s ph ds) (buffer : Option Addr) (c : UInt8)
    (hops : s'.1.operations = operations)
    (hrep : Rep ops s'.1 s'.2 (ph.next ops operations buffer c).2) :
    RxHistory ops operations (stream ++ [c])
      (events ++ [⟨(ph.next ops operations buffer c).1, ph.delivery ops s.2 c⟩]) s'
      (ph.next ops operations buffer c).2 (ds ++ ph.arrival stream.length c) := by
  by_cases hsync : (ph.next ops operations buffer c).1 = .syncChecksum
  · obtain ⟨op, packet, got, rfl, rfl⟩ := (next_syncChecksum ops operations buffer ph c).mp hsync
    rw [Phase.next, if_pos rfl] at hrep ⊢
    rw [Phase.arrival, if_pos rfl]
    exact hh.deliver hops hrep
  · rw [arrival_of_not_syncChecksum hsync, List.append_nil]
    exact hh.silent hops hrep (next_received hfix buffer ph c) hsync

/-- One more byte extends the history. -/
lemma RxHistory.step {ops : ρ → PacketOperations σ} {operations : Fin PACKET_TYPE_MAX → Option ρ}
    (hfix : FixedOps ops operations) {stream : List UInt8} {events : List (RxEvent ρ)}
    {s s' : PacketHandler ρ × World σ} {c : UInt8} {e : RxEvent ρ}
    (hh : ∃ ph ds, RxHistory ops operations stream events s ph ds)
    (hstep : rxStep ops s c = .ok (e, s')) :
    ∃ ph ds, RxHistory ops operations (stream ++ [c]) (events ++ [e]) s' ph ds := by
  obtain ⟨ph, ds, hh⟩ := hh
  have heq := hh.operations_eq
  obtain ⟨buffer, -, hstatus, hrep, hops, -, hrecv⟩ :=
    rxStep_refines (by rw [heq]; exact hfix) hh.rep hstep
  rw [heq] at hops hstatus hrep
  have he : e = ⟨(ph.next ops operations buffer c).1, ph.delivery ops s.2 c⟩ := by
    rw [← hstatus, ← hrecv]
  rw [he]
  exact ⟨_, _, hh.next hfix buffer c hops hrep⟩

theorem rx_run_history {ops : ρ → PacketOperations σ} {s₀ s : PacketHandler ρ × World σ}
    (hfix : FixedOps ops s₀.1.operations) (hs₀ : s₀.1.rxFn = .rxAA) {stream : List UInt8}
    {events : List (RxEvent ρ)} (hrun : StepMachine.run (rxStep ops) s₀ stream = .ok (events, s)) :
    ∃ ph ds, RxHistory ops s₀.1.operations stream events s ph ds :=
  StepMachine.run_history
    (fun stream events s => ∃ ph ds, RxHistory ops s₀.1.operations stream events s ph ds)
    ⟨.hunt, [], RxHistory.nil hs₀⟩ (fun _ _ _ _ _ _ hh hstep => RxHistory.step hfix hh hstep) hrun

/-! ### Receivers with installed operations -/

lemma installPacket_operations (ops : ρ → PacketOperations σ) (h : PacketHandler ρ) (p : ρ)
    (t : Fin PACKET_TYPE_MAX) (op : ρ) (ht : (h.installPacket ops p).2.operations t = some op) :
    h.operations t = some op ∨ (op = p ∧ (ops op).type.toNat = t) := by
  unfold PacketHandler.installPacket at ht
  split at ht
  · split at ht
    · exact .inl ht
    · by_cases heq : t = ⟨(ops p).type.toNat, by assumption⟩
      · rw [heq] at ht
        simp only [Function.update_self, Option.some.injEq] at ht
        subst ht
        exact .inr ⟨rfl, by rw [heq]⟩
      · simp only [Function.update_of_ne heq] at ht
        exact .inl ht
  · exact .inl ht

/-- Installing removes nothing. -/
lemma installPacket_keeps (ops : ρ → PacketOperations σ) {h : PacketHandler ρ} (p : ρ)
    {t : Fin PACKET_TYPE_MAX} {op : ρ} (ht : h.operations t = some op) :
    (h.installPacket ops p).2.operations t = some op := by
  unfold PacketHandler.installPacket
  split
  · split
    · exact ht
    · next hnone =>
      have hne : t ≠ ⟨(ops p).type.toNat, by assumption⟩ := by
        rintro rfl
        rw [ht] at hnone
        cases hnone
      exact (Function.update_of_ne hne _ _).trans ht
  · exact ht

lemma installPacket_free {ops : ρ → PacketOperations σ} {h : PacketHandler ρ} {p : ρ}
    {t : Fin PACKET_TYPE_MAX} (htype : (ops p).type.toNat = t) (hfree : h.operations t = none) :
    h.installPacket ops p =
      (.success, { h with operations := Function.update h.operations t (some p) }) := by
  have hlt : (ops p).type.toNat < PACKET_TYPE_MAX := by
    rw [htype]
    exact t.isLt
  have ht : (⟨(ops p).type.toNat, hlt⟩ : Fin PACKET_TYPE_MAX) = t := Fin.ext htype
  rw [PacketHandler.installPacket, dif_pos hlt, ht, hfree]

lemma installPacket_rxFn (ops : ρ → PacketOperations σ) (h : PacketHandler ρ) (p : ρ) :
    (h.installPacket ops p).2.rxFn = h.rxFn := by
  unfold PacketHandler.installPacket
  split
  · split <;> rfl
  · rfl

lemma installAll_rxFn (ops : ρ → PacketOperations σ) (h : PacketHandler ρ) (ps : List ρ) :
    (installAll ops h ps).rxFn = h.rxFn := by
  induction ps generalizing h with
  | nil => rfl
  | cons p ps ih => exact (ih _).trans (installPacket_rxFn ops h p)

lemma installAll_fixedOps {ops : ρ → PacketOperations σ} {h : PacketHandler ρ} {ps : List ρ}
    (hfix : FixedOps ops h.operations)
    (hps : ∀ p ∈ ps, 3 ≤ (ops p).size.toNat ∧ (ops p).size.toNat ≤ 254) :
    FixedOps ops (installAll ops h ps).operations := by
  induction ps generalizing h with
  | nil => exact hfix
  | cons p ps ih =>
    refine ih (h := (h.installPacket ops p).2) ?_ (fun q hq => hps q (List.mem_cons_of_mem p hq))
    intro t op ht
    rcases installPacket_operations ops h p t op ht with hold | ⟨rfl, htype⟩
    · exact hfix t op hold
    · exact ⟨htype, (hps op List.mem_cons_self).1, (hps op List.mem_cons_self).2⟩

/-- Every `SyncChecksum` stands for a complete frame at the end of the stream so far, `on_receive`
has been handed exactly its packet, and the frames of different deliveries do not overlap. -/
theorem delivery_sound (ops : ρ → PacketOperations σ) (h₀ : PacketHandler ρ) (ps : List ρ)
    (hps : ∀ p ∈ ps, 3 ≤ (ops p).size.toNat ∧ (ops p).size.toNat ≤ 254) (w : World σ)
    (stream : List UInt8) (events : List (RxEvent ρ)) (s : PacketHandler ρ × World σ)
    (hrun : StepMachine.run (rxStep ops) (installAll ops h₀.initializeHandler ps, w) stream =
      .ok (events, s)) :
    ∃ ds : List (Delivered ρ),
      (∀ i, (∃ e, events[i]? = some e ∧ e.status = .syncChecksum) ↔ ∃ d ∈ ds, d.stop = i + 1) ∧
      (∀ d ∈ ds, d.Sound ops (installAll ops h₀.initializeHandler ps).operations stream events) ∧
      ds.Pairwise fun d d' => d.stop ≤ d'.start := by
  have hfix : FixedOps ops (installAll ops h₀.initializeHandler ps).operations :=
    installAll_fixedOps (by intro t op ht; cases ht) hps
  obtain ⟨ph, ds, hh⟩ := rx_run_history hfix (installAll_rxFn ops h₀.initializeHandler ps) hrun
  exact ⟨ds, hh.delivered, hh.sound, hh.disjoint⟩

/-- The receiver of the host test with a packet of type 0 behind two bytes of noise. -/
theorem delivery_sound_packet0 :
    ∃ events s, StepMachine.run (rxStep HostPacket.operations)
        (installAll HostPacket.operations HostPacket.staticHandler.initializeHandler
          [.packet0, .packet1], HostPacket.staticWorld)
        (0x55 :: 0x01 :: frame [0, 8, 1, 0, 4, 3, 2, 1]) = .ok (events, s) ∧
      ∃ ds : List (Delivered HostPacket),
        (∀ i, (∃ e, events[i]? = some e ∧ e.status = .syncChecksum) ↔ ∃ d ∈ ds, d.stop = i + 1) ∧
        (∀ d ∈ ds, d.Sound HostPacket.operations (installAll HostPacket.operations
          HostPacket.staticHandler.initializeHandler [.packet0, .packet1]).operations
          (0x55 :: 0x01 :: frame [0, 8, 1, 0, 4, 3, 2, 1]) events) ∧
        ds.Pairwise fun d d' => d.stop ≤ d'.start := by
  obtain ⟨events, s, hrun⟩ : ∃ events s, StepMachine.run (rxStep HostPacket.operations)
      (installAll HostPacket.operations HostPacket.staticHandler.initializeHandler
        [.packet0, .packet1], HostPacket.staticWorld)
      (0x55 :: 0x01 :: frame [0, 8, 1, 0, 4, 3, 2, 1]) = .ok (events, s) := ⟨_, _, rfl⟩
  exact ⟨events, s, hrun, delivery_sound HostPacket.operations HostPacket.staticHandler
    [.packet0, .packet1] (by decide) HostPacket.staticWorld _ events s hrun⟩

end Orazio.Proofs
