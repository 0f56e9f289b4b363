import Orazio.Proofs.Delivery

/-!
# Receiving one frame

A receiver that hunts for a frame and is fed with one for an installed operation delivers it,
provided the callbacks of the operation serve it.
-/

namespace Orazio.Proofs

variable {ρ σ : Type}

/-- The operation supplies a buffer in this world and its `on_receive_fn` exists and returns. -/
structure Serves (op : PacketOperations σ) (w : World σ) : Prop where
  supplies : ∃ packet w', op.initializeBufferFn op.type op.size w = .ok (some packet, w')
  receives : ∃ onReceive, op.onReceiveFn = some onReceive ∧
    ∀ packet w', ∃ w'', onReceive packet w' = .ok w''

/-- A byte was taken without error and without completing a frame. -/
def Proceeds (e : RxEvent ρ) : Prop :=
  e.received = none ∧ 0 ≤ e.status.code ∧ e.status ≠ .syncChecksum

/-- A byte was stored in the packet buffer. -/
def InPayload (e : RxEvent ρ) : Prop :=
  e.received = none ∧ (e.status = .syncPayload ∨ e.status = .syncPayloadComplete)

lemma InPayload.proceeds {e : RxEvent ρ} (h : InPayload e) : Proceeds e := by
  obtain ⟨hnone, hstatus | hstatus⟩ := h
  · exact ⟨hnone, by rw [hstatus]; decide, by rw [hstatus]; decide⟩
  · exact ⟨hnone, by rw [hstatus]; decide, by rw [hstatus]; decide⟩

/-- The bytes are stored from the address on. -/
def storeAll (w : World σ) : Addr → List UInt8 → World σ
  | _, [] => w
  | a, c :: cs => storeAll (w.store a c) (a + 1) cs

variable {ops : ρ → PacketOperations σ} {s : PacketHandler ρ × World σ} {op : ρ}

lemma run_body (rest : List UInt8) {packet : Addr} {got : List UInt8}
    (hrep : Rep ops s.1 s.2 (.body op packet got)) (hne : rest ≠ [])
    (hlen : got.length + rest.length = (ops op).size.toNat) :
    ∃ events h', StepMachine.run (rxStep ops) s rest =
        .ok (events, (h', storeAll s.2 (packet + got.length) rest)) ∧
      Rep ops h' (storeAll s.2 (packet + got.length) rest) (.complete op packet (got ++ rest)) ∧
      h'.operations = s.1.operations ∧ ∀ e ∈ events, InPayload e := by
  induction rest generalizing s got with
  | nil => exact absurd rfl hne
  | cons c rest ih =>
    obtain ⟨h₁, hstep, hrep₁, hops₁⟩ :=
      rxStep_of_worldStep c none (by simp) hrep rfl
    simp only [List.length_cons] at hlen
    cases rest with
    | nil =>
      have hlast : got.length + 1 = (ops op).size.toNat := by simpa using hlen
      rw [Phase.next, if_pos hlast] at hrep₁ hstep
      refine ⟨_, h₁, StepMachine.run_cons_eq_ok.mpr ⟨_, _, [], hstep, rfl, rfl⟩, hrep₁, hops₁, ?_⟩
      intro e he
      rw [List.mem_singleton.mp he]
      exact ⟨rfl, .inr rfl⟩
    | cons d rest =>
      have hmore : ¬got.length + 1 = (ops op).size.toNat := by
        simp only [List.length_cons] at hlen
        omega
      rw [Phase.next, if_neg hmore] at hrep₁ hstep
      have hlen' : (got ++ [c]).length + (d :: rest).length = (ops op).size.toNat := by
        simp only [List.length_append, List.length_cons, List.length_nil] at hlen ⊢
        omega
      obtain ⟨events, h', hrun, hrep', hops', hall⟩ := ih (s := (h₁, _)) hrep₁ (by simp) hlen'
      have hnext : packet + (got ++ [c]).length = packet + got.length + 1 := by
        rw [List.length_append, List.length_singleton, Nat.add_assoc]
      rw [hnext] at hrun hrep'
      refine ⟨_, h', StepMachine.run_cons_eq_ok.mpr ⟨_, _, events, hstep, hrun, rfl⟩, ?_,
        hops'.trans hops₁, ?_⟩
      · rw [List.append_assoc] at hrep'
        exact hrep'
      · intro e he
        rcases List.mem_cons.mp he with rfl | he
        · exact ⟨rfl, .inl rfl⟩
        · exact hall e he

/-- What a hunting receiver answers to the bytes in front of a payload. -/
def headerEvents (ρ : Type) : List (RxEvent ρ) :=
  [⟨.syncAA, none⟩, ⟨.sync55, none⟩, ⟨.syncType, none⟩, ⟨.syncSize, none⟩]

lemma headerEvents_proceed {e : RxEvent ρ} (he : e ∈ headerEvents ρ) : Proceeds e := by
  simp only [headerEvents, List.mem_cons, List.not_mem_nil, or_false] at he
  rcases he with rfl | rfl | rfl | rfl <;> exact ⟨rfl, by simp [PacketStatus.code], by simp⟩

/-- The sync bytes, the type and the size bring a hunting receiver to the payload if it gets a
buffer. -/
lemma run_header (hrep : Rep ops s.1 s.2 .hunt) {t : Fin PACKET_TYPE_MAX}
    (ht : s.1.operations t = some op) (hfixed : FixedOp ops t op) {packet : Addr} {w' : World σ}
    (hinit : (ops op).initializeBufferFn (ops op).type (ops op).size s.2 = .ok (some packet, w')) :
    ∃ h', StepMachine.run (rxStep ops) s [0xAA, 0x55, (ops op).type, (ops op).size] =
        .ok (headerEvents ρ, (h', storeAll w' packet [(ops op).type, (ops op).size])) ∧
      Rep ops h' (storeAll w' packet [(ops op).type, (ops op).size])
        (.body op packet [(ops op).type, (ops op).size]) ∧
      h'.operations = s.1.operations := by
  obtain ⟨h₁, hs₁, hrep₁, hops₁⟩ := rxStep_of_worldStep 0xAA none (by simp) hrep rfl
  simp only [Phase.next, if_true, Phase.delivery] at hs₁ hrep₁
  obtain ⟨h₂, hs₂, hrep₂, hops₂⟩ := rxStep_of_worldStep (s := (h₁, s.2)) 0x55 none (by simp) hrep₁ rfl
  simp only [Phase.next, if_true, Phase.delivery] at hs₂ hrep₂
  rw [hops₁] at hops₂
  obtain ⟨h₃, hs₃, hrep₃, hops₃⟩ := rxStep_of_worldStep (s := (h₂, s.2)) (ops op).type none (by
    intro _ t' op' ht' heq
    have hteq : t' = t := Fin.ext (heq.trans hfixed.type)
    rw [hops₂, hteq, ht] at ht'
    cases ht'
    rw [hteq]
    exact hfixed) hrep₂ rfl
  have hlt : (ops op).type.toNat < PACKET_TYPE_MAX := by
    rw [hfixed.type]
    exact t.isLt
  have hlookup : s.1.operations ⟨(ops op).type.toNat, hlt⟩ = some op := by
    have hteq : (⟨(ops op).type.toNat, hlt⟩ : Fin PACKET_TYPE_MAX) = t := Fin.ext hfixed.type
    rw [hteq, ht]
  simp only [Phase.next, hops₂, dif_pos hlt, hlookup, Phase.delivery] at hs₃ hrep₃
  rw [hops₂] at hops₃
  obtain ⟨h₄, hs₄, hrep₄, hops₄⟩ := rxStep_of_worldStep (s := (h₃, s.2)) (ops op).size
    (some packet) (by simp) hrep₃ (by
      rw [WorldStep, if_neg (by simp)]
      exact ⟨w', hinit, rfl⟩)
  simp only [Phase.next, ne_eq, not_true_eq_false, if_false, Phase.delivery] at hs₄ hrep₄
  rw [hops₃] at hops₄
  exact ⟨h₄, StepMachine.run_cons_eq_ok.mpr ⟨_, _, _, hs₁,
    StepMachine.run_cons_eq_ok.mpr ⟨_, _, _, hs₂, StepMachine.run_cons_eq_ok.mpr ⟨_, _, _, hs₃,
    StepMachine.run_cons_eq_ok.mpr ⟨_, _, _, hs₄, rfl, rfl⟩, rfl⟩, rfl⟩, rfl⟩, hrep₄, hops₄⟩

/-- The bytes in front of the checksum. -/
lemma run_packet (hrep : Rep ops s.1 s.2 .hunt) {t : Fin PACKET_TYPE_MAX}
    (ht : s.1.operations t = some op) (hfixed : FixedOp ops t op) {packet : Addr} {w' : World σ}
    (hinit : (ops op).initializeBufferFn (ops op).type (ops op).size s.2 = .ok (some packet, w'))
    {payload : List UInt8} (hlen : payload.length + 2 = (ops op).size.toNat) :
    ∃ es h', StepMachine.run (rxStep ops) s
        ([0xAA, 0x55, (ops op).type, (ops op).size] ++ payload) =
        .ok (headerEvents ρ ++ es,
          (h', storeAll w' packet ((ops op).type :: (ops op).size :: payload))) ∧
      Rep ops h' (storeAll w' packet ((ops op).type :: (ops op).size :: payload))
        (.complete op packet ((ops op).type :: (ops op).size :: payload)) ∧
      h'.operations = s.1.operations ∧ (∀ e ∈ es, InPayload e) ∧ es.length = payload.length := by
  obtain ⟨h₁, hrun₁, hrep₁, hops₁⟩ := run_header hrep ht hfixed hinit
  have hne : payload ≠ [] := by
    intro hnil
    have := hfixed.three_le
    simp only [hnil, List.length_nil] at hlen
    omega
  obtain ⟨es, h₂, hrun₂, hrep₂, hops₂, hes⟩ := run_body
    (s := (h₁, storeAll w' packet [(ops op).type, (ops op).size])) payload hrep₁ hne
    (by simp only [List.length_cons, List.length_nil]; omega)
  exact ⟨es, h₂, StepMachine.run_append_eq_ok.mpr ⟨_, _, es, hrun₁, hrun₂, rfl⟩, hrep₂,
    hops₂.trans hops₁, hes, StepMachine.run_length hrun₂⟩

/-- A whole frame is delivered with its last byte, and the receiver hunts again. -/
theorem run_frame (hrep : Rep ops s.1 s.2 .hunt) {t : Fin PACKET_TYPE_MAX}
    (ht : s.1.operations t = some op) (hfixed : FixedOp ops t op) (hserves : Serves (ops op) s.2)
    {payload : List UInt8} (hlen : payload.length + 2 = (ops op).size.toNat) :
    ∃ events r s', StepMachine.run (rxStep ops) s
        (frame ((ops op).type :: (ops op).size :: payload)) =
        .ok (events ++ [⟨.syncChecksum, some r⟩], s') ∧
      Rep ops s'.1 s'.2 .hunt ∧ s'.1.operations = s.1.operations ∧ (∀ e ∈ events, Proceeds e) ∧
      r.op = op ∧ r.bytes (payload.length + 2) = (ops op).type :: (ops op).size :: payload := by
  obtain ⟨packet, w₀, hinit⟩ := hserves.supplies
  obtain ⟨es, h₁, hrun₁, hrep₁, hops₁, hes, -⟩ := run_packet hrep ht hfixed hinit hlen
  generalize storeAll w₀ packet ((ops op).type :: (ops op).size :: payload) = w₁ at hrun₁ hrep₁
  obtain ⟨onReceive, hrecv, hreturn⟩ := hserves.receives
  obtain ⟨w', hcall⟩ := hreturn packet w₁
  obtain ⟨h₂, hs₂, hrep₂, hops₂⟩ := rxStep_of_worldStep (s := (h₁, w₁))
    (Bytes.xorSum ((ops op).type :: (ops op).size :: payload)) none
    (by simp) hrep₁ (by
      rw [WorldStep, if_pos rfl, hrecv]
      exact hcall)
  simp only [Phase.next, if_true, Phase.delivery, hrecv, Option.map_some] at hs₂ hrep₂
  refine ⟨headerEvents ρ ++ es, ⟨op, packet, w₁.mem⟩, (h₂, w'), ?_, hrep₂, hops₂.trans hops₁, ?_, rfl, ?_⟩
  · exact StepMachine.run_concat_eq_ok.mpr ⟨_, _, _, hrun₁, hs₂, rfl⟩
  · intro e he
    rcases List.mem_append.mp he with he | he
    · exact headerEvents_proceed he
    · exact (hes e he).proceeds
  · exact hrep₁.2.1.stored

end Orazio.Proofs
