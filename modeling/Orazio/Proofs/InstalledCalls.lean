import Orazio.Proofs.BoundedCapture

/-!
# Calls of uninstalled operations

The receiver keeps the operation of a frame in `rx_current_op` from the type byte on. Uninstalling its type
leaves this pointer alone, so that the callbacks which the frame has still to come are those of an operation
that is not installed any more.
-/

namespace Orazio.Proofs

variable {ρ σ : Type}

/-! ### Callbacks -/

inductive Callback (ρ : Type)
  | initializeBuffer (p : ρ)
  | onReceive (p : ρ)
  deriving DecidableEq

/-- The operation that a callback belongs to. -/
def Callback.op : Callback ρ → ρ
  | initializeBuffer p => p
  | onReceive p => p

/-- The callback that a call of `PacketHandler_rxByte` invokes. -/
def rxCallback (ops : ρ → PacketOperations σ) (h : PacketHandler ρ) (c : UInt8) : Option (Callback ρ) :=
  match h.rxFn with
  | .rxSize => h.rxCurrentOp.bind fun p =>
    if (ops p).size ≠ PACKET_SIZE_ANY ∧ (ops p).size ≠ c then none else some (.initializeBuffer p)
  | .rxChecksum => h.rxCurrentOp.bind fun p =>
    if c = h.rxChecksum ∧ (ops p).onReceiveFn.isSome then some (.onReceive p) else none
  | _ => none

/-- The operation whose callback the frame that is being received has still to come. -/
def pendingOp (ops : ρ → PacketOperations σ) (h : PacketHandler ρ) : Option ρ :=
  match h.rxFn with
  | .rxSize => h.rxCurrentOp
  | .rxPayload => h.rxCurrentOp.filter fun p => (ops p).onReceiveFn.isSome
  | .rxChecksum => h.rxCurrentOp.filter fun p => (ops p).onReceiveFn.isSome
  | _ => none

/-- The operation is the one installed for its type. -/
def IsInstalled (ops : ρ → PacketOperations σ) (h : PacketHandler ρ) (p : ρ) : Prop :=
  ∃ t : Fin PACKET_TYPE_MAX, (ops p).type.toNat = t ∧ h.operations t = some p

instance [DecidableEq ρ] (ops : ρ → PacketOperations σ) (h : PacketHandler ρ) (p : ρ) :
    Decidable (IsInstalled ops h p) :=
  inferInstanceAs (Decidable (∃ _, _))

variable {ops : ρ → PacketOperations σ} {h : PacketHandler ρ}

/-- A callback that is invoked was still to come. -/
lemma rxCallback_pending {c : UInt8} {callback : Callback ρ} (hcall : rxCallback ops h c = some callback) :
    pendingOp ops h = some callback.op := by
  unfold rxCallback at hcall
  unfold pendingOp
  cases hfn : h.rxFn with
  | rxSize =>
    simp only [hfn] at hcall ⊢
    obtain ⟨p, hop, hinvoked⟩ := Option.bind_eq_some_iff.mp hcall
    split at hinvoked
    · cases hinvoked
    · cases hinvoked
      exact hop
  | rxChecksum =>
    simp only [hfn] at hcall ⊢
    obtain ⟨p, hop, hinvoked⟩ := Option.bind_eq_some_iff.mp hcall
    split at hinvoked
    · next hreceive =>
      cases hinvoked
      exact Option.filter_eq_some_iff.mpr ⟨hop, hreceive.2⟩
    · cases hinvoked
  | _ => simp only [hfn] at hcall; cases hcall

/-! ### Nothing else is invoked -/

section

variable {ops' : ρ → PacketOperations σ} {w : World σ} {c : UInt8}

lemma rxSize_congr {p : ρ} (hop : h.rxCurrentOp = some p) (htype : (ops' p).type = (ops p).type)
    (hsize : (ops' p).size = (ops p).size)
    (hinit : ¬((ops p).size ≠ PACKET_SIZE_ANY ∧ (ops p).size ≠ c) →
      (ops' p).initializeBufferFn = (ops p).initializeBufferFn) :
    h.rxSize ops' w c = h.rxSize ops w c := by
  unfold PacketHandler.rxSize
  simp only [hop, htype, hsize]
  by_cases hinvalid : (ops p).size ≠ PACKET_SIZE_ANY ∧ (ops p).size ≠ c
  · rw [if_pos hinvalid, if_pos hinvalid]
  · rw [if_neg hinvalid, if_neg hinvalid, hinit hinvalid]

lemma rxChecksum_congr {p : ρ} (hop : h.rxCurrentOp = some p)
    (hreceive : c = h.rxChecksum → (ops' p).onReceiveFn = (ops p).onReceiveFn) :
    h.rxChecksumByte ops' w c = h.rxChecksumByte ops w c := by
  unfold PacketHandler.rxChecksumByte
  by_cases hc : c = h.rxChecksum
  · cases hpacket : h.rxCurrentPacket with
    | none => simp only [hop]
    | some packet => simp only [hop, hreceive hc]
  · simp only [if_neg hc]

/-- A call of `PacketHandler_rxByte` does not depend on any callback but the one it invokes. -/
lemma rxByte_congr (htype : ∀ p, (ops' p).type = (ops p).type) (hsize : ∀ p, (ops' p).size = (ops p).size)
    (hsome : ∀ p, (ops' p).onReceiveFn.isSome = (ops p).onReceiveFn.isSome)
    (hinit : ∀ p, rxCallback ops h c = some (.initializeBuffer p) →
      (ops' p).initializeBufferFn = (ops p).initializeBufferFn)
    (hreceive : ∀ p, rxCallback ops h c = some (.onReceive p) → (ops' p).onReceiveFn = (ops p).onReceiveFn) :
    h.rxByte ops' w c = h.rxByte ops w c := by
  unfold rxCallback at hinit hreceive
  unfold PacketHandler.rxByte
  cases hfn : h.rxFn with
  | rxSize =>
    simp only [hfn] at hinit ⊢
    cases hop : h.rxCurrentOp with
    | none => simp only [PacketHandler.rxSize, hop]
    | some p =>
      apply rxSize_congr hop (htype p) (hsize p)
      intro hvalid
      apply hinit p
      rw [hop, Option.bind_some, if_neg hvalid]
  | rxChecksum =>
    simp only [hfn] at hreceive ⊢
    cases hop : h.rxCurrentOp with
    | none => simp only [PacketHandler.rxChecksumByte, hop]
    | some p =>
      apply rxChecksum_congr hop
      intro hc
      by_cases hreceived : (ops p).onReceiveFn.isSome
      · apply hreceive p
        rw [hop, Option.bind_some, if_pos ⟨hc, hreceived⟩]
      · have hnone := hsome p
        rw [Bool.not_eq_true] at hreceived
        rw [hreceived, Option.isSome_eq_false_iff, Option.isNone_iff_eq_none] at hnone
        rw [Option.isSome_eq_false_iff, Option.isNone_iff_eq_none] at hreceived
        rw [hnone, hreceived]
  | _ => rfl

end

/-! ### One call -/

/-- The call uninstalls no operation whose callback is still to come. -/
def KeepsPending (ops : ρ → PacketOperations σ) (h : PacketHandler ρ) : HandlerCall ρ σ → Prop
  | .uninstall type => ∀ p, pendingOp ops h = some p → (ops p).type ≠ type
  | _ => True

instance (call : HandlerCall ρ σ) : Decidable (KeepsPending ops h call) :=
  match call with
  | .uninstall type => inferInstanceAs (Decidable (∀ p ∈ pendingOp ops h, (ops p).type ≠ type))
  | .install _ => .isTrue trivial
  | .send _ => .isTrue trivial
  | .txByte => .isTrue trivial
  | .rxByte _ _ => .isTrue trivial

/-- What the call invokes belongs to an operation that is installed. -/
def CallsInstalled (ops : ρ → PacketOperations σ) (h : PacketHandler ρ) : HandlerCall ρ σ → Prop
  | .rxByte _ c => ∀ callback, rxCallback ops h c = some callback → IsInstalled ops h callback.op
  | _ => True

instance [DecidableEq ρ] (call : HandlerCall ρ σ) : Decidable (CallsInstalled ops h call) :=
  match call with
  | .rxByte _ c => inferInstanceAs (Decidable (∀ callback ∈ rxCallback ops h c, IsInstalled ops h callback.op))
  | .install _ => .isTrue trivial
  | .uninstall _ => .isTrue trivial
  | .send _ => .isTrue trivial
  | .txByte => .isTrue trivial

/-- The table is sorted by types, and the operation whose callback is still to come is in it. -/
structure PendingInv (ops : ρ → PacketOperations σ) (h : PacketHandler ρ) : Prop where
  table : ∀ t p, h.operations t = some p → (ops p).type.toNat = t
  pending : ∀ p, pendingOp ops h = some p → IsInstalled ops h p
  bufferEnd : h.rxFn = .rxPayload → h.rxBufferEnd ≠ none

lemma PendingInv.callsInstalled (hinv : PendingInv ops h) (call : HandlerCall ρ σ) :
    CallsInstalled ops h call := by
  cases call with
  | rxByte w c => exact fun callback hcall => hinv.pending _ (rxCallback_pending hcall)
  | _ => trivial

/-- What a byte that leaves `h'` does to the table and to what is pending. -/
structure ByteStep (ops : ρ → PacketOperations σ) (h h' : PacketHandler ρ) : Prop where
  operations : h'.operations = h.operations
  pending : ∀ p, pendingOp ops h' = some p → pendingOp ops h = some p ∨ ∃ t, h.operations t = some p
  bufferEnd : h'.rxFn = .rxPayload → h'.rxBufferEnd ≠ none

/-- Back at hunting for a frame nothing is pending. -/
lemma ByteStep.of_rxAA {h' : PacketHandler ρ} (hops : h'.operations = h.operations) (hfn : h'.rxFn = .rxAA) :
    ByteStep ops h h' where
  operations := hops
  pending p hp := by simp [pendingOp, hfn] at hp
  bufferEnd hpayload := by simp [hfn] at hpayload

section

variable {w : World σ} {c : UInt8} {r : PacketHandler.RxResult ρ σ}

lemma rxType_byteStep : ByteStep ops h (h.rxType c).2 := by
  unfold PacketHandler.rxType
  simp only
  split
  · split
    · exact .of_rxAA rfl rfl
    · next p hp =>
      refine ⟨rfl, ?_, nofun⟩
      intro q hq
      cases hq
      exact .inr ⟨_, hp⟩
  · exact .of_rxAA rfl rfl

lemma rxSize_byteStep (hfn : h.rxFn = .rxSize) (hrx : h.rxSize ops w c = .ok r) : ByteStep ops h r.handler := by
  unfold PacketHandler.rxSize at hrx
  cases hop : h.rxCurrentOp with
  | none =>
    simp only [hop] at hrx
    cases hrx
  | some p =>
    simp only [hop] at hrx
    split at hrx
    · cases hrx
      exact .of_rxAA rfl rfl
    · split at hrx
      · cases hrx
      · cases hrx
        exact .of_rxAA rfl rfl
      · cases hrx
        refine ⟨rfl, ?_, fun _ => Option.some_ne_none _⟩
        intro q hq
        simp only [pendingOp, hfn, hop] at hq ⊢
        exact .inl (Option.filter_eq_some_iff.mp hq).1

lemma rxPayload_byteStep (hfn : h.rxFn = .rxPayload) (hrx : h.rxPayload w c = .ok r) :
    ByteStep ops h r.handler := by
  unfold PacketHandler.rxPayload at hrx
  cases hend : h.rxBufferEnd with
  | none =>
    simp only [hend] at hrx
    cases hrx
  | some bufferEnd =>
    simp only [hend] at hrx
    split at hrx
    · cases hrx
      refine ⟨rfl, ?_, nofun⟩
      intro q hq
      simp only [pendingOp, hfn] at hq ⊢
      exact .inl hq
    · cases hrx
      refine ⟨rfl, ?_, fun _ => Option.some_ne_none _⟩
      intro q hq
      simp only [pendingOp, hfn] at hq ⊢
      exact .inl hq

lemma rxChecksum_byteStep (hrx : h.rxChecksumByte ops w c = .ok r) : ByteStep ops h r.handler := by
  unfold PacketHandler.rxChecksumByte at hrx
  simp only at hrx
  split at hrx
  · split at hrx
    · split at hrx
      · cases hrx
        exact .of_rxAA rfl rfl
      · split at hrx
        · cases hrx
        · cases hrx
          exact .of_rxAA rfl rfl
    · cases hrx
  · cases hrx
    exact .of_rxAA rfl rfl

/-- A received byte changes nothing in the table, and only a type byte makes an operation pending, one that
is in the table. -/
lemma rxByte_byteStep (hrx : h.rxByte ops w c = .ok r) : ByteStep ops h r.handler := by
  unfold PacketHandler.rxByte at hrx
  cases hfn : h.rxFn with
  | rxAA =>
    simp only [hfn] at hrx
    cases hrx
    unfold PacketHandler.rxAA
    split
    · exact ⟨rfl, nofun, nofun⟩
    · exact .of_rxAA rfl hfn
  | rx55 =>
    simp only [hfn] at hrx
    cases hrx
    unfold PacketHandler.rx55
    split
    · exact ⟨rfl, nofun, nofun⟩
    · exact .of_rxAA rfl rfl
  | rxType =>
    simp only [hfn] at hrx
    cases hrx
    exact rxType_byteStep
  | rxSize =>
    simp only [hfn] at hrx
    exact rxSize_byteStep hfn hrx
  | rxPayload =>
    simp only [hfn] at hrx
    exact rxPayload_byteStep hfn hrx
  | rxChecksum =>
    simp only [hfn] at hrx
    exact rxChecksum_byteStep hrx

end

/-! ### Runs -/

lemma pendingOp_congr {h' : PacketHandler ρ}
    (hrx : { h' with operations := h.operations, toTxFields := h.toTxFields } = h) :
    pendingOp ops h' = pendingOp ops h := by
  rw [← hrx]
  rfl

/-- A call that receives nothing keeps the invariant if what is pending stays installed. -/
lemma PendingInv.congr {h' : PacketHandler ρ} (hinv : PendingInv ops h)
    (hrx : { h' with operations := h.operations, toTxFields := h.toTxFields } = h)
    (htable : ∀ t p, h'.operations t = some p → (ops p).type.toNat = t)
    (hkept : ∀ (t : Fin PACKET_TYPE_MAX) p, pendingOp ops h = some p → (ops p).type.toNat = t →
      h.operations t = some p → h'.operations t = some p) : PendingInv ops h' where
  table := htable
  pending p hp := by
    rw [pendingOp_congr hrx] at hp
    obtain ⟨t, ht, hop⟩ := hinv.pending p hp
    exact ⟨t, ht, hkept t p hp ht hop⟩
  bufferEnd hpayload := by
    rw [← hrx] at hinv
    exact hinv.bufferEnd hpayload

lemma PendingInv.rxByte (hinv : PendingInv ops h) {w : World σ} {c : UInt8}
    {r : PacketHandler.RxResult ρ σ} (hrx : h.rxByte ops w c = .ok r) : PendingInv ops r.handler := by
  have hbyte := rxByte_byteStep hrx
  refine ⟨?_, ?_, hbyte.bufferEnd⟩
  · rw [hbyte.operations]
    exact hinv.table
  · intro p hp
    rw [IsInstalled, hbyte.operations]
    obtain hpending | ⟨t, ht⟩ := hbyte.pending p hp
    · exact hinv.pending p hpending
    · exact ⟨t, hinv.table t p ht, ht⟩

/-- Every call that keeps what is pending keeps the invariant. -/
lemma PendingInv.step (hinv : PendingInv ops h) {call : HandlerCall ρ σ} (hkeeps : KeepsPending ops h call)
    {o : Option RxFn} {h' : PacketHandler ρ} (hstep : callStep ops h call = .ok (o, h')) :
    PendingInv ops h' := by
  cases call with
  | install p =>
    cases hstep
    apply hinv.congr (callStep_none_rx (show callStep ops h (.install p) = .ok (none, _) from rfl))
    · intro t op ht
      obtain hold | ⟨rfl, htype⟩ := installPacket_operations ops h p t op ht
      · exact hinv.table t op hold
      · exact htype
    · exact fun t op _ _ hop => installPacket_keeps ops p hop
  | uninstall type =>
    cases hstep
    apply hinv.congr (callStep_none_rx (show callStep ops h (.uninstall type) = .ok (none, _) from rfl))
    · intro t op ht
      rw [uninstallPacket_operations] at ht
      split at ht
      · cases ht
      · exact hinv.table t op ht
    · intro t op hpending htype hop
      rw [uninstallPacket_operations, if_neg, hop]
      intro heq
      exact hkeeps op hpending (UInt8.toNat_inj.mp (htype.trans heq.symm))
  | send header =>
    cases hstep
    exact hinv.congr rfl hinv.table fun _ _ _ _ hop => hop
  | txByte =>
    cases hstep
    exact hinv.congr rfl hinv.table fun _ _ _ _ hop => hop
  | rxByte w c =>
    simp only [callStep] at hstep
    split at hstep
    · cases hstep
    · next r hrx =>
      cases hstep
      exact hinv.rxByte hrx

lemma initializeHandler_pendingInv (h₀ : PacketHandler ρ) : PendingInv ops h₀.initializeHandler :=
  ⟨nofun, nofun, nofun⟩

/-! ### What an uninstalled operation has still to come -/

/-- The bytes of the wire, received in one world. -/
def receive (w : World σ) (bytes : List UInt8) : List (HandlerCall ρ σ) :=
  bytes.map (.rxByte w)

/-- A byte that invokes a callback of an operation that is not installed. -/
lemma not_along_of_callback (w : World σ) {c : UInt8} (callback : Callback ρ)
    (hcall : rxCallback ops h c = some callback) (hgone : ¬IsInstalled ops h callback.op) :
    ¬StepMachine.Along (callStep ops) (CallsInstalled ops) h (receive w [c]) := by
  rintro ⟨hinstalled, -⟩
  exact hgone (hinstalled callback hcall)

lemma exists_payload_step (ops : ρ → PacketOperations σ) (w : World σ) (hfn : h.rxFn = .rxPayload)
    (hend : h.rxBufferEnd ≠ none) :
    ∃ o h', callStep ops h (.rxByte w 0) = .ok (o, h') ∧ h'.operations = h.operations ∧
      h'.rxCurrentOp = h.rxCurrentOp ∧ h'.rxBytesToRead = h.rxBytesToRead - 1 ∧ h'.rxBufferEnd ≠ none ∧
      h'.rxFn = if h.rxBytesToRead - 1 = 0 then .rxChecksum else .rxPayload := by
  obtain ⟨bufferEnd, hbuffer⟩ := Option.ne_none_iff_exists'.mp hend
  have hrx : h.rxByte ops w 0 = h.rxPayload w 0 := by simp only [PacketHandler.rxByte, hfn]
  rw [callStep, hrx, PacketHandler.rxPayload]
  simp only [hbuffer]
  by_cases hlast : h.rxBytesToRead - 1 = 0
  · rw [if_pos hlast, if_pos hlast]
    exact ⟨_, _, rfl, rfl, rfl, rfl, Option.some_ne_none _, rfl⟩
  · rw [if_neg hlast, if_neg hlast]
    exact ⟨_, _, rfl, rfl, rfl, rfl, Option.some_ne_none _, hfn⟩

/-- The rest of a payload and its checksum, by induction on the bytes that are left. -/
lemma exists_bytes_of_payload (w : World σ) {p : ρ} (hreceive : (ops p).onReceiveFn.isSome)
    (hfn : h.rxFn = .rxPayload) (hop : h.rxCurrentOp = some p) (hend : h.rxBufferEnd ≠ none)
    (hgone : ¬IsInstalled ops h p) :
    ∃ bytes, ¬StepMachine.Along (callStep ops) (CallsInstalled ops) h (receive w bytes) := by
  induction hn : (h.rxBytesToRead - 1).toNat using Nat.strongRecOn generalizing h with
  | ind n ih =>
    obtain ⟨o, h', hstep, hops, hop', hleft, hend', hfn'⟩ := exists_payload_step ops w hfn hend
    have hgone' : ¬IsInstalled ops h' p := by rwa [IsInstalled, hops]
    obtain ⟨bytes, hbytes⟩ : ∃ bytes,
        ¬StepMachine.Along (callStep ops) (CallsInstalled ops) h' (receive w bytes) := by
      by_cases hlast : h.rxBytesToRead - 1 = 0
      · rw [if_pos hlast] at hfn'
        use [h'.rxChecksum]
        apply not_along_of_callback w (.onReceive p) _ hgone'
        simp only [rxCallback, hfn', hop', hop, Option.bind_some, true_and, if_pos hreceive]
      · rw [if_neg hlast] at hfn'
        apply ih (h'.rxBytesToRead - 1).toNat _ hfn' (hop'.trans hop) hend' hgone' rfl
        have hpos : (h.rxBytesToRead - 1).toNat ≠ 0 := fun h0 => hlast (UInt8.toNat_inj.mp h0)
        rw [hleft, ← hn, countdown_toNat (Nat.pos_of_ne_zero hpos)]
        omega
    refine ⟨0 :: bytes, ?_⟩
    rw [receive, List.map_cons, StepMachine.along_cons hstep]
    exact fun halong => hbytes halong.2

/-- The rest of the frame invokes the pending callback. -/
lemma exists_bytes_of_pending (w : World σ) {p : ρ} (hpending : pendingOp ops h = some p)
    (hbuffer : h.rxFn = .rxPayload → h.rxBufferEnd ≠ none) (hgone : ¬IsInstalled ops h p) :
    ∃ bytes, ¬StepMachine.Along (callStep ops) (CallsInstalled ops) h (receive w bytes) := by
  unfold pendingOp at hpending
  cases hfn : h.rxFn with
  | rxSize =>
    simp only [hfn] at hpending
    use [(ops p).size]
    apply not_along_of_callback w (.initializeBuffer p) _ hgone
    simp [rxCallback, hfn, hpending]
  | rxPayload =>
    simp only [hfn] at hpending
    obtain ⟨hop, hreceive⟩ := Option.filter_eq_some_iff.mp hpending
    exact exists_bytes_of_payload w hreceive hfn hop (hbuffer hfn) hgone
  | rxChecksum =>
    simp only [hfn] at hpending
    obtain ⟨hop, hreceive⟩ := Option.filter_eq_some_iff.mp hpending
    use [h.rxChecksum]
    apply not_along_of_callback w (.onReceive p) _ hgone
    simp [rxCallback, hfn, hop, hreceive]
  | _ => simp only [hfn] at hpending; cases hpending

/-- A call that uninstalls a pending operation can be followed by a call of its callback. -/
lemma exists_bytes_of_not_keeps (hinv : PendingInv ops h) (w : World σ) {call : HandlerCall ρ σ}
    (hcall : ¬KeepsPending ops h call) :
    ∃ bytes, ¬StepMachine.Along (callStep ops) (CallsInstalled ops) h (call :: receive w bytes) := by
  cases call with
  | uninstall type =>
    simp only [KeepsPending, not_forall, not_not] at hcall
    obtain ⟨p, hpending, htype⟩ := hcall
    have hstep : callStep ops h (.uninstall type) = .ok (none, (h.uninstallPacket type).2) := rfl
    have hrx := callStep_none_rx hstep
    have hgone : ¬IsInstalled ops (h.uninstallPacket type).2 p := by
      rintro ⟨t, ht, hop⟩
      rw [uninstallPacket_operations, if_pos (by rw [← htype, ht])] at hop
      cases hop
    have hbuffer : (h.uninstallPacket type).2.rxFn = .rxPayload →
        (h.uninstallPacket type).2.rxBufferEnd ≠ none := by
      have hend := hinv.bufferEnd
      rw [← hrx] at hend
      exact hend
    rw [← pendingOp_congr hrx] at hpending
    obtain ⟨bytes, hbytes⟩ := exists_bytes_of_pending w hpending hbuffer hgone
    use bytes
    rw [StepMachine.along_cons hstep]
    exact fun halong => hbytes halong.2
  | _ => exact absurd trivial hcall

/-- As long as no call uninstalls an operation whose callback is still to come, every callback belongs to an
operation that is installed when it is invoked; a call that does uninstall one can be followed by bytes that
invoke it. -/
theorem only_installed_called (h₀ : PacketHandler ρ) (calls : List (HandlerCall ρ σ))
    (hkeeps : StepMachine.Along (callStep ops) (KeepsPending ops) h₀.initializeHandler calls) :
    StepMachine.Along (callStep ops) (CallsInstalled ops) h₀.initializeHandler calls ∧
      ∀ outputs h, StepMachine.run (callStep ops) h₀.initializeHandler calls = .ok (outputs, h) →
        ∀ (call : HandlerCall ρ σ) (w : World σ), KeepsPending ops h call ↔
          ∀ bytes, StepMachine.Along (callStep ops) (CallsInstalled ops) h (call :: receive w bytes) := by
  have hinit : PendingInv ops h₀.initializeHandler := initializeHandler_pendingInv h₀
  have hnext : ∀ (s : PacketHandler ρ) (i : HandlerCall ρ σ) o s', PendingInv ops s → KeepsPending ops s i →
      callStep ops s i = .ok (o, s') → PendingInv ops s' :=
    fun _ _ _ _ hinv hkeeps hstep => hinv.step hkeeps hstep
  have himp : ∀ (s : PacketHandler ρ) (i : HandlerCall ρ σ), PendingInv ops s → KeepsPending ops s i →
      CallsInstalled ops s i := fun _ i hinv _ => hinv.callsInstalled i
  refine ⟨StepMachine.along_of_invariant himp hnext hinit hkeeps, ?_⟩
  intro outputs h hrun call w
  have hinv := StepMachine.run_invariant_along hnext hinit hkeeps hrun
  constructor
  · intro hcall bytes
    have hall : ∀ i ∈ (receive w bytes : List (HandlerCall ρ σ)), ∀ s, KeepsPending ops s i := by
      intro i hi s
      obtain ⟨c, -, rfl⟩ := List.mem_map.mp hi
      trivial
    apply StepMachine.along_of_invariant himp hnext hinv
    refine ⟨hcall, ?_⟩
    split
    · trivial
    · exact StepMachine.along_of_forall hall _
  · intro halways
    by_contra hcall
    obtain ⟨bytes, hbytes⟩ := exists_bytes_of_not_keeps hinv w hcall
    exact hbytes (halways bytes)

/-- A frame of type 0, the uninstallation of its type and a second frame. -/
def uninstallBetween : List (HandlerCall HostPacket Unit) :=
  [.install .packet0] ++ receive HostPacket.staticWorld [0xAA, 0x55, 0, 8, 1, 2, 3, 4, 5, 6, 0x0F] ++
    [.uninstall 0] ++ receive HostPacket.staticWorld [0xAA, 0x55, 0]

theorem only_installed_called_between :
    StepMachine.Along (callStep HostPacket.operations) (CallsInstalled HostPacket.operations)
      HostPacket.staticHandler.initializeHandler uninstallBetween :=
  (only_installed_called HostPacket.staticHandler uninstallBetween (by decide +kernel)).1

/-- A type is uninstalled between the type byte and the size byte of a frame. -/
def uninstallWithin : List (HandlerCall HostPacket Unit) :=
  [.install .packet0] ++ receive HostPacket.staticWorld [0xAA, 0x55, 0] ++ [.uninstall 0] ++
    receive HostPacket.staticWorld [8]

/-- The size byte asks the uninstalled operation for a buffer. -/
theorem uninstalled_called :
    ¬StepMachine.Along (callStep HostPacket.operations) (CallsInstalled HostPacket.operations)
      HostPacket.staticHandler.initializeHandler uninstallWithin := by
  decide +kernel

end Orazio.Proofs
