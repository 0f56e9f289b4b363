import Orazio.Proofs.ReceiverSafety

/-!
# Bounded capture

Whatever the bytes, a receiver of packets of at most M bytes is back at hunting for a frame with one of
any M + 3 bytes. The calls left within a frame are counted by the state of the receiver and its countdown.
-/

namespace Orazio.Proofs

variable {ρ σ : Type}

/-! ### Calls of the handler -/

/-- A call of a function of the packet handler. A byte is received in any world. -/
inductive HandlerCall (ρ σ : Type)
  | install (p : ρ)
  | uninstall (type : UInt8)
  | send (header : PacketBytes)
  | txByte
  | rxByte (w : World σ) (c : UInt8)

/-- `rxFn` after a call that received a byte. -/
def callStep (ops : ρ → PacketOperations σ) (h : PacketHandler ρ) :
    HandlerCall ρ σ → Except Fault (Option RxFn × PacketHandler ρ)
  | .install p => .ok (none, (h.installPacket ops p).2)
  | .uninstall type => .ok (none, (h.uninstallPacket type).2)
  | .send header => .ok (none, (h.sendPacket header).2)
  | .txByte => .ok (none, h.txByte.2)
  | .rxByte w c =>
    match h.rxByte ops w c with
    | .error e => .error e
    | .ok r => .ok (some r.handler.rxFn, r.handler)

/-- The operation has a fixed size from 3 to 254, and at most M. -/
structure Within (ops : ρ → PacketOperations σ) (M : ℕ) (p : ρ) : Prop where
  three_le : 3 ≤ (ops p).size.toNat
  le_max : (ops p).size.toNat ≤ 254
  le : (ops p).size.toNat ≤ M

/-! ### The countdown -/

/-- The registers that the state of the receiver uses. -/
def Captured (ops : ρ → PacketOperations σ) (M : ℕ) (h : PacketHandler ρ) : Prop :=
  match h.rxFn with
  | .rxAA => True
  | .rx55 => True
  | .rxType => True
  | .rxSize => ∃ p, h.rxCurrentOp = some p ∧ Within ops M p
  | .rxPayload => h.rxCurrentOp ≠ none ∧ h.rxCurrentPacket ≠ none ∧ h.rxBufferEnd ≠ none ∧
      0 < h.rxBytesToRead.toNat ∧ h.rxBytesToRead.toNat + 2 ≤ M
  | .rxChecksum => h.rxCurrentOp ≠ none ∧ h.rxCurrentPacket ≠ none

structure CaptureInv (ops : ρ → PacketOperations σ) (M : ℕ) (h : PacketHandler ρ) : Prop where
  table : ∀ t op, h.operations t = some op → Within ops M op
  captured : Captured ops M h

/-- A bound on the calls of `PacketHandler_rxByte` until one leaves `_rxAA`. -/
def callsLeft (M : ℕ) (h : PacketHandler ρ) : ℕ :=
  match h.rxFn with
  | .rxAA => M + 3
  | .rx55 => M + 2
  | .rxType => M + 1
  | .rxSize => M
  | .rxPayload => h.rxBytesToRead.toNat + 1
  | .rxChecksum => 1

variable {ops : ρ → PacketOperations σ} {M : ℕ} {h : PacketHandler ρ}

lemma CaptureInv.callsLeft_pos (hinv : CaptureInv ops M h) : 0 < callsLeft M h := by
  have hcaptured := hinv.captured
  unfold Captured at hcaptured
  unfold callsLeft
  cases hfn : h.rxFn with
  | rxSize =>
    simp only [hfn] at hcaptured ⊢
    obtain ⟨p, -, hwithin⟩ := hcaptured
    have := hwithin.three_le
    have := hwithin.le
    omega
  | _ => simp

lemma CaptureInv.callsLeft_le (hinv : CaptureInv ops M h) : callsLeft M h ≤ M + 3 := by
  have hcaptured := hinv.captured
  unfold Captured at hcaptured
  unfold callsLeft
  cases hfn : h.rxFn with
  | rxPayload =>
    simp only [hfn] at hcaptured ⊢
    omega
  | _ => simp only; omega

/-- What a byte that leaves `h'` does to the countdown. -/
structure Advances (ops : ρ → PacketOperations σ) (M : ℕ) (h h' : PacketHandler ρ) : Prop where
  operations : h'.operations = h.operations
  captured : Captured ops M h'
  counts : h'.rxFn = .rxAA ∨ callsLeft M h' < callsLeft M h

section

variable {w : World σ} {c : UInt8} {r : PacketHandler.RxResult ρ σ}

lemma rxAA_advances (hfn : h.rxFn = .rxAA) : Advances ops M h (h.rxAA c).2 := by
  unfold PacketHandler.rxAA
  split
  · exact ⟨rfl, trivial, .inr (by simp [callsLeft, hfn])⟩
  · exact ⟨rfl, by simp [Captured, hfn], .inl hfn⟩

lemma rx55_advances (hfn : h.rxFn = .rx55) : Advances ops M h (h.rx55 c).2 := by
  unfold PacketHandler.rx55
  split
  · exact ⟨rfl, trivial, .inr (by simp [callsLeft, hfn])⟩
  · exact ⟨rfl, trivial, .inl rfl⟩

lemma rxType_advances (hfn : h.rxFn = .rxType)
    (htable : ∀ t op, h.operations t = some op → Within ops M op) :
    Advances ops M h (h.rxType c).2 := by
  unfold PacketHandler.rxType
  simp only
  split
  · split
    · exact ⟨rfl, trivial, .inl rfl⟩
    · next p hp => exact ⟨rfl, ⟨p, rfl, htable _ p hp⟩, .inr (by simp [callsLeft, hfn])⟩
  · exact ⟨rfl, trivial, .inl rfl⟩

lemma rxSize_advances (hfn : h.rxFn = .rxSize) {p : ρ} (hop : h.rxCurrentOp = some p)
    (hwithin : Within ops M p) (hrx : h.rxSize ops w c = .ok r) : Advances ops M h r.handler := by
  unfold PacketHandler.rxSize at hrx
  simp only [hop] at hrx
  split at hrx
  · cases hrx
    exact ⟨rfl, trivial, .inl rfl⟩
  · next hsize =>
    split at hrx
    · cases hrx
    · cases hrx
      exact ⟨rfl, trivial, .inl rfl⟩
    · cases hrx
      have hthree := hwithin.three_le
      have hle := hwithin.le
      have hany : (ops p).size ≠ PACKET_SIZE_ANY := by
        intro hany
        have hmax := hwithin.le_max
        rw [hany] at hmax
        exact absurd hmax (by decide)
      have hc : (ops p).size = c := by
        by_contra hne
        exact hsize ⟨hany, hne⟩
      subst hc
      have hcount := bytesToRead_toNat hthree
      refine ⟨rfl, ⟨?_, ?_, ?_, ?_, ?_⟩, .inr ?_⟩
      · simp
      · simp
      · simp
      · simp only
        omega
      · simp only
        omega
      · simp only [callsLeft, hfn]
        omega

lemma rxPayload_advances (hfn : h.rxFn = .rxPayload) (hcaptured : Captured ops M h)
    (hrx : h.rxPayload w c = .ok r) : Advances ops M h r.handler := by
  simp only [Captured, hfn] at hcaptured
  obtain ⟨hop, hpacket, hend, hpos, hle⟩ := hcaptured
  unfold PacketHandler.rxPayload at hrx
  cases hbuffer : h.rxBufferEnd with
  | none => exact absurd hbuffer hend
  | some bufferEnd =>
    simp only [hbuffer] at hrx
    split at hrx
    · cases hrx
      exact ⟨rfl, ⟨hop, hpacket⟩, .inr (by simp only [callsLeft, hfn]; omega)⟩
    · next hmore =>
      cases hrx
      have hcount := countdown_toNat hpos
      have hone : h.rxBytesToRead.toNat ≠ 1 := fun h1 => hmore ((countdown_eq_zero hpos).mpr h1)
      refine ⟨rfl, ?_, .inr ?_⟩
      · simp only [Captured, hfn, hcount]
        exact ⟨hop, hpacket, Option.some_ne_none _, by omega, by omega⟩
      · simp only [callsLeft, hfn, hcount]
        omega

lemma rxChecksum_advances (hrx : h.rxChecksumByte ops w c = .ok r) : Advances ops M h r.handler := by
  unfold PacketHandler.rxChecksumByte at hrx
  simp only at hrx
  split at hrx
  · split at hrx
    · split at hrx
      · cases hrx
        exact ⟨rfl, trivial, .inl rfl⟩
      · split at hrx
        · cases hrx
        · cases hrx
          exact ⟨rfl, trivial, .inl rfl⟩
    · cases hrx
  · cases hrx
    exact ⟨rfl, trivial, .inl rfl⟩

/-- Every byte counts down or brings the receiver back to `_rxAA`. -/
lemma CaptureInv.advances (hinv : CaptureInv ops M h) (hrx : h.rxByte ops w c = .ok r) :
    Advances ops M h r.handler := by
  have hcaptured := hinv.captured
  unfold PacketHandler.rxByte at hrx
  cases hfn : h.rxFn with
  | rxAA =>
    simp only [hfn] at hrx
    cases hrx
    exact rxAA_advances hfn
  | rx55 =>
    simp only [hfn] at hrx
    cases hrx
    exact rx55_advances hfn
  | rxType =>
    simp only [hfn] at hrx
    cases hrx
    exact rxType_advances hfn hinv.table
  | rxSize =>
    simp only [Captured, hfn] at hcaptured hrx
    obtain ⟨p, hop, hwithin⟩ := hcaptured
    exact rxSize_advances hfn hop hwithin hrx
  | rxPayload =>
    simp only [hfn] at hrx
    exact rxPayload_advances hfn hcaptured hrx
  | rxChecksum =>
    simp only [hfn] at hrx
    exact rxChecksum_advances hrx

/-- No byte makes the receiver use a null pointer. -/
lemma CaptureInv.error (hinv : CaptureInv ops M h) {e : Fault} (hrx : h.rxByte ops w c = .error e) :
    CallbackFails ops h w e := by
  have hcaptured := hinv.captured
  apply rxByte_error _ hrx
  intro a ha
  unfold rxAccesses at ha
  unfold Captured at hcaptured
  cases hfn : h.rxFn with
  | rxAA => simp [hfn] at ha
  | rx55 => simp [hfn] at ha
  | rxType =>
    simp only [hfn] at ha
    split at ha
    · rw [List.mem_singleton.mp ha]
      simp
    · cases ha
  | rxSize =>
    simp only [hfn] at ha hcaptured
    obtain ⟨p, hop, -⟩ := hcaptured
    rcases List.mem_cons.mp ha with rfl | ha
    · simp [hop]
    · unfold headerWrites at ha
      simp only [hop] at ha
      split at ha
      · cases ha
      · split at ha
        · simp only [List.mem_cons, List.not_mem_nil, or_false] at ha
          rcases ha with rfl | rfl <;> simp
        · cases ha
  | rxPayload =>
    simp only [hfn] at ha hcaptured
    rw [List.mem_singleton.mp ha]
    simp [hcaptured.2.2.1]
  | rxChecksum =>
    simp only [hfn] at ha hcaptured
    split at ha
    · simp only [List.mem_cons, List.not_mem_nil, or_false] at ha
      rcases ha with rfl | rfl <;> simp [hcaptured]
    · cases ha

end

/-! ### Runs -/

/-- What the calls of a run may install. -/
def HandlerCall.Installs (ops : ρ → PacketOperations σ) (M : ℕ) : HandlerCall ρ σ → Prop
  | .install p => Within ops M p
  | _ => True

/-- The calls that receive nothing leave the receiver as it is. -/
lemma CaptureInv.congr {h' : PacketHandler ρ} (hinv : CaptureInv ops M h)
    (hops : ∀ t op, h'.operations t = some op → Within ops M op)
    (hrx : { h' with operations := h.operations, toTxFields := h.toTxFields } = h) :
    CaptureInv ops M h' ∧ callsLeft M h' = callsLeft M h := by
  have hcaptured := hinv.captured
  rw [← hrx] at hcaptured
  refine ⟨⟨hops, hcaptured⟩, ?_⟩
  rw [← hrx]
  rfl

/-- Uninstalling leaves no operation for the type. -/
lemma uninstallPacket_operations (h : PacketHandler ρ) (type : UInt8) (t : Fin PACKET_TYPE_MAX) :
    (h.uninstallPacket type).2.operations t = if type.toNat = t then none else h.operations t := by
  unfold PacketHandler.uninstallPacket
  by_cases hlt : type.toNat < PACKET_TYPE_MAX
  · rw [dif_pos hlt]
    by_cases heq : type.toNat = t
    · have ht : t = ⟨type.toNat, hlt⟩ := Fin.ext heq.symm
      subst ht
      rw [if_pos rfl]
      split
      · next hnone => exact hnone
      · exact Function.update_self _ _ _
    · have hne : t ≠ ⟨type.toNat, hlt⟩ := fun ht => heq (by rw [ht])
      rw [if_neg heq]
      split
      · rfl
      · exact Function.update_of_ne hne _ _
  · have hne : type.toNat ≠ t := fun heq => hlt (by rw [heq]; exact t.isLt)
    rw [dif_neg hlt, if_neg hne]

/-- The calls that receive nothing leave the registers of the receiver as they are. -/
lemma callStep_none_rx {call : HandlerCall ρ σ} {h' : PacketHandler ρ}
    (hstep : callStep ops h call = .ok (none, h')) :
    { h' with operations := h.operations, toTxFields := h.toTxFields } = h := by
  cases call with
  | install p =>
    cases hstep
    unfold PacketHandler.installPacket
    split
    · split <;> rfl
    · rfl
  | uninstall type =>
    cases hstep
    unfold PacketHandler.uninstallPacket
    split
    · split <;> rfl
    · rfl
  | send header =>
    cases hstep
    rfl
  | txByte =>
    cases hstep
    rfl
  | rxByte w c =>
    simp only [callStep] at hstep
    split at hstep <;> cases hstep

lemma callStep_silent (hinv : CaptureInv ops M h) {call : HandlerCall ρ σ}
    (hcall : call.Installs ops M) {h' : PacketHandler ρ} (hstep : callStep ops h call = .ok (none, h')) :
    CaptureInv ops M h' ∧ callsLeft M h' = callsLeft M h := by
  apply hinv.congr _ (callStep_none_rx hstep)
  cases call with
  | install p =>
    cases hstep
    intro t op ht
    rcases installPacket_operations ops h p t op ht with hold | ⟨rfl, -⟩
    · exact hinv.table t op hold
    · exact hcall
  | uninstall type =>
    cases hstep
    intro t op ht
    rw [uninstallPacket_operations] at ht
    split at ht
    · cases ht
    · exact hinv.table t op ht
  | send header =>
    cases hstep
    exact hinv.table
  | txByte =>
    cases hstep
    exact hinv.table
  | rxByte w c =>
    simp only [callStep] at hstep
    split at hstep <;> cases hstep

lemma callStep_rx (hinv : CaptureInv ops M h) {call : HandlerCall ρ σ} {fn : RxFn} {h' : PacketHandler ρ}
    (hstep : callStep ops h call = .ok (some fn, h')) :
    CaptureInv ops M h' ∧ (fn = .rxAA ∨ callsLeft M h' < callsLeft M h) := by
  cases call with
  | rxByte w c =>
    simp only [callStep] at hstep
    split at hstep
    · cases hstep
    · next r hrx =>
      cases hstep
      have hadv := hinv.advances hrx
      refine ⟨⟨?_, hadv.captured⟩, hadv.counts⟩
      rw [hadv.operations]
      exact hinv.table
  | _ => cases hstep

lemma callStep_ranked (ops : ρ → PacketOperations σ) (M : ℕ) :
    StepMachine.Ranked (callStep ops) (HandlerCall.Installs ops M) (CaptureInv ops M) (callsLeft M) id
      (· = RxFn.rxAA) where
  invariant h call o h' hcall hinv hstep := by
    cases o with
    | none => exact (callStep_silent hinv hcall hstep).1
    | some fn => exact (callStep_rx hinv hstep).1
  le h call o h' hcall hinv hstep hobs := by
    cases hobs
    exact Nat.le_of_eq (callStep_silent hinv hcall hstep).2
  lt h call o h' fn hcall hinv hstep hobs hback := by
    cases hobs
    exact (callStep_rx hinv hstep).2.resolve_left hback

lemma initializeHandler_captureInv (ops : ρ → PacketOperations σ) (M : ℕ) (h₀ : PacketHandler ρ) :
    CaptureInv ops M h₀.initializeHandler :=
  ⟨nofun, trivial⟩

/-- Whatever is received, one of any M + 3 consecutive bytes leaves the receiver in `_rxAA`, and only a
callback can fail. -/
theorem bounded_capture (h₀ : PacketHandler ρ) (calls : List (HandlerCall ρ σ))
    (hcalls : ∀ p, .install p ∈ calls → Within ops M p) (outputs : List (Option RxFn)) (h : PacketHandler ρ)
    (hrun : StepMachine.run (callStep ops) h₀.initializeHandler calls = .ok (outputs, h)) :
    (∀ window, window <:+: outputs.reduceOption → M + 3 ≤ window.length → RxFn.rxAA ∈ window) ∧
      ∀ w c e, h.rxByte ops w c = .error e → CallbackFails ops h w e := by
  have hvalid : ∀ call ∈ calls, call.Installs ops M := by
    intro call hcall
    cases call with
    | install p => exact hcalls p hcall
    | _ => trivial
  have hinit := initializeHandler_captureInv ops M h₀
  constructor
  · intro window hwindow hlen
    obtain ⟨fn, hfn, rfl⟩ := (callStep_ranked ops M).comes_back (fun _ => CaptureInv.callsLeft_pos)
      (fun _ => CaptureInv.callsLeft_le) hvalid hinit hrun hwindow hlen
    exact hfn
  · intro w c e hrx
    have hinv := StepMachine.run_invariant_of_valid (callStep_ranked ops M).invariant hvalid hinit hrun
    exact hinv.error hrx

/-- A frame for the larger of the packets of the host test that carries sync bytes only. -/
def hostCapture : List (HandlerCall HostPacket Unit) :=
  [.install .packet0, .install .packet1] ++
    (([0xAA, 0x55, 1, 20] : List UInt8) ++ List.replicate 19 0xAA).map (.rxByte HostPacket.staticWorld)

theorem bounded_capture_packet1 :
    ∃ outputs h, StepMachine.run (callStep HostPacket.operations) HostPacket.staticHandler.initializeHandler
      hostCapture = .ok (outputs, h) ∧ RxFn.rxAA ∈ outputs.reduceOption := by
  have hlen : ∃ r, StepMachine.run (callStep HostPacket.operations)
      HostPacket.staticHandler.initializeHandler hostCapture = .ok r ∧ r.1.reduceOption.length = 23 := by
    decide +kernel
  obtain ⟨⟨outputs, h⟩, hrun, hlen⟩ := hlen
  have hinstalled : ∀ p, .install p ∈ hostCapture → Within HostPacket.operations 20 p := by
    intro p _
    cases p
    · exact ⟨by decide, by decide, by decide⟩
    · exact ⟨by decide, by decide, by decide⟩
  have hwindows := bounded_capture HostPacket.staticHandler hostCapture hinstalled outputs h hrun
  exact ⟨outputs, h, hrun, hwindows.1 _ List.infix_rfl (Nat.le_of_eq hlen.symm)⟩

end Orazio.Proofs
