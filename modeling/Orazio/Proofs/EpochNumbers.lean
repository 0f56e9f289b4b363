import Orazio.Proofs.EpochOutput

/-!
# The number of an epoch

Whatever the actions of an epoch do, each packet that they send carries the number of the epoch, and its size
is its length.
-/

namespace Orazio.Proofs

variable {F π : Type} [CFloat F]

/-! ### Programs that send -/

/-- `x'` is reached from `x` by changes of variables and by calls of `Orazio_sendPacket`. -/
inductive Emits : TxFields × Globals F π → TxFields × Globals F π → Prop
  | quiet {x x'} (hseq : x'.2.globalSeq = x.2.globalSeq) (hsent : x'.2.sent = x.2.sent) : Emits x x'
  | send {p x x'} (h : Orazio_sendPacket p x = .ok x') : Emits x x'
  | trans {x x' x''} (h : Emits x x') (h' : Emits x' x'') : Emits x x''

lemma sendResponse_emits {p : PacketBytes} {r : PacketStatus} {x x' : TxFields × Globals F π}
    (h : Orazio_sendResponse p r x = .ok x') : Emits x x' := by
  unfold Orazio_sendResponse at h
  have hquiet : Emits x (x.1, { x.2 with response :=
      { x.2.response with
        pSeq := (headerOf p).seq
        pType := (headerOf p).type
        pResult := UInt8.ofInt r.code } }) := .quiet rfl rfl
  exact hquiet.trans (.send h)

lemma sendPeriodic_emits {flag : UInt8} {p : PacketVar} {x x' : TxFields × Globals F π}
    (h : sendPeriodic flag p x = .ok x') : Emits x x' := by
  unfold sendPeriodic at h
  split at h
  · exact .send h
  · cases h
    exact .quiet rfl rfl

lemma sendStatus_emits {x x' : TxFields × Globals F π} (h : sendStatus x = .ok x') : Emits x x' := by
  obtain ⟨y₁, y₂, y₃, h₁, h₂, h₃, h₄⟩ := sendStatus_eq_ok h
  exact (((sendPeriodic_emits h₁).trans (sendPeriodic_emits h₂)).trans (sendPeriodic_emits h₃)).trans (.send h₄)

lemma copyArgs_quiet {p : PacketBytes} {args : Option PacketVar} {v : PacketVar} {g g' : Globals F π}
    (h : copyArgs p args g = .ok (v, g')) : g'.globalSeq = g.globalSeq ∧ g'.sent = g.sent := by
  obtain ⟨-, -, rfl⟩ := copyArgs_eq_ok h
  cases v <;> exact ⟨rfl, rfl⟩

variable [PinDriver π]

lemma copyToVarAndSend_emits {p : PacketBytes} {args : Option PacketVar} {x x' : TxFields × Globals F π}
    (h : Orazio_copyToVarAndSend p args x = .ok x') : Emits x x' := by
  obtain ⟨v, g, r, g₁, y, hcopy, hset, hsend, hresponse⟩ := copyToVarAndSend_eq_ok h
  obtain ⟨hseq, hsent⟩ := copyArgs_quiet hcopy
  have hchange := setReceived_change hset
  have hquiet : Emits x (x.1, g₁) := .quiet (hchange.globalSeq.trans hseq) (hchange.sent.trans hsent)
  exact (hquiet.trans (.send hsend)).trans (sendResponse_emits hresponse)

lemma handleParamControlPacket_emits {p : PacketBytes} {x x' : TxFields × Globals F π}
    (h : Orazio_handleParamControlPacket p x = .ok x') : Emits x x' := by
  obtain ⟨r, g, hrun, hanswer⟩ := handleParamControlPacket_eq_ok h
  have hchange := runParamAction_change hrun
  have hquiet : Emits x (x.1, g) := .quiet hchange.globalSeq hchange.sent
  obtain ⟨-, hresponse⟩ | ⟨v, offset, y, -, hsend, hresponse⟩ := hanswer
  · exact hquiet.trans (sendResponse_emits hresponse)
  · exact (hquiet.trans (.send hsend)).trans (sendResponse_emits hresponse)

/-- The deferred actions only send packets and change variables. -/
lemma deferredAction_emits {action : OrazioAction} {p : PacketBytes} {x x' : TxFields × Globals F π}
    (h : deferredAction action p x = .ok x') : Emits x x' := by
  unfold deferredAction at h
  split at h
  · obtain ⟨v, g, hcopy, hresponse⟩ := copyToVar_eq_ok h
    obtain ⟨hseq, hsent⟩ := copyArgs_quiet hcopy
    have hquiet : Emits x (x.1, g) := .quiet hseq hsent
    exact hquiet.trans (sendResponse_emits hresponse)
  · obtain ⟨v, g, hcopy, hresponse⟩ := copyToVarAndDisableDrive_eq_ok h
    obtain ⟨hseq, hsent⟩ := copyArgs_quiet hcopy
    have hquiet : Emits x (x.1, g) := .quiet hseq hsent
    exact hquiet.trans (sendResponse_emits hresponse)
  · exact copyToVarAndSend_emits h
  · exact handleParamControlPacket_emits h

lemma runActions_emits {mem : Addr → UInt8} {ps : List Pending} {x x' : TxFields × Globals F π}
    {executed : List (Executed OrazioAction)}
    (h : runActions deferredAction orazioConfig mem ps x = .ok (executed, x')) : Emits x x' := by
  induction ps generalizing x executed with
  | nil =>
    cases h
    exact .quiet rfl rfl
  | cons p ps ih =>
    obtain ⟨first, rest, y, hfirst, hrest, -⟩ := runActions_cons_eq_ok h
    refine .trans ?_ (ih hrest)
    obtain ⟨-, -, rfl⟩ | ⟨action, -, -, hact⟩ := runAction_eq_ok hfirst
    · exact .quiet rfl rfl
    · exact deferredAction_emits hact

/-! ### Stamps -/

/-- A packet that has been queued begins with its size and the number of the epoch, if a header fits into it. -/
def Stamped (seq : UInt16) (s : Sent) : Prop :=
  s.status = .success → 4 ≤ s.packet.length →
    ∃ type payload, s.packet = PacketHeader.bytes ⟨type, UInt8.ofNat s.packet.length, seq⟩ ++ payload

omit [PinDriver π] in
/-- What is sent of a packet begins with its header. -/
lemma sentBytes_header {p : PacketVar} {g : Globals F π} (hfour : 4 ≤ (p.header g).size.toNat) :
    ∃ payload, sentBytes p g = (p.header g).bytes ++ payload := by
  obtain ⟨payload, hpayload⟩ : ∃ payload, p.bytes g = (p.header g).bytes ++ payload := by
    cases p <;>
      simp only [PacketVar.bytes, PacketVar.header, SystemParamPacket.bytes, JointParamPacket.bytes,
        DifferentialDriveParamPacket.bytes, SystemStatusPacket.bytes, JointStatusPacket.bytes,
        DifferentialDriveStatusPacket.bytes, JointControlPacket.bytes, DifferentialDriveControlPacket.bytes,
        ResponsePacket.bytes, List.append_assoc] <;>
      exact ⟨_, rfl⟩
  have hlength : (p.header g).bytes.length = 4 := rfl
  refine ⟨payload.take ((p.header g).size.toNat - 4), ?_⟩
  rw [sentBytes, hpayload, List.take_append, hlength, List.take_of_length_le (hlength.le.trans hfour)]

omit [PinDriver π] in
lemma sendPacket_stamped {p : PacketVar} {x x' : TxFields × Globals F π} (h : Orazio_sendPacket p x = .ok x') :
    x'.2.globalSeq = x.2.globalSeq ∧
      ∃ s, x'.2.sent = x.2.sent ++ [s] ∧ Stamped x.2.globalSeq s := by
  obtain ⟨status, -, henv, hin⟩ := sendPacket_eq_ok h
  have hseq : (p.setSeq x.2.globalSeq x.2).globalSeq = x.2.globalSeq := by cases p <;> rfl
  have hcount : (countSent status (p.setSeq x.2.globalSeq x.2)).globalSeq = x.2.globalSeq := by
    refine Eq.trans ?_ hseq
    unfold countSent
    split <;> rfl
  rw [henv]
  refine ⟨hcount, _, rfl, ?_⟩
  intro hsuccess hfour
  change status = .success at hsuccess
  have hheader : p.header (p.setSeq x.2.globalSeq x.2) =
      ⟨(p.header x.2).type, (p.header x.2).size, x.2.globalSeq⟩ := by cases p <;> rfl
  have hlength : (sentBytes p (p.setSeq x.2.globalSeq x.2)).length = (p.header x.2).size.toNat :=
    (setSeq_carries x.2.globalSeq (hin hsuccess)).length
  change 4 ≤ (sentBytes p (p.setSeq x.2.globalSeq x.2)).length at hfour
  rw [hlength] at hfour
  obtain ⟨payload, hpayload⟩ : ∃ payload, sentBytes p (p.setSeq x.2.globalSeq x.2) =
      (p.header (p.setSeq x.2.globalSeq x.2)).bytes ++ payload := by
    apply sentBytes_header
    rw [hheader]
    exact hfour
  refine ⟨(p.header x.2).type, payload, ?_⟩
  change sentBytes p (p.setSeq x.2.globalSeq x.2) =
    PacketHeader.bytes ⟨_, UInt8.ofNat (sentBytes p (p.setSeq x.2.globalSeq x.2)).length, _⟩ ++ payload
  rw [hlength, UInt8.ofNat_toNat, hpayload, hheader]

omit [PinDriver π] in
/-- Everything that a program sends carries the same number. -/
lemma Emits.stamped {x x' : TxFields × Globals F π} (h : Emits x x') :
    x'.2.globalSeq = x.2.globalSeq ∧
      ((∀ s ∈ x.2.sent, Stamped x.2.globalSeq s) → ∀ s ∈ x'.2.sent, Stamped x.2.globalSeq s) := by
  induction h with
  | quiet hseq hsent =>
    rw [hsent]
    exact ⟨hseq, id⟩
  | send h =>
    obtain ⟨hseq, s, hsent, hstamped⟩ := sendPacket_stamped h
    refine ⟨hseq, fun hall t ht => ?_⟩
    rw [hsent] at ht
    obtain ht | ht := List.mem_append.mp ht
    · exact hall t ht
    · rw [List.mem_singleton.mp ht]
      exact hstamped
  | trans _ _ ih ih' =>
    rw [ih.1] at ih'
    exact ⟨ih'.1, fun hall => ih'.2 (ih.2 hall)⟩

/-- The packets of an epoch carry the number that the epoch begins with. -/
lemma Answered.stamped {io : UartIo} {statuses : List PacketStatus} {s s' : System F π}
    {ps : List Pending} {acted closed : TxFields × Globals F π} {e : CommEvent}
    (h : Answered io statuses s ps acted closed e s') :
    s'.env.globalSeq = s.env.globalSeq + 1 ∧ ∀ x ∈ e.sent, Stamped (s.env.globalSeq + 1) x := by
  have hemits := (runActions_emits h.actions).trans (sendStatus_emits h.status)
  obtain ⟨hseq, hstamped⟩ := hemits.stamped
  have henv := (flushOutputBuffers_eq_ok h.flush).2
  rw [h.sent_eq, henv]
  exact ⟨hseq, hstamped fun x hx => absurd hx List.not_mem_nil⟩

end Orazio.Proofs
