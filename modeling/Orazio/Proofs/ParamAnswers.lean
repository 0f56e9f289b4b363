import Orazio.Model.Bench
import Orazio.Proofs.EpochActions

/-!
# The answer to a ParamControlPacket

`Orazio_handleParamControlPacket` offers a block of parameters and a response to the transmit ring.
A positive response should mean that the block is in the ring before it.
-/

namespace Orazio.Proofs

/-- The result in a response, as the enumerator that was assigned to it. -/
def resultOf (packet : List UInt8) : Int :=
  (ResponsePacket.ofBytes fun i => packet.getD i 0).pResult.toInt8.toInt

/-- Action and parameter type are known, and a call before has queued the block. -/
def BlockQueued (ctl : ParamControlPacket) (before : List Sent) : Prop :=
  (ctl.action = ParamRequest ∨ ctl.action = ParamLoad ∨ ctl.action = ParamSave) ∧
    ∃ b, ParamBlock.ofParamType ctl.paramType = some b ∧
      ∃ s ∈ before, s.source = b.var ∧ accepted s

/-- Every response that is queued reports a failure, unless the block is queued before it. -/
def TruthfulAnswer (ctl : ParamControlPacket) (sent : List Sent) : Prop :=
  ∀ before s after, sent = before ++ s :: after → s.source = .response → accepted s →
    BlockQueued ctl before ∨ resultOf s.packet < 0

/-- The two switches leave `Success`. -/
def Succeeds (ctl : ParamControlPacket) : Prop :=
  ctl.action = ParamRequest ∨
    ((ctl.action = ParamLoad ∨ ctl.action = ParamSave) ∧
      (ParamBlock.ofParamType ctl.paramType).isSome)

/-- The result is a failure, or there is no room for the response, or there is room for the block that
the parameter type names. -/
def RoomForAnswer (v : Params) (ctl : ParamControlPacket) (n : Nat) : Prop :=
  ¬Succeeds ctl ∨ 256 < n + (sizeofResponsePacket.toNat + 3) ∨
    ∃ b, ParamBlock.ofParamType ctl.paramType = some b ∧
      n + (((v.runControl ctl.action b).current.kind b).size.toNat + 3) ≤ 256

instance (ctl : ParamControlPacket) : Decidable (Succeeds ctl) :=
  inferInstanceAs (Decidable (_ ∨ _))

variable {F π : Type} [CFloat F]

/-! ### One packet -/

/-- A call of `Orazio_sendPacket` with `n` bytes in the ring leaves `n'` in it. -/
structure Offers (p : PacketVar) (n n' : Nat) (s : Sent) (x x' : TxFields × Globals F π) : Prop where
  sent : x'.2.sent = x.2.sent ++ [s]
  source : s.source = p
  packet : s.packet = sentBytes p (p.setSeq x.2.globalSeq x.2)
  ring : ∃ q, TxHolds x'.1 q ∧ q.length = n'
  room : accepted s = true ↔ n + ((p.header x.2).size.toNat + 3) ≤ 256
  refused : accepted s = false → n' = n

lemma sendPacket_offers {p : PacketVar} {x x' : TxFields × Globals F π} {q : List UInt8}
    (h : Orazio_sendPacket p x = .ok x') (hq : TxHolds x.1 q) :
    ∃ n' s, Offers p q.length n' s x x' := by
  obtain ⟨status, hsend, henv, hin⟩ := sendPacket_eq_ok h
  have hsize : p.memory (p.setSeq x.2.globalSeq x.2) 1 = (p.header x.2).size := by
    rw [(memory_header _ _).2]
    exact congrArg FrameKind.size ((setSeq_sameHeaders p x.2.globalSeq x.2).kind p)
  have hsent : x'.2.sent = x.2.sent ++ [⟨p, sentBytes p (p.setSeq x.2.globalSeq x.2), status⟩] := by
    rw [henv]
  obtain ⟨hfull, hcases⟩ | ⟨hroom, tx, hcases, hq'⟩ :=
    sendPacket_cases hq (p.memory (p.setSeq x.2.globalSeq x.2))
  · rw [hsend] at hcases
    obtain ⟨rfl, htx⟩ := Prod.mk.inj hcases
    rw [hsize] at hfull
    refine ⟨_, _, hsent, rfl, rfl, ⟨q, by rw [htx]; exact hq, rfl⟩, ?_, fun _ => rfl⟩
    constructor
    · intro hacc
      simp [accepted] at hacc
    · intro hle
      omega
  · rw [hsend] at hcases
    obtain ⟨rfl, htx⟩ := Prod.mk.inj hcases
    rw [hsize] at hroom
    refine ⟨_, _, hsent, rfl, rfl, ⟨_, by rw [htx]; exact hq', rfl⟩, ?_, ?_⟩
    · exact ⟨fun _ => by omega, fun _ => by simp [accepted]⟩
    · intro hrefused
      simp [accepted] at hrefused

/-! ### The response -/

omit [CFloat F] in
lemma truthful_concat {ctl : ParamControlPacket} {block : List Sent} {s : Sent}
    (hblock : ∀ d ∈ block, d.source ≠ .response) (hs : s.source = .response) :
    TruthfulAnswer ctl (block ++ [s]) ↔ (accepted s → BlockQueued ctl block ∨ resultOf s.packet < 0) := by
  constructor
  · intro h
    exact h block s [] rfl hs
  · intro h before s' after heq hsource hacc
    obtain ⟨a, hbefore, hrest⟩ | ⟨c, hbefore, hrest⟩ := List.append_eq_append_iff.mp heq
    · cases a with
      | nil =>
        cases hrest
        rw [hbefore, List.append_nil]
        exact h hacc
      | cons d a => simp at hrest
    · cases c with
      | nil =>
        cases hrest
        rw [List.append_nil] at hbefore
        rw [← hbefore]
        exact h hacc
      | cons d c =>
        cases hrest
        exact absurd hsource (hblock s' (by rw [hbefore]; simp))

lemma resultOf_bytes (r : ResponsePacket) :
    resultOf (r.bytes.take sizeofResponsePacket.toNat) = r.pResult.toInt8.toInt := by
  have hresult : (r.bytes.take sizeofResponsePacket.toNat).getD 7 0 = r.pResult := rfl
  simp only [resultOf, ResponsePacket.ofBytes, hresult]

/-- The response carries the result it is given. -/
lemma sendResponse_offers {p : PacketBytes} {r : PacketStatus} {x x' : TxFields × Globals F π}
    {q : List UInt8} (h : Orazio_sendResponse p r x = .ok x') (hq : TxHolds x.1 q)
    (hkind : kindOf x.2.response.header = ⟨RESPONSE_PACKET_ID, sizeofResponsePacket⟩) :
    ∃ s, x'.2.sent = x.2.sent ++ [s] ∧ s.source = .response ∧
      resultOf s.packet = (UInt8.ofInt r.code).toInt8.toInt ∧
      (accepted s = true ↔ q.length + (sizeofResponsePacket.toNat + 3) ≤ 256) := by
  have hsize : x.2.response.header.size = sizeofResponsePacket := congrArg FrameKind.size hkind
  unfold Orazio_sendResponse at h
  obtain ⟨n', s, hoffers⟩ := sendPacket_offers h hq
  refine ⟨s, hoffers.sent, hoffers.source, ?_, ?_⟩
  · rw [hoffers.packet]
    simp only [sentBytes, PacketVar.header, PacketVar.setSeq, PacketVar.setHeader, hsize]
    exact resultOf_bytes _
  · rw [hoffers.room]
    simp only [PacketVar.header, hsize]

/-! ### The two switches -/

variable [PinDriver π]

lemma runParamAction_result {ctl : ParamControlPacket} {g g' : Globals F π} {r : PacketStatus}
    (h : runParamAction ctl g = .ok (r, g')) :
    (r = .success ∧ Succeeds ctl) ∨ (r = .genericError ∧ ¬Succeeds ctl) := by
  have hblock := paramBlock_eq ctl.paramType
  obtain ⟨hrequest, rfl, -⟩ | ⟨hload, hparam⟩ | ⟨hsave, rfl, -⟩ | ⟨⟨hrequest, hload, hsave⟩, rfl, -⟩ :=
    runParamAction_eq_ok h
  · exact .inl ⟨rfl, .inl hrequest⟩
  · obtain ⟨hnone, rfl, -⟩ | ⟨v, offset, r', hsome, rfl, -⟩ := paramLoad_eq_ok hparam
    · rw [hblock, Option.map_eq_none_iff] at hnone
      exact .inr ⟨rfl, by simp [Succeeds, hload, hnone, show ParamLoad ≠ ParamRequest by decide]⟩
    · have hknown : (ParamBlock.ofParamType ctl.paramType).isSome := by
        rw [← Option.isSome_map, ← hblock, hsome]
        rfl
      exact .inl ⟨rfl, .inr ⟨.inl hload, hknown⟩⟩
  · unfold Orazio_paramSave
    rw [hblock]
    cases hb : ParamBlock.ofParamType ctl.paramType with
    | none => exact .inr ⟨rfl, by simp [Succeeds, hsave, hb, show ParamSave ≠ ParamRequest by decide]⟩
    | some b => exact .inl ⟨rfl, .inr ⟨.inr hsave, by rw [hb]; rfl⟩⟩
  · exact .inr ⟨rfl, by simp [Succeeds, hrequest, hload, hsave]⟩

/-! ### The answer -/

/-- The two calls of `Orazio_sendPacket`, with what they find. -/
lemma handleParamControlPacket_offers {p : PacketBytes} {x x' : TxFields × Globals F π}
    {q : List UInt8} (h : Orazio_handleParamControlPacket p x = .ok x') (hq : TxHolds x.1 q)
    (hkind : kindOf x.2.response.header = ⟨RESPONSE_PACKET_ID, sizeofResponsePacket⟩) :
    let ctl := ParamControlPacket.ofBytes p
    ∃ block s n, x'.2.sent = x.2.sent ++ (block ++ [s]) ∧ s.source = .response ∧
      (resultOf s.packet < 0 ↔ ¬Succeeds ctl) ∧
      (accepted s = true ↔ n + (sizeofResponsePacket.toNat + 3) ≤ 256) ∧
      ((ParamBlock.ofParamType ctl.paramType = none ∧ block = [] ∧ n = q.length) ∨
        ∃ b d, ParamBlock.ofParamType ctl.paramType = some b ∧ block = [d] ∧ d.source = b.var ∧
          (accepted d = true ↔ q.length +
            ((((paramsOf x.2).runControl ctl.action b).current.kind b).size.toNat + 3) ≤ 256) ∧
          (accepted d = false → n = q.length)) := by
  intro ctl
  obtain ⟨r, g, hrun, hanswer⟩ := handleParamControlPacket_block h
  have hchange := runParamAction_change hrun
  have hkind' : kindOf g.response.header = ⟨RESPONSE_PACKET_ID, sizeofResponsePacket⟩ := by
    rw [hchange.response]
    exact hkind
  have hresult : (UInt8.ofInt r.code).toInt8.toInt < 0 ↔ ¬Succeeds ctl := by
    obtain ⟨rfl, hsucceeds⟩ | ⟨rfl, hfails⟩ := runParamAction_result hrun
    · exact iff_of_false (by decide) (not_not.mpr hsucceeds)
    · exact iff_of_true (by decide) hfails
  obtain ⟨hb, hresponse⟩ | ⟨b, y, hb, hblock, hresponse⟩ := hanswer
  · obtain ⟨s, hsent, hsource, hcode, hroom⟩ := sendResponse_offers hresponse hq hkind'
    refine ⟨[], s, q.length, ?_, hsource, by rw [hcode]; exact hresult, hroom, .inl ⟨hb, rfl, rfl⟩⟩
    rw [hsent, hchange.sent]
    rfl
  · obtain ⟨n, d, hoffers⟩ := sendPacket_offers hblock hq
    obtain ⟨q', hq', hlength⟩ := hoffers.ring
    have hkept : kindOf y.2.response.header = ⟨RESPONSE_PACKET_ID, sizeofResponsePacket⟩ :=
      ((sendPacket_sameHeaders hblock).kind .response).trans hkind'
    obtain ⟨s, hsent, hsource, hcode, hroom⟩ := sendResponse_offers hresponse hq' hkept
    have hsize : (b.var.header g).size =
        (((paramsOf x.2).runControl ctl.action b).current.kind b).size := by
      have hparams := runParamAction_params hb hrun
      rw [(setRxSeq_sameHeaders _ x.2).paramsOf] at hparams
      rw [← hparams]
      rfl
    refine ⟨[d], s, n, ?_, hsource, by rw [hcode]; exact hresult, by rw [← hlength]; exact hroom,
      .inr ⟨b, d, hb, rfl, hoffers.source, ?_, hoffers.refused⟩⟩
    · rw [hsent, hoffers.sent, hchange.sent, List.append_assoc]
      rfl
    · rw [← hsize]
      exact hoffers.room

/-- With any queue in the transmit ring, the answer to a packet is truthful if and only if it reports
a failure, or is refused itself, or there is room for the block. -/
theorem param_control_answer_iff (p : PacketBytes) (x x' : TxFields × Globals F π) (q : List UInt8)
    (hq : TxHolds x.1 q)
    (hkind : kindOf x.2.response.header = ⟨RESPONSE_PACKET_ID, sizeofResponsePacket⟩)
    (h : Orazio_handleParamControlPacket p x = .ok x') :
    TruthfulAnswer (.ofBytes p) (x'.2.sent.drop x.2.sent.length) ↔
      RoomForAnswer (paramsOf x.2) (.ofBytes p) q.length := by
  obtain ⟨block, s, n, hsent, hsource, hresult, hroom, hblock⟩ :=
    handleParamControlPacket_offers h hq hkind
  have hnew : x'.2.sent.drop x.2.sent.length = block ++ [s] := by
    rw [hsent, List.drop_left]
  have hother : ∀ d ∈ block, d.source ≠ .response := by
    obtain ⟨-, rfl, -⟩ | ⟨b, d, -, rfl, hd, -⟩ := hblock
    · exact fun _ => nofun
    · intro d' hd'
      rw [List.mem_singleton.mp hd', hd]
      cases b <;> decide
  rw [hnew, truthful_concat hother hsource, hresult, RoomForAnswer]
  by_cases hsucceeds : Succeeds (.ofBytes p)
  · have haction := hsucceeds.imp_right fun hmode => hmode.1
    simp only [hsucceeds, not_true_eq_false, or_false, false_or]
    obtain ⟨hb, rfl, rfl⟩ | ⟨b, d, hb, rfl, hd, hfits, hrefused⟩ := hblock
    · have hnone : ¬BlockQueued (.ofBytes p) [] := by simp [BlockQueued, hb]
      simp only [hnone, imp_false, hroom, hb]
      simp
    · have hqueued : BlockQueued (.ofBytes p) [d] ↔ accepted d = true := by
        simp [BlockQueued, haction, hb, hd]
      rw [hqueued, hroom, hb]
      simp only [Option.some.injEq, exists_eq_left', ← hfits]
      cases hacc : accepted d with
      | true => simp
      | false =>
        rw [hrefused hacc]
        simp
  · simp only [hsucceeds, not_false_eq_true, or_true, true_or, implies_true]

/-- The `ParamControlPacket` with this action and parameter type. -/
def controlBytes (action paramType : UInt8) : PacketBytes :=
  fun i => [PARAM_CONTROL_PACKET_ID, sizeofParamControlPacket, 0, 0, action, paramType].getD i 0

/-- A ring with `n` bytes in it and the initial variables. -/
def ringOf (n : Nat) : TxFields × Globals BitFloat Pins :=
  (⟨fun _ => 0, 0, n, n, 0⟩, .static (fun _ => 0xFF) Pins.zero)

/-- A request that finds an empty ring. -/
theorem param_control_answer_iff_request :
    ∃ x', Orazio_handleParamControlPacket (controlBytes ParamRequest ParamSystem) (ringOf 0) = .ok x' ∧
      TruthfulAnswer (.ofBytes (controlBytes ParamRequest ParamSystem)) (x'.2.sent.drop 0) := by
  have hring : TxHolds (ringOf 0).1 [] := initializeTx_holds (ringOf 0).1
  obtain ⟨x', h, -⟩ : ∃ x', Orazio_handleParamControlPacket (controlBytes ParamRequest ParamSystem)
      (ringOf 0) = .ok x' ∧ x'.2.sent.length = 2 := by
    decide +kernel
  exact ⟨x', h, (param_control_answer_iff _ _ x' [] hring rfl h).mpr
    (.inr (.inr ⟨.system, rfl, by decide⟩))⟩

omit [CFloat F] [PinDriver π] in
lemma not_truthful {ctl : ParamControlPacket} {sent : List Sent}
    (hblock : ∀ s ∈ sent, accepted s → s.source = .response)
    (hresponse : ∃ s ∈ sent, s.source = .response ∧ accepted s ∧ resultOf s.packet = 0) :
    ¬TruthfulAnswer ctl sent := by
  intro h
  obtain ⟨s, hs, hsource, hacc, hresult⟩ := hresponse
  obtain ⟨before, after, rfl⟩ := List.append_of_mem hs
  obtain ⟨-, b, -, d, hd, hdsource, hdacc⟩ | hneg := h before s after rfl hsource hacc
  · have hd' := hblock d (List.mem_append_left _ hd) hdacc
    rw [hdsource] at hd'
    cases b <;> cases hd'
  · omega

/-- A request for an unknown type of parameters, and one that finds 230 bytes in the ring: both are
answered with `Success`, and no block is queued. -/
theorem success_without_block :
    (∃ x', Orazio_handleParamControlPacket (controlBytes ParamRequest 7) (ringOf 0) = .ok x' ∧
      ¬TruthfulAnswer (.ofBytes (controlBytes ParamRequest 7)) x'.2.sent) ∧
    ∃ x', Orazio_handleParamControlPacket (controlBytes ParamRequest ParamSystem) (ringOf 230) =
        .ok x' ∧
      ¬TruthfulAnswer (.ofBytes (controlBytes ParamRequest ParamSystem)) x'.2.sent := by
  obtain ⟨x₁, h₁, hblock₁, hresponse₁⟩ : ∃ x',
      Orazio_handleParamControlPacket (controlBytes ParamRequest 7) (ringOf 0) = .ok x' ∧
      (∀ s ∈ x'.2.sent, accepted s → s.source = .response) ∧
      ∃ s ∈ x'.2.sent, s.source = .response ∧ accepted s ∧ resultOf s.packet = 0 := by
    decide +kernel
  obtain ⟨x₂, h₂, hblock₂, hresponse₂⟩ : ∃ x',
      Orazio_handleParamControlPacket (controlBytes ParamRequest ParamSystem) (ringOf 230) = .ok x' ∧
      (∀ s ∈ x'.2.sent, accepted s → s.source = .response) ∧
      ∃ s ∈ x'.2.sent, s.source = .response ∧ accepted s ∧ resultOf s.packet = 0 := by
    decide +kernel
  exact ⟨⟨x₁, h₁, not_truthful hblock₁ hresponse₁⟩, x₂, h₂, not_truthful hblock₂ hresponse₂⟩

end Orazio.Proofs
