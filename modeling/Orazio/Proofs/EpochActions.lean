import Orazio.Proofs.EpochFrames
import Orazio.Proofs.MotionPackets

/-!
# The frames of the deferred actions

Every action of the firmware sends the frames that its packet calls for, and changes the parameters
as the packet says.
-/

namespace Orazio.Proofs

variable {F π : Type}

/-! ### The EEPROM -/

variable [CFloat F]

/-- Saving a block copies it to the EEPROM. -/
lemma eepromWrite_view (b : ParamBlock) (g : Globals F π) :
    eepromView (EEPROM_write b.offset (b.var.bytes g) g.eeprom) =
      .copyBlock b (ramView g) (eepromView g.eeprom) := by
  have hlength := length_bytes b.var g
  have hinside : ∀ i (hi : i < 25), EEPROM_write b.offset (b.var.bytes g) g.eeprom (b.offset + i) =
      b.var.memory g i := by
    intro i hi
    have hsize : 25 ≤ b.var.sizeof.toNat := by cases b <;> decide
    rw [eepromWrite_inside _ _ _ (by omega), PacketVar.memory, List.getD_eq_getElem?_getD,
      List.getElem?_eq_getElem (by omega), Option.getD_some]
  have houtside : ∀ b' i, b' ≠ b → i < 25 →
      EEPROM_write b.offset (b.var.bytes g) g.eeprom (b'.offset + i) = g.eeprom (b'.offset + i) := by
    intro b' i hb hi
    have hsize : 25 ≤ b'.var.sizeof.toNat := by cases b' <;> decide
    apply eepromWrite_outside
    rw [hlength]
    exact blocks_apart hb (by omega)
  obtain ⟨htype, hsize⟩ := memory_header b.var g
  apply ParamView.ext
  · funext b'
    by_cases hb : b' = b
    · subst hb
      have h₀ := hinside 0 (by omega)
      rw [Nat.add_zero] at h₀
      simp only [ParamView.copyBlock, Function.update_self, eepromView, ramView, kindOf, h₀,
        hinside 1 (by omega), htype, hsize]
    · have h₀ := houtside b' 0 hb (by omega)
      rw [Nat.add_zero] at h₀
      simp only [ParamView.copyBlock, Function.update_of_ne hb, eepromView, h₀,
        houtside b' 1 hb (by omega)]
  · by_cases hb : b = .system
    · subst hb
      exact hinside 20 (by omega)
    · simp only [ParamView.copyBlock, if_neg hb]
      exact houtside .system 20 (Ne.symm hb) (by omega)

/-! ### Parameters -/

omit [CFloat F] in
lemma ParamChange.statusHeaders {g g' : Globals F π} (h : ParamChange g g')
    (hstatus : StatusHeaders g) : StatusHeaders g' := by
  intro v hv
  rw [← hstatus v hv]
  simp only [statusVars, List.mem_cons, List.not_mem_nil, or_false] at hv
  rcases hv with rfl | rfl | rfl | rfl | rfl
  · simp only [PacketVar.header, h.response]
  · simp only [PacketVar.header, h.endEpoch]
  · simp only [PacketVar.header, h.systemStatus]
  · simp only [PacketVar.header, h.jointStatus]
  · simp only [PacketVar.header, h.driveStatus]

/-- Overwriting a block of parameters. -/
lemma ofMemory_params (b : ParamBlock) (m : PacketBytes) (g : Globals F π) :
    paramsOf (b.var.ofMemory m g) =
      ⟨.copyBlock b (.ofPacket m) (ramView g), eepromView g.eeprom⟩ := by
  have hcurrent : ramView (b.var.ofMemory m g) = .copyBlock b (.ofPacket m) (ramView g) := by
    apply ParamView.ext
    · funext b'
      cases b <;> cases b' <;> rfl
    · cases b <;> rfl
  have hstored : (b.var.ofMemory m g).eeprom = g.eeprom := by cases b <;> rfl
  rw [paramsOf, hcurrent, hstored]

lemma copyBlock_congr {b : ParamBlock} {src src' dst : ParamView} (hkind : src.kind b = src'.kind b)
    (hmask : b = .system → src.mask = src'.mask) :
    ParamView.copyBlock b src dst = .copyBlock b src' dst := by
  apply ParamView.ext
  · simp only [ParamView.copyBlock, hkind]
  · simp only [ParamView.copyBlock]
    split
    · next hb => exact hmask hb
    · rfl

variable [PinDriver π]

lemma paramSet_sameHeaders {paramType : UInt8} {g g' : Globals F π} {r : PacketStatus}
    (h : Orazio_paramSet paramType g = .ok (r, g')) : SameHeaders g g' := by
  obtain ⟨bridges, pins, controller, status, seq, rfl, hheader, -⟩ := paramSet_eq_ok h
  refine ⟨fun v => ?_, rfl, rfl⟩
  cases v with
  | driveStatus => exact congrArg kindOf hheader
  | _ => rfl

lemma setReceived_sameHeaders {type : UInt8} {g g' : Globals F π} {r : PacketStatus}
    (h : setReceived type g = .ok (r, g')) : SameHeaders g g' := by
  obtain rfl | ⟨_, hset⟩ := setReceived_eq_ok h
  · exact .refl _
  · exact paramSet_sameHeaders hset

/-- Loading a block copies it from the EEPROM. -/
lemma paramLoad_params {paramType : UInt8} {g g' : Globals F π} {r : PacketStatus} {b : ParamBlock}
    (hb : ParamBlock.ofParamType paramType = some b)
    (h : Orazio_paramLoad paramType g = .ok (r, g')) :
    paramsOf g' = (paramsOf g).runControl ParamLoad b := by
  obtain ⟨hnone, -⟩ | ⟨v, offset, r', hblock, -, hset⟩ := paramLoad_eq_ok h
  · rw [paramBlock_eq, hb] at hnone
    cases hnone
  · rw [paramBlock_eq, hb] at hblock
    cases hblock
    have hcopy : ParamView.copyBlock b (.ofPacket (EEPROM_read b.offset g.eeprom)) (ramView g) =
        .copyBlock b (eepromView g.eeprom) (ramView g) := by
      apply copyBlock_congr
      · rfl
      · rintro rfl
        rfl
    rw [(paramSet_sameHeaders hset).paramsOf, ofMemory_params, hcopy, Params.runControl, if_pos rfl]
    rfl

omit [PinDriver π] in
lemma paramSave_params {paramType : UInt8} {b : ParamBlock}
    (hb : ParamBlock.ofParamType paramType = some b) (g : Globals F π) :
    paramsOf (Orazio_paramSave paramType g).2 = (paramsOf g).runControl ParamSave b := by
  have hblock : paramBlock paramType = some (b.var, b.offset) := by
    rw [paramBlock_eq, hb]
    rfl
  have hsave : (Orazio_paramSave paramType g).2 =
      { g with eeprom := EEPROM_write b.offset (b.var.bytes g) g.eeprom } := by
    simp only [Orazio_paramSave, hblock]
  rw [hsave, Params.runControl, if_neg (by decide), if_pos rfl]
  simp only [paramsOf, eepromWrite_view]
  rfl

/-- The action of a `ParamControlPacket` on the parameters. -/
lemma runParamAction_params {ctl : ParamControlPacket} {g g' : Globals F π} {r : PacketStatus}
    {b : ParamBlock} (hb : ParamBlock.ofParamType ctl.paramType = some b)
    (h : runParamAction ctl g = .ok (r, g')) :
    paramsOf g' = (paramsOf g).runControl ctl.action b := by
  obtain ⟨hrequest, -, rfl⟩ | ⟨hload, hparam⟩ | ⟨hsave, -, rfl⟩ | ⟨⟨-, hload, hsave⟩, -, rfl⟩ :=
    runParamAction_eq_ok h
  · rw [hrequest]
    rfl
  · rw [hload]
    exact paramLoad_params hb hparam
  · rw [hsave]
    exact paramSave_params hb g
  · rw [Params.runControl, if_neg hload, if_neg hsave]

lemma runParamAction_none {ctl : ParamControlPacket} {g g' : Globals F π} {r : PacketStatus}
    (hb : ParamBlock.ofParamType ctl.paramType = none) (h : runParamAction ctl g = .ok (r, g')) :
    g' = g := by
  have hblock : paramBlock ctl.paramType = none := by
    rw [paramBlock_eq, hb]
    rfl
  obtain ⟨-, -, rfl⟩ | ⟨-, hload⟩ | ⟨-, -, rfl⟩ | ⟨-, -, rfl⟩ := runParamAction_eq_ok h
  · rfl
  · obtain ⟨-, -, rfl⟩ | ⟨v, offset, r', hsome, -, -⟩ := paramLoad_eq_ok hload
    · rfl
    · rw [hblock] at hsome
      cases hsome
  · simp only [Orazio_paramSave, hblock]
  · rfl

/-! ### Actions -/

omit [PinDriver π]

lemma ofMemory_header {v w : PacketVar} (h : w ≠ v) (m : PacketBytes) (g : Globals F π) :
    w.header (v.ofMemory m g) = w.header g := by
  cases v <;> cases w <;> first | rfl | exact absurd rfl h

/-- Copying a packet to a variable of its own leaves the status packets alone. -/
lemma copyArgs_status {p : PacketBytes} {v w : PacketVar} {g g' : Globals F π}
    (hv : v ∉ statusVars) (h : copyArgs p (some v) g = .ok (w, g')) :
    w = v ∧ (StatusHeaders g → StatusHeaders g') ∧ g'.sent = g.sent := by
  obtain ⟨hw, -, rfl⟩ := copyArgs_eq_ok h
  cases hw
  refine ⟨rfl, ?_, ?_⟩
  · intro hstatus
    apply (setRxSeq_sameHeaders _ _).statusHeaders
    intro u hu
    rw [ofMemory_header (by rintro rfl; exact hv hu)]
    exact hstatus u hu
  · cases v <;> rfl

/-- A control packet does not change the parameters. -/
lemma copyArgs_control {p : PacketBytes} {v w : PacketVar} {g g' : Globals F π}
    (hv : v = .jointControl ∨ v = .driveControl) (h : copyArgs p (some v) g = .ok (w, g')) :
    paramsOf g' = paramsOf g := by
  obtain ⟨hw, -, rfl⟩ := copyArgs_eq_ok h
  cases hw
  rw [(setRxSeq_sameHeaders _ _).paramsOf]
  rcases hv with rfl | rfl
  · exact congrArg₂ Params.mk (ParamView.ext (funext fun b => by cases b <;> rfl) rfl) rfl
  · exact congrArg₂ Params.mk (ParamView.ext (funext fun b => by cases b <;> rfl) rfl) rfl

/-- A packet of parameters replaces its block. -/
lemma copyArgs_block {p : PacketBytes} {b : ParamBlock} {w : PacketVar} {g g' : Globals F π}
    (hsize : (headerOf p).size = b.var.sizeof) (h : copyArgs p (some b.var) g = .ok (w, g')) :
    paramsOf g' = { paramsOf g with current := .copyBlock b (.ofPacket p) (paramsOf g).current } := by
  obtain ⟨hw, -, rfl⟩ := copyArgs_eq_ok h
  cases hw
  rw [(setRxSeq_sameHeaders _ _).paramsOf, ofMemory_params, hsize]
  have hbytes : ∀ i, i < 25 →
      (if i < b.var.sizeof.toNat then p i else b.var.memory g i) = p i := by
    intro i hi
    have hlong : 25 ≤ b.var.sizeof.toNat := by cases b <;> decide
    exact if_pos (by omega)
  have hpacket : ParamView.ofPacket
      (fun i => if i < b.var.sizeof.toNat then p i else b.var.memory g i) = .ofPacket p := by
    simp only [ParamView.ofPacket, hbytes 0 (by omega), hbytes 1 (by omega),
      hbytes 20 (by omega)]
  rw [hpacket]
  rfl

/-- The parameters become `v`, and the frames `outs` are sent. -/
structure Handles (v : Params) (outs : List Outgoing) (x x' : TxFields × Globals F π) : Prop where
  params : paramsOf x'.2 = v
  status : StatusHeaders x'.2
  sends : Sends outs x x'

lemma sendResponse_handles {p : PacketBytes} {r : PacketStatus} {x x' : TxFields × Globals F π}
    (hstatus : StatusHeaders x.2) (h : Orazio_sendResponse p r x = .ok x') :
    Handles (paramsOf x.2) [.response (requestOf p).1 (requestOf p).2] x x' where
  params := (sendResponse_sameHeaders h).paramsOf
  status := (sendResponse_sameHeaders h).statusHeaders hstatus
  sends := sendResponse_sends hstatus h

/-- A block of parameters is sent, then the response. -/
lemma sendBlock_handles {b : ParamBlock} {p : PacketBytes} {r : PacketStatus}
    {x y x' : TxFields × Globals F π} (hstatus : StatusHeaders x.2)
    (hblock : Orazio_sendPacket b.var x = .ok y) (h : Orazio_sendResponse p r y = .ok x') :
    Handles (paramsOf x.2) [.packet ((paramsOf x.2).current.kind b),
      .response (requestOf p).1 (requestOf p).2] x x' := by
  have hsame := sendPacket_sameHeaders hblock
  obtain ⟨hparams, hstatus', hsends⟩ := sendResponse_handles (hsame.statusHeaders hstatus) h
  exact ⟨hparams.trans hsame.paramsOf, hstatus', (sendPacket_sends_packet hblock).trans hsends⟩

omit [CFloat F] in
/-- Changes of the variables before anything is sent. -/
lemma Handles.ofSent {v : Params} {outs : List Outgoing} {x x' : TxFields × Globals F π}
    {g : Globals F π} (hsent : g.sent = x.2.sent) (h : Handles v outs (x.1, g) x') :
    Handles v outs x x' where
  params := h.params
  status := h.status
  sends := by
    have hnil : Sends [] x (x.1, g) := .nil rfl hsent
    exact hnil.trans h.sends

variable [PinDriver π] {p : PacketBytes} {x x' : TxFields × Globals F π}

omit [PinDriver π] in
lemma change_control {type : UInt8} (htype : (headerOf p).type = type)
    (hne : type ≠ PARAM_CONTROL_PACKET_ID) (hnone : ParamBlock.ofType type = none) (v : Params) :
    v.change p = (none, v) := by
  subst htype
  simp only [Params.change, if_neg hne, hnone]

omit [PinDriver π] in
lemma change_block {type : UInt8} (htype : (headerOf p).type = type)
    (hne : type ≠ PARAM_CONTROL_PACKET_ID) {b : ParamBlock} (hb : ParamBlock.ofType type = some b)
    (v : Params) :
    v.change p = (some b, { v with current := .copyBlock b (.ofPacket p) v.current }) := by
  subst htype
  simp only [Params.change, if_neg hne, hb]

omit [PinDriver π] in
lemma copyToVar_handles {type : UInt8} (htype : (headerOf p).type = type)
    (hne : type ≠ PARAM_CONTROL_PACKET_ID) (hnone : ParamBlock.ofType type = none)
    (hstatus : StatusHeaders x.2) (h : Orazio_copyToVar p (some .driveControl) x = .ok x') :
    Handles ((paramsOf x.2).change p).2 ((paramsOf x.2).reply p) x x' := by
  rw [Params.reply, change_control htype hne hnone]
  obtain ⟨w, g, hcopy, hresponse⟩ := copyToVar_eq_ok h
  obtain ⟨-, hkeep, hsent⟩ := copyArgs_status (by decide) hcopy
  rw [← copyArgs_control (.inr rfl) hcopy]
  exact (sendResponse_handles (hkeep hstatus) hresponse).ofSent hsent

omit [PinDriver π] in
lemma copyToVarAndDisableDrive_handles {type : UInt8} (htype : (headerOf p).type = type)
    (hne : type ≠ PARAM_CONTROL_PACKET_ID) (hnone : ParamBlock.ofType type = none)
    (hstatus : StatusHeaders x.2)
    (h : Orazio_copyToVarAndDisableDrive p (some .jointControl) x = .ok x') :
    Handles ((paramsOf x.2).change p).2 ((paramsOf x.2).reply p) x x' := by
  rw [Params.reply, change_control htype hne hnone]
  obtain ⟨w, g, hcopy, hresponse⟩ := copyToVarAndDisableDrive_eq_ok h
  have hdisable : SameHeaders x.2 (Orazio_driveDisable x.2) :=
    ⟨fun v => by cases v <;> rfl, rfl, rfl⟩
  obtain ⟨-, hkeep, hsent⟩ := copyArgs_status (by decide) hcopy
  rw [← hdisable.paramsOf, ← copyArgs_control (.inl rfl) hcopy]
  exact (sendResponse_handles (hkeep (hdisable.statusHeaders hstatus)) hresponse).ofSent hsent

lemma copyToVarAndSend_handles {type : UInt8} (htype : (headerOf p).type = type)
    (hne : type ≠ PARAM_CONTROL_PACKET_ID) {b : ParamBlock} (hb : ParamBlock.ofType type = some b)
    (hsize : (headerOf p).size = b.var.sizeof) (hstatus : StatusHeaders x.2)
    (h : Orazio_copyToVarAndSend p (some b.var) x = .ok x') :
    Handles ((paramsOf x.2).change p).2 ((paramsOf x.2).reply p) x x' := by
  rw [Params.reply, change_block htype hne hb]
  obtain ⟨w, g, r, g₁, y, hcopy, hset, hblock, hresponse⟩ := copyToVarAndSend_eq_ok h
  obtain ⟨rfl, hkeep, hsent⟩ := copyArgs_status (by cases b <;> decide) hcopy
  have hsame := setReceived_sameHeaders hset
  have hparams : paramsOf g₁ = _ := hsame.paramsOf.trans (copyArgs_block hsize hcopy)
  rw [← hparams]
  apply Handles.ofSent ((setReceived_change hset).sent.trans hsent)
  exact sendBlock_handles (hsame.statusHeaders (hkeep hstatus)) hblock hresponse

lemma handleParamControlPacket_block (h : Orazio_handleParamControlPacket p x = .ok x') :
    ∃ r g, runParamAction (.ofBytes p) (setRxSeq (ParamControlPacket.ofBytes p).header.seq x.2) =
        .ok (r, g) ∧
      ((ParamBlock.ofParamType (ParamControlPacket.ofBytes p).paramType = none ∧
          Orazio_sendResponse p r (x.1, g) = .ok x') ∨
        ∃ b y, ParamBlock.ofParamType (ParamControlPacket.ofBytes p).paramType = some b ∧
          Orazio_sendPacket b.var (x.1, g) = .ok y ∧ Orazio_sendResponse p r y = .ok x') := by
  obtain ⟨r, g, hrun, hanswer⟩ := handleParamControlPacket_eq_ok h
  refine ⟨r, g, hrun, ?_⟩
  rw [paramBlock_eq] at hanswer
  obtain ⟨hnone, hresponse⟩ | ⟨v, offset, y, hblock, hsend, hresponse⟩ := hanswer
  · exact .inl ⟨Option.map_eq_none_iff.mp hnone, hresponse⟩
  · obtain ⟨b, hb, heq⟩ := Option.map_eq_some_iff.mp hblock
    cases heq
    exact .inr ⟨b, y, hb, hsend, hresponse⟩

lemma handleParamControlPacket_handles (htype : (headerOf p).type = PARAM_CONTROL_PACKET_ID)
    (hstatus : StatusHeaders x.2) (h : Orazio_handleParamControlPacket p x = .ok x') :
    Handles ((paramsOf x.2).change p).2 ((paramsOf x.2).reply p) x x' := by
  obtain ⟨r, g, hrun, hanswer⟩ := handleParamControlPacket_block h
  have hseq := setRxSeq_sameHeaders (ParamControlPacket.ofBytes p).header.seq x.2
  have hchange := runParamAction_change hrun
  have hkeep := hchange.statusHeaders (hseq.statusHeaders hstatus)
  obtain ⟨hb, hresponse⟩ | ⟨b, y, hb, hblock, hresponse⟩ := hanswer
  · simp only [Params.reply, Params.change, if_pos htype, hb]
    have hparams : paramsOf g = paramsOf x.2 :=
      (congrArg paramsOf (runParamAction_none hb hrun)).trans hseq.paramsOf
    rw [← hparams]
    exact (sendResponse_handles hkeep hresponse).ofSent hchange.sent
  · simp only [Params.reply, Params.change, if_pos htype, hb]
    have hparams := runParamAction_params hb hrun
    rw [hseq.paramsOf] at hparams
    rw [← hparams]
    exact (sendBlock_handles hkeep hblock hresponse).ofSent hchange.sent

/-- Every action sends the frames that its packet calls for. -/
lemma deferredAction_handles {mem : Addr → UInt8} {q : Pending} (hs : Stored orazioConfig mem q)
    {action : OrazioAction} (haction : actionOf orazioConfig q.type = some action)
    (hstatus : StatusHeaders x.2)
    (h : deferredAction action (fun k => mem (q.packet + k)) x = .ok x') :
    Handles ((paramsOf x.2).change fun k => mem (q.packet + k)).2
      ((paramsOf x.2).reply fun k => mem (q.packet + k)) x x' := by
  obtain ⟨i, hmem, htype, hi, hcfg⟩ := orazioConfig_action haction
  obtain ⟨hheader, hsize⟩ := hs.header hcfg
  rw [← htype, UInt8.ofNat_toNat] at hheader
  simp only [orazioInstalls, List.mem_cons, List.not_mem_nil, or_false] at hmem
  rcases hmem with rfl | rfl | rfl | rfl | rfl | rfl <;> cases hi
  · exact handleParamControlPacket_handles hheader hstatus h
  · exact copyToVarAndSend_handles (b := .system) hheader (by decide) rfl hsize hstatus h
  · exact copyToVarAndDisableDrive_handles hheader (by decide) rfl hstatus h
  · exact copyToVarAndSend_handles (b := .joints) hheader (by decide) rfl hsize hstatus h
  · exact copyToVar_handles hheader (by decide) rfl hstatus h
  · exact copyToVarAndSend_handles (b := .drive) hheader (by decide) rfl hsize hstatus h

end Orazio.Proofs
