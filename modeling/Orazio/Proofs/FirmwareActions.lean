import Orazio.Proofs.FirmwareSending

/-!
# The deferred actions of the firmware

What initialising the drive, setting, loading and saving parameters and copying a packet change.
-/

namespace Orazio.Proofs

variable {F π : Type} [CFloat F]

/-! ### Parameters -/

lemma driveInit_eq_ok {g g' : Globals F π} (h : Orazio_driveInit g = .ok g') :
    ∃ controller status, g' = { g with
        driveController := controller
        driveStatus := status
        lastDriveControlSeq := g.driveControl.header.seq } ∧
      status.header = g.driveStatus.header := by
  unfold Orazio_driveInit at h
  simp only at h
  split at h
  · cases h
  · next controller status hinit =>
    cases h
    refine ⟨controller, status, rfl, ?_⟩
    unfold DifferentialDriveController.init DifferentialDriveController.reset at hinit
    split at hinit
    · cases hinit
      rfl
    · cases hinit
    · cases hinit

variable [PinDriver π]

omit [CFloat F] in
lemma hBridgeInit_eq (g : Globals F π) :
    ∃ bridges pins, Orazio_hBridgeInit g = { g with bridges, pins } := by
  unfold Orazio_hBridgeInit initBridges
  split
  · exact ⟨_, _, rfl⟩
  · split
    · exact ⟨_, _, rfl⟩
    · split
      · exact ⟨_, _, rfl⟩
      · exact ⟨g.bridges, g.pins, rfl⟩

/-- Setting parameters touches the bridges and the drive. -/
lemma paramSet_eq_ok {paramType : UInt8} {g g' : Globals F π} {r : PacketStatus}
    (h : Orazio_paramSet paramType g = .ok (r, g')) :
    ∃ bridges pins controller status seq, g' = { g with
        bridges := bridges
        pins := pins
        driveController := controller
        driveStatus := status
        lastDriveControlSeq := seq } ∧
      status.header = g.driveStatus.header ∧
      (seq = g.lastDriveControlSeq ∨ seq = g.driveControl.header.seq) := by
  unfold Orazio_paramSet at h
  split at h
  · split at h
    · cases h
    · next g₁ hinit =>
      cases h
      obtain ⟨bridges, pins, hbridge⟩ := hBridgeInit_eq g
      rw [hbridge] at hinit
      obtain ⟨controller, status, rfl, hheader⟩ := driveInit_eq_ok hinit
      exact ⟨bridges, pins, controller, status, _, rfl, hheader, .inr rfl⟩
  · split at h
    · cases h
      exact ⟨g.bridges, g.pins, g.driveController, g.driveStatus, _, rfl, rfl, .inl rfl⟩
    · split at h
      · split at h
        · cases h
        · next g₁ hinit =>
          cases h
          obtain ⟨controller, status, rfl, hheader⟩ := driveInit_eq_ok hinit
          exact ⟨g.bridges, g.pins, controller, status, _, rfl, hheader, .inr rfl⟩
      · cases h
        exact ⟨g.bridges, g.pins, g.driveController, g.driveStatus, _, rfl, rfl, .inl rfl⟩

lemma setReceived_eq_ok {type : UInt8} {g g' : Globals F π} {r : PacketStatus}
    (h : setReceived type g = .ok (r, g')) :
    g' = g ∨ ∃ paramType, Orazio_paramSet paramType g = .ok (r, g') := by
  unfold setReceived at h
  split at h
  · exact .inr ⟨_, h⟩
  · split at h
    · exact .inr ⟨_, h⟩
    · split at h
      · exact .inr ⟨_, h⟩
      · cases h
        exact .inl rfl

lemma paramLoad_eq_ok {paramType : UInt8} {g g' : Globals F π} {r : PacketStatus}
    (h : Orazio_paramLoad paramType g = .ok (r, g')) :
    (paramBlock paramType = none ∧ r = .genericError ∧ g' = g) ∨
      ∃ v offset r', paramBlock paramType = some (v, offset) ∧ r = .success ∧
        Orazio_paramSet paramType (v.ofMemory (EEPROM_read offset g.eeprom) g) = .ok (r', g') := by
  unfold Orazio_paramLoad at h
  split at h
  · next hblock =>
    cases h
    exact .inl ⟨hblock, rfl, rfl⟩
  · next v offset hblock =>
    split at h
    · cases h
    · next r' g₁ hset =>
      cases h
      exact .inr ⟨v, offset, r', hblock, rfl, hset⟩

/-- The four branches of the `switch` on the action. -/
lemma runParamAction_eq_ok {ctl : ParamControlPacket} {g g' : Globals F π} {r : PacketStatus}
    (h : runParamAction ctl g = .ok (r, g')) :
    (ctl.action = ParamRequest ∧ r = .success ∧ g' = g) ∨
      (ctl.action = ParamLoad ∧ Orazio_paramLoad ctl.paramType g = .ok (r, g')) ∨
      (ctl.action = ParamSave ∧ r = (Orazio_paramSave ctl.paramType g).1 ∧
        g' = (Orazio_paramSave ctl.paramType g).2) ∨
      ((ctl.action ≠ ParamRequest ∧ ctl.action ≠ ParamLoad ∧ ctl.action ≠ ParamSave) ∧
        r = .genericError ∧ g' = g) := by
  unfold runParamAction at h
  split at h
  · next hrequest =>
    cases h
    exact .inl ⟨hrequest, rfl, rfl⟩
  · next hrequest =>
    split at h
    · next hload => exact .inr (.inl ⟨hload, h⟩)
    · next hload =>
      split at h
      · next hsave =>
        have heq := Except.ok.inj h
        exact .inr (.inr (.inl ⟨hsave, congrArg Prod.fst heq.symm, congrArg Prod.snd heq.symm⟩))
      · next hsave =>
        cases h
        exact .inr (.inr (.inr ⟨⟨hrequest, hload, hsave⟩, rfl, rfl⟩))

/-- What handling parameters leaves alone. -/
structure ParamChange (g g' : Globals F π) : Prop where
  systemStatus : g'.systemStatus = g.systemStatus
  jointStatus : g'.jointStatus = g.jointStatus
  driveStatus : g'.driveStatus.header = g.driveStatus.header
  jointControl : g'.jointControl = g.jointControl
  driveControl : g'.driveControl = g.driveControl
  response : g'.response = g.response
  endEpoch : g'.endEpoch = g.endEpoch
  jointControllers : g'.jointControllers = g.jointControllers
  lastSeq : g'.lastDriveControlSeq = g.lastDriveControlSeq ∨
    g'.lastDriveControlSeq = g.driveControl.header.seq
  driveEnable : g'.driveEnable = g.driveEnable
  uart : g'.uart = g.uart
  globalSeq : g'.globalSeq = g.globalSeq
  sent : g'.sent = g.sent

omit [CFloat F] [PinDriver π] in
lemma ParamChange.refl (g : Globals F π) : ParamChange g g :=
  ⟨rfl, rfl, rfl, rfl, rfl, rfl, rfl, rfl, .inl rfl, rfl, rfl, rfl, rfl⟩

omit [CFloat F] [PinDriver π] in
lemma ParamChange.trans {g g' g'' : Globals F π} (h : ParamChange g g') (h' : ParamChange g' g'') :
    ParamChange g g'' where
  systemStatus := h'.systemStatus.trans h.systemStatus
  jointStatus := h'.jointStatus.trans h.jointStatus
  driveStatus := h'.driveStatus.trans h.driveStatus
  jointControl := h'.jointControl.trans h.jointControl
  driveControl := h'.driveControl.trans h.driveControl
  response := h'.response.trans h.response
  endEpoch := h'.endEpoch.trans h.endEpoch
  jointControllers := h'.jointControllers.trans h.jointControllers
  lastSeq := by
    rcases h'.lastSeq with hs | hs
    · rw [hs]
      exact h.lastSeq
    · rw [hs, h.driveControl]
      exact .inr rfl
  driveEnable := h'.driveEnable.trans h.driveEnable
  uart := h'.uart.trans h.uart
  globalSeq := h'.globalSeq.trans h.globalSeq
  sent := h'.sent.trans h.sent

lemma paramSet_change {paramType : UInt8} {g g' : Globals F π} {r : PacketStatus}
    (h : Orazio_paramSet paramType g = .ok (r, g')) : ParamChange g g' := by
  obtain ⟨bridges, pins, controller, status, seq, rfl, hheader, hseq⟩ := paramSet_eq_ok h
  exact ⟨rfl, rfl, hheader, rfl, rfl, rfl, rfl, rfl, hseq, rfl, rfl, rfl, rfl⟩

lemma setReceived_change {type : UInt8} {g g' : Globals F π} {r : PacketStatus}
    (h : setReceived type g = .ok (r, g')) : ParamChange g g' := by
  obtain rfl | ⟨_, hset⟩ := setReceived_eq_ok h
  · exact .refl _
  · exact paramSet_change hset

lemma paramBlock_cases {paramType : UInt8} {v : PacketVar} {offset : Nat}
    (h : paramBlock paramType = some (v, offset)) :
    (paramType = ParamSystem ∧ v = .systemParams ∧ offset = SYSTEM_PARAM_OFFSET) ∨
      (paramType = ParamJoints ∧ v = .jointParams ∧ offset = JOINT_PARAM_OFFSET) ∨
      (paramType = ParamDrive ∧ v = .driveParams ∧ offset = DRIVE_PARAM_OFFSET) := by
  unfold paramBlock at h
  split at h
  · next ht => cases h; exact .inl ⟨ht, rfl, rfl⟩
  · split at h
    · next ht => cases h; exact .inr (.inl ⟨ht, rfl, rfl⟩)
    · split at h
      · next ht => cases h; exact .inr (.inr ⟨ht, rfl, rfl⟩)
      · cases h

omit [PinDriver π] in
lemma ofMemory_change {paramType : UInt8} {v : PacketVar} {offset : Nat}
    (h : paramBlock paramType = some (v, offset)) (m : PacketBytes) (g : Globals F π) :
    ParamChange g (v.ofMemory m g) := by
  rcases paramBlock_cases h with ⟨-, rfl, -⟩ | ⟨-, rfl, -⟩ | ⟨-, rfl, -⟩ <;>
    exact ⟨rfl, rfl, rfl, rfl, rfl, rfl, rfl, rfl, .inl rfl, rfl, rfl, rfl, rfl⟩

lemma paramLoad_change {paramType : UInt8} {g g' : Globals F π} {r : PacketStatus}
    (h : Orazio_paramLoad paramType g = .ok (r, g')) : ParamChange g g' := by
  obtain ⟨-, -, rfl⟩ | ⟨v, offset, r', hblock, -, hset⟩ := paramLoad_eq_ok h
  · exact .refl _
  · exact (ofMemory_change hblock _ _).trans (paramSet_change hset)

omit [PinDriver π] in
lemma paramSave_change (paramType : UInt8) (g : Globals F π) :
    ParamChange g (Orazio_paramSave paramType g).2 := by
  unfold Orazio_paramSave
  split
  · exact .refl _
  · exact ⟨rfl, rfl, rfl, rfl, rfl, rfl, rfl, rfl, .inl rfl, rfl, rfl, rfl, rfl⟩

lemma runParamAction_change {ctl : ParamControlPacket} {g g' : Globals F π} {r : PacketStatus}
    (h : runParamAction ctl g = .ok (r, g')) : ParamChange g g' := by
  obtain ⟨-, -, rfl⟩ | ⟨-, hload⟩ | ⟨-, -, rfl⟩ | ⟨-, -, rfl⟩ := runParamAction_eq_ok h
  · exact .refl _
  · exact paramLoad_change hload
  · exact paramSave_change _ _
  · exact .refl _

omit [CFloat F] [PinDriver π] in
lemma saveVersions_change (g : Globals F π) : ParamChange g (saveVersions g) :=
  ⟨rfl, rfl, rfl, rfl, rfl, rfl, rfl, rfl, .inl rfl, rfl, rfl, rfl, rfl⟩

omit [PinDriver π] in
lemma saveDefaults_change (g : Globals F π) : ParamChange g (saveDefaults g) := by
  unfold saveDefaults
  apply ParamChange.trans _ (paramSave_change ParamDrive _)
  apply ParamChange.trans _ (paramSave_change ParamJoints _)
  apply ParamChange.trans _ (paramSave_change ParamSystem _)
  exact saveVersions_change g

lemma loadParams_eq_ok {g g' : Globals F π} (h : loadParams g = .ok g') :
    ∃ r₁ g₁ r₂ g₂ r₃, Orazio_paramLoad ParamSystem g = .ok (r₁, g₁) ∧
      Orazio_paramLoad ParamJoints g₁ = .ok (r₂, g₂) ∧
      Orazio_paramLoad ParamDrive g₂ = .ok (r₃, g') := by
  unfold loadParams at h
  split at h
  · cases h
  · next r₁ g₁ h₁ =>
    split at h
    · cases h
    · next r₂ g₂ h₂ =>
      split at h
      · cases h
      · next r₃ g₃ h₃ =>
        cases h
        exact ⟨r₁, g₁, r₂, g₂, r₃, h₁, h₂, h₃⟩

lemma syncParams_change {cpv : UInt32} {g g' : Globals F π} (h : syncParams cpv g = .ok g') :
    ParamChange g g' := by
  unfold syncParams at h
  split at h
  · rw [← Except.ok.inj h]
    exact saveDefaults_change g
  · obtain ⟨r₁, g₁, r₂, g₂, r₃, h₁, h₂, h₃⟩ := loadParams_eq_ok h
    exact ((paramLoad_change h₁).trans (paramLoad_change h₂)).trans (paramLoad_change h₃)

omit [CFloat F] [PinDriver π] in
lemma setVersions_change (cpv cfv : UInt32) (g : Globals F π) :
    ParamChange g (setVersions cpv cfv g) :=
  ⟨rfl, rfl, rfl, rfl, rfl, rfl, rfl, rfl, .inl rfl, rfl, rfl, rfl, rfl⟩

lemma initParams_eq_ok {cpv cfv : UInt32} {g g' : Globals F π} (h : initParams cpv cfv g = .ok g') :
    ∃ g₁, syncParams cpv g = .ok g₁ ∧ g' = setVersions cpv cfv g₁ := by
  unfold initParams at h
  split at h
  · cases h
  · next g₁ hsync => exact ⟨g₁, hsync, (Except.ok.inj h).symm⟩

lemma paramInit_change {g g' : Globals F π} (h : Orazio_paramInit g = .ok g') :
    ParamChange g g' := by
  obtain ⟨g₁, hsync, rfl⟩ := initParams_eq_ok h
  exact (syncParams_change hsync).trans (setVersions_change _ _ g₁)

/-! ### Copying a packet -/

omit [PinDriver π] in
lemma copyArgs_eq_ok {p : PacketBytes} {args : Option PacketVar} {v : PacketVar}
    {g g' : Globals F π} (h : copyArgs p args g = .ok (v, g')) :
    args = some v ∧ (headerOf p).size ≤ v.sizeof ∧
      g' = setRxSeq (headerOf p).seq (v.ofMemory
        (fun i => if i < (headerOf p).size.toNat then p i else v.memory g i) g) := by
  unfold copyArgs at h
  split at h
  · cases h
  · next w =>
    unfold PacketVar.copy at h
    by_cases hsize : w.sizeof < (headerOf p).size
    · rw [if_pos hsize] at h
      cases h
    · rw [if_neg hsize] at h
      cases h
      exact ⟨rfl, UInt8.not_lt.mp hsize, rfl⟩

/-! ### What an action calls -/

section

variable {p : PacketBytes} {args : Option PacketVar} {x x' : TxFields × Globals F π}

omit [PinDriver π] in
lemma copyToVar_eq_ok (h : Orazio_copyToVar p args x = .ok x') :
    ∃ v g, copyArgs p args x.2 = .ok (v, g) ∧ Orazio_sendResponse p .success (x.1, g) = .ok x' := by
  unfold Orazio_copyToVar at h
  split at h
  · cases h
  · next v g hcopy => exact ⟨v, g, hcopy, h⟩

omit [PinDriver π] in
lemma copyToVarAndDisableDrive_eq_ok (h : Orazio_copyToVarAndDisableDrive p args x = .ok x') :
    ∃ v g, copyArgs p args (Orazio_driveDisable x.2) = .ok (v, g) ∧
      Orazio_sendResponse p .success (x.1, g) = .ok x' := by
  unfold Orazio_copyToVarAndDisableDrive at h
  split at h
  · cases h
  · next v g hcopy => exact ⟨v, g, hcopy, h⟩

lemma copyToVarAndSend_eq_ok (h : Orazio_copyToVarAndSend p args x = .ok x') :
    ∃ v g r g' y, copyArgs p args x.2 = .ok (v, g) ∧ setReceived (headerOf p).type g = .ok (r, g') ∧
      Orazio_sendPacket v (x.1, g') = .ok y ∧ Orazio_sendResponse p .success y = .ok x' := by
  unfold Orazio_copyToVarAndSend at h
  split at h
  · cases h
  · next v g hcopy =>
    split at h
    · cases h
    · next r g' hset =>
      split at h
      · cases h
      · next y hsend => exact ⟨v, g, r, g', y, hcopy, hset, hsend, h⟩

/-- The block of parameters is sent if there is one, then the response. -/
lemma handleParamControlPacket_eq_ok (h : Orazio_handleParamControlPacket p x = .ok x') :
    ∃ r g, runParamAction (.ofBytes p) (setRxSeq (ParamControlPacket.ofBytes p).header.seq x.2) =
        .ok (r, g) ∧
      ((paramBlock (ParamControlPacket.ofBytes p).paramType = none ∧
          Orazio_sendResponse p r (x.1, g) = .ok x') ∨
        ∃ v offset y, paramBlock (ParamControlPacket.ofBytes p).paramType = some (v, offset) ∧
          Orazio_sendPacket v (x.1, g) = .ok y ∧ Orazio_sendResponse p r y = .ok x') := by
  unfold Orazio_handleParamControlPacket at h
  simp only at h
  split at h
  · cases h
  · next r g hrun =>
    refine ⟨r, g, hrun, ?_⟩
    split at h
    · next hnone => exact .inl ⟨hnone, h⟩
    · next v offset hblock =>
      split at h
      · cases h
      · next y hsend => exact .inr ⟨v, offset, y, hblock, hsend, h⟩

end

/-! ### The installed actions -/

/-- The action of an installed type and the type. -/
lemma orazioConfig_action {t : Fin PACKET_TYPE_MAX} {action : OrazioAction}
    (h : actionOf orazioConfig t = some action) :
    ∃ i ∈ orazioInstalls, i.type.toNat = t ∧ i.action = some action ∧ orazioConfig t = some i := by
  unfold actionOf at h
  cases hi : orazioConfig t with
  | none => simp [hi] at h
  | some i =>
    obtain ⟨hmem, htype⟩ := installedFor_mem hi
    rw [hi] at h
    exact ⟨i, hmem, htype, h, rfl⟩

/-- Every pending packet has an action. -/
lemma actionOf_stored {mem : Addr → UInt8} {p : Pending} (hs : Stored orazioConfig mem p) :
    actionOf orazioConfig p.type ≠ none := by
  obtain ⟨i, payload, hi, -⟩ := hs
  obtain ⟨hmem, -⟩ := installedFor_mem hi
  have hsome : i.action ≠ none := by
    simp only [orazioInstalls, List.mem_cons, List.not_mem_nil, or_false] at hmem
    rcases hmem with rfl | rfl | rfl | rfl | rfl | rfl <;> simp
  rw [actionOf, hi]
  exact hsome

/-- The variables that the actions write to are none of the status packets. -/
lemma orazioConfig_args {t : Fin PACKET_TYPE_MAX} {action : OrazioAction}
    (h : actionOf orazioConfig t = some action) :
    action.args ≠ some .systemStatus ∧
      (action.fn = .copyToVarAndSend → action.args ≠ some .driveControl) := by
  obtain ⟨i, hmem, -, haction, -⟩ := orazioConfig_action h
  simp only [orazioInstalls, List.mem_cons, List.not_mem_nil, or_false] at hmem
  rcases hmem with rfl | rfl | rfl | rfl | rfl | rfl <;> cases haction <;> decide

/-! ### The counter of received packets -/

omit [PinDriver π] in
lemma ofMemory_rxPackets {v : PacketVar} (hv : v ≠ .systemStatus) (m : PacketBytes)
    (g : Globals F π) : (v.ofMemory m g).systemStatus = g.systemStatus := by
  cases v with
  | systemStatus => exact absurd rfl hv
  | _ => rfl

omit [PinDriver π] in
lemma copyArgs_rxPackets {p : PacketBytes} {args : Option PacketVar} {v : PacketVar}
    {g g' : Globals F π} (hargs : args ≠ some .systemStatus) (h : copyArgs p args g = .ok (v, g')) :
    g'.systemStatus.rxPackets = g.systemStatus.rxPackets := by
  obtain ⟨rfl, -, rfl⟩ := copyArgs_eq_ok h
  have hv : v ≠ .systemStatus := fun hv => hargs (congrArg some hv)
  change (v.ofMemory _ g).systemStatus.rxPackets = _
  rw [ofMemory_rxPackets hv]

omit [PinDriver π] in
lemma sendPacket_rxPackets {v : PacketVar} (hv : v ≠ .driveControl) {x x' : TxFields × Globals F π}
    (h : Orazio_sendPacket v x = .ok x') :
    x'.2.systemStatus.rxPackets = x.2.systemStatus.rxPackets :=
  congrArg Control.rxPackets (sendPacket_control hv h)

omit [PinDriver π] in
lemma sendResponse_rxPackets {p : PacketBytes} {r : PacketStatus} {x x' : TxFields × Globals F π}
    (h : Orazio_sendResponse p r x = .ok x') :
    x'.2.systemStatus.rxPackets = x.2.systemStatus.rxPackets :=
  congrArg Control.rxPackets (sendResponse_control h)

/-- No installed action changes the counter of received packets. -/
lemma deferredAction_rxPackets {t : Fin PACKET_TYPE_MAX} {action : OrazioAction}
    (ha : actionOf orazioConfig t = some action) {p : PacketBytes} {x x' : TxFields × Globals F π}
    (h : deferredAction action p x = .ok x') :
    x'.2.systemStatus.rxPackets = x.2.systemStatus.rxPackets := by
  obtain ⟨hargs, hdrive⟩ := orazioConfig_args ha
  unfold deferredAction at h
  cases hfn : action.fn with
  | copyToVar =>
    simp only [hfn] at h
    obtain ⟨v, g, hcopy, hresponse⟩ := copyToVar_eq_ok h
    rw [sendResponse_rxPackets hresponse, copyArgs_rxPackets hargs hcopy]
  | copyToVarAndDisableDrive =>
    simp only [hfn] at h
    obtain ⟨v, g, hcopy, hresponse⟩ := copyToVarAndDisableDrive_eq_ok h
    rw [sendResponse_rxPackets hresponse, copyArgs_rxPackets hargs hcopy]
    rfl
  | copyToVarAndSend =>
    simp only [hfn] at h
    obtain ⟨v, g, r, g₁, y, hcopy, hset, hsend, hresponse⟩ := copyToVarAndSend_eq_ok h
    have hv : v ≠ .driveControl := by
      intro hv
      apply hdrive hfn
      rw [(copyArgs_eq_ok hcopy).1, hv]
    rw [sendResponse_rxPackets hresponse, sendPacket_rxPackets hv hsend,
      (setReceived_change hset).systemStatus, copyArgs_rxPackets hargs hcopy]
  | handleParamControlPacket =>
    simp only [hfn] at h
    obtain ⟨r, g, hrun, hanswer⟩ := handleParamControlPacket_eq_ok h
    have hstatus := congrArg SystemStatusPacket.rxPackets (runParamAction_change hrun).systemStatus
    obtain ⟨-, hresponse⟩ | ⟨v, offset, y, hblock, hsend, hresponse⟩ := hanswer
    · rw [sendResponse_rxPackets hresponse]
      exact hstatus
    · have hv : v ≠ .driveControl := by
        rcases paramBlock_cases hblock with ⟨-, rfl, -⟩ | ⟨-, rfl, -⟩ | ⟨-, rfl, -⟩ <;> decide
      rw [sendResponse_rxPackets hresponse, sendPacket_rxPackets hv hsend]
      exact hstatus

end Orazio.Proofs
