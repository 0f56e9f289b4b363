import Orazio.Proofs.ParamStore

/-!
# Parameters and faults

Which parameters make `Orazio_driveInit` use a joint that does not exist, or leave the bridges
without operations. What matters of the parameters is little: the two joint indices and the type of
the bridges, in memory and in the EEPROM.
-/

namespace Orazio.Proofs

variable {F π : Type} [CFloat F] [PinDriver π]

/-! ### Runs -/

/-- A received packet of this type and size. -/
structure Received (type size : UInt8) where
  packet : PacketBytes
  type_eq : (headerOf packet).type = type
  size_eq : (headerOf packet).size = size

inductive ParamInput
  | systemParam (p : Received SYSTEM_PARAM_PACKET_ID sizeofSystemParamPacket)
  | jointParam (p : Received JOINT_PARAM_PACKET_ID sizeofJointParamPacket)
  | driveParam (p : Received DIFFERENTIAL_DRIVE_PARAM_PACKET_ID sizeofDriveParamPacket)
  | paramControl (p : Received PARAM_CONTROL_PACKET_ID sizeofParamControlPacket)
  | tick (encoders : Fin NUM_MOTORS → UInt16)
  | reboot

/-- `Orazio_copyToVarAndSend` up to the sending. -/
def receiveParams (p : PacketBytes) (v : PacketVar) (g : Globals F π) : Except Fault (Globals F π) :=
  match copyArgs p (some v) g with
  | .error e => .error e
  | .ok (_, g) =>
    match setReceived (headerOf p).type g with
    | .error e => .error e
    | .ok (_, g) => .ok g

/-- `Orazio_handleParamControlPacket` up to the sending. -/
def receiveControl (p : PacketBytes) (g : Globals F π) : Except Fault (Globals F π) :=
  let ctl := ParamControlPacket.ofBytes p
  match runParamAction ctl (setRxSeq ctl.header.seq g) with
  | .error e => .error e
  | .ok (_, g) => .ok g

/-- The body of the timer callback that works on the joints. -/
def tickJoints (encoders : Fin NUM_MOTORS → UInt16) (g : Globals F π) : Except Fault (Globals F π) :=
  Orazio_hBridgeApplyControl (Orazio_jointsHandle encoders g)

/-- One step; after a reboot the variables have their initial values again. -/
def paramStep (g : Globals F π) (input : ParamInput) : Except Fault (Unit × Globals F π) :=
  let result :=
    match input with
    | .systemParam p => receiveParams p.packet .systemParams g
    | .jointParam p => receiveParams p.packet .jointParams g
    | .driveParam p => receiveParams p.packet .driveParams g
    | .paramControl p => receiveControl p.packet g
    | .tick encoders => tickJoints encoders g
    | .reboot => initSubsystems (.static g.eeprom g.pins)
  match result with
  | .error e => .error e
  | .ok g => .ok ((), g)

/-- The action of a packet of parameters sends two packets after this. -/
lemma copyToVarAndSend_eq (p : PacketBytes) (v : PacketVar) (x : TxFields × Globals F π) :
    Orazio_copyToVarAndSend p (some v) x =
      match receiveParams p v x.2 with
      | .error e => .error e
      | .ok g =>
        match Orazio_sendPacket v (x.1, g) with
        | .error e => .error e
        | .ok x => Orazio_sendResponse p .success x := by
  unfold Orazio_copyToVarAndSend receiveParams
  cases hcopy : copyArgs p (some v) x.2 with
  | error e => rfl
  | ok r =>
    obtain ⟨w, g⟩ := r
    obtain ⟨hv, -⟩ := copyArgs_eq_ok hcopy
    cases hv
    simp only
    cases setReceived (headerOf p).type g <;> rfl

/-! ### What matters of the parameters -/

structure JointIndices where
  left : UInt8
  right : UInt8

/-- Both joints exist. -/
def JointIndices.InRange (j : JointIndices) : Prop :=
  j.left.toNat < NUM_MOTORS ∧ j.right.toNat < NUM_MOTORS

instance (j : JointIndices) : Decidable j.InRange :=
  inferInstanceAs (Decidable (_ ∧ _))

/-- The joint indices in the bytes of a `DifferentialDriveParamPacket`. -/
def jointIndicesOf (m : PacketBytes) : JointIndices :=
  ⟨m 17, m 16⟩

/-- The type of the bridges in the bytes of a `SystemParamPacket`. -/
def bridgeTypeOf (m : PacketBytes) : UInt8 :=
  m 24

/-- `Orazio_hBridgeInit` knows the type. -/
def IsBridgeType (type : UInt8) : Prop :=
  type = HBridgeTypePWMDir ∨ type = HBridgeTypeDualPWM ∨ type = HBridgeTypeHalfCyclePWM

instance (type : UInt8) : Decidable (IsBridgeType type) :=
  inferInstanceAs (Decidable (_ ∨ _))

/-- The joint indices and the type of the bridges, in memory and in the EEPROM; whether a known type
has been in force since the last reboot; whether the EEPROM holds the version of the protocol. -/
@[ext]
structure SafetyView where
  indices : JointIndices
  bridgeType : UInt8
  typeSeen : Bool
  storedVersion : Bool
  storedIndices : JointIndices
  storedType : UInt8

namespace SafetyView

def setType (v : SafetyView) (type : UInt8) : SafetyView :=
  { v with bridgeType := type, typeSeen := v.typeSeen || decide (IsBridgeType type) }

/-- A block gets the bytes `m`. -/
def overwrite (v : SafetyView) (b : ParamBlock) (m : PacketBytes) : SafetyView :=
  match b with
  | .system => v.setType (bridgeTypeOf m)
  | .joints => v
  | .drive => { v with indices := jointIndicesOf m }

def load (v : SafetyView) : ParamBlock → SafetyView
  | .system => v.setType v.storedType
  | .joints => v
  | .drive => { v with indices := v.storedIndices }

def save (v : SafetyView) : ParamBlock → SafetyView
  | .system => { v with storedType := v.bridgeType }
  | .joints => v
  | .drive => { v with storedIndices := v.indices }

def control (v : SafetyView) (ctl : ParamControlPacket) : SafetyView :=
  match ParamBlock.ofParamType ctl.paramType with
  | none => v
  | some b =>
    if ctl.action = ParamLoad then v.load b else if ctl.action = ParamSave then v.save b else v

/-- The variables with their initial values. -/
def reset (v : SafetyView) : SafetyView :=
  { v with indices := ⟨1, 0⟩, bridgeType := HBridgeTypePWMDir, typeSeen := false }

/-- A first boot saves the defaults, a later one loads what is stored. -/
def reboot (v : SafetyView) : SafetyView :=
  if v.storedVersion then (v.reset.load .system).load .drive
  else
    { ((v.reset.save .system).save .drive).setType HBridgeTypePWMDir with storedVersion := true }

def next (v : SafetyView) : ParamInput → SafetyView
  | .systemParam p => v.overwrite .system p.packet
  | .jointParam p => v.overwrite .joints p.packet
  | .driveParam p => v.overwrite .drive p.packet
  | .paramControl p => v.control (.ofBytes p.packet)
  | .tick _ => v
  | .reboot => v.reboot

/-- A packet of drive parameters and a block of them that is loaded have indices of joints; at a tick
a known type of bridges has been in force since the last reboot. -/
def Safe (v : SafetyView) : ParamInput → Prop
  | .driveParam p => (jointIndicesOf p.packet).InRange
  | .paramControl p =>
    (ParamControlPacket.ofBytes p.packet).action = ParamLoad →
      (ParamControlPacket.ofBytes p.packet).paramType = ParamDrive → v.storedIndices.InRange
  | .tick _ => v.typeSeen = true
  | .reboot => v.storedVersion = true → v.storedIndices.InRange
  | _ => True

end SafetyView

/-- What matters of the state of the firmware. -/
def viewOf (g : Globals F π) : SafetyView where
  indices := ⟨g.driveParams.leftJointIndex, g.driveParams.rightJointIndex⟩
  bridgeType := g.systemParams.hBridgeType
  typeSeen := decide (∀ i, (g.bridges i).ops ≠ none)
  storedVersion := decide (LittleEndian.getU32 g.eeprom PROTOCOL_VERSION_OFFSET = ORAZIO_PROTOCOL_VERSION)
  storedIndices := jointIndicesOf (EEPROM_read DRIVE_PARAM_OFFSET g.eeprom)
  storedType := bridgeTypeOf (EEPROM_read SYSTEM_PARAM_OFFSET g.eeprom)

/-! ### Drive and bridges -/

omit [PinDriver π] in
lemma driveInit_returns {g : Globals F π} (h : (viewOf g).indices.InRange) :
    ∃ g', Orazio_driveInit g = .ok g' ∧ viewOf g' = viewOf g := by
  obtain ⟨hleft, hright⟩ := h
  simp only [viewOf] at hleft hright
  unfold Orazio_driveInit DifferentialDriveController.init DifferentialDriveController.reset
  simp only [jointIndex, dif_pos hleft, dif_pos hright]
  exact ⟨_, rfl, rfl⟩

omit [PinDriver π] in
lemma driveInit_fails {g : Globals F π} (h : ¬(viewOf g).indices.InRange) :
    ∃ e, Orazio_driveInit g = .error e := by
  unfold Orazio_driveInit DifferentialDriveController.init DifferentialDriveController.reset
  by_cases hleft : g.driveParams.leftJointIndex.toNat < NUM_MOTORS
  · have hright : ¬g.driveParams.rightJointIndex.toNat < NUM_MOTORS := fun hright => h ⟨hleft, hright⟩
    simp only [jointIndex, dif_pos hleft, dif_neg hright]
    exact ⟨_, rfl⟩
  · simp only [jointIndex, dif_neg hleft]
    exact ⟨_, rfl⟩

omit [CFloat F] in
/-- Bridges of a known type get their operations, others keep what they have. -/
lemma hBridgeInit_view (g : Globals F π) :
    viewOf (Orazio_hBridgeInit g) = (viewOf g).setType g.systemParams.hBridgeType := by
  unfold Orazio_hBridgeInit initBridges
  by_cases hpwm : g.systemParams.hBridgeType = HBridgeTypePWMDir
  · rw [if_pos hpwm]
    have hknown : IsBridgeType g.systemParams.hBridgeType := .inl hpwm
    simp [viewOf, SafetyView.setType, hknown, HBridgePWMDir_init, Fin.forall_fin_two]
  · rw [if_neg hpwm]
    by_cases hdual : g.systemParams.hBridgeType = HBridgeTypeDualPWM
    · rw [if_pos hdual]
      have hknown : IsBridgeType g.systemParams.hBridgeType := .inr (.inl hdual)
      simp [viewOf, SafetyView.setType, hknown, HBridgeDualPWM_init, Fin.forall_fin_two]
    · rw [if_neg hdual]
      by_cases hhalf : g.systemParams.hBridgeType = HBridgeTypeHalfCyclePWM
      · rw [if_pos hhalf]
        have hknown : IsBridgeType g.systemParams.hBridgeType := .inr (.inr hhalf)
        simp [viewOf, SafetyView.setType, hknown, HBridgeHalfPWM_init, Fin.forall_fin_two]
      · rw [if_neg hhalf]
        have hunknown : ¬IsBridgeType g.systemParams.hBridgeType := by
          rintro (h | h | h)
          · exact hpwm h
          · exact hdual h
          · exact hhalf h
        simp [viewOf, SafetyView.setType, hunknown]

/-! ### Setting, loading and saving -/

/-- The parameter type of a block. -/
def ParamBlock.paramType : ParamBlock → UInt8
  | .system => ParamSystem
  | .joints => ParamJoints
  | .drive => ParamDrive

lemma ofParamType_eq_some {paramType : UInt8} {b : ParamBlock}
    (h : ParamBlock.ofParamType paramType = some b) : paramType = b.paramType := by
  unfold ParamBlock.ofParamType at h
  split at h
  · next hsystem => cases h; exact hsystem
  · split at h
    · next hjoints => cases h; exact hjoints
    · split at h
      · next hdrive => cases h; exact hdrive
      · cases h

lemma paramSet_drive (g : Globals F π) :
    Orazio_paramSet ParamDrive g =
      match Orazio_driveInit g with
      | .error e => .error e
      | .ok g => .ok (.success, g) :=
  rfl

/-- A block that is overwritten with usable parameters can be set. -/
lemma paramSet_returns (b : ParamBlock) (m : PacketBytes) {g : Globals F π}
    (hrange : (viewOf g).indices.InRange) (hsafe : b = .drive → (jointIndicesOf m).InRange) :
    ∃ r g', Orazio_paramSet b.paramType (b.var.ofMemory m g) = .ok (r, g') ∧
      viewOf g' = (viewOf g).overwrite b m := by
  cases b with
  | system =>
    have hview := hBridgeInit_view (PacketVar.systemParams.ofMemory m g)
    obtain ⟨g', hinit, hview'⟩ :=
      driveInit_returns (g := Orazio_hBridgeInit (PacketVar.systemParams.ofMemory m g)) (by
        rw [hview]
        exact hrange)
    refine ⟨.success, g', ?_, hview'.trans hview⟩
    simp only [ParamBlock.paramType, ParamBlock.var, Orazio_paramSet, if_true, hinit]
  | joints => exact ⟨.success, _, rfl, rfl⟩
  | drive =>
    obtain ⟨g', hinit, hview⟩ := driveInit_returns (g := PacketVar.driveParams.ofMemory m g) (hsafe rfl)
    refine ⟨.success, g', ?_, hview⟩
    simp only [ParamBlock.paramType, ParamBlock.var, paramSet_drive, hinit]

lemma paramSet_fails {m : PacketBytes} (g : Globals F π) (hout : ¬(jointIndicesOf m).InRange) :
    ∃ e, Orazio_paramSet ParamDrive (PacketVar.driveParams.ofMemory m g) = .error e := by
  obtain ⟨e, hinit⟩ := driveInit_fails (g := PacketVar.driveParams.ofMemory m g) hout
  rw [paramSet_drive, hinit]
  exact ⟨e, rfl⟩

omit [CFloat F] [PinDriver π] in
lemma load_eq_overwrite (b : ParamBlock) (g : Globals F π) :
    (viewOf g).load b = (viewOf g).overwrite b (EEPROM_read b.offset g.eeprom) := by
  cases b <;> rfl

lemma paramLoad_returns {paramType : UInt8} {b : ParamBlock}
    (hb : ParamBlock.ofParamType paramType = some b) {g : Globals F π}
    (hrange : (viewOf g).indices.InRange)
    (hsafe : b = .drive → (viewOf g).storedIndices.InRange) :
    ∃ r g', Orazio_paramLoad paramType g = .ok (r, g') ∧ viewOf g' = (viewOf g).load b := by
  obtain ⟨r, g', hset, hview⟩ :=
    paramSet_returns b (EEPROM_read b.offset g.eeprom) hrange (by
      rintro rfl
      exact hsafe rfl)
  refine ⟨.success, g', ?_, by rw [hview, load_eq_overwrite]⟩
  rw [Orazio_paramLoad, paramBlock_eq, hb]
  simp only [Option.map_some, ofParamType_eq_some hb, hset]

lemma paramLoad_fails {g : Globals F π} (hout : ¬(viewOf g).storedIndices.InRange) :
    ∃ e, Orazio_paramLoad ParamDrive g = .error e := by
  obtain ⟨e, hset⟩ := paramSet_fails g hout
  have hload : Orazio_paramLoad ParamDrive g =
      match Orazio_paramSet ParamDrive
        (PacketVar.driveParams.ofMemory (EEPROM_read DRIVE_PARAM_OFFSET g.eeprom) g) with
      | .error e => .error e
      | .ok (_, g) => .ok (.success, g) := rfl
  rw [hload, hset]
  exact ⟨e, rfl⟩

omit [PinDriver π] in
/-- A byte of a saved block. -/
lemma eepromWrite_byte (b : ParamBlock) (g : Globals F π) {i : Nat} (hi : i < b.var.sizeof.toNat) :
    EEPROM_write b.offset (b.var.bytes g) g.eeprom (b.offset + i) = (b.var.bytes g).getD i 0 := by
  have hstored := storedBlock_save b g
  rw [storedBlock, ← length_bytes b.var g] at hstored
  exact (Bytes.getD_of_read hstored (by rw [length_bytes]; exact hi)).symm

omit [PinDriver π] in
lemma driveParams_indices (g : Globals F π) :
    jointIndicesOf (fun i => (PacketVar.driveParams.bytes g).getD i 0) =
      ⟨g.driveParams.leftJointIndex, g.driveParams.rightJointIndex⟩ := by
  obtain ⟨_, _, _, _, hkr⟩ := List.length_eq_four.mp (FloatBytes.length_bytes g.driveParams.kr)
  obtain ⟨_, _, _, _, hkl⟩ := List.length_eq_four.mp (FloatBytes.length_bytes g.driveParams.kl)
  obtain ⟨_, _, _, _, hbaseline⟩ :=
    List.length_eq_four.mp (FloatBytes.length_bytes g.driveParams.baseline)
  simp only [jointIndicesOf, PacketVar.bytes, DifferentialDriveParamPacket.bytes, hkr, hkl, hbaseline,
    List.append_assoc]
  rfl

omit [PinDriver π] in
/-- Saving a block copies what matters of it. -/
lemma paramSave_view (b : ParamBlock) (g : Globals F π) :
    viewOf { g with eeprom := EEPROM_write b.offset (b.var.bytes g) g.eeprom } = (viewOf g).save b := by
  have hversion : LittleEndian.getU32 (EEPROM_write b.offset (b.var.bytes g) g.eeprom)
      PROTOCOL_VERSION_OFFSET = LittleEndian.getU32 g.eeprom PROTOCOL_VERSION_OFFSET := by
    apply getU32_eepromWrite_of_apart
    left
    cases b <;> decide
  have hother : ∀ b' i, b' ≠ b → i < b'.var.sizeof.toNat →
      EEPROM_write b.offset (b.var.bytes g) g.eeprom (b'.offset + i) = g.eeprom (b'.offset + i) :=
    fun b' i hb hi => eepromWrite_block b g (blocks_apart hb hi)
  have hself : ∀ i < b.var.sizeof.toNat,
      EEPROM_write b.offset (b.var.bytes g) g.eeprom (b.offset + i) = (b.var.bytes g).getD i 0 :=
    fun i hi => eepromWrite_byte b g hi
  generalize EEPROM_write b.offset (b.var.bytes g) g.eeprom = eeprom at hversion hother hself ⊢
  have htype : b ≠ .system → eeprom (SYSTEM_PARAM_OFFSET + 24) = (viewOf g).storedType :=
    fun hb => hother .system 24 (Ne.symm hb) (by decide)
  have hindices : b ≠ .drive → jointIndicesOf (EEPROM_read DRIVE_PARAM_OFFSET eeprom) =
      (viewOf g).storedIndices := by
    intro hb
    exact congrArg₂ JointIndices.mk (hother .drive 17 (Ne.symm hb) (by decide))
      (hother .drive 16 (Ne.symm hb) (by decide))
  apply SafetyView.ext
  · cases b <;> rfl
  · cases b <;> rfl
  · cases b <;> rfl
  · simp only [viewOf, hversion]
    cases b <;> rfl
  · cases b with
    | system => exact hindices (by decide)
    | joints => exact hindices (by decide)
    | drive =>
      exact (congrArg₂ JointIndices.mk (hself 17 (by decide)) (hself 16 (by decide))).trans
        (driveParams_indices g)
  · cases b with
    | system => exact hself 24 (by decide)
    | joints => exact htype (by decide)
    | drive => exact htype (by decide)

omit [PinDriver π] in
lemma paramSave_view_of {paramType : UInt8} {b : ParamBlock}
    (hb : ParamBlock.ofParamType paramType = some b) (g : Globals F π) :
    viewOf (Orazio_paramSave paramType g).2 = (viewOf g).save b := by
  rw [paramSave_eq hb]
  exact paramSave_view b g

omit [CFloat F] [PinDriver π] in
lemma saveVersions_view {g : Globals F π}
    (hversion : g.systemParams.protocolVersion = ORAZIO_PROTOCOL_VERSION) :
    viewOf (saveVersions g) = { viewOf g with storedVersion := true } := by
  have hcell : ∀ a, SYSTEM_PARAM_OFFSET ≤ a → (saveVersions g).eeprom a = g.eeprom a := by
    intro a ha
    simp only [SYSTEM_PARAM_OFFSET, FIRMWARE_VERSION_OFFSET, PROTOCOL_VERSION_OFFSET] at ha
    simp only [saveVersions, FIRMWARE_VERSION_OFFSET, PROTOCOL_VERSION_OFFSET]
    rw [eepromWrite_outside _ _ (by right; simp; omega),
      eepromWrite_outside _ _ (by right; simp; omega)]
  have hstored : LittleEndian.getU32 (saveVersions g).eeprom PROTOCOL_VERSION_OFFSET =
      ORAZIO_PROTOCOL_VERSION := by
    simp only [saveVersions, FIRMWARE_VERSION_OFFSET]
    rw [getU32_eepromWrite_of_apart _ _ (by left; omega), getU32_eepromWrite, hversion]
  have hrest : saveVersions g = { g with eeprom := (saveVersions g).eeprom } := rfl
  generalize (saveVersions g).eeprom = eeprom at hcell hstored hrest
  rw [hrest]
  apply SafetyView.ext
  · rfl
  · rfl
  · rfl
  · simp only [viewOf, hstored]
    rfl
  · exact congrArg₂ JointIndices.mk (hcell (DRIVE_PARAM_OFFSET + 17) (by decide))
      (hcell (DRIVE_PARAM_OFFSET + 16) (by decide))
  · exact hcell (SYSTEM_PARAM_OFFSET + 24) (by decide)

/-! ### Reboots -/

/-- The end of `initSubsystems`. -/
lemma initDrive_returns {g : Globals F π} (hrange : (viewOf g).indices.InRange) :
    ∃ g', Orazio_driveInit (Orazio_hBridgeInit (Orazio_jointsInit g)) = .ok g' ∧
      viewOf g' = (viewOf g).setType (viewOf g).bridgeType := by
  have hbridge := hBridgeInit_view (Orazio_jointsInit g)
  obtain ⟨g', hinit, hview⟩ :=
    driveInit_returns (g := Orazio_hBridgeInit (Orazio_jointsInit g)) (by
      rw [hbridge]
      exact hrange)
  exact ⟨g', hinit, hview.trans hbridge⟩

omit [PinDriver π] in
lemma saveDefaults_view {g : Globals F π}
    (hversion : g.systemParams.protocolVersion = ORAZIO_PROTOCOL_VERSION) :
    viewOf (saveDefaults g) =
      { ((viewOf g).save .system).save .drive with storedVersion := true } := by
  rw [saveDefaults, paramSave_view_of (b := .drive) rfl, paramSave_view_of (b := .joints) rfl,
    paramSave_view_of (b := .system) rfl, saveVersions_view hversion]
  rfl

/-- The first two blocks can always be loaded, which leaves the third. -/
lemma loadParams_eq {g : Globals F π} (hrange : (viewOf g).indices.InRange) :
    ∃ g₂ : Globals F π, viewOf g₂ = (viewOf g).load .system ∧
      loadParams g = (Orazio_paramLoad ParamDrive g₂).map Prod.snd := by
  obtain ⟨r₁, g₁, hload₁, hview₁⟩ :=
    paramLoad_returns (show ParamBlock.ofParamType ParamSystem = some .system from rfl) hrange nofun
  rw [← show (viewOf g₁).indices = (viewOf g).indices by rw [hview₁]; rfl] at hrange
  obtain ⟨r₂, g₂, hload₂, hview₂⟩ :=
    paramLoad_returns (show ParamBlock.ofParamType ParamJoints = some .joints from rfl) hrange nofun
  refine ⟨g₂, hview₂.trans hview₁, ?_⟩
  rw [loadParams, hload₁]
  simp only
  rw [hload₂]
  simp only
  cases Orazio_paramLoad ParamDrive g₂ <;> rfl

lemma loadParams_returns {g : Globals F π} (hrange : (viewOf g).indices.InRange)
    (hstored : (viewOf g).storedIndices.InRange) :
    ∃ g', loadParams g = .ok g' ∧ viewOf g' = ((viewOf g).load .system).load .drive := by
  obtain ⟨g₂, hview₂, heq⟩ := loadParams_eq hrange
  rw [← show (viewOf g₂).indices = (viewOf g).indices by rw [hview₂]; rfl] at hrange
  rw [← show (viewOf g₂).storedIndices = (viewOf g).storedIndices by rw [hview₂]; rfl] at hstored
  obtain ⟨r₃, g₃, hload₃, hview₃⟩ :=
    paramLoad_returns (show ParamBlock.ofParamType ParamDrive = some .drive from rfl) hrange
      fun _ => hstored
  exact ⟨g₃, by rw [heq, hload₃]; rfl, by rw [hview₃, hview₂]⟩

lemma loadParams_fails {g : Globals F π} (hrange : (viewOf g).indices.InRange)
    (hout : ¬(viewOf g).storedIndices.InRange) : ∃ e, loadParams g = .error e := by
  obtain ⟨g₂, hview₂, heq⟩ := loadParams_eq hrange
  rw [← show (viewOf g₂).storedIndices = (viewOf g).storedIndices by rw [hview₂]; rfl] at hout
  obtain ⟨e, hload₃⟩ := paramLoad_fails hout
  exact ⟨e, by rw [heq, hload₃]; rfl⟩

omit [PinDriver π] in
lemma static_view (g : Globals F π) :
    viewOf (Globals.static g.eeprom g.pins : Globals F π) = (viewOf g).reset :=
  rfl

lemma reset_inRange (v : SafetyView) : v.reset.indices.InRange :=
  show (JointIndices.mk 1 0).InRange by decide

lemma initSubsystems_returns {g : Globals F π}
    (hsafe : (viewOf g).storedVersion = true → (viewOf g).storedIndices.InRange) :
    ∃ g', initSubsystems (Globals.static g.eeprom g.pins : Globals F π) = .ok g' ∧
      viewOf g' = (viewOf g).reboot := by
  have hview := static_view g
  have hrange := reset_inRange (viewOf g)
  by_cases hstored : (viewOf g).storedVersion = true
  · obtain ⟨g₁, hload, hview₁⟩ :=
      loadParams_returns (g := Globals.static g.eeprom g.pins) (hview ▸ hrange) (hsafe hstored)
    obtain ⟨g₂, hinit, hview₂⟩ := initDrive_returns (g := setVersions
      (LittleEndian.getU32 g.eeprom PROTOCOL_VERSION_OFFSET)
      (LittleEndian.getU32 g.eeprom FIRMWARE_VERSION_OFFSET) g₁) (by
        change (viewOf g₁).indices.InRange
        rw [hview₁]
        exact hsafe hstored)
    refine ⟨g₂, ?_, ?_⟩
    · rw [initSubsystems, paramInit_later g.pins (of_decide_eq_true hstored), hload]
      exact hinit
    · have hsame : ∀ v : SafetyView, ((v.reset.load .system).load .drive).setType v.storedType =
          (v.reset.load .system).load .drive := by
        intro v
        exact congrArg (fun seen => SafetyView.mk v.storedIndices v.storedType seen v.storedVersion
          v.storedIndices v.storedType) (Bool.or_self (decide (IsBridgeType v.storedType)))
      rw [SafetyView.reboot, if_pos hstored, ← hsame, hview₂]
      change (viewOf g₁).setType (viewOf g₁).bridgeType = _
      rw [hview₁, hview]
      rfl
  · have hversion := fun heq => hstored (decide_eq_true heq)
    have hview₁ := saveDefaults_view (g := (Globals.static g.eeprom g.pins : Globals F π)) rfl
    obtain ⟨g₂, hinit, hview₂⟩ := initDrive_returns (g := setVersions
      (LittleEndian.getU32 g.eeprom PROTOCOL_VERSION_OFFSET)
      (LittleEndian.getU32 g.eeprom FIRMWARE_VERSION_OFFSET)
      (saveDefaults (Globals.static g.eeprom g.pins : Globals F π))) (by
        change (viewOf (saveDefaults (Globals.static g.eeprom g.pins : Globals F π))).indices.InRange
        rw [hview₁]
        exact hrange)
    refine ⟨g₂, ?_, ?_⟩
    · rw [initSubsystems, paramInit_first g.pins hversion]
      exact hinit
    · rw [SafetyView.reboot, if_neg hstored, hview₂]
      change (viewOf (saveDefaults (Globals.static g.eeprom g.pins : Globals F π))).setType
        (viewOf (saveDefaults (Globals.static g.eeprom g.pins : Globals F π))).bridgeType = _
      rw [hview₁, hview]
      rfl

lemma initSubsystems_fails {g : Globals F π} (hstored : (viewOf g).storedVersion = true)
    (hout : ¬(viewOf g).storedIndices.InRange) :
    ∃ e, initSubsystems (Globals.static g.eeprom g.pins : Globals F π) = .error e := by
  obtain ⟨e, hload⟩ :=
    loadParams_fails (g := Globals.static g.eeprom g.pins) (static_view g ▸ reset_inRange _) hout
  refine ⟨e, ?_⟩
  rw [initSubsystems, paramInit_later g.pins (of_decide_eq_true hstored), hload]

/-! ### Packets and ticks -/

omit [PinDriver π] in
/-- The copy of a received packet. -/
lemma copyArgs_received {type size : UInt8} (p : Received type size) (b : ParamBlock)
    (hsize : size = b.var.sizeof) (g : Globals F π) :
    ∃ m, copyArgs p.packet (some b.var) g =
        .ok (b.var, b.var.ofMemory m (setRxSeq (headerOf p.packet).seq g)) ∧
      ∀ i < b.var.sizeof.toNat, m i = p.packet i := by
  subst hsize
  refine ⟨fun i => if i < b.var.sizeof.toNat then p.packet i else b.var.memory g i, ?_, ?_⟩
  · simp only [copyArgs, PacketVar.copy, p.size_eq]
    rw [if_neg (UInt8.lt_irrefl _)]
    cases b <;> rfl
  · intro i hi
    exact if_pos hi

omit [PinDriver π] [CFloat F] in
lemma overwrite_congr (v : SafetyView) (b : ParamBlock) {m m' : PacketBytes}
    (h : ∀ i < b.var.sizeof.toNat, m i = m' i) : v.overwrite b m = v.overwrite b m' := by
  cases b with
  | system => simp only [SafetyView.overwrite, bridgeTypeOf, h 24 (by decide)]
  | joints => rfl
  | drive => simp only [SafetyView.overwrite, jointIndicesOf, h 17 (by decide), h 16 (by decide)]

lemma setReceived_eq {type : UInt8} {b : ParamBlock} (h : ParamBlock.ofType type = some b)
    (g : Globals F π) : setReceived type g = Orazio_paramSet b.paramType g := by
  unfold ParamBlock.ofType at h
  unfold setReceived
  by_cases hsystem : type = SYSTEM_PARAM_PACKET_ID
  · rw [if_pos hsystem] at h ⊢
    cases h
    rfl
  · rw [if_neg hsystem] at h ⊢
    by_cases hjoint : type = JOINT_PARAM_PACKET_ID
    · rw [if_pos hjoint] at h ⊢
      cases h
      rfl
    · rw [if_neg hjoint] at h ⊢
      by_cases hdrive : type = DIFFERENTIAL_DRIVE_PARAM_PACKET_ID
      · rw [if_pos hdrive] at h ⊢
        cases h
        rfl
      · rw [if_neg hdrive] at h
        cases h

lemma receiveParams_returns {type size : UInt8} (p : Received type size) {b : ParamBlock}
    (htype : ParamBlock.ofType type = some b) (hsize : size = b.var.sizeof) {g : Globals F π}
    (hrange : (viewOf g).indices.InRange) (hsafe : b = .drive → (jointIndicesOf p.packet).InRange) :
    ∃ g', receiveParams p.packet b.var g = .ok g' ∧ viewOf g' = (viewOf g).overwrite b p.packet := by
  obtain ⟨m, hcopy, hm⟩ := copyArgs_received p b hsize g
  obtain ⟨r, g', hset, hview⟩ :=
    paramSet_returns b m (g := setRxSeq (headerOf p.packet).seq g) hrange (by
      rintro rfl
      rw [jointIndicesOf, hm 17 (by decide), hm 16 (by decide)]
      exact hsafe rfl)
  refine ⟨g', ?_, hview.trans (overwrite_congr _ b hm)⟩
  rw [receiveParams, hcopy]
  simp only
  rw [p.type_eq, setReceived_eq htype, hset]

lemma receiveParams_fails (p : Received DIFFERENTIAL_DRIVE_PARAM_PACKET_ID sizeofDriveParamPacket)
    (g : Globals F π) (hout : ¬(jointIndicesOf p.packet).InRange) :
    ∃ e, receiveParams p.packet .driveParams g = .error e := by
  obtain ⟨m, hcopy, hm⟩ := copyArgs_received p .drive rfl g
  obtain ⟨e, hset⟩ := paramSet_fails (m := m) (setRxSeq (headerOf p.packet).seq g) (by
    rw [jointIndicesOf, hm 17 (by decide), hm 16 (by decide)]
    exact hout)
  refine ⟨e, ?_⟩
  have hfail : Orazio_paramSet ParamBlock.drive.paramType
      (ParamBlock.drive.var.ofMemory m (setRxSeq (headerOf p.packet).seq g)) = .error e := hset
  change receiveParams p.packet ParamBlock.drive.var g = _
  rw [receiveParams, hcopy]
  simp only
  rw [p.type_eq, setReceived_eq (b := .drive) rfl, hfail]

lemma receiveControl_returns (p : PacketBytes) {g : Globals F π} (hrange : (viewOf g).indices.InRange)
    (hsafe : (ParamControlPacket.ofBytes p).action = ParamLoad →
      (ParamControlPacket.ofBytes p).paramType = ParamDrive → (viewOf g).storedIndices.InRange) :
    ∃ g', receiveControl p g = .ok g' ∧ viewOf g' = (viewOf g).control (.ofBytes p) := by
  have hrun : ∃ r g', runParamAction (ParamControlPacket.ofBytes p)
        (setRxSeq (ParamControlPacket.ofBytes p).header.seq g) = .ok (r, g') ∧
      viewOf g' = (viewOf g).control (.ofBytes p) := by
    generalize hctl : ParamControlPacket.ofBytes p = ctl at hsafe ⊢
    unfold runParamAction
    by_cases hload : ctl.action = ParamLoad
    · rw [if_neg (by rw [hload]; decide), if_pos hload]
      cases hb : ParamBlock.ofParamType ctl.paramType with
      | none =>
        refine ⟨.genericError, setRxSeq ctl.header.seq g, ?_, ?_⟩
        · rw [Orazio_paramLoad, paramBlock_eq, hb]
          rfl
        · rw [SafetyView.control, hb]
          rfl
      | some b =>
        obtain ⟨r, g', hparam, hview⟩ :=
          paramLoad_returns hb (g := setRxSeq ctl.header.seq g) hrange (by
            rintro rfl
            exact hsafe hload (ofParamType_eq_some hb))
        refine ⟨r, g', hparam, ?_⟩
        rw [SafetyView.control, hb]
        simp only
        rw [if_pos hload]
        exact hview
    · have hrest : ∀ v : SafetyView, v.control ctl =
          match ParamBlock.ofParamType ctl.paramType with
          | none => v
          | some b => if ctl.action = ParamSave then v.save b else v := by
        intro v
        simp only [SafetyView.control, if_neg hload]
      rw [if_neg hload, hrest]
      by_cases hsave : ctl.action = ParamSave
      · rw [if_neg (by rw [hsave]; decide), if_pos hsave]
        refine ⟨(Orazio_paramSave ctl.paramType (setRxSeq ctl.header.seq g)).1,
          (Orazio_paramSave ctl.paramType (setRxSeq ctl.header.seq g)).2, rfl, ?_⟩
        cases hb : ParamBlock.ofParamType ctl.paramType with
        | none =>
          rw [Orazio_paramSave, paramBlock_eq, hb]
          rfl
        | some b =>
          rw [paramSave_view_of hb]
          simp only [if_pos hsave]
          rfl
      · have hsame : (match ParamBlock.ofParamType ctl.paramType with
            | none => viewOf g
            | some b => if ctl.action = ParamSave then (viewOf g).save b else viewOf g) = viewOf g := by
          cases ParamBlock.ofParamType ctl.paramType with
          | none => rfl
          | some b => exact if_neg hsave
        rw [if_neg hsave, hsame]
        by_cases hrequest : ctl.action = ParamRequest
        · rw [if_pos hrequest]
          exact ⟨_, _, rfl, rfl⟩
        · rw [if_neg hrequest]
          exact ⟨_, _, rfl, rfl⟩
  obtain ⟨r, g', hrun, hview⟩ := hrun
  refine ⟨g', ?_, hview⟩
  rw [receiveControl, hrun]

lemma receiveControl_fails {p : PacketBytes} {g : Globals F π}
    (hload : (ParamControlPacket.ofBytes p).action = ParamLoad)
    (htype : (ParamControlPacket.ofBytes p).paramType = ParamDrive)
    (hout : ¬(viewOf g).storedIndices.InRange) : ∃ e, receiveControl p g = .error e := by
  obtain ⟨e, hparam⟩ :=
    paramLoad_fails (g := setRxSeq (ParamControlPacket.ofBytes p).header.seq g) hout
  refine ⟨e, ?_⟩
  rw [receiveControl, runParamAction, if_neg (by rw [hload]; decide), if_pos hload, htype, hparam]

omit [CFloat F] in
lemma setSpeed_returns (bridge : HBridge) (speed : Int16) (pins : π) :
    (bridge.ops ≠ none → ∃ pins', bridge.setSpeed speed pins = .ok pins') ∧
      (bridge.ops = none → bridge.setSpeed speed pins = .error .nullPointer) := by
  unfold HBridge.setSpeed
  cases bridge.ops with
  | none => exact ⟨fun h => absurd rfl h, fun _ => rfl⟩
  | some type => cases type <;> exact ⟨fun _ => ⟨_, rfl⟩, nofun⟩

omit [CFloat F] in
/-- A tick returns if both bridges have operations. -/
lemma tickJoints_returns (encoders : Fin NUM_MOTORS → UInt16) {g : Globals F π}
    (hseen : (viewOf g).typeSeen = true) :
    ∃ g', tickJoints encoders g = .ok g' ∧ viewOf g' = viewOf g := by
  have hops : ∀ i, (g.bridges i).ops ≠ none := of_decide_eq_true hseen
  obtain ⟨pins₀, hset₀⟩ :=
    (setSpeed_returns (g.bridges 0) (handleJoint encoders g 0).1.output g.pins).1 (hops 0)
  obtain ⟨pins₁, hset₁⟩ :=
    (setSpeed_returns (g.bridges 1) (handleJoint encoders g 1).1.output pins₀).1 (hops 1)
  refine ⟨{ Orazio_jointsHandle encoders g with pins := pins₁ }, ?_, rfl⟩
  simp only [tickJoints, Orazio_hBridgeApplyControl, Orazio_jointsHandle, hset₀, hset₁]

omit [CFloat F] in
lemma tickJoints_fails (encoders : Fin NUM_MOTORS → UInt16) {g : Globals F π}
    (hseen : ¬(viewOf g).typeSeen = true) : ∃ e, tickJoints encoders g = .error e := by
  have hops : ¬∀ i, (g.bridges i).ops ≠ none := fun h => hseen (decide_eq_true h)
  by_cases hfirst : (g.bridges 0).ops = none
  · have hset := (setSpeed_returns (g.bridges 0) (handleJoint encoders g 0).1.output g.pins).2 hfirst
    exact ⟨.nullPointer,
      by simp only [tickJoints, Orazio_hBridgeApplyControl, Orazio_jointsHandle, hset]⟩
  · have hsecond : (g.bridges 1).ops = none := by
      by_contra hne
      apply hops
      intro i
      match i with
      | 0 => exact hfirst
      | 1 => exact hne
    obtain ⟨pins, hset⟩ :=
      (setSpeed_returns (g.bridges 0) (handleJoint encoders g 0).1.output g.pins).1 hfirst
    have hset₁ := (setSpeed_returns (g.bridges 1) (handleJoint encoders g 1).1.output pins).2 hsecond
    exact ⟨.nullPointer,
      by simp only [tickJoints, Orazio_hBridgeApplyControl, Orazio_jointsHandle, hset, hset₁]⟩

/-! ### Runs -/

/-- A safe input is executed, and changes what matters as its step says. -/
lemma paramStep_returns {g : Globals F π} {input : ParamInput} (hrange : (viewOf g).indices.InRange)
    (hsafe : (viewOf g).Safe input) :
    ∃ g', paramStep g input = .ok ((), g') ∧ viewOf g' = (viewOf g).next input := by
  have hresult : ∀ x : Except Fault (Globals F π), ∀ v : SafetyView,
      (∃ g', x = .ok g' ∧ viewOf g' = v) →
      ∃ g', (match x with
          | .error e => .error e
          | .ok g => .ok ((), g) : Except Fault (Unit × Globals F π)) = .ok ((), g') ∧ viewOf g' = v := by
    rintro x v ⟨g', rfl, hview⟩
    exact ⟨g', rfl, hview⟩
  apply hresult
  cases input with
  | systemParam p => exact receiveParams_returns p (b := .system) rfl rfl hrange nofun
  | jointParam p => exact receiveParams_returns p (b := .joints) rfl rfl hrange nofun
  | driveParam p => exact receiveParams_returns p (b := .drive) rfl rfl hrange fun _ => hsafe
  | paramControl p => exact receiveControl_returns p.packet hrange hsafe
  | tick encoders => exact tickJoints_returns encoders hsafe
  | reboot => exact initSubsystems_returns hsafe

/-- An input that is not safe makes the firmware use a joint that does not exist or a null pointer. -/
lemma paramStep_fails {g : Globals F π} {input : ParamInput} (hout : ¬(viewOf g).Safe input) :
    ∃ e, paramStep g input = .error e := by
  have hresult : ∀ x : Except Fault (Globals F π), (∃ e, x = .error e) →
      ∃ e, (match x with
          | .error e => .error e
          | .ok g => .ok ((), g) : Except Fault (Unit × Globals F π)) = .error e := by
    rintro x ⟨e, rfl⟩
    exact ⟨e, rfl⟩
  apply hresult
  cases input with
  | systemParam p => exact absurd trivial hout
  | jointParam p => exact absurd trivial hout
  | driveParam p => exact receiveParams_fails p g hout
  | paramControl p =>
    simp only [SafetyView.Safe, Classical.not_imp] at hout
    exact receiveControl_fails hout.1 hout.2.1 hout.2.2
  | tick encoders => exact tickJoints_fails encoders hout
  | reboot =>
    simp only [SafetyView.Safe, Classical.not_imp] at hout
    exact initSubsystems_fails hout.1 hout.2

/-- Safe inputs keep the joint indices in range. -/
lemma next_inRange {v : SafetyView} {input : ParamInput} (hrange : v.indices.InRange)
    (hsafe : v.Safe input) : (v.next input).indices.InRange := by
  cases input with
  | systemParam p => exact hrange
  | jointParam p => exact hrange
  | driveParam p => exact hsafe
  | paramControl p =>
    simp only [SafetyView.next, SafetyView.control]
    cases hb : ParamBlock.ofParamType (ParamControlPacket.ofBytes p.packet).paramType with
    | none => exact hrange
    | some b =>
      simp only
      by_cases hload : (ParamControlPacket.ofBytes p.packet).action = ParamLoad
      · rw [if_pos hload]
        cases b with
        | system => exact hrange
        | joints => exact hrange
        | drive => exact hsafe hload (ofParamType_eq_some hb)
      · rw [if_neg hload]
        split
        · cases b <;> exact hrange
        · exact hrange
  | tick encoders => exact hrange
  | reboot =>
    simp only [SafetyView.next, SafetyView.reboot]
    by_cases hstored : v.storedVersion = true
    · rw [if_pos hstored]
      exact hsafe hstored
    · rw [if_neg hstored]
      exact reset_inRange v

/-- What matters before the first boot with this EEPROM. -/
def firstView (eeprom : Nat → UInt8) : SafetyView where
  indices := ⟨1, 0⟩
  bridgeType := HBridgeTypePWMDir
  typeSeen := false
  storedVersion := decide (LittleEndian.getU32 eeprom PROTOCOL_VERSION_OFFSET = ORAZIO_PROTOCOL_VERSION)
  storedIndices := jointIndicesOf (EEPROM_read DRIVE_PARAM_OFFSET eeprom)
  storedType := bridgeTypeOf (EEPROM_read SYSTEM_PARAM_OFFSET eeprom)

/-- A run from the first boot on uses no joint that does not exist and no null pointer if and only if
all its inputs are safe. -/
theorem parameters_safe_iff (eeprom : Nat → UInt8) (pins : π) (inputs : List ParamInput) :
    (∃ outputs g, StepMachine.run paramStep (Globals.static eeprom pins : Globals F π)
        (.reboot :: inputs) = .ok (outputs, g)) ↔
      StepMachine.SafeInputs SafetyView.next SafetyView.Safe (firstView eeprom)
        (.reboot :: inputs) := by
  have hview : viewOf (Globals.static eeprom pins : Globals F π) = firstView eeprom := rfl
  rw [← hview]
  apply StepMachine.run_returns_iff paramStep viewOf _ _ fun v => v.indices.InRange
  · intro v input hrange hsafe
    exact next_inRange hrange hsafe
  · intro g input hrange hsafe
    obtain ⟨g', hstep, hnext⟩ := paramStep_returns hrange hsafe
    exact ⟨(), g', hstep, hnext⟩
  · intro g input _ hout
    exact paramStep_fails hout
  · exact reset_inRange (firstView eeprom)

/-- A packet with the default parameters of the system but for the type of the bridges. -/
def bridgeTypePacket (hBridgeType : UInt8) : Received SYSTEM_PARAM_PACKET_ID sizeofSystemParamPacket where
  packet := fun i => { initSystemParams with hBridgeType }.bytes.getD i 0
  type_eq := rfl
  size_eq := rfl

/-- A packet with the default parameters of the drive but for the left joint. -/
def leftJointPacket (leftJointIndex : UInt8) :
    Received DIFFERENTIAL_DRIVE_PARAM_PACKET_ID sizeofDriveParamPacket where
  packet := fun i =>
    { (initDriveParams : DifferentialDriveParamPacket BitFloat) with leftJointIndex }.bytes.getD i 0
  type_eq := rfl
  size_eq := rfl

def paramControlPacket (action paramType : UInt8) :
    Received PARAM_CONTROL_PACKET_ID sizeofParamControlPacket where
  packet := fun i => [PARAM_CONTROL_PACKET_ID, sizeofParamControlPacket, 0, 0, action, paramType].getD i 0
  type_eq := rfl
  size_eq := rfl

/-- A joint index of 7 is used at once. A type 7 of the bridges can be received and saved; after the
next reboot the first tick uses a null pointer. -/
theorem parameters_unsafe :
    (∃ e, StepMachine.run paramStep (Globals.static (F := BitFloat) (fun _ => 0xFF) Pins.zero)
        [.reboot, .driveParam (leftJointPacket 7)] = .error e ∧ e = .outOfBounds) ∧
      (∃ r, StepMachine.run paramStep (Globals.static (F := BitFloat) (fun _ => 0xFF) Pins.zero)
        [.reboot, .systemParam (bridgeTypePacket 7), .tick fun _ => 0,
          .paramControl (paramControlPacket ParamSave ParamSystem), .reboot] = .ok r ∧
        ∃ e, tickJoints (fun _ => 0) r.2 = .error e ∧ e = .nullPointer) := by
  decide +kernel

end Orazio.Proofs
