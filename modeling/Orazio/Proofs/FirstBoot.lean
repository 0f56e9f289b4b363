import Orazio.Lib.WriteLog
import Orazio.Proofs.ParamSafety

/-!
# The first boot

A boot that finds another protocol version in the EEPROM writes the versions and the default
parameters there, byte after byte. What the next boot finds, when all of them are written or when the
power is lost before.
-/

namespace Orazio.Proofs

variable {F π : Type} [CFloat F]

/-! ### The writes of a first boot -/

/-- The writes of `Orazio_paramInit` when the versions differ. -/
def firstBootWrites (g : Globals F π) : List (Nat × UInt8) :=
  WriteLog.block PROTOCOL_VERSION_OFFSET (LittleEndian.u32 g.systemParams.protocolVersion) ++
    WriteLog.block FIRMWARE_VERSION_OFFSET (LittleEndian.u32 g.systemParams.firmwareVersion) ++
    WriteLog.block SYSTEM_PARAM_OFFSET g.systemParams.bytes ++
    WriteLog.block JOINT_PARAM_OFFSET g.jointParams.bytes ++
    WriteLog.block DRIVE_PARAM_OFFSET g.driveParams.bytes

/-- The EEPROM if the power is lost after `k` writes. -/
def powerLost (g : Globals F π) (k : Nat) : Nat → UInt8 :=
  WriteLog.apply ((firstBootWrites g).take k) g.eeprom

lemma eepromWrite_eq_apply (dest : Nat) (bs : List UInt8) (eeprom : Nat → UInt8) :
    EEPROM_write dest bs eeprom = WriteLog.apply (WriteLog.block dest bs) eeprom := by
  induction bs generalizing dest eeprom with
  | nil => rfl
  | cons b bs ih => exact ih (dest + 1) (Function.update eeprom dest b)

/-- A first boot does these writes. -/
lemma saveDefaults_eq (g : Globals F π) :
    saveDefaults g = { g with eeprom := WriteLog.apply (firstBootWrites g) g.eeprom } := by
  rw [saveDefaults, paramSave_eq (b := .drive) rfl, paramSave_eq (b := .joints) rfl,
    paramSave_eq (b := .system) rfl]
  simp only [saveVersions, ParamBlock.var, ParamBlock.offset, PacketVar.bytes, firstBootWrites,
    WriteLog.apply_append, eepromWrite_eq_apply]

lemma saveDefaults_eeprom (g : Globals F π) :
    (saveDefaults g).eeprom = WriteLog.apply (firstBootWrites g) g.eeprom := by
  rw [saveDefaults_eq]

omit [CFloat F] in
lemma setVersions_eeprom (cpv cfv : UInt32) (g : Globals F π) :
    (setVersions cpv cfv g).eeprom = g.eeprom :=
  rfl

/-- The blocks lie behind one another. -/
lemma firstBootWrites_eq_block (g : Globals F π) :
    ∃ bs, firstBootWrites g = WriteLog.block PROTOCOL_VERSION_OFFSET bs ∧ bs.length = 107 := by
  have hsystem : g.systemParams.bytes.length = 25 := length_bytes .systemParams g
  have hjoints : g.jointParams.bytes.length = 36 := length_bytes .jointParams g
  have hdrive : g.driveParams.bytes.length = 38 := length_bytes .driveParams g
  refine ⟨LittleEndian.u32 g.systemParams.protocolVersion ++
    LittleEndian.u32 g.systemParams.firmwareVersion ++ g.systemParams.bytes ++ g.jointParams.bytes ++
    g.driveParams.bytes, ?_, ?_⟩
  · rw [firstBootWrites, WriteLog.block_append, WriteLog.block_append, WriteLog.block_append,
      WriteLog.block_append]
    simp only [List.length_append, LittleEndian.length_u32, hsystem, hjoints]
  · simp only [List.length_append, LittleEndian.length_u32, hsystem, hjoints, hdrive]

/-- Power loss leaves the cells behind the last write as they were. -/
lemma powerLost_cell (g : Globals F π) (k a : Nat) :
    powerLost g k a =
      if a < PROTOCOL_VERSION_OFFSET + k then (saveDefaults g).eeprom a else g.eeprom a := by
  obtain ⟨bs, hblock, -⟩ := firstBootWrites_eq_block g
  rw [powerLost, saveDefaults_eq, hblock]
  exact WriteLog.apply_take_block _ _ _ _ _

/-- After a first boot every block is stored. -/
lemma saveDefaults_block (b : ParamBlock) (g : Globals F π) {i : Nat} (hi : i < b.var.sizeof.toNat) :
    (saveDefaults g).eeprom (b.offset + i) = (b.var.bytes g).getD i 0 := by
  have hbytes : ∀ (b : ParamBlock) (eeprom : Nat → UInt8),
      b.var.bytes { g with eeprom := eeprom } = b.var.bytes g := by
    intro b eeprom
    cases b <;> rfl
  have hstored : storedBlock b (saveDefaults g) = b.var.bytes g := by
    rw [saveDefaults, paramSave_eq (b := .drive) rfl, paramSave_eq (b := .joints) rfl,
      paramSave_eq (b := .system) rfl]
    cases b with
    | system =>
      rw [storedBlock_save_of_ne (by decide), storedBlock_save_of_ne (by decide), storedBlock_save]
      exact hbytes .system _
    | joints =>
      rw [storedBlock_save_of_ne (by decide), storedBlock_save]
      exact hbytes .joints _
    | drive =>
      rw [storedBlock_save]
      exact hbytes .drive _
  rw [storedBlock, ← length_bytes b.var g] at hstored
  exact (Bytes.getD_of_read hstored (by rw [length_bytes]; exact hi)).symm

lemma saveDefaults_version (g : Globals F π) :
    LittleEndian.getU32 (saveDefaults g).eeprom PROTOCOL_VERSION_OFFSET =
      g.systemParams.protocolVersion := by
  have hsave : ∀ (b : ParamBlock) (g : Globals F π),
      LittleEndian.getU32 (EEPROM_write b.offset (b.var.bytes g) g.eeprom) PROTOCOL_VERSION_OFFSET =
        LittleEndian.getU32 g.eeprom PROTOCOL_VERSION_OFFSET := by
    intro b g
    apply getU32_eepromWrite_of_apart
    left
    cases b <;> decide
  rw [saveDefaults, paramSave_eq (b := .drive) rfl, paramSave_eq (b := .joints) rfl,
    paramSave_eq (b := .system) rfl]
  simp only [hsave]
  rw [saveVersions]
  simp only [FIRMWARE_VERSION_OFFSET]
  rw [getU32_eepromWrite_of_apart _ _ (by left; omega), getU32_eepromWrite]

/-! ### Default parameters -/

/-- The bytes of the default parameters. -/
def defaultBytes (F : Type) [CFloat F] : ParamBlock → List UInt8
  | .system => initSystemParams.bytes
  | .joints => initJointParams.bytes
  | .drive => (initDriveParams : DifferentialDriveParamPacket F).bytes

/-- The bytes of a block that hold the two versions. -/
def IsVersionByte (b : ParamBlock) (i : Nat) : Prop :=
  b = .system ∧ 4 ≤ i ∧ i < 12

instance (b : ParamBlock) (i : Nat) : Decidable (IsVersionByte b i) :=
  inferInstanceAs (Decidable (_ ∧ _))

/-- The parameters are the defaults, apart from the two versions. -/
def HasDefaults (g : Globals F π) : Prop :=
  (setVersions ORAZIO_PROTOCOL_VERSION ORAZIO_FIRMWARE_VERSION g).systemParams = initSystemParams ∧
    g.jointParams = initJointParams ∧ g.driveParams = initDriveParams

/-- The EEPROM holds the default parameters, apart from the two versions. -/
def StoresDefaults (F : Type) [CFloat F] (eeprom : Nat → UInt8) : Prop :=
  ∀ b : ParamBlock, ∀ i < b.var.sizeof.toNat, ¬IsVersionByte b i →
    eeprom (b.offset + i) = (defaultBytes F b).getD i 0

lemma jointParam_ofBytes_iff (p : JointParamPacket) (m : PacketBytes) :
    JointParamPacket.ofBytes m = p ↔ ∀ i < 36, m i = p.bytes.getD i 0 := by
  constructor
  · rintro rfl i hi
    rw [jointParam_bytes_ofBytes, Bytes.getD_read hi, Nat.zero_add]
  · exact jointParam_ofBytes_bytes p m

lemma driveParam_ofBytes_iff [LawfulFloatBytes F] (p : DifferentialDriveParamPacket F)
    (m : PacketBytes) :
    DifferentialDriveParamPacket.ofBytes m = p ↔ ∀ i < 38, m i = p.bytes.getD i 0 := by
  constructor
  · rintro rfl i hi
    rw [driveParam_bytes_ofBytes, Bytes.getD_read hi, Nat.zero_add]
  · exact driveParam_ofBytes_bytes p m

/-- The parameters of the system without the two versions. -/
lemma systemParam_ofBytes_iff (p : SystemParamPacket) (m : PacketBytes) :
    { SystemParamPacket.ofBytes m with
        protocolVersion := p.protocolVersion, firmwareVersion := p.firmwareVersion } = p ↔
      ∀ i < 25, ¬(4 ≤ i ∧ i < 12) → m i = p.bytes.getD i 0 := by
  let m' : PacketBytes := fun i => if 4 ≤ i ∧ i < 12 then p.bytes.getD i 0 else m i
  have hprotocol : LittleEndian.getU32 m' 4 = p.protocolVersion := LittleEndian.getU32_eq rfl rfl rfl rfl
  have hfirmware : LittleEndian.getU32 m' 8 = p.firmwareVersion := LittleEndian.getU32_eq rfl rfl rfl rfl
  have hsame : { SystemParamPacket.ofBytes m with
      protocolVersion := p.protocolVersion, firmwareVersion := p.firmwareVersion } =
      SystemParamPacket.ofBytes m' := by
    rw [← hprotocol, ← hfirmware]
    rfl
  rw [hsame]
  constructor
  · intro heq i hi hout
    have hm : m' i = m i := if_neg hout
    rw [← hm, ← heq, systemParam_bytes_ofBytes, Bytes.getD_read hi, Nat.zero_add]
  · intro h
    apply systemParam_ofBytes_bytes
    intro i hi
    by_cases hin : 4 ≤ i ∧ i < 12
    · exact if_pos hin
    · exact (if_neg hin).trans (h i hi hin)

/-- Parameters taken from the EEPROM are the defaults if the EEPROM holds the defaults. -/
lemma hasDefaults_iff [LawfulFloatBytes F] {eeprom : Nat → UInt8} {g : Globals F π}
    (hsystem : g.systemParams = .ofBytes (EEPROM_read SYSTEM_PARAM_OFFSET eeprom))
    (hjoints : g.jointParams = .ofBytes (EEPROM_read JOINT_PARAM_OFFSET eeprom))
    (hdrive : g.driveParams = .ofBytes (EEPROM_read DRIVE_PARAM_OFFSET eeprom)) :
    HasDefaults g ↔ StoresDefaults F eeprom := by
  have hversions : (setVersions ORAZIO_PROTOCOL_VERSION ORAZIO_FIRMWARE_VERSION g).systemParams =
      { SystemParamPacket.ofBytes (EEPROM_read SYSTEM_PARAM_OFFSET eeprom) with
        protocolVersion := initSystemParams.protocolVersion
        firmwareVersion := initSystemParams.firmwareVersion } := by
    rw [setVersions, hsystem]
    rfl
  rw [HasDefaults, hversions, hjoints, hdrive, systemParam_ofBytes_iff, jointParam_ofBytes_iff,
    driveParam_ofBytes_iff]
  constructor
  · rintro ⟨h₁, h₂, h₃⟩ b i hi hout
    cases b with
    | system => exact h₁ i hi fun hin => hout ⟨rfl, hin⟩
    | joints => exact h₂ i hi
    | drive => exact h₃ i hi
  · intro h
    refine ⟨?_, ?_, ?_⟩
    · intro i hi hout
      exact h .system i hi fun hin => hout hin.2
    · intro i hi
      exact h .joints i hi fun hin => absurd hin.1 (by decide)
    · intro i hi
      exact h .drive i hi fun hin => absurd hin.1 (by decide)

/-! ### The next boot -/

variable [PinDriver π]

omit [PinDriver π] in
lemma saveDefaults_hasDefaults (eeprom : Nat → UInt8) (pins : π) (cpv cfv : UInt32) :
    HasDefaults (setVersions cpv cfv (saveDefaults (Globals.static eeprom pins : Globals F π))) := by
  rw [saveDefaults_eq]
  exact ⟨rfl, rfl, rfl⟩

/-- A boot from an EEPROM with the defaults returns. -/
lemma loadParams_storesDefaults {eeprom : Nat → UInt8} (pins : π) (h : StoresDefaults F eeprom) :
    ∃ g, loadParams (Globals.static eeprom pins : Globals F π) = .ok g := by
  have hview : (viewOf (Globals.static eeprom pins : Globals F π)).storedIndices = ⟨1, 0⟩ := by
    have hnone : ∀ i, ¬IsVersionByte .drive i := fun i hin => absurd hin.1 (by decide)
    have hdefault := driveParams_indices (Globals.static eeprom pins : Globals F π)
    refine Eq.trans ?_ hdefault
    exact congrArg₂ JointIndices.mk (h .drive 17 (by decide) (hnone 17))
      (h .drive 16 (by decide) (hnone 16))
  obtain ⟨g, hload, -⟩ := loadParams_returns (g := (Globals.static eeprom pins : Globals F π))
    (show (JointIndices.mk 1 0).InRange by decide) (by rw [hview]; decide)
  exact ⟨g, hload⟩

/-- Which boots end with the defaults. -/
lemma boot_hasDefaults_iff [LawfulFloatBytes F] (eeprom : Nat → UInt8) (pins : π) :
    (∃ g, Orazio_paramInit (Globals.static eeprom pins : Globals F π) = .ok g ∧ HasDefaults g) ↔
      LittleEndian.getU32 eeprom PROTOCOL_VERSION_OFFSET ≠ ORAZIO_PROTOCOL_VERSION ∨
        StoresDefaults F eeprom := by
  by_cases hversion : LittleEndian.getU32 eeprom PROTOCOL_VERSION_OFFSET = ORAZIO_PROTOCOL_VERSION
  · rw [paramInit_later pins hversion]
    constructor
    · rintro ⟨g, hinit, hdefaults⟩
      right
      split at hinit
      · cases hinit
      · next g₁ hload =>
        cases hinit
        obtain ⟨hsystem, hjoints, hdrive, -⟩ := loadParams_blocks hload
        exact (hasDefaults_iff hsystem hjoints hdrive).mp hdefaults
    · rintro (hne | hstored)
      · exact absurd hversion hne
      · obtain ⟨g₁, hload⟩ := loadParams_storesDefaults pins hstored
        obtain ⟨hsystem, hjoints, hdrive, -⟩ := loadParams_blocks hload
        rw [hload]
        exact ⟨_, rfl, (hasDefaults_iff hsystem hjoints hdrive).mpr hstored⟩
  · rw [paramInit_first pins hversion]
    constructor
    · intro _
      exact .inl hversion
    · intro _
      exact ⟨_, rfl, saveDefaults_hasDefaults eeprom pins _ _⟩

omit [PinDriver π] in
/-- The default parameters are what a first boot stores. -/
lemma saveDefaults_defaultBytes (eeprom : Nat → UInt8) (pins : π) (b : ParamBlock) {i : Nat}
    (hi : i < b.var.sizeof.toNat) :
    (saveDefaults (Globals.static eeprom pins : Globals F π)).eeprom (b.offset + i) =
      (defaultBytes F b).getD i 0 := by
  rw [saveDefaults_block b _ hi]
  cases b <;> rfl

omit [PinDriver π] in
/-- The protocol word after a power loss is that of the firmware if the bytes that have not been
written are. -/
lemma powerLost_version_iff (eeprom : Nat → UInt8) (pins : π) (k : Nat) :
    LittleEndian.getU32 (powerLost (Globals.static eeprom pins : Globals F π) k)
        PROTOCOL_VERSION_OFFSET ≠ ORAZIO_PROTOCOL_VERSION ↔
      ∃ i, k ≤ i ∧ i < 4 ∧
        eeprom (PROTOCOL_VERSION_OFFSET + i) ≠ (LittleEndian.u32 ORAZIO_PROTOCOL_VERSION).getD i 0 := by
  have hwritten := saveDefaults_version (Globals.static eeprom pins : Globals F π)
  rw [LittleEndian.getU32_eq_iff] at hwritten
  rw [ne_eq, LittleEndian.getU32_eq_iff]
  constructor
  · intro hne
    by_contra hnone
    apply hne
    intro i hi
    rw [powerLost_cell]
    split
    · exact hwritten i hi
    · next hge =>
      by_contra hcell
      exact hnone ⟨i, by omega, hi, hcell⟩
  · rintro ⟨i, hk, hi, hcell⟩ hall
    have hsame := hall i hi
    rw [powerLost_cell, if_neg (by omega)] at hsame
    exact hcell hsame

omit [PinDriver π] in
lemma powerLost_storesDefaults_iff (eeprom : Nat → UInt8) (pins : π) (k : Nat) :
    StoresDefaults F (powerLost (Globals.static eeprom pins : Globals F π) k) ↔
      ∀ b : ParamBlock, ∀ i < b.var.sizeof.toNat, ¬IsVersionByte b i →
        PROTOCOL_VERSION_OFFSET + k ≤ b.offset + i →
        eeprom (b.offset + i) = (defaultBytes F b).getD i 0 := by
  constructor
  · intro h b i hi hout hk
    have hcell := h b i hi hout
    rw [powerLost_cell, if_neg (by omega)] at hcell
    exact hcell
  · intro h b i hi hout
    rw [powerLost_cell]
    split
    · exact saveDefaults_defaultBytes eeprom pins b hi
    · next hge => exact h b i hi hout (by omega)

/-- The `if` of `Orazio_paramInit` takes the branch that loads the three blocks. -/
def LoadsParams (g : Globals F π) : Prop :=
  LittleEndian.getU32 g.eeprom PROTOCOL_VERSION_OFFSET = g.systemParams.protocolVersion

omit [PinDriver π] in
lemma loadsParams_static_iff (eeprom : Nat → UInt8) (pins : π) :
    LoadsParams (Globals.static eeprom pins : Globals F π) ↔
      LittleEndian.getU32 eeprom PROTOCOL_VERSION_OFFSET = ORAZIO_PROTOCOL_VERSION :=
  Iff.rfl

/-- Every byte of the block is among the writes. -/
def CompletelyWritten (writes : List (Nat × UInt8)) (b : ParamBlock) : Prop :=
  ∀ i < b.var.sizeof.toNat, b.offset + i ∈ writes.map Prod.fst

/-- The blocks end with the last write. -/
lemma offset_bounds (b : ParamBlock) {i : Nat} (hi : i < b.var.sizeof.toNat) :
    PROTOCOL_VERSION_OFFSET ≤ b.offset + i ∧ b.offset + i < PROTOCOL_VERSION_OFFSET + 107 := by
  rw [length_sizeof] at hi
  cases b <;>
    simp only [ParamBlock.offset, DRIVE_PARAM_OFFSET, JOINT_PARAM_OFFSET, SYSTEM_PARAM_OFFSET,
      FIRMWARE_VERSION_OFFSET, PROTOCOL_VERSION_OFFSET] at hi ⊢ <;>
    omega

omit [PinDriver π] in
lemma completelyWritten_iff (g : Globals F π) (k : Nat) :
    (∀ b, CompletelyWritten ((firstBootWrites g).take k) b) ↔ 107 ≤ k := by
  obtain ⟨bs, hblock, hlength⟩ := firstBootWrites_eq_block g
  unfold CompletelyWritten
  simp only [hblock, WriteLog.mem_addresses_take_block, hlength]
  constructor
  · intro h
    have hlast := (h .drive 37 (by decide)).2
    have haddress : ParamBlock.drive.offset + 37 = PROTOCOL_VERSION_OFFSET + 106 := rfl
    omega
  · intro h b i hi
    have hbounds := offset_bounds b hi
    omega

/-- A first boot writes the versions and the default parameters. Let the power be lost after `k` of
these writes. The next boot has the default parameters, and loads no block of which a byte has not been
written, if and only if a byte of the protocol version that has not been written differs, or all writes
have been done. -/
theorem first_boot_power_loss_iff [LawfulFloatBytes F] (eeprom : Nat → UInt8) (pins pins' : π) (k : Nat)
    (hfirst : LittleEndian.getU32 eeprom PROTOCOL_VERSION_OFFSET ≠ ORAZIO_PROTOCOL_VERSION) :
    (∃ g, Orazio_paramInit (Globals.static eeprom pins : Globals F π) = .ok g ∧
        g.eeprom = WriteLog.apply (firstBootWrites (Globals.static eeprom pins : Globals F π)) eeprom) ∧
      ((∃ g, Orazio_paramInit (Globals.static
            (powerLost (Globals.static eeprom pins : Globals F π) k) pins' : Globals F π) = .ok g ∧
          HasDefaults g) ∧
        (LoadsParams (Globals.static
            (powerLost (Globals.static eeprom pins : Globals F π) k) pins' : Globals F π) →
          ∀ b, CompletelyWritten ((firstBootWrites (Globals.static eeprom pins : Globals F π)).take k) b) ↔
        (∃ i, k ≤ i ∧ i < 4 ∧ eeprom (PROTOCOL_VERSION_OFFSET + i) ≠
            (LittleEndian.u32 ORAZIO_PROTOCOL_VERSION).getD i 0) ∨ 107 ≤ k) := by
  constructor
  · exact ⟨_, paramInit_first pins hfirst, (setVersions_eeprom _ _ _).trans (saveDefaults_eeprom _)⟩
  · rw [boot_hasDefaults_iff, powerLost_storesDefaults_iff, loadsParams_static_iff, completelyWritten_iff,
      ← powerLost_version_iff (F := F) eeprom pins k]
    constructor
    · rintro ⟨-, hwritten⟩
      by_cases hversion : LittleEndian.getU32 (powerLost (Globals.static eeprom pins : Globals F π) k)
          PROTOCOL_VERSION_OFFSET = ORAZIO_PROTOCOL_VERSION
      · exact .inr (hwritten hversion)
      · exact .inl hversion
    · rintro (hversion | hall)
      · exact ⟨.inl hversion, fun heq => absurd heq hversion⟩
      · refine ⟨.inr fun b i hi _ hk => ?_, fun _ => hall⟩
        have hend := (offset_bounds b hi).2
        omega

/-- Power is lost after two writes to an erased EEPROM. -/
theorem first_boot_power_loss_iff_two_writes :
    ∃ g, Orazio_paramInit (Globals.static
        (powerLost (Globals.static (F := BitFloat) (fun _ => 0xFF) Pins.zero) 2) Pins.zero) = .ok g ∧
      HasDefaults (F := BitFloat) g :=
  ((first_boot_power_loss_iff (F := BitFloat) (fun _ => 0xFF) Pins.zero Pins.zero 2 (by decide)).2.mpr
    (.inl ⟨2, by decide, by decide, by decide⟩)).1

/-- Power is lost after the versions have been written to an EEPROM of zeros: the next boot loads
zeros. -/
theorem incomplete_parameters_loaded :
    LittleEndian.getU32 (fun _ => 0) PROTOCOL_VERSION_OFFSET ≠ ORAZIO_PROTOCOL_VERSION ∧
      ∃ g, Orazio_paramInit (Globals.static
          (powerLost (Globals.static (F := BitFloat) (fun _ => 0) Pins.zero) 8) Pins.zero :
            Globals BitFloat Pins) = .ok g ∧
        (g.jointParams.joints 0).kp = 0 ∧ (initJointParams.joints 0).kp = 255 ∧
        g.driveParams.baseline = ⟨0⟩ := by
  decide +kernel

/-! ### Two boots -/

/-- The second of two boots has the same parameters as the first and leaves the EEPROM alone. The two
versions are those that each boot finds in the EEPROM; they are the same if and only if the first boot
finds the protocol version of the firmware. -/
theorem second_boot_same [LawfulFloatBytes F] (eeprom : Nat → UInt8) (pins pins' : π)
    (g₁ : Globals F π) (hboot : Orazio_paramInit (Globals.static eeprom pins : Globals F π) = .ok g₁) :
    ∃ g₂, Orazio_paramInit (Globals.static g₁.eeprom pins' : Globals F π) = .ok g₂ ∧
      { g₂.systemParams with
        protocolVersion := g₁.systemParams.protocolVersion
        firmwareVersion := g₁.systemParams.firmwareVersion } = g₁.systemParams ∧
      g₂.jointParams = g₁.jointParams ∧ g₂.driveParams = g₁.driveParams ∧ g₂.eeprom = g₁.eeprom ∧
      g₁.systemParams.protocolVersion = LittleEndian.getU32 eeprom PROTOCOL_VERSION_OFFSET ∧
      g₁.systemParams.firmwareVersion = LittleEndian.getU32 eeprom FIRMWARE_VERSION_OFFSET ∧
      g₂.systemParams.protocolVersion = ORAZIO_PROTOCOL_VERSION ∧
      g₂.systemParams.firmwareVersion = LittleEndian.getU32 g₁.eeprom FIRMWARE_VERSION_OFFSET ∧
      (g₂.systemParams = g₁.systemParams ↔
        LittleEndian.getU32 eeprom PROTOCOL_VERSION_OFFSET = ORAZIO_PROTOCOL_VERSION) := by
  by_cases hversion : LittleEndian.getU32 eeprom PROTOCOL_VERSION_OFFSET = ORAZIO_PROTOCOL_VERSION
  · rw [paramInit_later pins hversion] at hboot
    split at hboot
    · cases hboot
    · next g hload =>
      cases hboot
      obtain ⟨hsystem, hjoints, hdrive, heeprom⟩ := loadParams_blocks hload
      have hstored : (viewOf (Globals.static eeprom pins : Globals F π)).storedIndices.InRange := by
        by_contra hout
        obtain ⟨e, he⟩ := loadParams_fails (g := (Globals.static eeprom pins : Globals F π))
          (show (JointIndices.mk 1 0).InRange by decide) hout
        rw [hload] at he
        cases he
      obtain ⟨g', hload', -⟩ := loadParams_returns (g := (Globals.static eeprom pins' : Globals F π))
        (show (JointIndices.mk 1 0).InRange by decide) hstored
      obtain ⟨hsystem', hjoints', hdrive', heeprom'⟩ := loadParams_blocks hload'
      have hkept : (setVersions (LittleEndian.getU32 eeprom PROTOCOL_VERSION_OFFSET)
          (LittleEndian.getU32 eeprom FIRMWARE_VERSION_OFFSET) g).eeprom = eeprom := heeprom
      have hsame : g'.systemParams = g.systemParams := hsystem'.trans hsystem.symm
      rw [hkept, paramInit_later pins' hversion, hload']
      refine ⟨_, rfl, ?_, hjoints'.trans hjoints.symm, hdrive'.trans hdrive.symm, heeprom', rfl, rfl,
        hversion, rfl, fun _ => hversion, fun _ => ?_⟩
      · rw [setVersions, setVersions, hsame]
      · rw [setVersions, setVersions, hsame]
  · have hcurrent := saveDefaults_version (Globals.static eeprom pins : Globals F π)
    have hdefaults : StoresDefaults F (saveDefaults (Globals.static eeprom pins : Globals F π)).eeprom :=
      fun b i hi _ => saveDefaults_defaultBytes eeprom pins b hi
    have hfirst := saveDefaults_hasDefaults (F := F) eeprom pins
      (LittleEndian.getU32 eeprom PROTOCOL_VERSION_OFFSET)
      (LittleEndian.getU32 eeprom FIRMWARE_VERSION_OFFSET)
    rw [paramInit_first pins hversion] at hboot
    generalize saveDefaults (Globals.static eeprom pins : Globals F π) = g
      at hboot hcurrent hdefaults hfirst
    cases hboot
    obtain ⟨g', hload'⟩ := loadParams_storesDefaults pins' hdefaults
    obtain ⟨hsystem', hjoints', hdrive', heeprom'⟩ := loadParams_blocks hload'
    have hsecond := (hasDefaults_iff hsystem' hjoints' hdrive').mpr hdefaults
    rw [setVersions_eeprom, paramInit_later pins' hcurrent, hload']
    refine ⟨_, rfl, ?_, hsecond.2.1.trans hfirst.2.1.symm, hsecond.2.2.trans hfirst.2.2.symm, heeprom',
      rfl, rfl, hcurrent, rfl, fun hsame => ?_, fun heq => absurd heq hversion⟩
    · exact congrArg (fun p : SystemParamPacket => { p with
        protocolVersion := LittleEndian.getU32 eeprom PROTOCOL_VERSION_OFFSET
        firmwareVersion := LittleEndian.getU32 eeprom FIRMWARE_VERSION_OFFSET })
        (hsecond.1.trans hfirst.1.symm)
    · exact (congrArg SystemParamPacket.protocolVersion hsame).symm.trans hcurrent

/-- Two boots from an erased EEPROM. -/
theorem second_boot_same_erased :
    ∃ g₁ g₂ : Globals BitFloat Pins,
      Orazio_paramInit (Globals.static (fun _ => 0xFF) Pins.zero) = .ok g₁ ∧
      Orazio_paramInit (Globals.static g₁.eeprom Pins.zero) = .ok g₂ ∧
      g₂.jointParams = g₁.jointParams ∧ g₂.driveParams = g₁.driveParams ∧ g₂.eeprom = g₁.eeprom := by
  have herased :
      LittleEndian.getU32 (fun _ => 0xFF) PROTOCOL_VERSION_OFFSET ≠ ORAZIO_PROTOCOL_VERSION := by
    decide
  have hboot := paramInit_first (F := BitFloat) Pins.zero herased
  obtain ⟨g₂, hsecond, -, hjoints, hdrive, heeprom, -⟩ :=
    second_boot_same (F := BitFloat) (fun _ => 0xFF) Pins.zero Pins.zero _ hboot
  exact ⟨_, g₂, hboot, hsecond, hjoints, hdrive, heeprom⟩

/-- After two boots from an erased EEPROM the protocol versions differ. -/
theorem versions_differ :
    ∃ g₁ : Globals BitFloat Pins,
      Orazio_paramInit (Globals.static (fun _ => 0xFF) Pins.zero) = .ok g₁ ∧
      ∃ g₂ : Globals BitFloat Pins, Orazio_paramInit (Globals.static g₁.eeprom Pins.zero) = .ok g₂ ∧
        g₁.systemParams.protocolVersion = 0xFFFFFFFF ∧ g₂.systemParams.protocolVersion = 0x20171205 := by
  decide +kernel

end Orazio.Proofs
