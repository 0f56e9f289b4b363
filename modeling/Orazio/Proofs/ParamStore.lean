import Orazio.Model.Bench
import Orazio.Proofs.ParamBlocks

/-!
# The parameter store

Saves and loads of the three blocks of parameters in any order, between which the parameters in
memory may become anything.
-/

namespace Orazio.Proofs

variable {F π : Type} [CFloat F]

/-! ### The blocks in the EEPROM -/

/-- The bytes that a block has in the EEPROM. -/
def storedBlock (b : ParamBlock) (g : Globals F π) : List UInt8 :=
  Bytes.read g.eeprom b.offset b.var.sizeof.toNat

/-- The two version words in the EEPROM. -/
def storedVersions (g : Globals F π) : List UInt8 :=
  Bytes.read g.eeprom PROTOCOL_VERSION_OFFSET 8

lemma paramSave_eq {paramType : UInt8} {b : ParamBlock}
    (hb : ParamBlock.ofParamType paramType = some b) (g : Globals F π) :
    Orazio_paramSave paramType g =
      (.success, { g with eeprom := EEPROM_write b.offset (b.var.bytes g) g.eeprom }) := by
  rw [Orazio_paramSave, paramBlock_eq, hb]
  rfl

/-- Saving a block changes the cells of this block. -/
lemma eepromWrite_block (b : ParamBlock) (g : Globals F π) {a : Nat}
    (ha : a < b.offset ∨ b.offset + b.var.sizeof.toNat ≤ a) :
    EEPROM_write b.offset (b.var.bytes g) g.eeprom a = g.eeprom a := by
  apply eepromWrite_outside
  rw [length_bytes]
  exact ha

/-- A saved block can be read back. -/
lemma storedBlock_save (b : ParamBlock) (g : Globals F π) :
    storedBlock b { g with eeprom := EEPROM_write b.offset (b.var.bytes g) g.eeprom } =
      b.var.bytes g := by
  rw [storedBlock, ← length_bytes b.var g]
  exact read_eepromWrite _ _ _

lemma storedBlock_save_of_ne {b b' : ParamBlock} (h : b' ≠ b) (g : Globals F π) :
    storedBlock b' { g with eeprom := EEPROM_write b.offset (b.var.bytes g) g.eeprom } =
      storedBlock b' g := by
  apply read_eepromWrite_of_apart
  intro i hi
  rw [length_bytes]
  exact blocks_apart h hi

lemma storedVersions_save (b : ParamBlock) (g : Globals F π) :
    storedVersions { g with eeprom := EEPROM_write b.offset (b.var.bytes g) g.eeprom } =
      storedVersions g := by
  apply read_eepromWrite_of_apart
  intro i hi
  left
  have hoffset : SYSTEM_PARAM_OFFSET ≤ b.offset := by cases b <;> decide
  simp only [SYSTEM_PARAM_OFFSET, FIRMWARE_VERSION_OFFSET] at hoffset
  omega

variable [PinDriver π]

lemma paramLoad_eq_ok_block {paramType : UInt8} {g g' : Globals F π} {r : PacketStatus}
    (h : Orazio_paramLoad paramType g = .ok (r, g')) :
    (ParamBlock.ofParamType paramType = none ∧ r = .genericError ∧ g' = g) ∨
      ∃ b r', ParamBlock.ofParamType paramType = some b ∧ r = .success ∧
        Orazio_paramSet paramType (b.var.ofMemory (EEPROM_read b.offset g.eeprom) g) = .ok (r', g') := by
  obtain ⟨hblock, hr, hg⟩ | ⟨v, offset, r', hblock, hr, hset⟩ := paramLoad_eq_ok h
  · rw [paramBlock_eq, Option.map_eq_none_iff] at hblock
    exact .inl ⟨hblock, hr, hg⟩
  · rw [paramBlock_eq, Option.map_eq_some_iff] at hblock
    obtain ⟨b, hb, hvar⟩ := hblock
    cases hvar
    exact .inr ⟨b, r', hb, hr, hset⟩

/-- Setting parameters leaves them alone, in memory and in the EEPROM. -/
lemma paramSet_params {paramType : UInt8} {g g' : Globals F π} {r : PacketStatus}
    (h : Orazio_paramSet paramType g = .ok (r, g')) :
    g'.systemParams = g.systemParams ∧ g'.jointParams = g.jointParams ∧
      g'.driveParams = g.driveParams ∧ g'.eeprom = g.eeprom := by
  obtain ⟨bridges, pins, controller, status, seq, rfl, -⟩ := paramSet_eq_ok h
  exact ⟨rfl, rfl, rfl, rfl⟩

lemma paramSet_bytes {paramType : UInt8} {g g' : Globals F π} {r : PacketStatus}
    (h : Orazio_paramSet paramType g = .ok (r, g')) (b : ParamBlock) :
    b.var.bytes g' = b.var.bytes g := by
  obtain ⟨hsystem, hjoints, hdrive, -⟩ := paramSet_params h
  cases b with
  | system => exact congrArg SystemParamPacket.bytes hsystem
  | joints => exact congrArg JointParamPacket.bytes hjoints
  | drive => exact congrArg DifferentialDriveParamPacket.bytes hdrive

omit [PinDriver π] in
lemma ofMemory_bytes_of_ne {b b' : ParamBlock} (h : b' ≠ b) (m : PacketBytes) (g : Globals F π) :
    b'.var.bytes (b.var.ofMemory m g) = b'.var.bytes g := by
  cases b <;> cases b' <;> first | exact absurd rfl h | rfl

omit [PinDriver π] in
/-- A block is read from as many bytes as its size. -/
lemma ofMemory_congr [LawfulFloatBytes F] (b : ParamBlock) {m m' : PacketBytes}
    (h : ∀ i < b.var.sizeof.toNat, m i = m' i) (g : Globals F π) :
    b.var.ofMemory m g = b.var.ofMemory m' g := by
  have hread : Bytes.read m 0 b.var.sizeof.toNat = b.var.bytes (b.var.ofMemory m' g) := by
    rw [bytes_ofMemory]
    apply Bytes.read_congr
    intro i hi
    rw [Nat.zero_add]
    exact h i hi
  have htwice : b.var.ofMemory m (b.var.ofMemory m' g) = b.var.ofMemory m g := by cases b <;> rfl
  rw [← htwice]
  exact ofMemory_bytes b _ hread

/-! ### Boots -/

/-- `Orazio_paramInit` when the EEPROM holds another protocol version. -/
lemma paramInit_first {eeprom : Nat → UInt8} (pins : π)
    (h : LittleEndian.getU32 eeprom PROTOCOL_VERSION_OFFSET ≠ ORAZIO_PROTOCOL_VERSION) :
    Orazio_paramInit (Globals.static eeprom pins : Globals F π) =
      .ok (setVersions (LittleEndian.getU32 eeprom PROTOCOL_VERSION_OFFSET)
        (LittleEndian.getU32 eeprom FIRMWARE_VERSION_OFFSET) (saveDefaults (.static eeprom pins))) := by
  have hversion : (Globals.static eeprom pins : Globals F π).systemParams.protocolVersion =
      ORAZIO_PROTOCOL_VERSION := rfl
  have heeprom : (Globals.static eeprom pins : Globals F π).eeprom = eeprom := rfl
  rw [Orazio_paramInit, initParams, syncParams, hversion, heeprom, if_pos h]

/-- `Orazio_paramInit` when the EEPROM holds the protocol version of the firmware. -/
lemma paramInit_later {eeprom : Nat → UInt8} (pins : π)
    (h : LittleEndian.getU32 eeprom PROTOCOL_VERSION_OFFSET = ORAZIO_PROTOCOL_VERSION) :
    Orazio_paramInit (Globals.static eeprom pins : Globals F π) =
      match (loadParams (.static eeprom pins) : Except Fault (Globals F π)) with
      | .error e => .error e
      | .ok g => .ok (setVersions (LittleEndian.getU32 eeprom PROTOCOL_VERSION_OFFSET)
          (LittleEndian.getU32 eeprom FIRMWARE_VERSION_OFFSET) g) := by
  have hversion : (Globals.static eeprom pins : Globals F π).systemParams.protocolVersion =
      ORAZIO_PROTOCOL_VERSION := rfl
  have heeprom : (Globals.static eeprom pins : Globals F π).eeprom = eeprom := rfl
  have hsync : syncParams (LittleEndian.getU32 eeprom PROTOCOL_VERSION_OFFSET)
      (Globals.static eeprom pins : Globals F π) = loadParams (.static eeprom pins) := by
    rw [syncParams, hversion, if_neg (not_not_intro h)]
  rw [← hsync]
  rfl

lemma paramLoad_block {paramType : UInt8} {b : ParamBlock}
    (hb : ParamBlock.ofParamType paramType = some b) {g g' : Globals F π} {r : PacketStatus}
    (h : Orazio_paramLoad paramType g = .ok (r, g')) :
    ∃ g₁, g₁ = b.var.ofMemory (EEPROM_read b.offset g.eeprom) g ∧ g'.systemParams = g₁.systemParams ∧
      g'.jointParams = g₁.jointParams ∧ g'.driveParams = g₁.driveParams ∧ g'.eeprom = g₁.eeprom := by
  obtain ⟨hnone, -⟩ | ⟨b', r', hb', -, hset⟩ := paramLoad_eq_ok_block h
  · rw [hb] at hnone
    cases hnone
  · rw [hb] at hb'
    cases hb'
    exact ⟨_, rfl, paramSet_params hset⟩

/-- A later boot takes the three blocks from the EEPROM. -/
lemma loadParams_blocks {g g' : Globals F π} (h : loadParams g = .ok g') :
    g'.systemParams = .ofBytes (EEPROM_read SYSTEM_PARAM_OFFSET g.eeprom) ∧
      g'.jointParams = .ofBytes (EEPROM_read JOINT_PARAM_OFFSET g.eeprom) ∧
      g'.driveParams = .ofBytes (EEPROM_read DRIVE_PARAM_OFFSET g.eeprom) ∧ g'.eeprom = g.eeprom := by
  obtain ⟨r₁, g₁, r₂, g₂, r₃, h₁, h₂, h₃⟩ := loadParams_eq_ok h
  obtain ⟨_, rfl, hsystem₁, -, -, heeprom₁⟩ := paramLoad_block (b := .system) rfl h₁
  obtain ⟨_, rfl, hsystem₂, hjoints₂, -, heeprom₂⟩ := paramLoad_block (b := .joints) rfl h₂
  obtain ⟨_, rfl, hsystem₃, hjoints₃, hdrive₃, heeprom₃⟩ := paramLoad_block (b := .drive) rfl h₃
  have heeprom₁' : g₁.eeprom = g.eeprom := heeprom₁
  have heeprom₂' : g₂.eeprom = g.eeprom := heeprom₂.trans heeprom₁'
  refine ⟨hsystem₃.trans (hsystem₂.trans hsystem₁), ?_, ?_, heeprom₃.trans heeprom₂'⟩
  · rw [← heeprom₁']
    exact hjoints₃.trans hjoints₂
  · rw [← heeprom₂']
    exact hdrive₃

/-! ### Histories -/

inductive StoreInput (F : Type)
  | save (paramType : UInt8)
  | load (paramType : UInt8)
  | change (systemParams : SystemParamPacket) (jointParams : JointParamPacket)
      (driveParams : DifferentialDriveParamPacket F)

/-- What a step does. A save is recorded with the bytes of the three blocks in memory. -/
inductive StoreEvent
  | saved (paramType : UInt8) (content : ParamBlock → List UInt8)
  | loaded (paramType : UInt8) (status : PacketStatus)
  | changed

def storeStep (g : Globals F π) : StoreInput F → Except Fault (StoreEvent × Globals F π)
  | .save paramType =>
    .ok (.saved paramType fun b => b.var.bytes g, (Orazio_paramSave paramType g).2)
  | .load paramType =>
    match Orazio_paramLoad paramType g with
    | .error e => .error e
    | .ok (r, g) => .ok (.loaded paramType r, g)
  | .change systemParams jointParams driveParams =>
    .ok (.changed, { g with systemParams, jointParams, driveParams })

/-- What the last save of a block saved. -/
def lastSaved (b : ParamBlock) (events : List StoreEvent) : Option (List UInt8) :=
  events.foldl (fun last event =>
    match event with
    | .saved paramType content =>
      if ParamBlock.ofParamType paramType = some b then some (content b) else last
    | _ => last) none

/-- After every history the EEPROM holds what was saved last. -/
lemma storedBlock_lastSaved {g₀ g : Globals F π} {inputs : List (StoreInput F)}
    {events : List StoreEvent} (h : StepMachine.run storeStep g₀ inputs = .ok (events, g))
    (b : ParamBlock) {bs : List UInt8} (hbs : lastSaved b events = some bs) : storedBlock b g = bs := by
  refine StepMachine.run_history
    (fun _ events g => lastSaved b events = some bs → storedBlock b g = bs) ?_ ?_ h hbs
  · intro hnone
    cases hnone
  · intro inputs events g input event g' ih hstep hlast
    rw [lastSaved, List.foldl_concat] at hlast
    cases input with
    | save paramType =>
      cases hstep
      simp only at hlast
      cases hb : ParamBlock.ofParamType paramType with
      | none =>
        rw [hb, if_neg (by simp)] at hlast
        rw [Orazio_paramSave, paramBlock_eq, hb]
        exact ih hlast
      | some b' =>
        rw [paramSave_eq hb]
        by_cases hsame : b = b'
        · subst hsame
          rw [hb, if_pos rfl] at hlast
          rw [storedBlock_save]
          exact Option.some.inj hlast
        · rw [hb, if_neg (fun heq => hsame (Option.some.inj heq).symm)] at hlast
          rw [storedBlock_save_of_ne hsame]
          exact ih hlast
    | load paramType =>
      simp only [storeStep] at hstep
      split at hstep
      · cases hstep
      · next r g₁ hload =>
        cases hstep
        have heeprom : g'.eeprom = g.eeprom := by
          obtain ⟨-, -, rfl⟩ | ⟨b', r', -, -, hset⟩ := paramLoad_eq_ok_block hload
          · rfl
          · rw [(paramSet_params hset).2.2.2]
            cases b' <;> rfl
        rw [storedBlock, heeprom]
        exact ih hlast
    | change systemParams jointParams driveParams =>
      cases hstep
      exact ih hlast

/-- What saving and loading a type of parameters does after a history. -/
structure StoreSound (events : List StoreEvent) (g : Globals F π) (paramType : UInt8) : Prop where
  /-- A successful load restores what the last save of the block saved, and no other block changes. -/
  load : ∀ g', Orazio_paramLoad paramType g = .ok (.success, g') →
    ∃ b, ParamBlock.ofParamType paramType = some b ∧
      (∀ bs, lastSaved b events = some bs → b.var.bytes g' = bs) ∧
      (∀ b', b' ≠ b → b'.var.bytes g' = b'.var.bytes g) ∧ g'.eeprom = g.eeprom
  /-- A save stores its block; the other blocks and the version words stay. -/
  save : ∀ b, ParamBlock.ofParamType paramType = some b →
    ∃ g', Orazio_paramSave paramType g = (.success, g') ∧ storedBlock b g' = b.var.bytes g ∧
      (∀ b', b' ≠ b → storedBlock b' g' = storedBlock b' g) ∧ storedVersions g' = storedVersions g
  /-- A save writes cells of its block, a load reads cells of its block, all below 255. -/
  cells : ∀ b, ParamBlock.ofParamType paramType = some b → b.offset + b.var.sizeof.toNat ≤ 255 ∧
    (∀ a, (Orazio_paramSave paramType g).2.eeprom a ≠ g.eeprom a →
      b.offset ≤ a ∧ a < b.offset + b.var.sizeof.toNat) ∧
    ∀ eeprom : Nat → UInt8,
      (∀ a, b.offset ≤ a → a < b.offset + b.var.sizeof.toNat → eeprom a = g.eeprom a) →
      b.var.ofMemory (EEPROM_read b.offset eeprom) g =
        b.var.ofMemory (EEPROM_read b.offset g.eeprom) g
  /-- Another type is refused. -/
  refused : 2 < paramType → Orazio_paramLoad paramType g = .ok (.genericError, g) ∧
    Orazio_paramSave paramType g = (.genericError, g)

lemma ofParamType_eq_none {paramType : UInt8} (h : 2 < paramType) :
    ParamBlock.ofParamType paramType = none := by
  have hsystem : paramType ≠ ParamSystem := by
    rintro rfl
    exact absurd h (by decide)
  have hjoints : paramType ≠ ParamJoints := by
    rintro rfl
    exact absurd h (by decide)
  have hdrive : paramType ≠ ParamDrive := by
    rintro rfl
    exact absurd h (by decide)
  rw [ParamBlock.ofParamType, if_neg hsystem, if_neg hjoints, if_neg hdrive]

/-- After every history of saves, loads and changes, saving and loading any type of parameters is
sound. -/
theorem param_store_sound [LawfulFloatBytes F] (g₀ g : Globals F π) (inputs : List (StoreInput F))
    (events : List StoreEvent) (paramType : UInt8)
    (hrun : StepMachine.run storeStep g₀ inputs = .ok (events, g)) : StoreSound events g paramType where
  load := by
    intro g' hload
    obtain ⟨-, hr, -⟩ | ⟨b, r', hb, -, hset⟩ := paramLoad_eq_ok_block hload
    · cases hr
    · refine ⟨b, hb, ?_, ?_, ?_⟩
      · intro bs hbs
        rw [paramSet_bytes hset, bytes_ofMemory, ← storedBlock_lastSaved hrun b hbs, storedBlock,
          Bytes.read_shift g.eeprom]
        rfl
      · intro b' hb'
        rw [paramSet_bytes hset, ofMemory_bytes_of_ne hb']
      · rw [(paramSet_params hset).2.2.2]
        cases b <;> rfl
  save := by
    intro b hb
    rw [paramSave_eq hb]
    exact ⟨_, rfl, storedBlock_save b g, fun b' hb' => storedBlock_save_of_ne hb' g,
      storedVersions_save b g⟩
  cells := by
    intro b hb
    refine ⟨by cases b <;> decide, ?_, ?_⟩
    · intro a ha
      rw [paramSave_eq hb] at ha
      by_contra houtside
      exact ha (eepromWrite_block b g (by omega))
    · intro eeprom heeprom
      apply ofMemory_congr
      intro i hi
      exact heeprom (b.offset + i) (by omega) (by omega)
  refused := by
    intro htype
    rw [Orazio_paramLoad, Orazio_paramSave, paramBlock_eq, ofParamType_eq_none htype]
    exact ⟨rfl, rfl⟩

/-- The parameters of the joints and of the system are saved, then those of the joints become 0. -/
def jointParamsLost : List (StoreInput BitFloat) :=
  [.save ParamJoints, .save ParamSystem,
    .change initSystemParams { initJointParams with joints := fun _ => .ofBytes (fun _ => 0) 0 }
      initDriveParams]

/-- Loading the parameters of the joints restores them. -/
theorem param_store_sound_joints :
    ∃ (events : List StoreEvent) (g g' : Globals BitFloat Pins),
      StepMachine.run storeStep (Globals.static (fun _ => 0xFF) Pins.zero) jointParamsLost =
        .ok (events, g) ∧
      Orazio_paramLoad ParamJoints g = .ok (.success, g') ∧
      g.jointParams.bytes ≠ initJointParams.bytes ∧ g'.jointParams.bytes = initJointParams.bytes := by
  have hcheck : ∃ r, StepMachine.run storeStep
        (Globals.static (F := BitFloat) (fun _ => 0xFF) Pins.zero) jointParamsLost = .ok r ∧
      ∃ l, Orazio_paramLoad ParamJoints r.2 = .ok l ∧ l.1 = .success ∧
        lastSaved .joints r.1 = some initJointParams.bytes ∧
        r.2.jointParams.bytes ≠ initJointParams.bytes := by
    decide +kernel
  obtain ⟨⟨events, g⟩, hrun, ⟨r, g'⟩, hload, rfl, hlast, hlost⟩ := hcheck
  have hsound := param_store_sound _ g jointParamsLost events ParamJoints hrun
  obtain ⟨b, hb, hsaved, -⟩ := hsound.load g' hload
  cases hb
  exact ⟨events, g, g', hrun, hload, hlost, hsaved _ hlast⟩

end Orazio.Proofs
