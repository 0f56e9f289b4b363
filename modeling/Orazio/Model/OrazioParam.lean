import Orazio.Model.OrazioGlobals

/-!
# Drive, bridges, joints and parameters

Model of `orazio_drive.c`, `orazio_hbridge.c`, `orazio_joints.c` and `orazio_param.c`. The EEPROM is
a byte array.
-/

namespace Orazio

open CFloat

variable {F π : Type} [CFloat F] [PinDriver π]

/-! ### Drive -/

def Orazio_driveInit (g : Globals F π) : Except Fault (Globals F π) :=
  let jointsDt := const (1 / 1000) * ofInt g.systemParams.timerPeriodMs.toInt
  match DifferentialDriveController.init g.driveParams g.driveStatus g.jointStatus.joints
      g.driveParams.leftJointIndex g.driveParams.rightJointIndex
      (jointsDt * ofInt g.systemParams.commCycles.toNat) jointsDt g.driveController with
  | .error e => .error e
  | .ok (driveController, driveStatus) =>
    .ok { g with driveController, driveStatus, lastDriveControlSeq := g.driveControl.header.seq }

def Orazio_driveUpdate (g : Globals F π) : Except Fault (Globals F π) :=
  match g.driveController.update g.driveParams g.driveControl g.jointStatus.joints g.driveStatus with
  | .error e => .error e
  | .ok (driveController, driveStatus) => .ok { g with driveController, driveStatus }

def Orazio_driveDisable (g : Globals F π) : Globals F π :=
  { g with driveEnable := 0 }

/-- The first `if` of `Orazio_driveControl`. -/
def enableDrive (g : Globals F π) : Globals F π :=
  if g.lastDriveControlSeq ≠ g.driveControl.header.seq then
    { g with driveEnable := 1, lastDriveControlSeq := g.driveControl.header.seq }
  else g

/-- `Orazio_driveControl`, and whether it calls `DifferentialDriveController_control`. -/
def Orazio_driveControl (g : Globals F π) : Except Fault (Bool × Globals F π) :=
  let g := enableDrive g
  if g.driveEnable ≠ 0 then
    match g.driveController.control g.driveParams g.driveStatus g.jointControl.joints with
    | .error e => .error e
    | .ok joints => .ok (true, { g with jointControl := { g.jointControl with joints } })
  else .ok (false, g)

/-! ### Bridges -/

/-- `bridges` and the pins after the two calls of an initialisation function. -/
def initBridges (g : Globals F π) (init : HBridge → UInt8 → UInt8 → π → HBridge × π)
    (pin₀ other₀ pin₁ other₁ : UInt8) : Globals F π :=
  let (bridge₀, pins) := init (g.bridges 0) pin₀ other₀ g.pins
  let (bridge₁, pins) := init (g.bridges 1) pin₁ other₁ pins
  { g with bridges := fun i => if i = 0 then bridge₀ else bridge₁, pins }

def Orazio_hBridgeInit (g : Globals F π) : Globals F π :=
  if g.systemParams.hBridgeType = HBridgeTypePWMDir then
    initBridges g HBridgePWMDir_init 3 12 11 13
  else if g.systemParams.hBridgeType = HBridgeTypeDualPWM then
    initBridges g HBridgeDualPWM_init 3 2 5 4
  else if g.systemParams.hBridgeType = HBridgeTypeHalfCyclePWM then
    initBridges g HBridgeHalfPWM_init 2 3 4 5
  else g

def Orazio_hBridgeApplyControl (g : Globals F π) : Except Fault (Globals F π) :=
  match (g.bridges 0).setSpeed (g.jointControllers 0).output g.pins with
  | .error e => .error e
  | .ok pins =>
    match (g.bridges 1).setSpeed (g.jointControllers 1).output pins with
    | .error e => .error e
    | .ok pins => .ok { g with pins }

/-! ### Joints -/

def Orazio_jointsInit (g : Globals F π) : Globals F π :=
  { g with jointControllers := fun _ => .zero }

/-- The result of `JointController_handle` on joint `i`. -/
def handleJoint (encoders : Fin NUM_MOTORS → UInt16) (g : Globals F π) (i : Fin NUM_MOTORS) :
    JointController × JointInfo :=
  (g.jointControllers i).handle (g.jointParams.joints i) (g.jointControl.joints i)
    (g.jointStatus.joints i) (encoders i)

/-- `Orazio_jointsHandle` with the sampled values of the encoders. The joints share nothing. -/
def Orazio_jointsHandle (encoders : Fin NUM_MOTORS → UInt16) (g : Globals F π) : Globals F π :=
  { g with
    jointControllers := fun i => (handleJoint encoders g i).1
    jointStatus := { g.jointStatus with joints := fun i => (handleJoint encoders g i).2 } }

def Orazio_jointsDisable (g : Globals F π) : Globals F π :=
  { g with
    jointControl :=
      { g.jointControl with joints := fun i => { g.jointControl.joints i with mode := JointDisabled } }
    jointControllers := fun i => { g.jointControllers i with output := 0 } }

/-! ### Parameters -/

abbrev PROTOCOL_VERSION_OFFSET : Nat := 32
abbrev FIRMWARE_VERSION_OFFSET : Nat := PROTOCOL_VERSION_OFFSET + 4
abbrev SYSTEM_PARAM_OFFSET : Nat := FIRMWARE_VERSION_OFFSET + 4
abbrev JOINT_PARAM_OFFSET : Nat := SYSTEM_PARAM_OFFSET + 25
abbrev DRIVE_PARAM_OFFSET : Nat := JOINT_PARAM_OFFSET + 36

def EEPROM_write (dest : Nat) : List UInt8 → (Nat → UInt8) → Nat → UInt8
  | [], eeprom => eeprom
  | b :: bs, eeprom => EEPROM_write (dest + 1) bs (Function.update eeprom dest b)

/-- The bytes that `EEPROM_read` finds from `src` on. -/
def EEPROM_read (src : Nat) (eeprom : Nat → UInt8) : PacketBytes :=
  fun i => eeprom (src + i)

def Orazio_paramSet (paramType : UInt8) (g : Globals F π) :
    Except Fault (PacketStatus × Globals F π) :=
  if paramType = ParamSystem then
    match Orazio_driveInit (Orazio_hBridgeInit g) with
    | .error e => .error e
    | .ok g => .ok (.success, g)
  else if paramType = ParamJoints then .ok (.success, g)
  else if paramType = ParamDrive then
    match Orazio_driveInit g with
    | .error e => .error e
    | .ok g => .ok (.success, g)
  else .ok (.genericError, g)

/-- The packet and the EEPROM offset of a parameter type. -/
def paramBlock (paramType : UInt8) : Option (PacketVar × Nat) :=
  if paramType = ParamSystem then some (.systemParams, SYSTEM_PARAM_OFFSET)
  else if paramType = ParamJoints then some (.jointParams, JOINT_PARAM_OFFSET)
  else if paramType = ParamDrive then some (.driveParams, DRIVE_PARAM_OFFSET)
  else none

def Orazio_paramLoad (paramType : UInt8) (g : Globals F π) :
    Except Fault (PacketStatus × Globals F π) :=
  match paramBlock paramType with
  | none => .ok (.genericError, g)
  | some (p, offset) =>
    match Orazio_paramSet paramType (p.ofMemory (EEPROM_read offset g.eeprom) g) with
    | .error e => .error e
    | .ok (_, g) => .ok (.success, g)

def Orazio_paramSave (paramType : UInt8) (g : Globals F π) : PacketStatus × Globals F π :=
  match paramBlock paramType with
  | none => (.genericError, g)
  | some (p, offset) => (.success, { g with eeprom := EEPROM_write offset (p.bytes g) g.eeprom })

/-- The two versions go to the EEPROM. -/
def saveVersions (g : Globals F π) : Globals F π :=
  let eeprom :=
    EEPROM_write PROTOCOL_VERSION_OFFSET (LittleEndian.u32 g.systemParams.protocolVersion) g.eeprom
  { g with eeprom :=
    EEPROM_write FIRMWARE_VERSION_OFFSET (LittleEndian.u32 g.systemParams.firmwareVersion) eeprom }

/-- The first boot: the versions and all parameters go to the EEPROM. -/
def saveDefaults (g : Globals F π) : Globals F π :=
  let g := saveVersions g
  let g := (Orazio_paramSave ParamSystem g).2
  let g := (Orazio_paramSave ParamJoints g).2
  (Orazio_paramSave ParamDrive g).2

/-- A later boot: all parameters come from the EEPROM. -/
def loadParams (g : Globals F π) : Except Fault (Globals F π) :=
  match Orazio_paramLoad ParamSystem g with
  | .error e => .error e
  | .ok (_, g) =>
    match Orazio_paramLoad ParamJoints g with
    | .error e => .error e
    | .ok (_, g) =>
      match Orazio_paramLoad ParamDrive g with
      | .error e => .error e
      | .ok (_, g) => .ok g

/-- The `if` of `Orazio_paramInit`. -/
def syncParams (cpv : UInt32) (g : Globals F π) : Except Fault (Globals F π) :=
  if cpv ≠ g.systemParams.protocolVersion then .ok (saveDefaults g) else loadParams g

/-- The last two assignments of `Orazio_paramInit`. -/
def setVersions (cpv cfv : UInt32) (g : Globals F π) : Globals F π :=
  { g with systemParams := { g.systemParams with protocolVersion := cpv, firmwareVersion := cfv } }

/-- `Orazio_paramInit` once the versions are read. -/
def initParams (cpv cfv : UInt32) (g : Globals F π) : Except Fault (Globals F π) :=
  match syncParams cpv g with
  | .error e => .error e
  | .ok g => .ok (setVersions cpv cfv g)

def Orazio_paramInit (g : Globals F π) : Except Fault (Globals F π) :=
  initParams (LittleEndian.getU32 g.eeprom PROTOCOL_VERSION_OFFSET)
    (LittleEndian.getU32 g.eeprom FIRMWARE_VERSION_OFFSET) g

end Orazio
