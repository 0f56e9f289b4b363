import Orazio.Model.OrazioDrive
import Orazio.Model.OrazioHBridge
import Orazio.Model.OrazioJoints

/-!
# The variables of the firmware

Model of `orazio_globals.c` with the static variables of the other modules of `server`. A pointer to
one of the global packets is a `PacketVar`. `sent` is not in the source: it records the calls of
`Orazio_sendPacket`.
-/

namespace Orazio

/-- The addresses of the global packets. -/
inductive PacketVar
  | systemParams | jointParams | driveParams | systemStatus | jointStatus | driveStatus
  | jointControl | driveControl | response | endEpoch
  deriving DecidableEq, Repr

/-- A call of `Orazio_sendPacket`: the variable, the bytes of the packet and the result. -/
structure Sent where
  source : PacketVar
  packet : List UInt8
  status : PacketStatus

structure Globals (F π : Type) where
  systemParams : SystemParamPacket
  jointParams : JointParamPacket
  driveParams : DifferentialDriveParamPacket F
  systemStatus : SystemStatusPacket
  jointStatus : JointStatusPacket
  driveStatus : DifferentialDriveStatusPacket F
  jointControl : JointControlPacket
  driveControl : DifferentialDriveControlPacket F
  response : ResponsePacket
  endEpoch : PacketHeader
  jointControllers : Fin NUM_MOTORS → JointController
  driveController : DifferentialDriveController F
  lastDriveControlSeq : UInt16
  driveEnable : UInt8
  bridges : Fin NUM_MOTORS → HBridge
  pins : π
  eeprom : Nat → UInt8
  uart : Bool
  globalSeq : UInt16
  sent : List Sent

open CFloat

variable {F π : Type} [CFloat F]

/-! ### Initial values -/

def initSystemParams : SystemParamPacket where
  header := ⟨SYSTEM_PARAM_PACKET_ID, sizeofSystemParamPacket, 0⟩
  protocolVersion := ORAZIO_PROTOCOL_VERSION
  firmwareVersion := ORAZIO_FIRMWARE_VERSION
  timerPeriodMs := 10
  commSpeed := 115200
  commCycles := 2
  periodicPacketMask := PSystemStatusFlag ||| PJointStatusFlag ||| PDriveStatusFlag
  watchdogCycles := 0
  numMotors := 2
  hBridgeType := 0

def initJointParams : JointParamPacket where
  header := ⟨JOINT_PARAM_PACKET_ID, sizeofJointParamPacket, 0⟩
  joints := fun _ =>
    { kp := 255, ki := 32, kd := 0, maxI := 255, minPwm := 0, maxPwm := 255, maxSpeed := 100
      slope := 10 }

def initDriveParams : DifferentialDriveParamPacket F where
  header := ⟨DIFFERENTIAL_DRIVE_PARAM_PACKET_ID, sizeofDriveParamPacket, 0⟩
  kr := const (1 / 1000)
  kl := const (1 / 1000)
  baseline := const (4 / 10)
  rightJointIndex := 0
  leftJointIndex := 1
  maxTranslationalVelocity := const 2
  maxTranslationalAcceleration := const 2
  maxTranslationalBrake := const 4
  maxRotationalVelocity := const 2
  maxRotationalAcceleration := const 20

def initSystemStatus : SystemStatusPacket where
  header := ⟨SYSTEM_STATUS_PACKET_ID, sizeofSystemStatusPacket, 0⟩
  rxBufferSize := 0
  rxPackets := 0
  rxPacketErrors := 0
  txBufferSize := 0
  txPackets := 0
  txPacketErrors := 0
  batteryLevel := 0
  watchdogCount := 0
  rxSeq := 0
  rxPacketQueue := 0
  idleCycles := 0

def initJointStatus : JointStatusPacket where
  header := ⟨JOINT_STATUS_PACKET_ID, sizeofJointStatusPacket, 0⟩
  joints := fun _ =>
    { mode := 0, encoderPosition := 0, encoderSpeed := 0, desiredSpeed := 0, pwm := 0
      sensedCurrent := 0 }

def initDriveStatus : DifferentialDriveStatusPacket F :=
  DifferentialDriveController.resetStatus
    { header := ⟨DIFFERENTIAL_DRIVE_STATUS_PACKET_ID, sizeofDriveStatusPacket, 0⟩
      odomX := const 0, odomY := const 0, odomTheta := const 0
      translationalVelocityMeasured := const 0, rotationalVelocityMeasured := const 0
      translationalVelocityDesired := const 0, rotationalVelocityDesired := const 0
      translationalVelocityAdjusted := const 0, rotationalVelocityAdjusted := const 0 }
    (const 0) (const 0) (const 0)

def initJointControl : JointControlPacket where
  header := ⟨JOINT_CONTROL_PACKET_ID, sizeofJointControlPacket, 0⟩
  joints := fun _ => ⟨JointDisabled, 0⟩

def initDriveControl : DifferentialDriveControlPacket F where
  header := ⟨DIFFERENTIAL_DRIVE_CONTROL_PACKET_ID, sizeofDriveControlPacket, 0⟩
  translationalVelocity := const 0
  rotationalVelocity := const 0

def initResponse : ResponsePacket where
  header := ⟨RESPONSE_PACKET_ID, sizeofResponsePacket, 0⟩
  pType := 0
  pSeq := 0
  pResult := 0

def initEndEpoch : PacketHeader :=
  ⟨END_EPOCH_PACKET_ID, sizeofEndEpochPacket, 0⟩

/-- The variables when `main` starts. -/
def Globals.static (eeprom : Nat → UInt8) (pins : π) : Globals F π where
  systemParams := initSystemParams
  jointParams := initJointParams
  driveParams := initDriveParams
  systemStatus := initSystemStatus
  jointStatus := initJointStatus
  driveStatus := initDriveStatus
  jointControl := initJointControl
  driveControl := initDriveControl
  response := initResponse
  endEpoch := initEndEpoch
  jointControllers := fun _ => .zero
  driveController := .zero
  lastDriveControlSeq := 65535
  driveEnable := 0
  bridges := fun _ => ⟨none, 0, 0⟩
  pins := pins
  eeprom := eeprom
  uart := false
  globalSeq := 0
  sent := []

/-! ### Packets as memory -/

namespace PacketVar

def sizeof : PacketVar → UInt8
  | systemParams => sizeofSystemParamPacket
  | jointParams => sizeofJointParamPacket
  | driveParams => sizeofDriveParamPacket
  | systemStatus => sizeofSystemStatusPacket
  | jointStatus => sizeofJointStatusPacket
  | driveStatus => sizeofDriveStatusPacket
  | jointControl => sizeofJointControlPacket
  | driveControl => sizeofDriveControlPacket
  | response => sizeofResponsePacket
  | endEpoch => sizeofEndEpochPacket

def header (p : PacketVar) (g : Globals F π) : PacketHeader :=
  match p with
  | systemParams => g.systemParams.header
  | jointParams => g.jointParams.header
  | driveParams => g.driveParams.header
  | systemStatus => g.systemStatus.header
  | jointStatus => g.jointStatus.header
  | driveStatus => g.driveStatus.header
  | jointControl => g.jointControl.header
  | driveControl => g.driveControl.header
  | response => g.response.header
  | endEpoch => g.endEpoch

def setHeader (p : PacketVar) (h : PacketHeader) (g : Globals F π) : Globals F π :=
  match p with
  | systemParams => { g with systemParams := { g.systemParams with header := h } }
  | jointParams => { g with jointParams := { g.jointParams with header := h } }
  | driveParams => { g with driveParams := { g.driveParams with header := h } }
  | systemStatus => { g with systemStatus := { g.systemStatus with header := h } }
  | jointStatus => { g with jointStatus := { g.jointStatus with header := h } }
  | driveStatus => { g with driveStatus := { g.driveStatus with header := h } }
  | jointControl => { g with jointControl := { g.jointControl with header := h } }
  | driveControl => { g with driveControl := { g.driveControl with header := h } }
  | response => { g with response := { g.response with header := h } }
  | endEpoch => { g with endEpoch := h }

/-- `p->seq=seq`. -/
def setSeq (p : PacketVar) (seq : UInt16) (g : Globals F π) : Globals F π :=
  p.setHeader { p.header g with seq := seq } g

def bytes (p : PacketVar) (g : Globals F π) : List UInt8 :=
  match p with
  | systemParams => g.systemParams.bytes
  | jointParams => g.jointParams.bytes
  | driveParams => g.driveParams.bytes
  | systemStatus => g.systemStatus.bytes
  | jointStatus => g.jointStatus.bytes
  | driveStatus => g.driveStatus.bytes
  | jointControl => g.jointControl.bytes
  | driveControl => g.driveControl.bytes
  | response => g.response.bytes
  | endEpoch => g.endEpoch.bytes

/-- The memory from the address of a packet on. -/
def memory (p : PacketVar) (g : Globals F π) : PacketBytes :=
  fun i => (p.bytes g).getD i 0

def ofMemory (p : PacketVar) (m : PacketBytes) (g : Globals F π) : Globals F π :=
  match p with
  | systemParams => { g with systemParams := .ofBytes m }
  | jointParams => { g with jointParams := .ofBytes m }
  | driveParams => { g with driveParams := .ofBytes m }
  | systemStatus => { g with systemStatus := .ofBytes m }
  | jointStatus => { g with jointStatus := .ofBytes m }
  | driveStatus => { g with driveStatus := .ofBytes m }
  | jointControl => { g with jointControl := .ofBytes m }
  | driveControl => { g with driveControl := .ofBytes m }
  | response => { g with response := .ofBytes m }
  | endEpoch => { g with endEpoch := .ofBytes m }

/-- `memcpy` of `n` bytes to a packet. -/
def copy (p : PacketVar) (src : PacketBytes) (n : UInt8) (g : Globals F π) :
    Except Fault (Globals F π) :=
  if p.sizeof < n then .error .outOfBounds
  else .ok (p.ofMemory (fun i => if i < n.toNat then src i else p.memory g i) g)

end PacketVar

end Orazio
