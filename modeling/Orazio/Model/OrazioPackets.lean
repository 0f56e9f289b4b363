import Mathlib.Algebra.GroupWithZero.Nat
import Orazio.Lib.Bytes
import Orazio.Lib.LittleEndian
import Orazio.Model.PacketHandler

/-!
# The packets of the Orazio protocol

Model of `orazio_packets.h`. The structs are packed: `bytes` is the memory of a struct, `ofBytes`
reads a struct from memory. A `float` is a value of an arbitrary type `F` that knows its four bytes.
-/

namespace Orazio

open LittleEndian

abbrev NUM_MOTORS : Nat := 2

instance : NeZero NUM_MOTORS :=
  ⟨by decide⟩
abbrev ORAZIO_PROTOCOL_VERSION : UInt32 := 0x20171205
abbrev ORAZIO_FIRMWARE_VERSION : UInt32 := 0x20171125

class FloatBytes (F : Type) where
  bytes : F → List UInt8
  ofBytes : (Nat → UInt8) → F
  length_bytes : ∀ x, (bytes x).length = 4

/-- A float is determined by its bytes, and any four bytes are those of a float. -/
class LawfulFloatBytes (F : Type) [FloatBytes F] : Prop where
  bytes_ofBytes : ∀ m, FloatBytes.bytes (FloatBytes.ofBytes m : F) = Bytes.read m 0 4
  ofBytes_bytes : ∀ (x : F) m, Bytes.read m 0 4 = FloatBytes.bytes x → FloatBytes.ofBytes m = x

abbrev JointDisabled : UInt8 := 0
abbrev JointPWM : UInt8 := 1
abbrev JointPID : UInt8 := 2

abbrev HBridgeTypePWMDir : UInt8 := 0
abbrev HBridgeTypeDualPWM : UInt8 := 1
abbrev HBridgeTypeHalfCyclePWM : UInt8 := 2

abbrev ParamSystem : UInt8 := 0
abbrev ParamJoints : UInt8 := 1
abbrev ParamDrive : UInt8 := 2

abbrev ParamRequest : UInt8 := 0
abbrev ParamLoad : UInt8 := 1
abbrev ParamSave : UInt8 := 2

abbrev PSystemStatusFlag : UInt8 := 0x1
abbrev PJointStatusFlag : UInt8 := 0x2
abbrev PDriveStatusFlag : UInt8 := 0x4

abbrev RESPONSE_PACKET_ID : UInt8 := 0
abbrev PARAM_CONTROL_PACKET_ID : UInt8 := 1
abbrev SYSTEM_STATUS_PACKET_ID : UInt8 := 2
abbrev SYSTEM_PARAM_PACKET_ID : UInt8 := 3
abbrev JOINT_STATUS_PACKET_ID : UInt8 := 4
abbrev JOINT_CONTROL_PACKET_ID : UInt8 := 5
abbrev JOINT_PARAM_PACKET_ID : UInt8 := 6
abbrev DIFFERENTIAL_DRIVE_STATUS_PACKET_ID : UInt8 := 7
abbrev DIFFERENTIAL_DRIVE_CONTROL_PACKET_ID : UInt8 := 8
abbrev DIFFERENTIAL_DRIVE_PARAM_PACKET_ID : UInt8 := 9
abbrev END_EPOCH_PACKET_ID : UInt8 := 10

/-- The sizes of the packet structs in bytes. -/
abbrev sizeofResponsePacket : UInt8 := 8
abbrev sizeofParamControlPacket : UInt8 := 6
abbrev sizeofSystemStatusPacket : UInt8 := 27
abbrev sizeofSystemParamPacket : UInt8 := 25
abbrev sizeofJointStatusPacket : UInt8 := 26
abbrev sizeofJointControlPacket : UInt8 := 10
abbrev sizeofJointParamPacket : UInt8 := 36
abbrev sizeofDriveStatusPacket : UInt8 := 40
abbrev sizeofDriveControlPacket : UInt8 := 12
abbrev sizeofDriveParamPacket : UInt8 := 38
abbrev sizeofEndEpochPacket : UInt8 := 4

structure PacketHeader where
  type : UInt8
  size : UInt8
  seq : UInt16

namespace PacketHeader

def bytes (h : PacketHeader) : List UInt8 :=
  [h.type, h.size] ++ u16 h.seq

def ofBytes (m : Nat → UInt8) : PacketHeader where
  type := m 0
  size := m 1
  seq := getU16 m 2

end PacketHeader

structure JointInfo where
  mode : UInt8
  encoderPosition : UInt16
  encoderSpeed : Int16
  desiredSpeed : Int16
  pwm : Int16
  sensedCurrent : Int16

namespace JointInfo

def bytes (j : JointInfo) : List UInt8 :=
  [j.mode] ++ u16 j.encoderPosition ++ i16 j.encoderSpeed ++ i16 j.desiredSpeed ++ i16 j.pwm ++
    i16 j.sensedCurrent

def ofBytes (m : Nat → UInt8) (a : Nat) : JointInfo where
  mode := m a
  encoderPosition := getU16 m (a + 1)
  encoderSpeed := getI16 m (a + 3)
  desiredSpeed := getI16 m (a + 5)
  pwm := getI16 m (a + 7)
  sensedCurrent := getI16 m (a + 9)

end JointInfo

structure JointParams where
  kp : Int16
  ki : Int16
  kd : Int16
  maxI : Int16
  minPwm : Int16
  maxPwm : Int16
  maxSpeed : Int16
  slope : Int16

namespace JointParams

def bytes (j : JointParams) : List UInt8 :=
  i16 j.kp ++ i16 j.ki ++ i16 j.kd ++ i16 j.maxI ++ i16 j.minPwm ++ i16 j.maxPwm ++ i16 j.maxSpeed ++
    i16 j.slope

def ofBytes (m : Nat → UInt8) (a : Nat) : JointParams where
  kp := getI16 m a
  ki := getI16 m (a + 2)
  kd := getI16 m (a + 4)
  maxI := getI16 m (a + 6)
  minPwm := getI16 m (a + 8)
  maxPwm := getI16 m (a + 10)
  maxSpeed := getI16 m (a + 12)
  slope := getI16 m (a + 14)

end JointParams

structure JointControl where
  mode : UInt8
  speed : Int16
  deriving DecidableEq

namespace JointControl

def bytes (j : JointControl) : List UInt8 :=
  [j.mode] ++ i16 j.speed

def ofBytes (m : Nat → UInt8) (a : Nat) : JointControl where
  mode := m a
  speed := getI16 m (a + 1)

end JointControl

structure ResponsePacket where
  header : PacketHeader
  pType : UInt8
  pSeq : UInt16
  pResult : UInt8

namespace ResponsePacket

def bytes (p : ResponsePacket) : List UInt8 :=
  p.header.bytes ++ [p.pType] ++ u16 p.pSeq ++ [p.pResult]

def ofBytes (m : Nat → UInt8) : ResponsePacket where
  header := .ofBytes m
  pType := m 4
  pSeq := getU16 m 5
  pResult := m 7

end ResponsePacket

structure ParamControlPacket where
  header : PacketHeader
  action : UInt8
  paramType : UInt8

def ParamControlPacket.ofBytes (m : Nat → UInt8) : ParamControlPacket where
  header := .ofBytes m
  action := m 4
  paramType := m 5

structure SystemStatusPacket where
  header : PacketHeader
  rxBufferSize : UInt16
  rxPackets : UInt16
  rxPacketErrors : UInt16
  txBufferSize : UInt16
  txPackets : UInt16
  txPacketErrors : UInt16
  batteryLevel : UInt16
  watchdogCount : Int16
  rxSeq : UInt16
  rxPacketQueue : UInt8
  idleCycles : UInt32

namespace SystemStatusPacket

def bytes (p : SystemStatusPacket) : List UInt8 :=
  p.header.bytes ++ u16 p.rxBufferSize ++ u16 p.rxPackets ++ u16 p.rxPacketErrors ++
    u16 p.txBufferSize ++ u16 p.txPackets ++ u16 p.txPacketErrors ++ u16 p.batteryLevel ++
    i16 p.watchdogCount ++ u16 p.rxSeq ++ [p.rxPacketQueue] ++ u32 p.idleCycles

def ofBytes (m : Nat → UInt8) : SystemStatusPacket where
  header := .ofBytes m
  rxBufferSize := getU16 m 4
  rxPackets := getU16 m 6
  rxPacketErrors := getU16 m 8
  txBufferSize := getU16 m 10
  txPackets := getU16 m 12
  txPacketErrors := getU16 m 14
  batteryLevel := getU16 m 16
  watchdogCount := getI16 m 18
  rxSeq := getU16 m 20
  rxPacketQueue := m 22
  idleCycles := getU32 m 23

end SystemStatusPacket

structure SystemParamPacket where
  header : PacketHeader
  protocolVersion : UInt32
  firmwareVersion : UInt32
  timerPeriodMs : Int16
  commSpeed : UInt32
  commCycles : UInt16
  periodicPacketMask : UInt8
  watchdogCycles : UInt16
  numMotors : UInt8
  hBridgeType : UInt8

namespace SystemParamPacket

def bytes (p : SystemParamPacket) : List UInt8 :=
  p.header.bytes ++ u32 p.protocolVersion ++ u32 p.firmwareVersion ++ i16 p.timerPeriodMs ++
    u32 p.commSpeed ++ u16 p.commCycles ++ [p.periodicPacketMask] ++ u16 p.watchdogCycles ++
    [p.numMotors, p.hBridgeType]

def ofBytes (m : Nat → UInt8) : SystemParamPacket where
  header := .ofBytes m
  protocolVersion := getU32 m 4
  firmwareVersion := getU32 m 8
  timerPeriodMs := getI16 m 12
  commSpeed := getU32 m 14
  commCycles := getU16 m 18
  periodicPacketMask := m 20
  watchdogCycles := getU16 m 21
  numMotors := m 23
  hBridgeType := m 24

end SystemParamPacket

structure JointStatusPacket where
  header : PacketHeader
  joints : Fin NUM_MOTORS → JointInfo

namespace JointStatusPacket

def bytes (p : JointStatusPacket) : List UInt8 :=
  p.header.bytes ++ (p.joints 0).bytes ++ (p.joints 1).bytes

def ofBytes (m : Nat → UInt8) : JointStatusPacket where
  header := .ofBytes m
  joints := fun i => .ofBytes m (4 + 11 * i)

end JointStatusPacket

structure JointControlPacket where
  header : PacketHeader
  joints : Fin NUM_MOTORS → JointControl

namespace JointControlPacket

def bytes (p : JointControlPacket) : List UInt8 :=
  p.header.bytes ++ (p.joints 0).bytes ++ (p.joints 1).bytes

def ofBytes (m : Nat → UInt8) : JointControlPacket where
  header := .ofBytes m
  joints := fun i => .ofBytes m (4 + 3 * i)

end JointControlPacket

structure JointParamPacket where
  header : PacketHeader
  joints : Fin NUM_MOTORS → JointParams

namespace JointParamPacket

def bytes (p : JointParamPacket) : List UInt8 :=
  p.header.bytes ++ (p.joints 0).bytes ++ (p.joints 1).bytes

def ofBytes (m : Nat → UInt8) : JointParamPacket where
  header := .ofBytes m
  joints := fun i => .ofBytes m (4 + 16 * i)

end JointParamPacket

structure DifferentialDriveStatusPacket (F : Type) where
  header : PacketHeader
  odomX : F
  odomY : F
  odomTheta : F
  translationalVelocityMeasured : F
  rotationalVelocityMeasured : F
  translationalVelocityDesired : F
  rotationalVelocityDesired : F
  translationalVelocityAdjusted : F
  rotationalVelocityAdjusted : F

structure DifferentialDriveControlPacket (F : Type) where
  header : PacketHeader
  translationalVelocity : F
  rotationalVelocity : F

structure DifferentialDriveParamPacket (F : Type) where
  header : PacketHeader
  kr : F
  kl : F
  baseline : F
  rightJointIndex : UInt8
  leftJointIndex : UInt8
  maxTranslationalVelocity : F
  maxTranslationalAcceleration : F
  maxTranslationalBrake : F
  maxRotationalVelocity : F
  maxRotationalAcceleration : F

variable {F : Type} [FloatBytes F]

/-- The float at address `a`. -/
def getFloat (m : Nat → UInt8) (a : Nat) : F :=
  FloatBytes.ofBytes fun i => m (a + i)

namespace DifferentialDriveStatusPacket

def bytes (p : DifferentialDriveStatusPacket F) : List UInt8 :=
  p.header.bytes ++ FloatBytes.bytes p.odomX ++ FloatBytes.bytes p.odomY ++
    FloatBytes.bytes p.odomTheta ++ FloatBytes.bytes p.translationalVelocityMeasured ++
    FloatBytes.bytes p.rotationalVelocityMeasured ++
    FloatBytes.bytes p.translationalVelocityDesired ++
    FloatBytes.bytes p.rotationalVelocityDesired ++
    FloatBytes.bytes p.translationalVelocityAdjusted ++
    FloatBytes.bytes p.rotationalVelocityAdjusted

def ofBytes (m : Nat → UInt8) : DifferentialDriveStatusPacket F where
  header := .ofBytes m
  odomX := getFloat m 4
  odomY := getFloat m 8
  odomTheta := getFloat m 12
  translationalVelocityMeasured := getFloat m 16
  rotationalVelocityMeasured := getFloat m 20
  translationalVelocityDesired := getFloat m 24
  rotationalVelocityDesired := getFloat m 28
  translationalVelocityAdjusted := getFloat m 32
  rotationalVelocityAdjusted := getFloat m 36

end DifferentialDriveStatusPacket

namespace DifferentialDriveControlPacket

def bytes (p : DifferentialDriveControlPacket F) : List UInt8 :=
  p.header.bytes ++ FloatBytes.bytes p.translationalVelocity ++
    FloatBytes.bytes p.rotationalVelocity

def ofBytes (m : Nat → UInt8) : DifferentialDriveControlPacket F where
  header := .ofBytes m
  translationalVelocity := getFloat m 4
  rotationalVelocity := getFloat m 8

end DifferentialDriveControlPacket

namespace DifferentialDriveParamPacket

def bytes (p : DifferentialDriveParamPacket F) : List UInt8 :=
  p.header.bytes ++ FloatBytes.bytes p.kr ++ FloatBytes.bytes p.kl ++ FloatBytes.bytes p.baseline ++
    [p.rightJointIndex, p.leftJointIndex] ++ FloatBytes.bytes p.maxTranslationalVelocity ++
    FloatBytes.bytes p.maxTranslationalAcceleration ++ FloatBytes.bytes p.maxTranslationalBrake ++
    FloatBytes.bytes p.maxRotationalVelocity ++ FloatBytes.bytes p.maxRotationalAcceleration

def ofBytes (m : Nat → UInt8) : DifferentialDriveParamPacket F where
  header := .ofBytes m
  kr := getFloat m 4
  kl := getFloat m 8
  baseline := getFloat m 12
  rightJointIndex := m 16
  leftJointIndex := m 17
  maxTranslationalVelocity := getFloat m 18
  maxTranslationalAcceleration := getFloat m 22
  maxTranslationalBrake := getFloat m 26
  maxRotationalVelocity := getFloat m 30
  maxRotationalAcceleration := getFloat m 34

end DifferentialDriveParamPacket

end Orazio
