import Orazio.Lib.CString
import Orazio.Model.OrazioPackets

/-!
# Printing packets

Model of `orazio_print_packet.c` on a machine with 32-bit integers, where `%d` shows a `uint32_t` as signed.
The printed packet is read from memory.
-/

namespace Orazio

open Stdio CString

instance : FloatBytes Binary32 where
  bytes x := LittleEndian.u32 x.bits
  ofBytes m := ⟨LittleEndian.getU32 m 0⟩
  length_bytes _ := rfl

/-- `%d` with a `uint8_t`, a `uint16_t`, an `int16_t` and a `uint32_t`. -/
def showU8 (x : UInt8) : Text := printInt x.toNat
def showU16 (x : UInt16) : Text := printInt x.toNat
def showI16 (x : Int16) : Text := printInt x.toInt
def showU32 (x : UInt32) : Text := printInt x.toInt32.toInt

/-- `%.3f`. -/
def showFloat (x : Binary32) : Text := printFixed 3 x

def SystemStatusPacket.text (p : SystemStatusPacket) : Text :=
  format [("\x7bseq: ", showU16 p.header.seq), (", rxb:", showU16 p.rxBufferSize), (", rxp:", showU16 p.rxPackets),
    (", rxe:", showU16 p.rxPacketErrors), (", rxseq:", showU16 p.rxSeq), (", txb:", showU16 p.txBufferSize),
    (", txp:", showU16 p.txPackets), (", txe:", showU16 p.txPacketErrors), (", batt: ", showU16 p.batteryLevel),
    (", wd: ", showI16 p.watchdogCount), (" idle:", showU32 p.idleCycles)] "\x7d"

def SystemStatusPacket.print (m : Memory) (f : Nat) (p : SystemStatusPacket) : Nat × Memory :=
  sprintf m f p.text

def SystemParamPacket.text (p : SystemParamPacket) : Text :=
  format [("\x7bseq:", showU16 p.header.seq), (", protocol:", Nat.toDigits 16 p.protocolVersion.toNat),
    (", firmware:", Nat.toDigits 16 p.firmwareVersion.toNat), (", period:", showI16 p.timerPeriodMs),
    (", baud:", showU32 p.commSpeed), (", com_c:", showU16 p.commCycles),
    (", com_f: ", zeroPad 2 (Nat.toDigits 16 p.periodicPacketMask.toNat)), (" wd:", showU16 p.watchdogCycles),
    (", mot:", showU8 p.numMotors), (", bridge:", showU8 p.hBridgeType)] "\x7d"

def SystemParamPacket.print (m : Memory) (f : Nat) (p : SystemParamPacket) : Nat × Memory :=
  sprintf m f p.text

def JointInfo.text (j : JointInfo) : Text :=
  format [("\x7bm:", showU8 j.mode), (", pos: ", showU16 j.encoderPosition), (", ms: ", showI16 j.encoderSpeed),
    (", ds: ", showI16 j.desiredSpeed), (", pwm: ", showI16 j.pwm), (", curr:", showI16 j.sensedCurrent)] "\x7d"

def JointInfo.print (m : Memory) (f : Nat) (j : JointInfo) : Nat × Memory :=
  sprintf m f j.text

def JointParams.text (j : JointParams) : Text :=
  format [("\x7bkp:", showI16 j.kp), (", ki:", showI16 j.ki), (", kd:", showI16 j.kd), (", maxI:", showI16 j.maxI),
    (", max_pwm:", showI16 j.maxPwm), (", min_pwm:", showI16 j.minPwm), (", max_speed:", showI16 j.maxSpeed),
    (", slope:", showI16 j.slope)] "\x7d"

def JointParams.print (m : Memory) (f : Nat) (j : JointParams) : Nat × Memory :=
  sprintf m f j.text

/-- The text in front of the joints. -/
def jointsHead (h : PacketHeader) : Text :=
  format [("\x7bseq:", showU16 h.seq)] ", j0:"

/-- A packet with two joints. The last `sprintf` is given `f`, not `f_end`. -/
def printJoints (m : Memory) (f : Nat) (header : PacketHeader)
    (printJoint : Fin NUM_MOTORS → Memory → Nat → Nat × Memory) : Nat × Memory :=
  let fEnd := f
  let r := sprintf m fEnd (jointsHead header)
  let fEnd := fEnd + r.1
  let r := printJoint 0 r.2 fEnd
  let fEnd := fEnd + r.1
  let r := sprintf r.2 fEnd ", j1:".toList
  let fEnd := fEnd + r.1
  let r := printJoint 1 r.2 fEnd
  let fEnd := fEnd + r.1
  let r := sprintf r.2 f "\x7d".toList
  let fEnd := fEnd + r.1
  (fEnd - f, r.2)

def JointStatusPacket.print (m : Memory) (f : Nat) (p : JointStatusPacket) : Nat × Memory :=
  printJoints m f p.header fun i m f => (p.joints i).print m f

def JointParamPacket.print (m : Memory) (f : Nat) (p : JointParamPacket) : Nat × Memory :=
  printJoints m f p.header fun i m f => (p.joints i).print m f

def DifferentialDriveStatusPacket.text (p : DifferentialDriveStatusPacket Binary32) : Text :=
  format [("\x7bseq:", showU16 p.header.seq), (", x:", showFloat p.odomX), (", y:", showFloat p.odomY),
    (", t:", showFloat p.odomTheta), (", tvm:", showFloat p.translationalVelocityMeasured),
    (", tvd:", showFloat p.translationalVelocityDesired), (", tva:", showFloat p.translationalVelocityAdjusted),
    (", rvm:", showFloat p.rotationalVelocityMeasured), (", rvd:", showFloat p.rotationalVelocityDesired),
    (", rva:", showFloat p.rotationalVelocityAdjusted)] "\x7d"

def DifferentialDriveStatusPacket.print (m : Memory) (f : Nat) (p : DifferentialDriveStatusPacket Binary32) :
    Nat × Memory :=
  sprintf m f p.text

def DifferentialDriveParamPacket.text (p : DifferentialDriveParamPacket Binary32) : Text :=
  format [("\x7bseq:", showU16 p.header.seq), (", kl:", showFloat p.kl), (", kr:", showFloat p.kr),
    (", b:", showFloat p.baseline), (", lji:", showU8 p.leftJointIndex), (", rji:", showU8 p.rightJointIndex),
    (", tvmax:", showFloat p.maxTranslationalVelocity), (", tamax:", showFloat p.maxTranslationalAcceleration),
    (", tdmax:", showFloat p.maxTranslationalBrake), (", rvmax:", showFloat p.maxRotationalVelocity),
    (", ramax:", showFloat p.maxRotationalAcceleration)] "\x7d"

def DifferentialDriveParamPacket.print (m : Memory) (f : Nat) (p : DifferentialDriveParamPacket Binary32) :
    Nat × Memory :=
  sprintf m f p.text

/-! ### The table of print functions -/

/-- A print function with the memory of the packet it is given. -/
abbrev PrintPacketFn := Memory → Nat → (Nat → UInt8) → Nat × Memory

/-- `_packet_print_ops` after `Orazio_printPacketInit`. -/
def packetPrintOps (type : UInt8) : Option PrintPacketFn :=
  if type = SYSTEM_STATUS_PACKET_ID then some fun m f h => SystemStatusPacket.print m f (.ofBytes h)
  else if type = SYSTEM_PARAM_PACKET_ID then some fun m f h => SystemParamPacket.print m f (.ofBytes h)
  else if type = JOINT_STATUS_PACKET_ID then some fun m f h => JointStatusPacket.print m f (.ofBytes h)
  else if type = JOINT_PARAM_PACKET_ID then some fun m f h => JointParamPacket.print m f (.ofBytes h)
  else if type = DIFFERENTIAL_DRIVE_STATUS_PACKET_ID then
    some fun m f h => DifferentialDriveStatusPacket.print m f (.ofBytes h)
  else if type = DIFFERENTIAL_DRIVE_PARAM_PACKET_ID then
    some fun m f h => DifferentialDriveParamPacket.print m f (.ofBytes h)
  else none

/-- `Orazio_printPacket`: what it returns and the memory it leaves. -/
def printPacket (m : Memory) (f : Nat) (h : Nat → UInt8) : Nat × Memory :=
  let type := h 0
  if type.toNat ≥ PACKET_TYPE_MAX then (0, m)
  else
    match packetPrintOps type with
    | none => (0, m)
    | some printFn => printFn m f h

end Orazio
