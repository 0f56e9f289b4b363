import Mathlib.Data.List.Infix
import Mathlib.Logic.Function.Basic
import Orazio.Lib.Stdio
import Orazio.Model.OrazioPackets

/-!
# The variables of the shell and its configuration file

Model of `ventry.c`, of `variable_entries` and `findVar` in `orazio_shell_globals.c` and of
`saveConfigFn` and `loadConfigFn` in `orazio_shell_commands.c`. A pointer reads and stores the C type
that its `VariableType` stands for. What is printed on the terminal is left out, and so is the end of
the response buffer, which belongs to the caller.
-/

namespace Orazio

open Stdio

inductive VariableType
  | typePacket | typeUInt8 | typeInt8 | typeUInt16 | typeInt16 | typeUInt32 | typeInt32 | typeInt32Hex
  | typeFloat
  deriving DecidableEq

/-- The C type behind a pointer; packets are only printed. -/
abbrev VariableType.Value : VariableType → Type
  | typePacket => Unit
  | typeUInt8 => UInt8
  | typeInt8 => Int8
  | typeUInt16 => UInt16
  | typeInt16 => Int16
  | typeUInt32 => UInt32
  | typeInt32 => Int32
  | typeInt32Hex => UInt32
  | typeFloat => Binary32

abbrev VarRead : Nat := 0x1
abbrev VarWrite : Nat := 0x2

/-- The variables that the table points to. -/
structure ShellGlobals where
  systemStatus : SystemStatusPacket
  systemParams : SystemParamPacket
  jointStatus : JointStatusPacket
  jointParams : JointParamPacket
  driveStatus : DifferentialDriveStatusPacket Binary32
  driveParams : DifferentialDriveParamPacket Binary32
  paramControl : ParamControlPacket
  jointControl : JointControlPacket
  driveControl : DifferentialDriveControlPacket Binary32

structure Pointer (α : Type) where
  get : ShellGlobals → α
  set : α → ShellGlobals → ShellGlobals

structure VEntry where
  name : String
  type : VariableType
  ptr : Pointer type.Value
  accessFlags : Nat

namespace VEntry

/-- `VEntry_read`: what `sscanf` returns, and the variables behind it. -/
def read (v : VEntry) (s : Text) (g : ShellGlobals) : Int × ShellGlobals :=
  if v.accessFlags &&& VarWrite = 0 then (0, g)
  else
    match v with
    | ⟨_, .typePacket, _, _⟩ => (0, g)
    | ⟨_, .typeUInt8, ptr, _⟩ =>
      (scanned s (scanInt s), (scanInt s).elim g fun z => ptr.set (.ofInt z) g)
    | ⟨_, .typeInt8, ptr, _⟩ =>
      (scanned s (scanInt s), (scanInt s).elim g fun z => ptr.set (.ofInt z) g)
    | ⟨_, .typeUInt16, ptr, _⟩ =>
      (scanned s (scanInt s), (scanInt s).elim g fun z => ptr.set (.ofInt z) g)
    | ⟨_, .typeInt16, ptr, _⟩ =>
      (scanned s (scanInt s), (scanInt s).elim g fun z => ptr.set (.ofInt z) g)
    | ⟨_, .typeUInt32, ptr, _⟩ =>
      (scanned s (scanInt s), (scanInt s).elim g fun z => ptr.set (.ofInt z) g)
    | ⟨_, .typeInt32, ptr, _⟩ =>
      (scanned s (scanInt s), (scanInt s).elim g fun z => ptr.set (.ofInt z) g)
    | ⟨_, .typeInt32Hex, ptr, _⟩ =>
      (scanned s (scanHex s), (scanHex s).elim g fun z => ptr.set (.ofInt z) g)
    | ⟨_, .typeFloat, ptr, _⟩ =>
      (scanned s (scanFloat s), (scanFloat s).elim g fun x => ptr.set x g)

/-- `VEntry_write`: the text written. `Orazio_printPacket` prints the packet of that name. -/
def write (printPacket : String → ShellGlobals → Text) (v : VEntry) (g : ShellGlobals) : Text :=
  if v.accessFlags &&& VarRead = 0 then []
  else
    match v with
    | ⟨name, .typePacket, _, _⟩ => printPacket name g
    | ⟨_, .typeUInt8, ptr, _⟩ => printNat (ptr.get g).toNat
    | ⟨_, .typeInt8, ptr, _⟩ => printInt (ptr.get g).toInt
    | ⟨_, .typeUInt16, ptr, _⟩ => printNat (ptr.get g).toNat
    | ⟨_, .typeInt16, ptr, _⟩ => printInt (ptr.get g).toInt
    | ⟨_, .typeUInt32, ptr, _⟩ => printNat (ptr.get g).toNat
    | ⟨_, .typeInt32, ptr, _⟩ => printInt (ptr.get g).toInt
    | ⟨_, .typeInt32Hex, ptr, _⟩ => printHex (ptr.get g).toNat
    | ⟨_, .typeFloat, ptr, _⟩ => printFixed 5 (ptr.get g)

end VEntry

/-! ### The table -/

/-- A full packet. -/
def packetEntry (name : String) : VEntry :=
  ⟨name, .typePacket, ⟨fun _ => (), fun _ g => g⟩, VarRead⟩

def systemStatusEntries : List VEntry :=
  [packetEntry "system_status",
    ⟨"system_status.header.seq", .typeUInt16, ⟨(·.systemStatus.header.seq),
      fun x g => { g with systemStatus.header.seq := x }⟩, VarRead⟩,
    ⟨"system_status.rx_buffer_size", .typeUInt16, ⟨(·.systemStatus.rxBufferSize),
      fun x g => { g with systemStatus.rxBufferSize := x }⟩, VarRead⟩,
    ⟨"system_status.rx_packets", .typeUInt16, ⟨(·.systemStatus.rxPackets),
      fun x g => { g with systemStatus.rxPackets := x }⟩, VarRead⟩,
    ⟨"system_status.rx_packet_errors", .typeUInt16, ⟨(·.systemStatus.rxPacketErrors),
      fun x g => { g with systemStatus.rxPacketErrors := x }⟩, VarRead⟩,
    ⟨"system_status.tx_buffer_size", .typeUInt16, ⟨(·.systemStatus.txBufferSize),
      fun x g => { g with systemStatus.txBufferSize := x }⟩, VarRead⟩,
    ⟨"system_status.tx_packets", .typeUInt16, ⟨(·.systemStatus.txPackets),
      fun x g => { g with systemStatus.txPackets := x }⟩, VarRead⟩,
    ⟨"system_status.tx_packet_errors", .typeUInt16, ⟨(·.systemStatus.txPacketErrors),
      fun x g => { g with systemStatus.txPacketErrors := x }⟩, VarRead⟩,
    ⟨"system_status.battery_level", .typeUInt16, ⟨(·.systemStatus.batteryLevel),
      fun x g => { g with systemStatus.batteryLevel := x }⟩, VarRead⟩,
    ⟨"system_status.watchdog_count", .typeUInt16, ⟨(·.systemStatus.watchdogCount.toUInt16),
      fun x g => { g with systemStatus.watchdogCount := x.toInt16 }⟩, VarRead⟩,
    ⟨"system_status.idle_cycles", .typeUInt32, ⟨(·.systemStatus.idleCycles),
      fun x g => { g with systemStatus.idleCycles := x }⟩, VarRead⟩,
    ⟨"system_status.rx_seq", .typeUInt16, ⟨(·.systemStatus.rxSeq),
      fun x g => { g with systemStatus.rxSeq := x }⟩, VarRead⟩]

def systemParamEntries : List VEntry :=
  [packetEntry "system_params",
    ⟨"system_params.header.seq", .typeUInt16, ⟨(·.systemParams.header.seq),
      fun x g => { g with systemParams.header.seq := x }⟩, VarRead⟩,
    ⟨"system_params.protocol_version", .typeInt32Hex, ⟨(·.systemParams.protocolVersion),
      fun x g => { g with systemParams.protocolVersion := x }⟩, VarRead⟩,
    ⟨"system_params.firmware_version", .typeInt32Hex, ⟨(·.systemParams.firmwareVersion),
      fun x g => { g with systemParams.firmwareVersion := x }⟩, VarRead⟩,
    ⟨"system_params.timer_period_ms", .typeUInt16, ⟨(·.systemParams.timerPeriodMs.toUInt16),
      fun x g => { g with systemParams.timerPeriodMs := x.toInt16 }⟩, VarRead ||| VarWrite⟩,
    ⟨"system_params.comm_speed", .typeInt32, ⟨(·.systemParams.commSpeed.toInt32),
      fun x g => { g with systemParams.commSpeed := x.toUInt32 }⟩, VarRead⟩,
    ⟨"system_params.comm_cycles", .typeUInt16, ⟨(·.systemParams.commCycles),
      fun x g => { g with systemParams.commCycles := x }⟩, VarRead ||| VarWrite⟩,
    ⟨"system_params.periodic_packet_mask", .typeUInt8, ⟨(·.systemParams.periodicPacketMask),
      fun x g => { g with systemParams.periodicPacketMask := x }⟩, VarRead ||| VarWrite⟩,
    ⟨"system_params.watchdog_cycles", .typeUInt16, ⟨(·.systemParams.watchdogCycles),
      fun x g => { g with systemParams.watchdogCycles := x }⟩, VarRead ||| VarWrite⟩,
    ⟨"system_params.num_motors", .typeUInt8, ⟨(·.systemParams.numMotors),
      fun x g => { g with systemParams.numMotors := x }⟩, VarRead⟩,
    ⟨"system_params.h_bridge_type", .typeUInt8, ⟨(·.systemParams.hBridgeType),
      fun x g => { g with systemParams.hBridgeType := x }⟩, VarRead ||| VarWrite⟩]

/-- A field of `joint_status.joints[i]`. -/
def jointStatusPtr {α : Type} (i : Fin NUM_MOTORS) (get : JointInfo → α)
    (set : α → JointInfo → JointInfo) : Pointer α where
  get g := get (g.jointStatus.joints i)
  set x g := { g with
    jointStatus.joints := Function.update g.jointStatus.joints i (set x (g.jointStatus.joints i)) }

def jointStatusEntries : List VEntry :=
  [packetEntry "joint_status",
    ⟨"joint_status.header.seq", .typeUInt16, ⟨(·.jointStatus.header.seq),
      fun x g => { g with jointStatus.header.seq := x }⟩, VarRead⟩,
    ⟨"joint_status.joints[0].mode", .typeInt8,
      jointStatusPtr 0 (·.mode.toInt8) fun x j => { j with mode := x.toUInt8 }, VarRead⟩,
    ⟨"joint_status.joints[0].encoder_position", .typeUInt16,
      jointStatusPtr 0 (·.encoderPosition) fun x j => { j with encoderPosition := x }, VarRead⟩,
    ⟨"joint_status.joints[0].encoder_speed", .typeInt16,
      jointStatusPtr 0 (·.encoderSpeed) fun x j => { j with encoderSpeed := x }, VarRead⟩,
    ⟨"joint_status.joints[0].desired_speed", .typeInt16,
      jointStatusPtr 0 (·.desiredSpeed) fun x j => { j with desiredSpeed := x }, VarRead⟩,
    ⟨"joint_status.joints[0].pwm", .typeInt16,
      jointStatusPtr 0 (·.pwm) fun x j => { j with pwm := x }, VarRead⟩,
    ⟨"joint_status.joints[0].sensed_current", .typeInt16,
      jointStatusPtr 0 (·.sensedCurrent) fun x j => { j with sensedCurrent := x }, VarRead⟩,
    ⟨"joint_status.joints[1].mode", .typeInt8,
      jointStatusPtr 1 (·.mode.toInt8) fun x j => { j with mode := x.toUInt8 }, VarRead⟩,
    ⟨"joint_status.joints[1].encoder_position", .typeUInt16,
      jointStatusPtr 1 (·.encoderPosition) fun x j => { j with encoderPosition := x }, VarRead⟩,
    ⟨"joint_status.joints[1].encoder_speed", .typeInt16,
      jointStatusPtr 1 (·.encoderSpeed) fun x j => { j with encoderSpeed := x }, VarRead⟩,
    ⟨"joint_status.joints[1].desired_speed", .typeInt16,
      jointStatusPtr 1 (·.desiredSpeed) fun x j => { j with desiredSpeed := x }, VarRead⟩,
    ⟨"joint_status.joints[1].pwm", .typeInt16,
      jointStatusPtr 1 (·.pwm) fun x j => { j with pwm := x }, VarRead⟩,
    ⟨"joint_status.joints[1].sensed_current", .typeInt16,
      jointStatusPtr 1 (·.sensedCurrent) fun x j => { j with sensedCurrent := x }, VarRead⟩]

/-- A field of `joint_params.joints[i]`. -/
def jointParamPtr (i : Fin NUM_MOTORS) (get : JointParams → Int16)
    (set : Int16 → JointParams → JointParams) : Pointer Int16 where
  get g := get (g.jointParams.joints i)
  set x g := { g with
    jointParams.joints := Function.update g.jointParams.joints i (set x (g.jointParams.joints i)) }

def jointParamEntries : List VEntry :=
  [packetEntry "joint_params",
    ⟨"joint_params.header.seq", .typeUInt16, ⟨(·.jointParams.header.seq),
      fun x g => { g with jointParams.header.seq := x }⟩, VarRead⟩,
    ⟨"joint_params.joints[0].kp", .typeInt16,
      jointParamPtr 0 (·.kp) fun x j => { j with kp := x }, VarRead ||| VarWrite⟩,
    ⟨"joint_params.joints[0].ki", .typeInt16,
      jointParamPtr 0 (·.ki) fun x j => { j with ki := x }, VarRead ||| VarWrite⟩,
    ⟨"joint_params.joints[0].kd", .typeInt16,
      jointParamPtr 0 (·.kd) fun x j => { j with kd := x }, VarRead ||| VarWrite⟩,
    ⟨"joint_params.joints[0].max_i", .typeInt16,
      jointParamPtr 0 (·.maxI) fun x j => { j with maxI := x }, VarRead ||| VarWrite⟩,
    ⟨"joint_params.joints[0].max_pwm", .typeInt16,
      jointParamPtr 0 (·.maxPwm) fun x j => { j with maxPwm := x }, VarRead ||| VarWrite⟩,
    ⟨"joint_params.joints[0].min_pwm", .typeInt16,
      jointParamPtr 0 (·.minPwm) fun x j => { j with minPwm := x }, VarRead ||| VarWrite⟩,
    ⟨"joint_params.joints[0].max_speed", .typeInt16,
      jointParamPtr 0 (·.maxSpeed) fun x j => { j with maxSpeed := x }, VarRead ||| VarWrite⟩,
    ⟨"joint_params.joints[0].slope", .typeInt16,
      jointParamPtr 0 (·.slope) fun x j => { j with slope := x }, VarRead ||| VarWrite⟩,
    ⟨"joint_params.joints[1].kp", .typeInt16,
      jointParamPtr 1 (·.kp) fun x j => { j with kp := x }, VarRead ||| VarWrite⟩,
    ⟨"joint_params.joints[1].ki", .typeInt16,
      jointParamPtr 1 (·.ki) fun x j => { j with ki := x }, VarRead ||| VarWrite⟩,
    ⟨"joint_params.joints[1].kd", .typeInt16,
      jointParamPtr 1 (·.kd) fun x j => { j with kd := x }, VarRead ||| VarWrite⟩,
    ⟨"joint_params.joints[1].max_i", .typeInt16,
      jointParamPtr 1 (·.maxI) fun x j => { j with maxI := x }, VarRead ||| VarWrite⟩,
    ⟨"joint_params.joints[1].max_pwm", .typeInt16,
      jointParamPtr 1 (·.maxPwm) fun x j => { j with maxPwm := x }, VarRead ||| VarWrite⟩,
    ⟨"joint_params.joints[1].min_pwm", .typeInt16,
      jointParamPtr 1 (·.minPwm) fun x j => { j with minPwm := x }, VarRead ||| VarWrite⟩,
    ⟨"joint_params.joints[1].max_speed", .typeInt16,
      jointParamPtr 1 (·.maxSpeed) fun x j => { j with maxSpeed := x }, VarRead ||| VarWrite⟩,
    ⟨"joint_params.joints[1].slope", .typeInt16,
      jointParamPtr 1 (·.slope) fun x j => { j with slope := x }, VarRead ||| VarWrite⟩]

def driveStatusEntries : List VEntry :=
  [packetEntry "drive_status",
    ⟨"drive_status.header.seq", .typeUInt16, ⟨(·.driveStatus.header.seq),
      fun x g => { g with driveStatus.header.seq := x }⟩, VarRead⟩,
    ⟨"drive_status.odom_x", .typeFloat, ⟨(·.driveStatus.odomX),
      fun x g => { g with driveStatus.odomX := x }⟩, VarRead⟩,
    ⟨"drive_status.odom_y", .typeFloat, ⟨(·.driveStatus.odomY),
      fun x g => { g with driveStatus.odomY := x }⟩, VarRead⟩,
    ⟨"drive_status.odom_theta", .typeFloat, ⟨(·.driveStatus.odomTheta),
      fun x g => { g with driveStatus.odomTheta := x }⟩, VarRead⟩,
    ⟨"drive_status.translational_velocity_measured", .typeFloat,
      ⟨(·.driveStatus.translationalVelocityMeasured),
        fun x g => { g with driveStatus.translationalVelocityMeasured := x }⟩, VarRead⟩,
    ⟨"drive_status.translational_velocity_desired", .typeFloat,
      ⟨(·.driveStatus.translationalVelocityDesired),
        fun x g => { g with driveStatus.translationalVelocityDesired := x }⟩, VarRead⟩,
    ⟨"drive_status.translational_velocity_adjusted", .typeFloat,
      ⟨(·.driveStatus.translationalVelocityAdjusted),
        fun x g => { g with driveStatus.translationalVelocityAdjusted := x }⟩, VarRead⟩,
    ⟨"drive_status.rotational_velocity_measured", .typeFloat,
      ⟨(·.driveStatus.rotationalVelocityMeasured),
        fun x g => { g with driveStatus.rotationalVelocityMeasured := x }⟩, VarRead⟩,
    ⟨"drive_status.rotational_velocity_desired", .typeFloat,
      ⟨(·.driveStatus.rotationalVelocityDesired),
        fun x g => { g with driveStatus.rotationalVelocityDesired := x }⟩, VarRead⟩,
    ⟨"drive_status.rotational_velocity_adjusted", .typeFloat,
      ⟨(·.driveStatus.rotationalVelocityAdjusted),
        fun x g => { g with driveStatus.rotationalVelocityAdjusted := x }⟩, VarRead⟩]

def driveParamEntries : List VEntry :=
  [packetEntry "drive_params",
    ⟨"drive_params.header.seq", .typeUInt16, ⟨(·.driveParams.header.seq),
      fun x g => { g with driveParams.header.seq := x }⟩, VarRead⟩,
    ⟨"drive_params.kr", .typeFloat, ⟨(·.driveParams.kr),
      fun x g => { g with driveParams.kr := x }⟩, VarRead ||| VarWrite⟩,
    ⟨"drive_params.kl", .typeFloat, ⟨(·.driveParams.kl),
      fun x g => { g with driveParams.kl := x }⟩, VarRead ||| VarWrite⟩,
    ⟨"drive_params.baseline", .typeFloat, ⟨(·.driveParams.baseline),
      fun x g => { g with driveParams.baseline := x }⟩, VarRead ||| VarWrite⟩,
    ⟨"drive_params.right_joint_index", .typeUInt8, ⟨(·.driveParams.rightJointIndex),
      fun x g => { g with driveParams.rightJointIndex := x }⟩, VarRead ||| VarWrite⟩,
    ⟨"drive_params.left_joint_index", .typeUInt8, ⟨(·.driveParams.leftJointIndex),
      fun x g => { g with driveParams.leftJointIndex := x }⟩, VarRead ||| VarWrite⟩,
    ⟨"drive_params.max_translational_velocity", .typeFloat, ⟨(·.driveParams.maxTranslationalVelocity),
      fun x g => { g with driveParams.maxTranslationalVelocity := x }⟩, VarRead ||| VarWrite⟩,
    ⟨"drive_params.max_translational_acceleration", .typeFloat,
      ⟨(·.driveParams.maxTranslationalAcceleration),
        fun x g => { g with driveParams.maxTranslationalAcceleration := x }⟩, VarRead ||| VarWrite⟩,
    ⟨"drive_params.max_translational_brake", .typeFloat, ⟨(·.driveParams.maxTranslationalBrake),
      fun x g => { g with driveParams.maxTranslationalBrake := x }⟩, VarRead ||| VarWrite⟩,
    ⟨"drive_params.max_rotational_velocity", .typeFloat, ⟨(·.driveParams.maxRotationalVelocity),
      fun x g => { g with driveParams.maxRotationalVelocity := x }⟩, VarRead ||| VarWrite⟩,
    ⟨"drive_params.max_rotational_acceleration", .typeFloat, ⟨(·.driveParams.maxRotationalAcceleration),
      fun x g => { g with driveParams.maxRotationalAcceleration := x }⟩, VarRead ||| VarWrite⟩]

/-- A field of `joint_control.joints[i]`. -/
def jointControlPtr {α : Type} (i : Fin NUM_MOTORS) (get : JointControl → α)
    (set : α → JointControl → JointControl) : Pointer α where
  get g := get (g.jointControl.joints i)
  set x g := { g with
    jointControl.joints := Function.update g.jointControl.joints i (set x (g.jointControl.joints i)) }

def controlEntries : List VEntry :=
  [packetEntry "param_control",
    ⟨"param_control.header.seq", .typeInt16, ⟨(·.paramControl.header.seq.toInt16),
      fun x g => { g with paramControl.header.seq := x.toUInt16 }⟩, VarRead⟩,
    ⟨"param_control.action", .typeUInt8, ⟨(·.paramControl.action),
      fun x g => { g with paramControl.action := x }⟩, VarRead ||| VarWrite⟩,
    ⟨"param_control.param_type", .typeUInt8, ⟨(·.paramControl.paramType),
      fun x g => { g with paramControl.paramType := x }⟩, VarRead ||| VarWrite⟩,
    packetEntry "joint_control",
    ⟨"joint_control.header.seq", .typeInt16, ⟨(·.jointControl.header.seq.toInt16),
      fun x g => { g with jointControl.header.seq := x.toUInt16 }⟩, VarRead⟩,
    ⟨"joint_control.joints[0].mode", .typeUInt8,
      jointControlPtr 0 (·.mode) fun x j => { j with mode := x }, VarRead ||| VarWrite⟩,
    ⟨"joint_control.joints[0].speed", .typeInt16,
      jointControlPtr 0 (·.speed) fun x j => { j with speed := x }, VarRead ||| VarWrite⟩,
    ⟨"joint_control.joints[1].mode", .typeUInt8,
      jointControlPtr 1 (·.mode) fun x j => { j with mode := x }, VarRead ||| VarWrite⟩,
    ⟨"joint_control.joints[1].speed", .typeInt16,
      jointControlPtr 1 (·.speed) fun x j => { j with speed := x }, VarRead ||| VarWrite⟩,
    packetEntry "drive_control",
    ⟨"drive_control.header.seq", .typeInt16, ⟨(·.driveControl.header.seq.toInt16),
      fun x g => { g with driveControl.header.seq := x.toUInt16 }⟩, VarRead⟩,
    ⟨"drive_control.translational_velocity", .typeFloat, ⟨(·.driveControl.translationalVelocity),
      fun x g => { g with driveControl.translationalVelocity := x }⟩, VarRead ||| VarWrite⟩,
    ⟨"drive_control.rotational_velocity", .typeFloat, ⟨(·.driveControl.rotationalVelocity),
      fun x g => { g with driveControl.rotationalVelocity := x }⟩, VarRead ||| VarWrite⟩]

def variableEntries : List VEntry :=
  systemStatusEntries ++ systemParamEntries ++ jointStatusEntries ++ jointParamEntries ++
    driveStatusEntries ++ driveParamEntries ++ controlEntries

def findVar (name : Text) : Option VEntry :=
  variableEntries.find? fun v => v.name.toList == name

/-! ### The configuration file -/

/-- A buffer is too small, or is used before anything was read into it. -/
inductive FileFault
  | bufferOverflow | uninitialized
  deriving DecidableEq

/-- What a command returns, its response and the variables behind it. -/
structure CommandResult where
  ret : Int
  response : Text
  globals : ShellGlobals

/-- The condition under which `saveConfigFn` writes a variable; `<:+:` is `strstr`. -/
def inConfig (v : VEntry) : Bool :=
  decide (v.type ≠ .typePacket) && decide ("params".toList <:+: v.name.toList)

section

variable (printPacket : String → ShellGlobals → Text)

def configLine (g : ShellGlobals) (v : VEntry) : Text :=
  v.name.toList ++ ' ' :: (v.write printPacket g ++ ['\n'])

/-- What `saveConfigFn` collects in its buffer. -/
def configText (g : ShellGlobals) : Text :=
  (variableEntries.filter inConfig).flatMap (configLine printPacket g)

/-- `saveConfigFn`, and the content of the file if it could be opened. The buffer has 10 KiB. -/
def saveConfigFn (fileName : Text) (opened : Bool) (g : ShellGlobals) :
    Except FileFault (CommandResult × Option Text) :=
  if opened then
    if (configText printPacket g).length < 1024 * 10 then
      .ok (⟨0, [], g⟩, some (configText printPacket g))
    else .error .bufferOverflow
  else .ok (⟨-1, "cannot open file [".toList ++ fileName ++ "]\n".toList, g⟩, none)

/-- The loop of `loadConfigFn` on the words left in the file, with the response so far. Each round
reads two of them and the white space behind; the end of the file is seen when none is left. -/
def loadConfigLoop : List Text → Text → ShellGlobals → Except FileFault CommandResult
  | name :: value :: rest, r, g =>
    if 1024 ≤ name.length ∨ 1024 ≤ value.length then .error .bufferOverflow
    else
      match findVar name with
      | none => .ok ⟨-1, r ++ "set: unknown variable [".toList ++ name ++ "]\n".toList, g⟩
      | some var =>
        let g := (var.read value g).2
        let r := r ++ name ++ ' ' :: (var.write printPacket g ++ ['\n'])
        if rest = [] then .ok ⟨0, r, g⟩ else loadConfigLoop rest r g
  | _, _, _ => .error .uninitialized

/-- `loadConfigFn` with the content of the file, `none` if it cannot be opened. -/
def loadConfigFn (fileName : Text) (file : Option Text) (g : ShellGlobals) :
    Except FileFault CommandResult :=
  match file with
  | none => .ok ⟨-1, "cannot open file [".toList ++ fileName ++ "]\n".toList, g⟩
  | some text => loadConfigLoop printPacket (words text) [] g

end

end Orazio
