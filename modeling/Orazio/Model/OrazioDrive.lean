import Orazio.Model.OrazioPackets

/-!
# The differential drive controller

Model of `orazio_drive_internal.c` over an arbitrary type of floating point numbers; a `double` is
a `float` on both firmware targets. The pointers to the two joints are the joint indices of the last
initialisation, the other pointers are arguments.
-/

namespace Orazio

/-- The operations on floating point numbers, with the decimal constants of the source. -/
class CFloat (F : Type) extends FloatBytes F, Add F, Sub F, Mul F, Div F, Neg F where
  const : Rat → F
  ofInt : Int → F
  lt : F → F → Bool
  eq : F → F → Bool
  sin : F → F
  cos : F → F
  pi : F
  toInt16 : F → Int16

open CFloat

variable {F : Type} [CFloat F]

def cosCoeffs : List F :=
  [const 0, const (1 / 2), const 0, const (-1 / 24), const 0, const (1 / 720)]

def sinCoeffs : List F :=
  [const 1, const 0, const (-1 / 6), const 0, const (1 / 120), const 0]

structure ThetaTerms (F : Type) where
  sinThetaOverTheta : F
  oneMinusCosThetaOverTheta : F
  thetaAcc : F

/-- The body of the loop of `_computeThetaTerms`. -/
def ThetaTerms.next (theta : F) (t : ThetaTerms F) (i : Nat) : ThetaTerms F :=
  let t :=
    if i % 2 = 1 then
      { t with oneMinusCosThetaOverTheta :=
          t.oneMinusCosThetaOverTheta + t.thetaAcc * cosCoeffs.getD i (const 0) }
    else
      { t with sinThetaOverTheta :=
          t.sinThetaOverTheta + t.thetaAcc * sinCoeffs.getD i (const 0) }
  { t with thetaAcc := t.thetaAcc * theta }

def computeThetaTerms (theta : F) : ThetaTerms F :=
  (List.range 6).foldl (ThetaTerms.next theta) ⟨const 0, const 0, const 1⟩

/-- `_clamp` on floating point numbers. -/
def clampFloat (value threshold : F) : F :=
  if lt threshold value then threshold
  else if lt value (-threshold) then -threshold
  else value

structure DifferentialDriveController (F : Type) where
  leftJoint : Option UInt8
  rightJoint : Option UInt8
  dt : F
  idt : F
  jointsDt : F
  kr : F
  kl : F
  ikr : F
  ikl : F
  baseline : F
  ibaseline : F
  maxDtv : F
  maxDrv : F
  encoderLeftPrevious : Int16
  encoderRightPrevious : Int16

/-- The joint behind a pointer into an array of joints. -/
def jointIndex : Option UInt8 → Except Fault (Fin NUM_MOTORS)
  | none => .error .nullPointer
  | some i => if h : i.toNat < NUM_MOTORS then .ok ⟨i.toNat, h⟩ else .error .outOfBounds

namespace DifferentialDriveController

/-- The static controller before `Orazio_driveInit`. -/
def zero : DifferentialDriveController F where
  leftJoint := none
  rightJoint := none
  dt := const 0
  idt := const 0
  jointsDt := const 0
  kr := const 0
  kl := const 0
  ikr := const 0
  ikl := const 0
  baseline := const 0
  ibaseline := const 0
  maxDtv := const 0
  maxDrv := const 0
  encoderLeftPrevious := 0
  encoderRightPrevious := 0

def resetStatus (status : DifferentialDriveStatusPacket F) (x y theta : F) :
    DifferentialDriveStatusPacket F where
  header := status.header
  odomX := x
  odomY := y
  odomTheta := theta
  translationalVelocityMeasured := const 0
  rotationalVelocityMeasured := const 0
  translationalVelocityDesired := const 0
  rotationalVelocityDesired := const 0
  translationalVelocityAdjusted := const 0
  rotationalVelocityAdjusted := const 0

def reset (ctr : DifferentialDriveController F) (status : DifferentialDriveStatusPacket F)
    (joints : Fin NUM_MOTORS → JointInfo) (x y theta : F) :
    Except Fault (DifferentialDriveController F × DifferentialDriveStatusPacket F) :=
  match jointIndex ctr.leftJoint, jointIndex ctr.rightJoint with
  | .ok left, .ok right =>
    .ok ({ ctr with
        encoderLeftPrevious := (joints left).encoderPosition.toInt16
        encoderRightPrevious := (joints right).encoderPosition.toInt16 },
      resetStatus status x y theta)
  | .error e, _ => .error e
  | _, .error e => .error e

/-- `DifferentialDriveController_init` with pointers to the joints `left` and `right`. -/
def init (params : DifferentialDriveParamPacket F) (status : DifferentialDriveStatusPacket F)
    (joints : Fin NUM_MOTORS → JointInfo) (left right : UInt8) (dt jointsDt : F)
    (ctr : DifferentialDriveController F) :
    Except Fault (DifferentialDriveController F × DifferentialDriveStatusPacket F) :=
  reset
    { leftJoint := some left
      rightJoint := some right
      dt := dt
      idt := const 1 / dt
      jointsDt := jointsDt
      kr := params.kr
      kl := params.kl
      ikr := const 1 / params.kr
      ikl := const 1 / params.kl
      baseline := params.baseline
      ibaseline := const 1 / params.baseline
      maxDtv := params.maxTranslationalAcceleration * dt
      maxDrv := params.maxRotationalAcceleration * dt
      encoderLeftPrevious := ctr.encoderLeftPrevious
      encoderRightPrevious := ctr.encoderRightPrevious }
    status joints (const 0) (const 0) (const 0)

/-- The heading after the two comparisons with `M_PI`. -/
def normalizeTheta (theta : F) : F :=
  if lt pi theta then theta - const 2 * pi
  else if lt theta (-pi) then theta + const 2 * pi
  else theta

/-- The odometry of `DifferentialDriveController_update`, with the two measured velocities. -/
def updateOdometry (ctr : DifferentialDriveController F) (leftTicks rightTicks : Int16)
    (status : DifferentialDriveStatusPacket F) : DifferentialDriveStatusPacket F × F × F :=
  if leftTicks ≠ 0 ∨ rightTicks ≠ 0 then
    let deltaL := ctr.kl * ofInt leftTicks.toInt
    let deltaR := ctr.kr * ofInt rightTicks.toInt
    let deltaPlus := deltaR + deltaL
    let deltaMinus := deltaR - deltaL
    let dth := deltaMinus * ctr.ibaseline
    let terms := computeThetaTerms dth
    let dx := const (1 / 2) * deltaPlus * terms.sinThetaOverTheta
    let dy := const (1 / 2) * deltaPlus * terms.oneMinusCosThetaOverTheta
    let s := sin status.odomTheta
    let c := cos status.odomTheta
    ({ status with
        odomX := status.odomX + (c * dx - s * dy)
        odomY := status.odomY + (s * dx + c * dy)
        odomTheta := normalizeTheta (status.odomTheta + dth) },
      const (1 / 2) * deltaPlus * ctr.idt, dth * ctr.idt)
  else (status, const 0, const 0)

/-- The velocities of `DifferentialDriveController_update` from the measured ones. -/
def updateVelocity (ctr : DifferentialDriveController F) (params : DifferentialDriveParamPacket F)
    (control : DifferentialDriveControlPacket F) (status : DifferentialDriveStatusPacket F)
    (tvm rvm : F) : DifferentialDriveStatusPacket F :=
  let desTv := control.translationalVelocity
  let desRv := control.rotationalVelocity
  let maxDtv := if eq desTv (const 0) then params.maxTranslationalBrake else ctr.maxDtv
  let adjustedTv := clampFloat (tvm + clampFloat (desTv - tvm) maxDtv)
    params.maxTranslationalVelocity
  let adjustedRv := clampFloat (rvm + clampFloat (desRv - rvm) ctr.maxDrv)
    params.maxRotationalVelocity
  { status with
    translationalVelocityMeasured := tvm
    rotationalVelocityMeasured := rvm
    translationalVelocityDesired := desTv
    rotationalVelocityDesired := desRv
    translationalVelocityAdjusted := adjustedTv
    rotationalVelocityAdjusted := adjustedRv }

def update (params : DifferentialDriveParamPacket F) (control : DifferentialDriveControlPacket F)
    (joints : Fin NUM_MOTORS → JointInfo) (ctr : DifferentialDriveController F)
    (status : DifferentialDriveStatusPacket F) :
    Except Fault (DifferentialDriveController F × DifferentialDriveStatusPacket F) :=
  match jointIndex ctr.leftJoint, jointIndex ctr.rightJoint with
  | .ok left, .ok right =>
    let encoderRight := (joints right).encoderPosition
    let encoderLeft := (joints left).encoderPosition
    let leftTicks := (encoderLeft - ctr.encoderLeftPrevious.toUInt16).toInt16
    let rightTicks := (encoderRight - ctr.encoderRightPrevious.toUInt16).toInt16
    let ctr :=
      { ctr with
        encoderRightPrevious := encoderRight.toInt16
        encoderLeftPrevious := encoderLeft.toInt16 }
    let (status, tvm, rvm) := updateOdometry ctr leftTicks rightTicks status
    .ok (ctr, updateVelocity ctr params control status tvm rvm)
  | .error e, _ => .error e
  | _, .error e => .error e

/-- `DifferentialDriveController_control`: the joint controls with the speeds of the two wheels. -/
def control (ctr : DifferentialDriveController F) (params : DifferentialDriveParamPacket F)
    (status : DifferentialDriveStatusPacket F) (joints : Fin NUM_MOTORS → JointControl) :
    Except Fault (Fin NUM_MOTORS → JointControl) :=
  match jointIndex ctr.leftJoint, jointIndex ctr.rightJoint with
  | .ok left, .ok right =>
    let tv := status.translationalVelocityAdjusted
    let rv := status.rotationalVelocityAdjusted
    let d2p := tv * ctr.jointsDt
    let d2m := const (1 / 2) * params.baseline * rv * ctr.jointsDt
    let jlv := ctr.ikl * (d2p - d2m)
    let jrv := ctr.ikr * (d2p + d2m)
    let joints := Function.update joints left { joints left with speed := toInt16 jlv }
    let joints := Function.update joints right { joints right with speed := toInt16 jrv }
    let joints := Function.update joints left { joints left with mode := JointPID }
    .ok (Function.update joints right { joints right with mode := JointPID })
  | .error e, _ => .error e
  | _, .error e => .error e

end DifferentialDriveController

end Orazio
