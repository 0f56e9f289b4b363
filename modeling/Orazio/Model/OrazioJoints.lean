import Orazio.Model.OrazioPackets

/-!
# The joint controllers

Model of `orazio_joints_internal.c`. Both firmware targets have an `int` of 16 bits, so that the
arithmetic is that of `Int16`. The three pointers of a controller are the arguments of `handle`.
-/

namespace Orazio

structure JointController where
  output : Int16
  rampReference : Int16
  reference : Int16
  errorIntegral : Int16
  error : Int16
  previousError : Int16

def clamp (v value : Int16) : Int16 :=
  if v > value then value
  else if v < -value then -value
  else v

namespace JointController

/-- A controller after `memset`. -/
def zero : JointController :=
  ⟨0, 0, 0, 0, 0, 0⟩

/-- The branch `JointPID` with the measured speed in `status`. -/
def handlePID (j : JointController) (params : JointParams) (control : JointControl)
    (status : JointInfo) : JointController × JointInfo :=
  let status := { status with desiredSpeed := clamp control.speed params.maxSpeed }
  let error := clamp (status.desiredSpeed - status.encoderSpeed) params.slope
  let rampReference := status.encoderSpeed + error
  let errorIntegral := clamp (j.errorIntegral + error) params.maxI
  let dError := error - j.previousError
  let output := rampReference +
    (params.kp * error + params.ki * errorIntegral + params.kd * dError) / 32
  let output := clamp output params.maxPwm
  let output := if output < params.minPwm ∧ output > -params.minPwm then 0 else output
  ({ j with output, rampReference, errorIntegral, error, previousError := error }, status)

/-- `JointController_handle` with the encoder value `enc`. -/
def handle (j : JointController) (params : JointParams) (control : JointControl)
    (status : JointInfo) (enc : UInt16) : JointController × JointInfo :=
  let status :=
    { status with
      encoderSpeed := (enc - status.encoderPosition).toInt16
      encoderPosition := enc
      mode := control.mode
      pwm := j.output }
  if control.mode = JointDisabled then ({ j with output := 0, errorIntegral := 0 }, status)
  else if control.mode = JointPWM then ({ j with output := control.speed }, status)
  else if control.mode = JointPID then j.handlePID params control status
  else (j, status)

end JointController

end Orazio
