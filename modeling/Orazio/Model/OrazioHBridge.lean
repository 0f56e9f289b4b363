import Orazio.Model.OrazioPackets

/-!
# The H bridges

Model of `orazio_hbridge_internal.c` over an arbitrary state `π` of the digital and PWM pins. The
pointer `ops` is the type of the bridge, and the two pin numbers are the two bytes of the union
`params`.
-/

namespace Orazio

/-- The functions of `digio.h` and `pwm.h` that the bridges call. -/
class PinDriver (π : Type) where
  setDirection : UInt8 → UInt8 → π → π
  setValue : UInt8 → UInt8 → π → π
  setDutyCycle : UInt8 → UInt8 → π → π
  enable : UInt8 → UInt8 → π → π

abbrev Input : UInt8 := 0
abbrev Output : UInt8 := 1

inductive HBridgeType
  | pwmDir | dualPWM | halfCyclePWM
  deriving DecidableEq, Repr

structure HBridge where
  ops : Option HBridgeType
  pwmPin : UInt8
  otherPin : UInt8

open PinDriver

variable {π : Type} [PinDriver π]

def HBridgePWMDir_fini (bridge : HBridge) (pins : π) : π :=
  setValue bridge.otherPin 0 (setDirection bridge.otherPin Input
    (setDutyCycle bridge.pwmPin 0 (enable bridge.pwmPin 0 pins)))

def HBridgeDualPWM_fini (bridge : HBridge) (pins : π) : π :=
  enable bridge.otherPin 0 (enable bridge.pwmPin 0 pins)

def HBridgeHalfPWM_fini (bridge : HBridge) (pins : π) : π :=
  setDirection bridge.otherPin Input (enable bridge.pwmPin 0
    (setValue bridge.otherPin 0 (setDutyCycle bridge.pwmPin 0 pins)))

namespace HBridge

/-- `bridge->ops->fini_fn`, when there are operations. -/
def fini (bridge : HBridge) (pins : π) : π :=
  match bridge.ops with
  | none => pins
  | some .pwmDir => HBridgePWMDir_fini bridge pins
  | some .dualPWM => HBridgeDualPWM_fini bridge pins
  | some .halfCyclePWM => HBridgeHalfPWM_fini bridge pins

end HBridge

def HBridgePWMDir_init (bridge : HBridge) (pwmPin dirPin : UInt8) (pins : π) : HBridge × π :=
  (⟨some .pwmDir, pwmPin, dirPin⟩,
    enable pwmPin 1 (setDutyCycle pwmPin 0 (setValue dirPin 0 (setDirection dirPin Output
      (bridge.fini pins)))))

def HBridgeDualPWM_init (bridge : HBridge) (pwmForwardPin pwmBackwardPin : UInt8) (pins : π) :
    HBridge × π :=
  (⟨some .dualPWM, pwmForwardPin, pwmBackwardPin⟩,
    enable pwmBackwardPin 1 (enable pwmForwardPin 1 (setDutyCycle pwmBackwardPin 0
      (setDutyCycle pwmForwardPin 0 (bridge.fini pins)))))

def HBridgeHalfPWM_init (bridge : HBridge) (pwmPin enablePin : UInt8) (pins : π) : HBridge × π :=
  (⟨some .halfCyclePWM, pwmPin, enablePin⟩,
    setDirection enablePin 1 (enable pwmPin 1 (setValue enablePin 1 (setDutyCycle pwmPin 0
      (bridge.fini pins)))))

def HBridgePWMDir_setSpeed (bridge : HBridge) (speed : Int16) (pins : π) : π :=
  let pwm := if speed ≥ 0 then speed.toUInt16 else (-speed).toUInt16
  let dir : UInt8 := if speed ≥ 0 then 0 else 1
  let pwm := if pwm > 255 then 255 else pwm
  setDutyCycle bridge.pwmPin pwm.toUInt8 (setValue bridge.otherPin dir pins)

/-- The speed limited to `-255` and `255`. -/
def limitSpeed (speed : Int16) : Int16 :=
  let speed := if speed > 255 then 255 else speed
  if speed < -255 then -255 else speed

def HBridgeDualPWM_setSpeed (bridge : HBridge) (speed : Int16) (pins : π) : π :=
  let speed := limitSpeed speed
  if speed ≥ 0 then
    setDutyCycle bridge.otherPin 0 (setDutyCycle bridge.pwmPin speed.toUInt16.toUInt8 pins)
  else
    setDutyCycle bridge.otherPin (-speed).toUInt16.toUInt8 (setDutyCycle bridge.pwmPin 0 pins)

def HBridgeHalfPWM_setSpeed (bridge : HBridge) (speed : Int16) (pins : π) : π :=
  setDutyCycle bridge.pwmPin (127 + limitSpeed speed / 2).toUInt16.toUInt8 pins

def HBridge.setSpeed (bridge : HBridge) (speed : Int16) (pins : π) : Except Fault π :=
  match bridge.ops with
  | none => .error .nullPointer
  | some .pwmDir => .ok (HBridgePWMDir_setSpeed bridge speed pins)
  | some .dualPWM => .ok (HBridgeDualPWM_setSpeed bridge speed pins)
  | some .halfCyclePWM => .ok (HBridgeHalfPWM_setSpeed bridge speed pins)

end Orazio
