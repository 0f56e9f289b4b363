import Mathlib.Algebra.Order.Floor.Ring
import Orazio.Lib.DifferentialDrive
import Orazio.Proofs.DriveCalls

/-!
# Inverse and forward kinematics

`DifferentialDriveController_control` turns the adjusted velocities into speeds of the wheels, and the next
`DifferentialDriveController_update` turns the motion of the wheels into measured velocities. With exact
arithmetic only the truncation of the speeds stands between the two.
-/

namespace Orazio.Proofs

open CFloat DifferentialDriveController

/-! ### The speeds of the wheels -/

section

variable {F : Type} [CFloat F] (d : DriveSetup F) (status : DifferentialDriveStatusPacket F)

/-- The speed of the left wheel before its conversion to `int16_t`. -/
def leftSpeed : F :=
  const 1 / d.params.kl * (status.translationalVelocityAdjusted * d.jointsDt -
    const (1 / 2) * d.params.baseline * status.rotationalVelocityAdjusted * d.jointsDt)

/-- The speed of the right wheel before its conversion to `int16_t`. -/
def rightSpeed : F :=
  const 1 / d.params.kr * (status.translationalVelocityAdjusted * d.jointsDt +
    const (1 / 2) * d.params.baseline * status.rotationalVelocityAdjusted * d.jointsDt)

/-- The joints are driven with the speeds of the wheels; of a joint that is both wheels, the right speed
stays. -/
structure WheelsDriven (left right : Fin NUM_MOTORS) (joints : Fin NUM_MOTORS → JointControl) : Prop where
  leftMode : (joints left).mode = JointPID
  rightMode : (joints right).mode = JointPID
  left : left ≠ right → (joints left).speed = toInt16 (leftSpeed d status)
  right : (joints right).speed = toInt16 (rightSpeed d status)

variable {d}

lemma exists_control_eq {left right : Fin NUM_MOTORS} (hwheels : d.Wheels left right)
    (encoderLeft encoderRight : Int16) (joints : Fin NUM_MOTORS → JointControl) :
    ∃ joints', (d.controller encoderLeft encoderRight).control d.params status joints = .ok joints' ∧
      WheelsDriven d status left right joints' := by
  have hleft : jointIndex (d.controller encoderLeft encoderRight).leftJoint = .ok left := hwheels.left
  have hright : jointIndex (d.controller encoderLeft encoderRight).rightJoint = .ok right := hwheels.right
  unfold DifferentialDriveController.control
  rw [hleft, hright]
  refine ⟨_, rfl, ?_⟩
  constructor
  · by_cases heq : left = right
    · simp only [heq, Function.update_self]
    · simp only [Function.update_of_ne heq, Function.update_self]
  · rw [Function.update_self]
  · intro hne
    simp only [Function.update_of_ne hne, Function.update_self]
    rfl
  · by_cases heq : right = left
    · simp only [heq, Function.update_self]
      rfl
    · simp only [Function.update_of_ne heq, Function.update_self]
      rfl

end

/-! ### The base -/

section

variable {K : Type} [Field K] [LinearOrder K] [MathLibrary K]

/-- The differential drive with the lengths of the drive parameters. -/
def driveBase (params : DifferentialDriveParamPacket (Exact K)) (hkl : params.kl.value ≠ 0)
    (hkr : params.kr.value ≠ 0) (hbaseline : params.baseline.value ≠ 0) : DifferentialDrive K where
  leftUnit := params.kl.value
  rightUnit := params.kr.value
  baseline := params.baseline.value
  leftUnit_ne_zero := hkl
  rightUnit_ne_zero := hkr
  baseline_ne_zero := hbaseline

variable {d : DriveSetup (Exact K)} (hkl : d.params.kl.value ≠ 0) (hkr : d.params.kr.value ≠ 0)
  (hbaseline : d.params.baseline.value ≠ 0) [IsStrictOrderedRing K]

lemma value_leftSpeed (status : DifferentialDriveStatusPacket (Exact K)) :
    (leftSpeed d status).value = (driveBase d.params hkl hkr hbaseline).leftWheel
      (status.translationalVelocityAdjusted.value * d.jointsDt.value)
      (status.rotationalVelocityAdjusted.value * d.jointsDt.value) := by
  simp only [leftSpeed, DifferentialDrive.leftWheel, driveBase, Exact.value_mul, Exact.value_sub,
    Exact.value_div, Exact.value_const]
  push_cast
  ring

lemma value_rightSpeed (status : DifferentialDriveStatusPacket (Exact K)) :
    (rightSpeed d status).value = (driveBase d.params hkl hkr hbaseline).rightWheel
      (status.translationalVelocityAdjusted.value * d.jointsDt.value)
      (status.rotationalVelocityAdjusted.value * d.jointsDt.value) := by
  simp only [rightSpeed, DifferentialDrive.rightWheel, driveBase, Exact.value_mul, Exact.value_add,
    Exact.value_div, Exact.value_const]
  push_cast
  ring

end

/-! ### Truncation -/

/-- The conversion of a real number to an integer, towards zero. -/
noncomputable def truncate (x : ℝ) : ℤ :=
  if 0 ≤ x then ⌊x⌋ else ⌈x⌉

lemma abs_truncate_sub_le (x : ℝ) : |(truncate x : ℝ) - x| ≤ 1 := by
  have hfloor := Int.floor_le x
  have hfloor' := Int.lt_floor_add_one x
  have hceil := Int.le_ceil x
  have hceil' := Int.ceil_lt_add_one x
  unfold truncate
  rw [abs_le]
  split
  · constructor <;> linarith
  · constructor <;> linarith

/-- A speed fits its type, and so does the motion in `n` periods. -/
structure SpeedFits (n : ℕ) (x : ℝ) : Prop where
  speed : FitsInt16 (truncate x)
  ticks : FitsInt16 (n * truncate x)

/-- A joint turns by `n` times a speed. -/
def TurnsBy (n : ℕ) (speed : Int16) (joint joint' : JointInfo) : Prop :=
  joint'.encoderPosition = joint.encoderPosition + UInt16.ofInt (n * speed.toInt)

lemma toInt_toInt16 {x : Exact ℝ} (h : FitsInt16 (truncate x.value)) :
    (toInt16 x).toInt = truncate x.value :=
  Int16.toInt_ofInt.trans (bmod_of_fits h)

lemma toInt_tickDifference_of_turnsBy {n : ℕ} {speed : Exact ℝ} (hfits : SpeedFits n speed.value)
    {joint joint' : JointInfo} (h : TurnsBy n (toInt16 speed) joint joint') :
    (tickDifference joint.encoderPosition.toInt16 joint').toInt = n * truncate speed.value := by
  rw [toInt_tickDifference h, toInt_toInt16 hfits.speed]
  exact bmod_of_fits hfits.ticks

/-! ### The two directions -/

/-- The measured velocities are the adjusted ones up to the truncation of the two speeds. -/
structure MeasuresBack (d : DriveSetup (Exact ℝ))
    (status status' : DifferentialDriveStatusPacket (Exact ℝ)) : Prop where
  translational :
    |status'.translationalVelocityMeasured.value - status.translationalVelocityAdjusted.value| ≤
      (|d.params.kl.value| + |d.params.kr.value|) / (2 * d.jointsDt.value)
  rotational :
    |status'.rotationalVelocityMeasured.value - status.rotationalVelocityAdjusted.value| ≤
      (|d.params.kl.value| + |d.params.kr.value|) / (|d.params.baseline.value| * d.jointsDt.value)
  exact : (truncate (leftSpeed d status).value : ℝ) = (leftSpeed d status).value →
    (truncate (rightSpeed d status).value : ℝ) = (rightSpeed d status).value →
      status'.translationalVelocityMeasured.value = status.translationalVelocityAdjusted.value ∧
        status'.rotationalVelocityMeasured.value = status.rotationalVelocityAdjusted.value

section

variable {d : DriveSetup (Exact ℝ)} (hkl : d.params.kl.value ≠ 0) (hkr : d.params.kr.value ≠ 0)
  (hbaseline : d.params.baseline.value ≠ 0) (hjointsDt : 0 < d.jointsDt.value)
  {status status' : DifferentialDriveStatusPacket (Exact ℝ)}
include hkl hkr hbaseline hjointsDt

/-- The velocities of the base for speeds of the wheels that are off by at most `e`. -/
lemma abs_velocities_sub_le {leftTicks rightTicks : ℤ} {e : ℝ}
    (hleft : |leftTicks - (leftSpeed d status).value| ≤ e)
    (hright : |rightTicks - (rightSpeed d status).value| ≤ e) :
    |(d.params.kr.value * rightTicks + d.params.kl.value * leftTicks) / 2 / d.jointsDt.value -
        status.translationalVelocityAdjusted.value| ≤
      (|d.params.kl.value| + |d.params.kr.value|) * e / (2 * d.jointsDt.value) ∧
    |(d.params.kr.value * rightTicks - d.params.kl.value * leftTicks) / d.params.baseline.value /
        d.jointsDt.value - status.rotationalVelocityAdjusted.value| ≤
      (|d.params.kl.value| + |d.params.kr.value|) * e / (|d.params.baseline.value| * d.jointsDt.value) := by
  rw [value_leftSpeed hkl hkr hbaseline] at hleft
  rw [value_rightSpeed hkl hkr hbaseline] at hright
  have htravel := (driveBase d.params hkl hkr hbaseline).abs_travel_div_sub_le hjointsDt hleft hright
  rw [DifferentialDrive.travel, Int.cast_ofNat] at htravel
  exact ⟨htravel, (driveBase d.params hkl hkr hbaseline).abs_turn_div_sub_le hjointsDt hleft hright⟩

/-- The velocities of the truncated speeds are those of the speeds up to the truncation. -/
lemma measuresBack_of_truncate
    (htranslational : status'.translationalVelocityMeasured.value =
      (d.params.kr.value * truncate (rightSpeed d status).value +
        d.params.kl.value * truncate (leftSpeed d status).value) / 2 / d.jointsDt.value)
    (hrotational : status'.rotationalVelocityMeasured.value =
      (d.params.kr.value * truncate (rightSpeed d status).value -
        d.params.kl.value * truncate (leftSpeed d status).value) / d.params.baseline.value /
          d.jointsDt.value) : MeasuresBack d status status' := by
  have herror := abs_velocities_sub_le hkl hkr hbaseline hjointsDt
    (abs_truncate_sub_le (leftSpeed d status).value) (abs_truncate_sub_le (rightSpeed d status).value)
  rw [← htranslational, ← hrotational, mul_one] at herror
  refine ⟨herror.1, herror.2, ?_⟩
  intro hleft hright
  have hexact := abs_velocities_sub_le hkl hkr hbaseline hjointsDt
    (abs_nonpos_iff.mpr (sub_eq_zero.mpr hleft)) (abs_nonpos_iff.mpr (sub_eq_zero.mpr hright))
  rw [← htranslational, ← hrotational, mul_zero, zero_div, zero_div] at hexact
  exact ⟨sub_eq_zero.mp (abs_nonpos_iff.mp hexact.1), sub_eq_zero.mp (abs_nonpos_iff.mp hexact.2)⟩

end

/-- An update after both wheels have turned by `n` times their speeds measures the velocities of the
truncated speeds. -/
lemma exists_update_of_turnsBy {d : DriveSetup (Exact ℝ)} {left right : Fin NUM_MOTORS}
    (hwheels : d.Wheels left right) {n : ℕ} (hn : 1 ≤ n) (hdt : d.dt.value = n * d.jointsDt.value)
    {status : DifferentialDriveStatusPacket (Exact ℝ)} (hleft : SpeedFits n (leftSpeed d status).value)
    (hright : SpeedFits n (rightSpeed d status).value) {joints : Fin NUM_MOTORS → JointInfo}
    {input : DriveInput ℝ}
    (hleftTurns : TurnsBy n (toInt16 (leftSpeed d status)) (joints left) (input.joints left))
    (hrightTurns : TurnsBy n (toInt16 (rightSpeed d status)) (joints right) (input.joints right)) :
    ∃ s', driveStep (d.controllerAt left right joints, status) input = .ok ((), s') ∧
      s'.2.translationalVelocityMeasured.value =
        (d.params.kr.value * truncate (rightSpeed d status).value +
          d.params.kl.value * truncate (leftSpeed d status).value) / 2 / d.jointsDt.value ∧
      s'.2.rotationalVelocityMeasured.value =
        (d.params.kr.value * truncate (rightSpeed d status).value -
          d.params.kl.value * truncate (leftSpeed d status).value) / d.params.baseline.value /
            d.jointsDt.value := by
  obtain ⟨status', tvm, rvm, hupdate, htvm, hrvm⟩ := exists_update_eq hwheels
    (joints left).encoderPosition.toInt16 (joints right).encoderPosition.toInt16 input.params input.control
    input.joints status
  have hleftTicks : wheelTicks (some d.left) (joints left).encoderPosition.toInt16 input.joints =
      n * truncate (leftSpeed d status).value :=
    (wheelTicks_left hwheels _ _).trans (toInt_tickDifference_of_turnsBy hleft hleftTurns)
  have hrightTicks : wheelTicks (some d.right) (joints right).encoderPosition.toInt16 input.joints =
      n * truncate (rightSpeed d status).value :=
    (wheelTicks_right hwheels _ _).trans (toInt_tickDifference_of_turnsBy hright hrightTurns)
  have hperiods : (n : ℝ) ≠ 0 := by positivity
  refine ⟨_, driveStep_of_update hupdate, htvm.trans ?_, hrvm.trans ?_⟩
  · rw [translation, DriveSetup.controller, hleftTicks, hrightTicks, hdt]
    push_cast
    field_simp
  · rw [rotation, DriveSetup.controller, hleftTicks, hrightTicks, hdt]
    push_cast
    field_simp

/-- Between two updates that are `n` periods of the joints apart, every wheel turns by `n` times its speed:
then the second update measures the velocities that the first one adjusted, up to the truncation. -/
theorem update_measures_back (d : DriveSetup (Exact ℝ)) (hkl : d.params.kl.value ≠ 0)
    (hkr : d.params.kr.value ≠ 0) (hbaseline : d.params.baseline.value ≠ 0)
    (hjointsDt : 0 < d.jointsDt.value) (n : ℕ) (hn : 1 ≤ n) (hdt : d.dt.value = n * d.jointsDt.value)
    (left right : Fin NUM_MOTORS) (hwheels : d.Wheels left right)
    (ctr₀ : DifferentialDriveController (Exact ℝ)) (status₀ : DifferentialDriveStatusPacket (Exact ℝ))
    (joints₀ : Fin NUM_MOTORS → JointInfo) (s₁ : DriveState ℝ)
    (hinit : ctr₀.init d.params status₀ joints₀ d.left d.right d.dt d.jointsDt = .ok s₁)
    (calls : List (DriveCall ℝ)) (os : List Unit) (s : DriveState ℝ)
    (hrun : StepMachine.run driveCall s₁ calls = .ok (os, s))
    (status : DifferentialDriveStatusPacket (Exact ℝ)) (controls : Fin NUM_MOTORS → JointControl)
    (hleft : SpeedFits n (leftSpeed d status).value) (hright : SpeedFits n (rightSpeed d status).value)
    (input : DriveInput ℝ)
    (hleftTurns : TurnsBy n (toInt16 (leftSpeed d status)) (lastJoints joints₀ calls left)
      (input.joints left))
    (hrightTurns : TurnsBy n (toInt16 (rightSpeed d status)) (lastJoints joints₀ calls right)
      (input.joints right)) :
    ∃ controls' s', s.1.control d.params status controls = .ok controls' ∧
      WheelsDriven d status left right controls' ∧ driveStep (s.1, status) input = .ok ((), s') ∧
      MeasuresBack d status s'.2 := by
  rw [controller_of_run hwheels hinit hrun]
  obtain ⟨controls', hcontrol, hdriven⟩ := exists_control_eq status hwheels
    (lastJoints joints₀ calls left).encoderPosition.toInt16
    (lastJoints joints₀ calls right).encoderPosition.toInt16 controls
  obtain ⟨s', hs', htranslational, hrotational⟩ :=
    exists_update_of_turnsBy hwheels hn hdt hleft hright hleftTurns hrightTurns
  exact ⟨controls', s', hcontrol, hdriven, hs',
    measuresBack_of_truncate hkl hkr hbaseline hjointsDt htranslational hrotational⟩

/-! ### The initial parameters -/

/-- The robot is to move straight on with 1 m/s. -/
noncomputable def straightOn : DifferentialDriveStatusPacket (Exact ℝ) :=
  { initDriveStatus with translationalVelocityAdjusted := const 1 }

lemma straightOn_speeds :
    (leftSpeed initialSetup straightOn).value = 10 ∧ (rightSpeed initialSetup straightOn).value = 10 := by
  constructor <;>
    norm_num [leftSpeed, rightSpeed, initialSetup, straightOn, initDriveParams, initDriveStatus, resetStatus]

lemma truncate_ten : truncate 10 = 10 := by
  rw [truncate, if_pos (by norm_num)]
  exact Int.floor_ofNat 10

lemma straightOn_fits : SpeedFits 2 10 := by
  constructor <;> norm_num [truncate_ten, FitsInt16]

/-- Both wheels turn by 10 ticks in each of two periods, and 1 m/s is measured. -/
theorem update_measures_back_straightOn :
    ∃ controls' s',
      initialState.1.control initDriveParams straightOn initJointControl.joints = .ok controls' ∧
      WheelsDriven initialSetup straightOn 1 0 controls' ∧
      driveStep (initialState.1, straightOn) ⟨initDriveParams, initDriveControl, bothWheels 20⟩ =
        .ok ((), s') ∧
      MeasuresBack initialSetup straightOn s'.2 := by
  have hspeed : ∀ x : Exact ℝ, x.value = 10 → (toInt16 x).toInt = 10 := by
    intro x hx
    rw [toInt_toInt16 (by rw [hx]; exact straightOn_fits.speed), hx, truncate_ten]
  have hturns : ∀ x : Exact ℝ, x.value = 10 → ∀ i,
      TurnsBy 2 (toInt16 x) (lastJoints initJointStatus.joints ([] : List (DriveCall ℝ)) i)
        (bothWheels 20 i) := by
    intro x hx i
    rw [TurnsBy, hspeed x hx]
    rfl
  obtain ⟨hleft, hright⟩ := straightOn_speeds
  apply update_measures_back initialSetup _ _ _ _ 2 one_le_two _ 1 0 ⟨rfl, rfl⟩ .zero initDriveStatus
    initJointStatus.joints initialState init_initialSetup [] [] initialState rfl straightOn
    initJointControl.joints (by rw [hleft]; exact straightOn_fits) (by rw [hright]; exact straightOn_fits)
    ⟨initDriveParams, initDriveControl, bothWheels 20⟩ (hturns _ hleft 1) (hturns _ hright 0)
  · norm_num [initialSetup, initDriveParams]
  · norm_num [initialSetup, initDriveParams]
  · norm_num [initialSetup, initDriveParams]
  · norm_num [initialSetup]
  · norm_num [initialSetup]

end Orazio.Proofs
