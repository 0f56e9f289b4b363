import Orazio.Lib.Ramp
import Orazio.Proofs.DriveCalls

/-!
# The velocity ramp

Every update ramps the velocities of the robot from the measured to the desired ones. The increment
between two updates is the acceleration times their distance, but while the robot brakes it is the whole
`max_translational_brake`.
-/

namespace Orazio.Proofs

open CFloat DifferentialDriveController

variable {K : Type} [Field K] [LinearOrder K] [MathLibrary K]

/-! ### The specification -/

/-- All limits of the drive parameters are positive. -/
structure PositiveLimits (params : DifferentialDriveParamPacket (Exact K)) : Prop where
  maxTranslationalVelocity : 0 < params.maxTranslationalVelocity.value
  maxTranslationalAcceleration : 0 < params.maxTranslationalAcceleration.value
  maxTranslationalBrake : 0 < params.maxTranslationalBrake.value
  maxRotationalVelocity : 0 < params.maxRotationalVelocity.value
  maxRotationalAcceleration : 0 < params.maxRotationalAcceleration.value

/-- The adjusted velocity is within the limit, and from a measured velocity within the limit it lies at most
`increment` further towards the desired one. -/
structure Ramped (limit increment measured desired adjusted : K) : Prop where
  bounded : |adjusted| ≤ limit
  between : |measured| ≤ limit → adjusted ∈ Set.uIcc measured (Ramp.clamp limit desired)
  near : |measured| ≤ limit → |adjusted - measured| ≤ increment

/-- Both velocities are ramped, with increments for the time `dt` between two updates. -/
structure VelocitiesRamped (d : DriveSetup (Exact K)) (control : DifferentialDriveControlPacket (Exact K))
    (status : DifferentialDriveStatusPacket (Exact K)) : Prop where
  translational : Ramped d.params.maxTranslationalVelocity.value
    (d.dt.value * if control.translationalVelocity.value = 0 then d.params.maxTranslationalBrake.value
      else d.params.maxTranslationalAcceleration.value)
    status.translationalVelocityMeasured.value control.translationalVelocity.value
    status.translationalVelocityAdjusted.value
  rotational : Ramped d.params.maxRotationalVelocity.value
    (d.dt.value * d.params.maxRotationalAcceleration.value)
    status.rotationalVelocityMeasured.value control.rotationalVelocity.value
    status.rotationalVelocityAdjusted.value

/-- A robot that is to stop from a velocity within the limit needs no more than one increment, or the time
between two updates is no less than a second. -/
def BrakesGently (d : DriveSetup (Exact K)) (ctr : DifferentialDriveController (Exact K))
    (input : DriveInput K) : Prop :=
  input.control.translationalVelocity.value = 0 →
    |translation d.params ctr input.joints / d.dt.value| ≤ d.params.maxTranslationalVelocity.value →
      |translation d.params ctr input.joints / d.dt.value| ≤
          d.dt.value * d.params.maxTranslationalBrake.value ∨
        1 ≤ d.dt.value

variable [IsStrictOrderedRing K]

/-! ### One velocity -/

omit [MathLibrary K] in
lemma ramped_step {limit rate : K} (hlimit : 0 ≤ limit) (hrate : 0 ≤ rate) (measured desired : K) :
    Ramped limit rate measured desired (Ramp.step limit rate measured desired) where
  bounded := Ramp.abs_step_le hlimit rate measured desired
  between hmeasured := Ramp.step_mem_uIcc hrate hmeasured desired
  near hmeasured := Ramp.abs_step_sub_le hrate hmeasured desired

omit [MathLibrary K] in
/-- A brake without the factor `dt` stays within the increment only if that is no constraint. -/
lemma ramped_brake_iff {limit brake : K} (hlimit : 0 ≤ limit) (hbrake : 0 < brake) (dt measured : K) :
    Ramped limit (dt * brake) measured 0 (Ramp.step limit brake measured 0) ↔
      (|measured| ≤ limit → |measured| ≤ dt * brake ∨ 1 ≤ dt) := by
  have hstep : |measured| ≤ limit → (|Ramp.step limit brake measured 0 - measured| ≤ dt * brake ↔
      |measured| ≤ dt * brake ∨ 1 ≤ dt) := by
    intro hmeasured
    rw [Ramp.abs_step_zero_sub hbrake.le hmeasured, min_le_iff, or_comm, le_mul_iff_one_le_left hbrake]
  constructor
  · intro hramped hmeasured
    exact (hstep hmeasured).mp (hramped.near hmeasured)
  · intro hslow
    have hramped := ramped_step hlimit hbrake.le measured 0
    exact ⟨hramped.bounded, hramped.between, fun hmeasured => (hstep hmeasured).mpr (hslow hmeasured)⟩

/-! ### The update -/

lemma value_clampFloat (value : Exact K) {threshold : Exact K} (h : 0 ≤ threshold.value) :
    (clampFloat value threshold).value = Ramp.clamp threshold.value value.value := by
  rw [Ramp.clamp_eq_ite h]
  unfold clampFloat
  simp only [Exact.lt_iff, Exact.value_neg]
  split
  · rfl
  · split <;> rfl

/-- Two clamps as `updateVelocity` nests them are a step of a ramp. -/
lemma value_ramp (measured desired : Exact K) {rate limit : Exact K} (hrate : 0 ≤ rate.value)
    (hlimit : 0 ≤ limit.value) :
    (clampFloat (measured + clampFloat (desired - measured) rate) limit).value =
      Ramp.step limit.value rate.value measured.value desired.value := by
  rw [value_clampFloat _ hlimit, Exact.value_add, value_clampFloat _ hrate, Exact.value_sub, Ramp.step]

section

variable {d : DriveSetup (Exact K)} (hdt : 0 < d.dt.value) (hlimits : PositiveLimits d.params)
  (encoderLeft encoderRight : Int16) (control : DifferentialDriveControlPacket (Exact K))
  (status : DifferentialDriveStatusPacket (Exact K)) (tvm rvm : Exact K)
include hdt hlimits

lemma updateVelocity_translational :
    ((d.controller encoderLeft encoderRight).updateVelocity d.params control status tvm
        rvm).translationalVelocityAdjusted.value =
      Ramp.step d.params.maxTranslationalVelocity.value
        (if control.translationalVelocity.value = 0 then d.params.maxTranslationalBrake.value
          else d.params.maxTranslationalAcceleration.value * d.dt.value)
        tvm.value control.translationalVelocity.value := by
  have hacceleration := mul_pos hlimits.maxTranslationalAcceleration hdt
  simp only [updateVelocity, Exact.eq_iff, Exact.value_const, Rat.cast_zero]
  split
  · exact value_ramp _ _ hlimits.maxTranslationalBrake.le hlimits.maxTranslationalVelocity.le
  · exact value_ramp tvm _ hacceleration.le hlimits.maxTranslationalVelocity.le

lemma updateVelocity_rotational :
    ((d.controller encoderLeft encoderRight).updateVelocity d.params control status tvm
        rvm).rotationalVelocityAdjusted.value =
      Ramp.step d.params.maxRotationalVelocity.value
        (d.params.maxRotationalAcceleration.value * d.dt.value) rvm.value
        control.rotationalVelocity.value :=
  value_ramp rvm _ (mul_pos hlimits.maxRotationalAcceleration hdt).le hlimits.maxRotationalVelocity.le

lemma updateVelocity_ramped_iff :
    VelocitiesRamped d control
        ((d.controller encoderLeft encoderRight).updateVelocity d.params control status tvm rvm) ↔
      (control.translationalVelocity.value = 0 →
        |tvm.value| ≤ d.params.maxTranslationalVelocity.value →
          |tvm.value| ≤ d.dt.value * d.params.maxTranslationalBrake.value ∨ 1 ≤ d.dt.value) := by
  have htranslational := updateVelocity_translational hdt hlimits encoderLeft encoderRight control status
    tvm rvm
  have hrotational := updateVelocity_rotational hdt hlimits encoderLeft encoderRight control status tvm rvm
  have hacceleration := mul_pos hlimits.maxTranslationalAcceleration hdt
  have hrotation := mul_pos hlimits.maxRotationalAcceleration hdt
  have hlimit := hlimits.maxTranslationalVelocity.le
  rw [mul_comm] at hacceleration hrotation
  constructor
  · intro hramped hstop
    have hbrake := hramped.translational
    rw [htranslational, if_pos hstop, if_pos hstop, hstop] at hbrake
    exact (ramped_brake_iff hlimit hlimits.maxTranslationalBrake _ _).mp hbrake
  · intro hslow
    constructor
    · rw [htranslational]
      split
      · next hstop =>
        rw [hstop]
        exact (ramped_brake_iff hlimit hlimits.maxTranslationalBrake _ _).mpr (hslow hstop)
      · rw [mul_comm d.params.maxTranslationalAcceleration.value]
        exact ramped_step hlimit hacceleration.le _ _
    · rw [hrotational, mul_comm d.params.maxRotationalAcceleration.value]
      exact ramped_step hlimits.maxRotationalVelocity.le hrotation.le _ _

end

/-- After its initialisation and any calls, an update ramps both velocities if and only if it is not to brake
harder than the increment for its time allows. -/
theorem velocities_ramped_iff (d : DriveSetup (Exact K)) (hdt : 0 < d.dt.value)
    (hlimits : PositiveLimits d.params) (ctr₀ : DifferentialDriveController (Exact K))
    (status₀ : DifferentialDriveStatusPacket (Exact K)) (joints₀ : Fin NUM_MOTORS → JointInfo)
    (s₁ : DriveState K)
    (hinit : ctr₀.init d.params status₀ joints₀ d.left d.right d.dt d.jointsDt = .ok s₁)
    (calls : List (DriveCall K)) (os : List Unit) (s : DriveState K)
    (hrun : StepMachine.run driveCall s₁ calls = .ok (os, s)) (input : DriveInput K)
    (hparams : input.params = d.params) :
    ∃ s', driveStep s input = .ok ((), s') ∧
      (VelocitiesRamped d input.control s'.2 ↔ BrakesGently d s.1 input) := by
  obtain ⟨left, right, hwheels⟩ := exists_wheels_of_init hinit
  have hcontroller := controller_of_run hwheels hinit hrun
  obtain ⟨status', tvm, rvm, hupdate, htvm, -⟩ := exists_update_eq hwheels
    (lastJoints joints₀ calls left).encoderPosition.toInt16
    (lastJoints joints₀ calls right).encoderPosition.toInt16 input.params input.control input.joints s.2
  rw [DriveSetup.controllerAt] at hcontroller
  rw [← hcontroller] at hupdate htvm
  refine ⟨_, driveStep_of_update hupdate, ?_⟩
  rw [BrakesGently, ← htvm, hparams]
  exact updateVelocity_ramped_iff hdt hlimits _ _ input.control status' tvm rvm

/-! ### The initial parameters -/

noncomputable def velocityInput (n : UInt16) (tv : ℚ) : DriveInput ℝ :=
  ⟨initDriveParams, { initDriveControl with translationalVelocity := const tv }, bothWheels n⟩

lemma initialSetup_dt : initialSetup.dt.value = 2 / 100 := by
  rw [initialSetup, Exact.value_const]
  norm_num

lemma initialSetup_dt_pos : 0 < initialSetup.dt.value := by
  rw [initialSetup_dt]
  norm_num

lemma initialSetup_positive : PositiveLimits initialSetup.params := by
  constructor <;> norm_num [initialSetup, initDriveParams]

/-- The robot starts to move. -/
theorem velocities_ramped_iff_start :
    ∃ s', driveStep initialState (velocityInput 0 1) = .ok ((), s') ∧
      VelocitiesRamped initialSetup (velocityInput 0 1).control s'.2 := by
  obtain ⟨s', hs', hiff⟩ := velocities_ramped_iff initialSetup initialSetup_dt_pos initialSetup_positive
    .zero initDriveStatus initJointStatus.joints initialState init_initialSetup [] [] initialState rfl
    (velocityInput 0 1) rfl
  refine ⟨s', hs', hiff.mpr ?_⟩
  intro hstop
  norm_num [velocityInput] at hstop

/-- The robot moves at half of its speed and is to stop: it stops at once, and not by the 0.08 that
`max_translational_brake` allows for 0.02 seconds. -/
theorem brake_not_ramped :
    ∃ s', driveStep initialState (velocityInput 20 0) = .ok ((), s') ∧
      s'.2.translationalVelocityMeasured.value = 1 ∧ s'.2.translationalVelocityAdjusted.value = 0 ∧
      ¬VelocitiesRamped initialSetup (velocityInput 20 0).control s'.2 := by
  have hwheels : initialSetup.Wheels 1 0 := ⟨rfl, rfl⟩
  obtain ⟨status, tvm, rvm, hupdate, htvm, -⟩ := exists_update_eq hwheels 0 0 initialSetup.params
    (velocityInput 20 0).control (velocityInput 20 0).joints initialState.2
  have hmeasured : tvm.value = 1 := by
    have hleft : wheelTicks (some 1) 0 (bothWheels 20) = 20 := by decide
    have hright : wheelTicks (some 0) 0 (bothWheels 20) = 20 := by decide
    have htranslation : translation initialSetup.params (initialSetup.controller 0 0) (bothWheels 20) =
        ((1 / 1000 : ℚ) * (wheelTicks (some 0) 0 (bothWheels 20) : ℤ) +
          (1 / 1000 : ℚ) * (wheelTicks (some 1) 0 (bothWheels 20) : ℤ)) / 2 := rfl
    rw [htvm, initialSetup_dt, show (velocityInput 20 0).joints = bothWheels 20 from rfl, htranslation,
      hleft, hright]
    norm_num
  have hadjusted := updateVelocity_translational initialSetup_dt_pos initialSetup_positive 20 20
    (velocityInput 20 0).control status tvm rvm
  rw [if_pos (by norm_num [velocityInput]), hmeasured] at hadjusted
  have hzero : ((initialSetup.controller 20 20).updateVelocity initialSetup.params
      (velocityInput 20 0).control status tvm rvm).translationalVelocityAdjusted.value = 0 := by
    rw [hadjusted]
    norm_num [Ramp.step, Ramp.clamp, initialSetup, initDriveParams, velocityInput]
  refine ⟨_, driveStep_of_update hupdate, hmeasured, hzero, ?_⟩
  intro hramped
  have hlimit : initialSetup.params.maxTranslationalVelocity.value = 2 := by
    norm_num [initialSetup, initDriveParams]
  have hbrake : initialSetup.params.maxTranslationalBrake.value = 4 := by
    norm_num [initialSetup, initDriveParams]
  have hwithin : |tvm.value| ≤ initialSetup.params.maxTranslationalVelocity.value := by
    rw [hmeasured, hlimit]
    norm_num
  have hnear := hramped.translational.near hwithin
  change |((initialSetup.controller 20 20).updateVelocity initialSetup.params
    (velocityInput 20 0).control status tvm rvm).translationalVelocityAdjusted.value - tvm.value| ≤ _ at hnear
  rw [hzero, hmeasured, if_pos (by norm_num [velocityInput]), initialSetup_dt, hbrake] at hnear
  norm_num at hnear

end Orazio.Proofs
