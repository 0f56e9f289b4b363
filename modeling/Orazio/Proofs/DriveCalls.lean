import Orazio.Proofs.Heading

/-!
# The calls of the drive controller

After its initialisation the controller is only called to update or to reset the platform. Both keep what
was computed from the parameters, and both leave the encoder values they have read for the next update.
-/

namespace Orazio.Proofs

open CFloat DifferentialDriveController

/-! ### The initialised controller -/

/-- What `DifferentialDriveController_init` reads besides joints and status. -/
structure DriveSetup (F : Type) where
  params : DifferentialDriveParamPacket F
  left : UInt8
  right : UInt8
  dt : F
  jointsDt : F

namespace DriveSetup

variable {F : Type}

/-- The two wheels are existing joints. -/
structure Wheels (d : DriveSetup F) (left right : Fin NUM_MOTORS) : Prop where
  left : jointIndex (some d.left) = .ok left
  right : jointIndex (some d.right) = .ok right

variable [CFloat F]

/-- The controller after its initialisation, with the encoder values of the last call. -/
def controller (d : DriveSetup F) (encoderLeft encoderRight : Int16) : DifferentialDriveController F where
  leftJoint := some d.left
  rightJoint := some d.right
  dt := d.dt
  idt := const 1 / d.dt
  jointsDt := d.jointsDt
  kr := d.params.kr
  kl := d.params.kl
  ikr := const 1 / d.params.kr
  ikl := const 1 / d.params.kl
  baseline := d.params.baseline
  ibaseline := const 1 / d.params.baseline
  maxDtv := d.params.maxTranslationalAcceleration * d.dt
  maxDrv := d.params.maxRotationalAcceleration * d.dt
  encoderLeftPrevious := encoderLeft
  encoderRightPrevious := encoderRight

/-- The controller after a call with these joints. -/
def controllerAt (d : DriveSetup F) (left right : Fin NUM_MOTORS) (joints : Fin NUM_MOTORS → JointInfo) :
    DifferentialDriveController F :=
  d.controller (joints left).encoderPosition.toInt16 (joints right).encoderPosition.toInt16

end DriveSetup

/-! ### Encoder values -/

def FitsInt16 (v : ℤ) : Prop :=
  -32768 ≤ v ∧ v ≤ 32767

lemma bmod_of_fits {v : ℤ} (h : FitsInt16 v) : v.bmod 65536 = v := by
  unfold FitsInt16 at h
  exact Int.bmod_eq_of_le (by omega) (by omega)

lemma toInt_toInt16_ofInt (v : ℤ) : (UInt16.ofInt v).toInt16.toInt = v.bmod 65536 := by
  have hpos : 0 ≤ v % 65536 := Int.emod_nonneg v (by decide)
  change (BitVec.ofNat 16 (v % 65536).toNat).toInt = _
  rw [BitVec.toInt_ofNat', Int.toNat_of_nonneg hpos]
  exact Int.emod_bmod v 65536

/-- The tick difference is the advance of the encoder value, wrapped once. -/
lemma toInt_tickDifference {encoder : UInt16} {joint : JointInfo} {advance : ℤ}
    (h : joint.encoderPosition = encoder + UInt16.ofInt advance) :
    (tickDifference encoder.toInt16 joint).toInt = advance.bmod 65536 := by
  rw [tickDifference, h, UInt16.toUInt16_toInt16, UInt16.add_comm, UInt16.add_sub_cancel]
  exact toInt_toInt16_ofInt advance

/-! ### Update and reset -/

section

variable {F : Type} {d : DriveSetup F} {left right : Fin NUM_MOTORS}

lemma wheelTicks_left (hwheels : d.Wheels left right) (previous : Int16)
    (joints : Fin NUM_MOTORS → JointInfo) :
    wheelTicks (some d.left) previous joints = (tickDifference previous (joints left)).toInt := by
  rw [wheelTicks, hwheels.left, tickDifference]

lemma wheelTicks_right (hwheels : d.Wheels left right) (previous : Int16)
    (joints : Fin NUM_MOTORS → JointInfo) :
    wheelTicks (some d.right) previous joints = (tickDifference previous (joints right)).toInt := by
  rw [wheelTicks, hwheels.right, tickDifference]

variable [CFloat F]

lemma reset_eq (hwheels : d.Wheels left right) (encoderLeft encoderRight : Int16)
    (status : DifferentialDriveStatusPacket F) (joints : Fin NUM_MOTORS → JointInfo) (x y theta : F) :
    (d.controller encoderLeft encoderRight).reset status joints x y theta =
      .ok (d.controllerAt left right joints, resetStatus status x y theta) :=
  reset_eq_ok_iff.mpr ⟨left, right, hwheels.left, hwheels.right, rfl⟩

/-- An update integrates the motion of the two wheels and ramps the velocities. -/
lemma update_eq (hwheels : d.Wheels left right) (encoderLeft encoderRight : Int16)
    (params : DifferentialDriveParamPacket F) (control : DifferentialDriveControlPacket F)
    (joints : Fin NUM_MOTORS → JointInfo) (status : DifferentialDriveStatusPacket F) :
    (d.controller encoderLeft encoderRight).update params control joints status =
      let ctr := d.controllerAt left right joints
      let odometry := ctr.updateOdometry (tickDifference encoderLeft (joints left))
        (tickDifference encoderRight (joints right)) status
      .ok (ctr, ctr.updateVelocity params control odometry.1 odometry.2.1 odometry.2.2) :=
  update_eq_ok_iff.mpr ⟨left, right, hwheels.left, hwheels.right, rfl⟩

lemma init_eq (hwheels : d.Wheels left right) (ctr : DifferentialDriveController F)
    (status : DifferentialDriveStatusPacket F) (joints : Fin NUM_MOTORS → JointInfo) :
    ctr.init d.params status joints d.left d.right d.dt d.jointsDt =
      .ok (d.controllerAt left right joints, resetStatus status (const 0) (const 0) (const 0)) :=
  reset_eq hwheels ctr.encoderLeftPrevious ctr.encoderRightPrevious status joints _ _ _

/-- An initialisation that returns has found the two wheels. -/
lemma exists_wheels_of_init {ctr : DifferentialDriveController F} {status : DifferentialDriveStatusPacket F}
    {joints : Fin NUM_MOTORS → JointInfo}
    {s : DifferentialDriveController F × DifferentialDriveStatusPacket F}
    (h : ctr.init d.params status joints d.left d.right d.dt d.jointsDt = .ok s) :
    ∃ left right, d.Wheels left right := by
  obtain ⟨left, right, hleft, hright, -⟩ := reset_eq_ok_iff.mp h
  exact ⟨left, right, hleft, hright⟩

end

/-! ### Runs of calls -/

/-- A call of the controller after its initialisation. -/
inductive DriveCall (K : Type) where
  | update (input : DriveInput K)
  | reset (joints : Fin NUM_MOTORS → JointInfo) (x y theta : Exact K)

/-- The joints at the time of a call. -/
def DriveCall.joints {K : Type} : DriveCall K → Fin NUM_MOTORS → JointInfo
  | update input => input.joints
  | reset joints _ _ _ => joints

/-- The joints at the time of the last call. -/
def lastJoints {K : Type} (joints : Fin NUM_MOTORS → JointInfo) (calls : List (DriveCall K)) :
    Fin NUM_MOTORS → JointInfo :=
  calls.foldl (fun _ call => call.joints) joints

variable {K : Type} [Field K] [LinearOrder K] [MathLibrary K]

def driveCall (s : DriveState K) : DriveCall K → Except Fault (Unit × DriveState K)
  | .update input => driveStep s input
  | .reset joints x y theta =>
    match s.1.reset s.2 joints x y theta with
    | .error e => .error e
    | .ok s' => .ok ((), s')

lemma driveStep_of_update {s s' : DriveState K} {input : DriveInput K}
    (h : s.1.update input.params input.control input.joints s.2 = .ok s') :
    driveStep s input = .ok ((), s') := by
  rw [driveStep, h]

variable {d : DriveSetup (Exact K)} {left right : Fin NUM_MOTORS}

/-- Every call returns, and leaves what was initialised. -/
lemma exists_driveCall_eq (hwheels : d.Wheels left right) {s : DriveState K}
    {joints : Fin NUM_MOTORS → JointInfo} (hs : s.1 = d.controllerAt left right joints)
    (call : DriveCall K) :
    ∃ s', driveCall s call = .ok ((), s') ∧ s'.1 = d.controllerAt left right call.joints := by
  obtain ⟨ctr, status⟩ := s
  change ctr = _ at hs
  subst hs
  cases call with
  | update input =>
    obtain ⟨status', hupdate⟩ : ∃ status', (d.controllerAt left right joints).update input.params
        input.control input.joints status = .ok (d.controllerAt left right input.joints, status') :=
      ⟨_, update_eq hwheels _ _ _ _ _ _⟩
    refine ⟨(_, status'), ?_, rfl⟩
    exact driveStep_of_update hupdate
  | reset joints' x y theta =>
    refine ⟨(_, resetStatus status x y theta), ?_, rfl⟩
    simp only [driveCall, DriveSetup.controllerAt, reset_eq hwheels]
    rfl

/-- After any calls the controller is the initialised one at the joints of the last call. -/
lemma controller_of_run (hwheels : d.Wheels left right) {ctr₀ : DifferentialDriveController (Exact K)}
    {status₀ : DifferentialDriveStatusPacket (Exact K)} {joints₀ : Fin NUM_MOTORS → JointInfo}
    {s₁ s : DriveState K}
    (hinit : ctr₀.init d.params status₀ joints₀ d.left d.right d.dt d.jointsDt = .ok s₁)
    {calls : List (DriveCall K)} {os : List Unit} (hrun : StepMachine.run driveCall s₁ calls = .ok (os, s)) :
    s.1 = d.controllerAt left right (lastJoints joints₀ calls) := by
  rw [init_eq hwheels] at hinit
  cases hinit
  apply StepMachine.run_history
    (fun calls _ s => s.1 = d.controllerAt left right (lastJoints joints₀ calls)) rfl _ hrun
  intro calls os s call o s' hs hcall
  obtain ⟨t, ht, hcontroller⟩ := exists_driveCall_eq hwheels hs call
  rw [ht] at hcall
  cases hcall
  rw [hcontroller, lastJoints, List.foldl_append, List.foldl_cons, List.foldl_nil]

/-! ### Measured velocities -/

/-- The motion of the robot along its path since the last call. -/
def translation (params : DifferentialDriveParamPacket (Exact K))
    (ctr : DifferentialDriveController (Exact K)) (joints : Fin NUM_MOTORS → JointInfo) : K :=
  (params.kr.value * wheelTicks ctr.rightJoint ctr.encoderRightPrevious joints +
    params.kl.value * wheelTicks ctr.leftJoint ctr.encoderLeftPrevious joints) / (2 : ℤ)

variable [IsStrictOrderedRing K]

lemma updateOdometry_measured (d : DriveSetup (Exact K))
    (encoderLeft encoderRight leftTicks rightTicks : Int16)
    (status : DifferentialDriveStatusPacket (Exact K)) :
    let odometry := (d.controller encoderLeft encoderRight).updateOdometry leftTicks rightTicks status
    odometry.2.1.value =
        (d.params.kr.value * rightTicks.toInt + d.params.kl.value * leftTicks.toInt) / (2 : ℤ) /
          d.dt.value ∧
      odometry.2.2.value = (d.params.kr.value * rightTicks.toInt - d.params.kl.value * leftTicks.toInt) /
        d.params.baseline.value / d.dt.value := by
  unfold updateOdometry
  split
  · simp only [DriveSetup.controller, Exact.value_mul, Exact.value_add, Exact.value_sub, Exact.value_div,
      Exact.value_const, Exact.value_ofInt]
    push_cast
    constructor <;> ring
  · next hrest =>
    rw [not_or, not_not, not_not] at hrest
    simp [hrest.1, hrest.2]

/-- An update ramps the velocities of the motion since the last call. -/
lemma exists_update_eq (hwheels : d.Wheels left right) (encoderLeft encoderRight : Int16)
    (params : DifferentialDriveParamPacket (Exact K)) (control : DifferentialDriveControlPacket (Exact K))
    (joints : Fin NUM_MOTORS → JointInfo) (status : DifferentialDriveStatusPacket (Exact K)) :
    ∃ status' tvm rvm, (d.controller encoderLeft encoderRight).update params control joints status =
        .ok (d.controllerAt left right joints,
          (d.controllerAt left right joints).updateVelocity params control status' tvm rvm) ∧
      tvm.value = translation d.params (d.controller encoderLeft encoderRight) joints / d.dt.value ∧
      rvm.value = rotation d.params (d.controller encoderLeft encoderRight) joints / d.dt.value := by
  obtain ⟨htvm, hrvm⟩ := updateOdometry_measured d (joints left).encoderPosition.toInt16
    (joints right).encoderPosition.toInt16 (tickDifference encoderLeft (joints left))
    (tickDifference encoderRight (joints right)) status
  rw [← wheelTicks_left hwheels, ← wheelTicks_right hwheels] at htvm hrvm
  exact ⟨_, _, _, update_eq hwheels _ _ _ _ _ _, htvm, hrvm⟩

/-! ### The initial parameters -/

noncomputable def initialSetup : DriveSetup (Exact ℝ) :=
  ⟨initDriveParams, 1, 0, const (2 / 100), const (1 / 100)⟩

/-- Both wheels have turned by `n` ticks. -/
def bothWheels (n : UInt16) : Fin NUM_MOTORS → JointInfo :=
  fun i => { initJointStatus.joints i with encoderPosition := n }

noncomputable def initialState : DriveState ℝ :=
  (initialSetup.controllerAt 1 0 initJointStatus.joints,
    resetStatus initDriveStatus (const 0) (const 0) (const 0))

lemma init_initialSetup :
    DifferentialDriveController.zero.init initialSetup.params initDriveStatus initJointStatus.joints
      initialSetup.left initialSetup.right initialSetup.dt initialSetup.jointsDt = .ok initialState :=
  rfl

end Orazio.Proofs
