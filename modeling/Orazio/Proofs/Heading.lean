import Orazio.Lib.SingleWrap
import Orazio.Lib.StepMachine
import Orazio.Model.ExactArithmetic
import Orazio.Model.OrazioGlobals

/-!
# The heading of the robot

With exact arithmetic the heading follows the rotation of the robot up to whole turns. It is wrapped
once an update, so that it stays between `-M_PI` and `M_PI` as long as no update turns it too far.
-/

namespace Orazio.Proofs

open CFloat DifferentialDriveController

/-! ### The calls of the controller -/

/-- The motion of a wheel since its encoder had the value `previous`. -/
def tickDifference (previous : Int16) (joint : JointInfo) : Int16 :=
  (joint.encoderPosition - previous.toUInt16).toInt16

section

variable {F : Type} [CFloat F] {ctr : DifferentialDriveController F} {left right : Fin NUM_MOTORS}

/-- The controller with the encoder values of its two joints. -/
def readEncoders (ctr : DifferentialDriveController F) (joints : Fin NUM_MOTORS → JointInfo)
    (left right : Fin NUM_MOTORS) : DifferentialDriveController F :=
  { ctr with
    encoderLeftPrevious := (joints left).encoderPosition.toInt16
    encoderRightPrevious := (joints right).encoderPosition.toInt16 }

/-- A reset returns if the two joints exist, and reads their encoders. -/
lemma reset_eq_ok_iff {status : DifferentialDriveStatusPacket F} {joints : Fin NUM_MOTORS → JointInfo}
    {x y theta : F} {s : DifferentialDriveController F × DifferentialDriveStatusPacket F} :
    ctr.reset status joints x y theta = .ok s ↔
      ∃ left right, jointIndex ctr.leftJoint = .ok left ∧ jointIndex ctr.rightJoint = .ok right ∧
        s = (readEncoders ctr joints left right, resetStatus status x y theta) := by
  unfold DifferentialDriveController.reset
  cases jointIndex ctr.leftJoint with
  | error e => simp
  | ok left =>
    cases jointIndex ctr.rightJoint with
    | error e => simp
    | ok right => simp [readEncoders, eq_comm]

/-- An update returns if the two joints exist, and integrates the motion of the two wheels. -/
lemma update_eq_ok_iff {params : DifferentialDriveParamPacket F} {control : DifferentialDriveControlPacket F}
    {joints : Fin NUM_MOTORS → JointInfo} {status : DifferentialDriveStatusPacket F}
    {s : DifferentialDriveController F × DifferentialDriveStatusPacket F} :
    ctr.update params control joints status = .ok s ↔
      ∃ left right, jointIndex ctr.leftJoint = .ok left ∧ jointIndex ctr.rightJoint = .ok right ∧
        let odometry := (readEncoders ctr joints left right).updateOdometry
          (tickDifference ctr.encoderLeftPrevious (joints left))
          (tickDifference ctr.encoderRightPrevious (joints right)) status
        s = (readEncoders ctr joints left right, (readEncoders ctr joints left right).updateVelocity params
          control odometry.1 odometry.2.1 odometry.2.2) := by
  unfold DifferentialDriveController.update
  cases jointIndex ctr.leftJoint with
  | error e => simp
  | ok left =>
    cases jointIndex ctr.rightJoint with
    | error e => simp
    | ok right => simp [readEncoders, tickDifference, eq_comm]

end

variable {K : Type} [Field K] [LinearOrder K] [MathLibrary K]

/-! ### One update -/

/-- The motion of a wheel since the last update, in ticks. -/
def wheelTicks (joint : Option UInt8) (previous : Int16) (joints : Fin NUM_MOTORS → JointInfo) : ℤ :=
  match jointIndex joint with
  | .ok i => ((joints i).encoderPosition - previous.toUInt16).toInt16.toInt
  | .error _ => 0

/-- The rotation of the robot since the last update. -/
def rotation (params : DifferentialDriveParamPacket (Exact K))
    (ctr : DifferentialDriveController (Exact K)) (joints : Fin NUM_MOTORS → JointInfo) : K :=
  (params.kr.value * wheelTicks ctr.rightJoint ctr.encoderRightPrevious joints -
    params.kl.value * wheelTicks ctr.leftJoint ctr.encoderLeftPrevious joints) / params.baseline.value

/-- The constants of the wheels are those of the parameters. -/
structure SameWheels (params : DifferentialDriveParamPacket (Exact K))
    (ctr : DifferentialDriveController (Exact K)) : Prop where
  kr : ctr.kr = params.kr
  kl : ctr.kl = params.kl
  ibaseline : ctr.ibaseline = const 1 / params.baseline

lemma value_normalizeTheta (theta : Exact K) :
    (normalizeTheta theta).value = SingleWrap.wrap MathLibrary.pi theta.value := by
  unfold normalizeTheta SingleWrap.wrap
  simp only [Exact.lt_iff, Exact.value_pi, Exact.value_neg]
  split
  · simp
  · split <;> simp

lemma updateOdometry_heading {params : DifferentialDriveParamPacket (Exact K)}
    {ctr : DifferentialDriveController (Exact K)} (hwheels : SameWheels params ctr)
    (leftTicks rightTicks : Int16) (status : DifferentialDriveStatusPacket (Exact K)) :
    (ctr.updateOdometry leftTicks rightTicks status).1.odomTheta.value =
      if leftTicks ≠ 0 ∨ rightTicks ≠ 0 then
        SingleWrap.wrap MathLibrary.pi (status.odomTheta.value +
          (params.kr.value * (rightTicks.toInt : K) - params.kl.value * (leftTicks.toInt : K)) /
            params.baseline.value)
      else status.odomTheta.value := by
  unfold updateOdometry
  split
  · simp only [value_normalizeTheta, Exact.value_add, Exact.value_mul, Exact.value_sub,
      Exact.value_ofInt, hwheels.kr, hwheels.kl, hwheels.ibaseline, Exact.value_div,
      Exact.value_const, Rat.cast_one, mul_one_div]
  · rfl

variable [IsStrictOrderedRing K]

/-- An update wraps the heading once. -/
lemma update_heading {params params' : DifferentialDriveParamPacket (Exact K)}
    {control : DifferentialDriveControlPacket (Exact K)} {joints : Fin NUM_MOTORS → JointInfo}
    {ctr ctr' : DifferentialDriveController (Exact K)}
    {status status' : DifferentialDriveStatusPacket (Exact K)} (hwheels : SameWheels params ctr)
    (hheading : |status.odomTheta.value| ≤ MathLibrary.pi)
    (h : ctr.update params' control joints status = .ok (ctr', status')) :
    SameWheels params ctr' ∧ status'.odomTheta.value =
      SingleWrap.wrap MathLibrary.pi (status.odomTheta.value + rotation params ctr joints) := by
  obtain ⟨left, right, hleft, hright, heq⟩ := update_eq_ok_iff.mp h
  cases heq
  refine ⟨⟨hwheels.kr, hwheels.kl, hwheels.ibaseline⟩, ?_⟩
  simp only [rotation, wheelTicks, hleft, hright]
  refine (updateOdometry_heading ⟨hwheels.kr, hwheels.kl, hwheels.ibaseline⟩ _ _ status).trans ?_
  split
  · rfl
  · next hrest =>
    rw [not_or, not_not, not_not, tickDifference, tickDifference] at hrest
    simp only [hrest.1, hrest.2]
    simp [SingleWrap.wrap_of_abs_le hheading]

/-! ### Runs -/

/-- What an update reads besides controller and status. -/
structure DriveInput (K : Type) where
  params : DifferentialDriveParamPacket (Exact K)
  control : DifferentialDriveControlPacket (Exact K)
  joints : Fin NUM_MOTORS → JointInfo

abbrev DriveState (K : Type) : Type :=
  DifferentialDriveController (Exact K) × DifferentialDriveStatusPacket (Exact K)

def driveStep (s : DriveState K) (i : DriveInput K) : Except Fault (Unit × DriveState K) :=
  match s.1.update i.params i.control i.joints s.2 with
  | .error e => .error e
  | .ok s' => .ok ((), s')

def heading (s : DriveState K) : K :=
  s.2.odomTheta.value

/-- The heading lies between `-M_PI` and `M_PI` and follows the rotation up to whole turns. -/
def Normalised (params : DifferentialDriveParamPacket (Exact K)) (s : DriveState K) (i : DriveInput K)
    (s' : DriveState K) : Prop :=
  |heading s'| ≤ MathLibrary.pi ∧
    ∃ k : ℤ, heading s' = heading s + rotation params s.1 i.joints + (2 * k : ℤ) * MathLibrary.pi

/-- The rotation takes the heading no further than one turn beyond the interval. -/
def TurnsOnce (params : DifferentialDriveParamPacket (Exact K)) (s : DriveState K) (i : DriveInput K) :
    Prop :=
  |heading s + rotation params s.1 i.joints| ≤ 3 * MathLibrary.pi

lemma driveStep_normalised_iff (hpi : 0 < (MathLibrary.pi : K))
    {params : DifferentialDriveParamPacket (Exact K)} {s s' : DriveState K} {i : DriveInput K}
    (hwheels : SameWheels params s.1) (hheading : |heading s| ≤ MathLibrary.pi)
    (h : driveStep s i = .ok ((), s')) :
    SameWheels params s'.1 ∧ (Normalised params s i s' ↔ TurnsOnce params s i) := by
  unfold driveStep at h
  split at h
  · cases h
  · next hupdate =>
    cases h
    obtain ⟨hwheels', hwrap⟩ := update_heading hwheels hheading hupdate
    refine ⟨hwheels', ?_⟩
    obtain ⟨k, hk⟩ := SingleWrap.exists_wrap_eq MathLibrary.pi (heading s + rotation params s.1 i.joints)
    unfold Normalised TurnsOnce
    rw [← SingleWrap.abs_wrap_le_iff hpi, show heading s' = _ from hwrap]
    apply and_iff_left
    use k
    apply hk.trans
    push_cast
    ring

lemma driveRun_normalised_iff (hpi : 0 < (MathLibrary.pi : K))
    {params : DifferentialDriveParamPacket (Exact K)} {s : DriveState K} (hwheels : SameWheels params s.1)
    (hheading : |heading s| ≤ MathLibrary.pi) (inputs : List (DriveInput K)) :
    StepMachine.Always driveStep (fun s i _ s' => Normalised params s i s') s inputs ↔
      StepMachine.Always driveStep (fun s i _ _ => TurnsOnce params s i) s inputs := by
  induction inputs generalizing s with
  | nil => exact Iff.rfl
  | cons i inputs ih =>
    cases hstep : driveStep s i with
    | error e => simp only [StepMachine.Always, hstep]
    | ok r =>
      obtain ⟨⟨⟩, s'⟩ := r
      obtain ⟨hwheels', hiff⟩ := driveStep_normalised_iff hpi hwheels hheading hstep
      rw [StepMachine.always_cons hstep, StepMachine.always_cons hstep, hiff]
      apply and_congr_right
      intro hturns
      exact ih hwheels' (hiff.mpr hturns).1

omit [IsStrictOrderedRing K] in
lemma reset_eq_ok {ctr : DifferentialDriveController (Exact K)}
    {status : DifferentialDriveStatusPacket (Exact K)} {joints : Fin NUM_MOTORS → JointInfo}
    {x y theta : Exact K} {s : DriveState K} (h : ctr.reset status joints x y theta = .ok s) :
    s.2.odomTheta = theta ∧ ∀ params, SameWheels params ctr → SameWheels params s.1 := by
  obtain ⟨left, right, -, -, rfl⟩ := reset_eq_ok_iff.mp h
  exact ⟨rfl, fun params hwheels => ⟨hwheels.kr, hwheels.kl, hwheels.ibaseline⟩⟩

/-- From a reset with a heading between `-M_PI` and `M_PI` on, every update leaves a normalised heading
if and only if no update rotates the robot so far that a single wrap cannot bring it back. -/
theorem heading_normalised_iff (hpi : 0 < (MathLibrary.pi : K))
    (params : DifferentialDriveParamPacket (Exact K)) (left right : UInt8) (dt jointsDt : Exact K)
    (ctr₀ : DifferentialDriveController (Exact K)) (s₁ s₂ : DriveState K)
    (status₀ : DifferentialDriveStatusPacket (Exact K)) (joints₀ joints₁ : Fin NUM_MOTORS → JointInfo)
    (hinit : ctr₀.init params status₀ joints₀ left right dt jointsDt = .ok s₁)
    (x y theta : Exact K) (htheta : |theta.value| ≤ MathLibrary.pi)
    (hreset : s₁.1.reset s₁.2 joints₁ x y theta = .ok s₂) (inputs : List (DriveInput K)) :
    StepMachine.Always driveStep (fun s i _ s' => Normalised params s i s') s₂ inputs ↔
      StepMachine.Always driveStep (fun s i _ _ => TurnsOnce params s i) s₂ inputs := by
  have hwheels := (reset_eq_ok hinit).2 params ⟨rfl, rfl, rfl⟩
  obtain ⟨hheading, hkept⟩ := reset_eq_ok hreset
  apply driveRun_normalised_iff hpi (hkept params hwheels)
  rw [heading, hheading]
  exact htheta

/-! ### The initial parameters -/

/-- The left wheel rests, the right wheel has turned by `n` ticks. -/
def rightWheel (n : UInt16) : Fin NUM_MOTORS → JointInfo :=
  fun i => { initJointStatus.joints i with encoderPosition := if i = 0 then n else 0 }

noncomputable def rightInput (n : UInt16) : DriveInput ℝ :=
  ⟨initDriveParams, initDriveControl, rightWheel n⟩

/-- The robot is set up at rest with the initial parameters. -/
structure SetUp (s₁ s₂ : DriveState ℝ) : Prop where
  init : DifferentialDriveController.zero.init initDriveParams initDriveStatus initJointStatus.joints 1 0
    (const (2 / 100)) (const (1 / 100)) = .ok s₁
  reset : s₁.1.reset s₁.2 initJointStatus.joints ⟨0⟩ ⟨0⟩ ⟨0⟩ = .ok s₂

lemma exists_setUp : ∃ s₁ s₂, SetUp s₁ s₂ ∧ SameWheels initDriveParams s₂.1 ∧ heading s₂ = 0 ∧
    (∀ n, rotation initDriveParams s₂.1 (rightWheel n) = n.toInt16.toInt / 400) ∧
    ∀ n, ∃ s', driveStep s₂ (rightInput n) = .ok ((), s') := by
  refine ⟨_, _, ⟨rfl, rfl⟩, ⟨rfl, rfl, rfl⟩, rfl, ?_, fun n => ⟨_, rfl⟩⟩
  intro n
  have hright : wheelTicks (some 0) 0 (rightWheel n) = n.toInt16.toInt := by
    change (n - 0).toInt16.toInt = _
    rw [UInt16.sub_zero]
  have hleft : wheelTicks (some 1) 0 (rightWheel n) = 0 := by
    change ((0 : UInt16) - 0).toInt16.toInt = 0
    decide
  change (((1 / 1000 : ℚ) : ℝ) * (wheelTicks (some 0) 0 (rightWheel n) : ℝ) -
    ((1 / 1000 : ℚ) : ℝ) * (wheelTicks (some 1) 0 (rightWheel n) : ℝ)) / ((4 / 10 : ℚ) : ℝ) = _
  rw [hright, hleft]
  push_cast
  ring

/-- The right wheel turns by 100 ticks. -/
theorem heading_normalised_iff_quarter :
    ∃ s₁ s₂ : DriveState ℝ, SetUp s₁ s₂ ∧
      StepMachine.Always driveStep (fun s i _ s' => Normalised initDriveParams s i s') s₂
        [rightInput 100] := by
  obtain ⟨s₁, s₂, hsetUp, -, hheading, hrotation, hstep⟩ := exists_setUp
  obtain ⟨s', hs'⟩ := hstep 100
  have hpi : (MathLibrary.pi : ℝ) = 3.141592654 := rfl
  have hticks : (100 : UInt16).toInt16.toInt = 100 := by decide
  refine ⟨s₁, s₂, hsetUp, (heading_normalised_iff ?_ initDriveParams 1 0 _ _ .zero s₁ s₂ initDriveStatus
    initJointStatus.joints initJointStatus.joints hsetUp.init ⟨0⟩ ⟨0⟩ ⟨0⟩ ?_ hsetUp.reset _).mpr ?_⟩
  · rw [hpi]
    norm_num
  · rw [hpi, abs_zero]
    norm_num
  · have hjoints : (rightInput 100).joints = rightWheel 100 := rfl
    rw [StepMachine.always_cons hs', TurnsOnce, hheading, hjoints, hrotation, hticks, hpi]
    constructor
    · rw [abs_le]
      norm_num
    · trivial

/-- The right wheel jumps by 8000 ticks, and the heading leaves the interval. -/
theorem heading_not_normalised :
    ∃ s₁ s₂ s₃ : DriveState ℝ, SetUp s₁ s₂ ∧ driveStep s₂ (rightInput 8000) = .ok ((), s₃) ∧
      MathLibrary.pi < heading s₃ ∧
      ¬StepMachine.Always driveStep (fun s i _ s' => Normalised initDriveParams s i s') s₂
        [rightInput 8000] := by
  obtain ⟨s₁, s₂, hsetUp, hwheels, hheading, hrotation, hstep⟩ := exists_setUp
  obtain ⟨s₃, hs₃⟩ := hstep 8000
  have hpi : (MathLibrary.pi : ℝ) = 3.141592654 := rfl
  have hticks : (8000 : UInt16).toInt16.toInt = 8000 := by decide
  have hout : MathLibrary.pi < heading s₃ := by
    have hupdate : s₂.1.update initDriveParams initDriveControl (rightWheel 8000) s₂.2 = .ok s₃ := by
      unfold driveStep at hs₃
      split at hs₃
      · cases hs₃
      · next hupdate =>
        cases hs₃
        exact hupdate
    have hsmall : |s₂.2.odomTheta.value| ≤ MathLibrary.pi := by
      rw [show s₂.2.odomTheta.value = 0 from hheading, hpi, abs_zero]
      norm_num
    have hwrap := (update_heading hwheels hsmall hupdate).2
    rw [show s₂.2.odomTheta.value = 0 from hheading, hrotation, hticks, hpi] at hwrap
    rw [heading, hwrap, hpi]
    norm_num [SingleWrap.wrap]
  refine ⟨s₁, s₂, s₃, hsetUp, hs₃, hout, ?_⟩
  rw [StepMachine.always_cons hs₃]
  rintro ⟨⟨hle, -⟩, -⟩
  exact absurd (le_of_abs_le hle) (not_le.mpr hout)

end Orazio.Proofs
