import Orazio.Lib.CircularArc
import Orazio.Lib.SineSums
import Orazio.Proofs.DriveCalls

/-!
# The odometry

`_computeThetaTerms` evaluates the beginnings of two series in one loop. With exact arithmetic their errors
are the terms that follow, for every angle, and an update moves the platform along a circular arc up to these
errors.
-/

namespace Orazio.Proofs

open CFloat DifferentialDriveController SineSums CircularArc Finset

/-! ### The loop -/

/-- The terms after `n` rounds of the loop. -/
structure ThetaSums {K : Type} [Field K] [LinearOrder K] [MathLibrary K] (theta : Exact K) (n : ℕ)
    (t : ThetaTerms (Exact K)) : Prop where
  sin : t.sinThetaOverTheta.value =
    ∑ i ∈ range n, if i % 2 = 1 then 0 else theta.value ^ i * ((sinCoeffs.getD i (const 0) : Exact K)).value
  cos : t.oneMinusCosThetaOverTheta.value =
    ∑ i ∈ range n, if i % 2 = 1 then theta.value ^ i * ((cosCoeffs.getD i (const 0) : Exact K)).value else 0
  acc : t.thetaAcc.value = theta.value ^ n

section

variable {K : Type} [Field K] [LinearOrder K] [MathLibrary K]

/-- A round adds the next power to one of the two sums. -/
lemma ThetaSums.next {theta : Exact K} {n : ℕ} {t : ThetaTerms (Exact K)} (h : ThetaSums theta n t) :
    ThetaSums theta (n + 1) (t.next theta n) := by
  unfold ThetaTerms.next
  by_cases hodd : n % 2 = 1
  · simp only [if_pos hodd]
    constructor
    · rw [sum_range_succ, if_pos hodd, add_zero, h.sin]
    · rw [sum_range_succ, if_pos hodd, Exact.value_add, Exact.value_mul, h.cos, h.acc]
    · rw [Exact.value_mul, h.acc, pow_succ]
  · simp only [if_neg hodd]
    constructor
    · rw [sum_range_succ, if_neg hodd, Exact.value_add, Exact.value_mul, h.sin, h.acc]
    · rw [sum_range_succ, if_neg hodd, add_zero, h.cos]
    · rw [Exact.value_mul, h.acc, pow_succ]

lemma thetaSums_loop (theta : Exact K) (n : ℕ) :
    ThetaSums theta n ((List.range n).foldl (ThetaTerms.next theta) ⟨const 0, const 0, const 1⟩) := by
  induction n with
  | zero => exact ⟨by simp, by simp, by simp⟩
  | succ n ih =>
    rw [List.range_succ, List.foldl_append]
    exact ih.next

end

/-! ### The two polynomials -/

lemma value_sinThetaOverTheta (theta : ℝ) :
    (computeThetaTerms (⟨theta⟩ : Exact ℝ)).sinThetaOverTheta.value = 1 - theta ^ 2 / 6 + theta ^ 4 / 120 := by
  have hsum := (thetaSums_loop (⟨theta⟩ : Exact ℝ) 6).sin
  rw [computeThetaTerms, hsum]
  simp [sum_range_succ, sinCoeffs]
  ring

lemma value_oneMinusCosThetaOverTheta (theta : ℝ) :
    (computeThetaTerms (⟨theta⟩ : Exact ℝ)).oneMinusCosThetaOverTheta.value =
      theta / 2 - theta ^ 3 / 24 + theta ^ 5 / 720 := by
  have hsum := (thetaSums_loop (⟨theta⟩ : Exact ℝ) 6).cos
  rw [computeThetaTerms, hsum]
  simp [sum_range_succ, cosCoeffs]
  ring

/-! ### Their errors -/

/-- The two results of `_computeThetaTerms` for an angle, with exact arithmetic. -/
structure ThetaTermsExact (theta : ℝ) (t : ThetaTerms (Exact ℝ)) : Prop where
  sin : t.sinThetaOverTheta.value = 1 - theta ^ 2 / 6 + theta ^ 4 / 120
  cos : t.oneMinusCosThetaOverTheta.value = theta / 2 - theta ^ 3 / 24 + theta ^ 5 / 720
  sin_error : theta ≠ 0 → |t.sinThetaOverTheta.value - Real.sin theta / theta| ≤ theta ^ 6 / 5040
  cos_error : theta ≠ 0 →
    |t.oneMinusCosThetaOverTheta.value - (1 - Real.cos theta) / theta| ≤ |theta| ^ 7 / 40320

/-- The error of a quotient by the angle. -/
lemma abs_div_le_of_abs_le {theta a : ℝ} {m : ℕ} {c : ℝ} (htheta : theta ≠ 0)
    (h : |a| ≤ |theta| ^ (m + 1) / c) : |a / theta| ≤ |theta| ^ m / c := by
  have hpos : 0 < |theta| := abs_pos.mpr htheta
  rw [abs_div, div_le_iff₀ hpos]
  apply h.trans_eq
  rw [pow_succ]
  ring

lemma sin_error {theta : ℝ} (htheta : theta ≠ 0) :
    |1 - theta ^ 2 / 6 + theta ^ 4 / 120 - Real.sin theta / theta| ≤ theta ^ 6 / 5040 := by
  have hsum : sinSum 3 theta = theta * (1 - theta ^ 2 / 6 + theta ^ 4 / 120) := by
    simp [sinSum, sum_range_succ, Nat.factorial]
    ring
  have hbound := abs_sin_sub_sinSum_le 3 theta
  rw [abs_sub_comm] at hbound
  have hquotient := abs_div_le_of_abs_le (m := 6) htheta hbound
  rw [hsum, sub_div, mul_div_cancel_left₀ _ htheta, Even.pow_abs (by decide)] at hquotient
  exact hquotient

lemma cos_error {theta : ℝ} (htheta : theta ≠ 0) :
    |theta / 2 - theta ^ 3 / 24 + theta ^ 5 / 720 - (1 - Real.cos theta) / theta| ≤
      |theta| ^ 7 / 40320 := by
  have hsum : cosSum 4 theta = 1 - theta * (theta / 2 - theta ^ 3 / 24 + theta ^ 5 / 720) := by
    simp [cosSum, sum_range_succ, Nat.factorial]
    ring
  have hquotient := abs_div_le_of_abs_le (m := 7) htheta (abs_cos_sub_cosSum_le 4 theta)
  have hsplit : Real.cos theta - cosSum 4 theta =
      theta * (theta / 2 - theta ^ 3 / 24 + theta ^ 5 / 720) - (1 - Real.cos theta) := by
    rw [hsum]
    ring
  rw [hsplit, sub_div, mul_div_cancel_left₀ _ htheta] at hquotient
  exact hquotient

lemma thetaTerms_exact (theta : ℝ) : ThetaTermsExact theta (computeThetaTerms ⟨theta⟩) where
  sin := value_sinThetaOverTheta theta
  cos := value_oneMinusCosThetaOverTheta theta
  sin_error htheta := by
    rw [value_sinThetaOverTheta]
    exact sin_error htheta
  cos_error htheta := by
    rw [value_oneMinusCosThetaOverTheta]
    exact cos_error htheta

/-! ### One update -/

/-- The displacement of an update differs from that along any path of the arc by the errors of the two
terms. -/
structure FollowsArc (length turn : ℝ) (status status' : DifferentialDriveStatusPacket (Exact ℝ)) : Prop where
  forward : ∀ path : Path length turn status.odomTheta.value,
    |ahead status.odomTheta.value (status'.odomX.value - status.odomX.value)
      (status'.odomY.value - status.odomY.value) - path.forward| ≤ |length| * (turn ^ 6 / 5040)
  lateral : ∀ path : Path length turn status.odomTheta.value,
    |aside status.odomTheta.value (status'.odomX.value - status.odomX.value)
      (status'.odomY.value - status.odomY.value) - path.lateral| ≤ |length| * (|turn| ^ 7 / 40320)

/-- The position after an update, with the length and the angle of the motion. -/
structure MovesBy (length turn : ℝ) (status status' : DifferentialDriveStatusPacket (Exact ℝ)) : Prop where
  x : status'.odomX.value = status.odomX.value +
    (Real.cos status.odomTheta.value *
        (length * (computeThetaTerms (⟨turn⟩ : Exact ℝ)).sinThetaOverTheta.value) -
      Real.sin status.odomTheta.value *
        (length * (computeThetaTerms (⟨turn⟩ : Exact ℝ)).oneMinusCosThetaOverTheta.value))
  y : status'.odomY.value = status.odomY.value +
    (Real.sin status.odomTheta.value *
        (length * (computeThetaTerms (⟨turn⟩ : Exact ℝ)).sinThetaOverTheta.value) +
      Real.cos status.odomTheta.value *
        (length * (computeThetaTerms (⟨turn⟩ : Exact ℝ)).oneMinusCosThetaOverTheta.value))

lemma value_sin (x : Exact ℝ) : (CFloat.sin x).value = Real.sin x.value := rfl

lemma value_cos (x : Exact ℝ) : (CFloat.cos x).value = Real.cos x.value := rfl

lemma updateOdometry_movesBy {params : DifferentialDriveParamPacket (Exact ℝ)}
    {ctr : DifferentialDriveController (Exact ℝ)} (hwheels : SameWheels params ctr)
    (leftTicks rightTicks : Int16) (status : DifferentialDriveStatusPacket (Exact ℝ)) :
    MovesBy ((params.kr.value * rightTicks.toInt + params.kl.value * leftTicks.toInt) / (2 : ℤ))
      ((params.kr.value * rightTicks.toInt - params.kl.value * leftTicks.toInt) / params.baseline.value)
      status (ctr.updateOdometry leftTicks rightTicks status).1 := by
  have hturn : (params.kr * ofInt rightTicks.toInt - params.kl * ofInt leftTicks.toInt) * ctr.ibaseline =
      (⟨(params.kr.value * rightTicks.toInt - params.kl.value * leftTicks.toInt) /
        params.baseline.value⟩ : Exact ℝ) := by
    rw [hwheels.ibaseline]
    apply congrArg Exact.mk
    simp only [Exact.value_mul, Exact.value_sub, Exact.value_div, Exact.value_ofInt, Exact.value_const,
      Rat.cast_one, mul_one_div]
  unfold updateOdometry
  split
  · constructor
    · simp only [hwheels.kr, hwheels.kl, hturn, value_sin, value_cos, Exact.value_add, Exact.value_sub,
        Exact.value_mul, Exact.value_const, Exact.value_ofInt]
      push_cast
      ring
    · simp only [hwheels.kr, hwheels.kl, hturn, value_sin, value_cos, Exact.value_add, Exact.value_mul,
        Exact.value_const, Exact.value_ofInt]
      push_cast
      ring
  · next hrest =>
    rw [not_or, not_not, not_not] at hrest
    constructor
    · simp [hrest.1, hrest.2]
    · simp [hrest.1, hrest.2]

/-- The error of one part of the displacement from that of its term. -/
lemma abs_sub_le_of_term {d length a b bound : ℝ} (hd : d = length * a) (hbound : |a - b| ≤ bound) :
    |d - length * b| ≤ |length| * bound := by
  rw [hd, ← mul_sub, abs_mul]
  exact mul_le_mul_of_nonneg_left hbound (abs_nonneg length)

lemma MovesBy.followsArc {length turn : ℝ} {status status' : DifferentialDriveStatusPacket (Exact ℝ)}
    (h : MovesBy length turn status status') : FollowsArc length turn status status' := by
  have hterms := thetaTerms_exact turn
  constructor
  · intro path
    rw [h.x, h.y, add_sub_cancel_left, add_sub_cancel_left, path.forward_eq]
    apply abs_sub_le_of_term (ahead_rotate _ _ _)
    by_cases hturn : turn = 0
    · rw [hterms.sin, hturn]
      simp
    · rw [Real.sinc_of_ne_zero hturn]
      exact hterms.sin_error hturn
  · intro path
    rw [h.x, h.y, add_sub_cancel_left, add_sub_cancel_left, path.lateral_eq]
    apply abs_sub_le_of_term (aside_rotate _ _ _)
    by_cases hturn : turn = 0
    · rw [hterms.cos, hturn]
      simp
    · exact hterms.cos_error hturn

/-! ### Runs -/

/-- An update of an initialised controller moves the platform by the motion of its wheels. -/
lemma driveStep_movesBy {params : DifferentialDriveParamPacket (Exact ℝ)} {s s' : DriveState ℝ}
    (hwheels : SameWheels params s.1) {input : DriveInput ℝ} (h : driveStep s input = .ok ((), s')) :
    MovesBy (translation params s.1 input.joints) (rotation params s.1 input.joints) s.2 s'.2 := by
  unfold driveStep at h
  split at h
  · cases h
  · next hupdate =>
    cases h
    obtain ⟨left, right, hleft, hright, heq⟩ := update_eq_ok_iff.mp hupdate
    cases heq
    simp only [translation, rotation, wheelTicks, hleft, hright]
    have hread : SameWheels params (readEncoders s.1 input.joints left right) :=
      ⟨hwheels.kr, hwheels.kl, hwheels.ibaseline⟩
    have hmoves := updateOdometry_movesBy hread (tickDifference s.1.encoderLeftPrevious (input.joints left))
      (tickDifference s.1.encoderRightPrevious (input.joints right)) s.2
    exact ⟨hmoves.x, hmoves.y⟩

/-- The loop of `_computeThetaTerms` yields the beginnings of the two series, and every update after the
initialisation moves the platform along the arc of its wheels up to their errors. -/
theorem odometry_follows_arc :
    (∀ theta : ℝ, ThetaTermsExact theta (computeThetaTerms ⟨theta⟩)) ∧
      ∀ (d : DriveSetup (Exact ℝ)) (ctr₀ : DifferentialDriveController (Exact ℝ))
        (status₀ : DifferentialDriveStatusPacket (Exact ℝ)) (joints₀ : Fin NUM_MOTORS → JointInfo)
        (s₁ : DriveState ℝ),
        ctr₀.init d.params status₀ joints₀ d.left d.right d.dt d.jointsDt = .ok s₁ →
        ∀ (calls : List (DriveCall ℝ)) (os : List Unit) (s : DriveState ℝ),
          StepMachine.run driveCall s₁ calls = .ok (os, s) →
          ∀ (input : DriveInput ℝ) (s' : DriveState ℝ), driveStep s input = .ok ((), s') →
            FollowsArc (translation d.params s.1 input.joints) (rotation d.params s.1 input.joints)
              s.2 s'.2 := by
  refine ⟨thetaTerms_exact, ?_⟩
  intro d ctr₀ status₀ joints₀ s₁ hinit calls os s hrun input s' hstep
  obtain ⟨left, right, hwheels⟩ := exists_wheels_of_init hinit
  have hsame : SameWheels d.params s.1 := by
    rw [controller_of_run hwheels hinit hrun]
    exact ⟨rfl, rfl, rfl⟩
  exact (driveStep_movesBy hsame hstep).followsArc

/-- The right wheel turns by 100 ticks of a millimetre: the platform travels 5 cm along an arc of a quarter
radian. -/
theorem odometry_follows_arc_quarter :
    ∃ s', driveStep initialState (rightInput 100) = .ok ((), s') ∧
      FollowsArc (1 / 20) (1 / 4) initialState.2 s'.2 := by
  have hright : wheelTicks (some 0) 0 (rightWheel 100) = 100 := by decide
  have hleft : wheelTicks (some 1) 0 (rightWheel 100) = 0 := by decide
  have htranslation : translation initDriveParams initialState.1 (rightWheel 100) = 1 / 20 := by
    change (((1 / 1000 : ℚ) : ℝ) * (wheelTicks (some 0) 0 (rightWheel 100) : ℝ) +
      ((1 / 1000 : ℚ) : ℝ) * (wheelTicks (some 1) 0 (rightWheel 100) : ℝ)) / ((2 : ℤ) : ℝ) = _
    rw [hright, hleft]
    norm_num
  have hrotation : rotation initDriveParams initialState.1 (rightWheel 100) = 1 / 4 := by
    change (((1 / 1000 : ℚ) : ℝ) * (wheelTicks (some 0) 0 (rightWheel 100) : ℝ) -
      ((1 / 1000 : ℚ) : ℝ) * (wheelTicks (some 1) 0 (rightWheel 100) : ℝ)) / ((4 / 10 : ℚ) : ℝ) = _
    rw [hright, hleft]
    norm_num
  obtain ⟨s', hs'⟩ : ∃ s', driveStep initialState (rightInput 100) = .ok ((), s') := ⟨_, rfl⟩
  have harc := odometry_follows_arc.2 initialSetup .zero initDriveStatus initJointStatus.joints initialState
    init_initialSetup [] [] initialState rfl (rightInput 100) s' hs'
  refine ⟨s', hs', ?_⟩
  rw [← htranslation, ← hrotation]
  exact harc

end Orazio.Proofs
