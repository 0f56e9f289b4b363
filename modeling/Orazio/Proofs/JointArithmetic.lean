import Mathlib.Algebra.Group.Int.Defs
import Orazio.Proofs.JointLimits

/-!
# The arithmetic of the closed loop

The branch `JointPID` computes in 16 bits and clamps only what is left of the results. Here its
formulas are evaluated over unbounded integers, and compared with what the controller stores.
-/

namespace Orazio.Proofs

/-! ### Unbounded integers -/

/-- `clamp` on unbounded integers. -/
def clampInt (v value : Int) : Int :=
  if v > value then value
  else if v < -value then -value
  else v

/-- What the closed loop reads. -/
structure PIDInput where
  kp : Int
  ki : Int
  kd : Int
  maxI : Int
  minPwm : Int
  maxPwm : Int
  maxSpeed : Int
  slope : Int
  speed : Int
  encoderSpeed : Int
  errorIntegral : Int
  previousError : Int

namespace PIDInput

/-- What `JointController_handle` reads with this measured speed. -/
def ofController (j : JointController) (params : JointParams) (control : JointControl)
    (encoderSpeed : Int16) : PIDInput where
  kp := params.kp.toInt
  ki := params.ki.toInt
  kd := params.kd.toInt
  maxI := params.maxI.toInt
  minPwm := params.minPwm.toInt
  maxPwm := params.maxPwm.toInt
  maxSpeed := params.maxSpeed.toInt
  slope := params.slope.toInt
  speed := control.speed.toInt
  encoderSpeed := encoderSpeed.toInt
  errorIntegral := j.errorIntegral.toInt
  previousError := j.previousError.toInt

def difference (x : PIDInput) : Int :=
  clampInt x.speed x.maxSpeed - x.encoderSpeed

def error (x : PIDInput) : Int :=
  clampInt x.difference x.slope

def rampReference (x : PIDInput) : Int :=
  x.encoderSpeed + x.error

/-- The integral before it is clamped. -/
def integralSum (x : PIDInput) : Int :=
  x.errorIntegral + x.error

def integral (x : PIDInput) : Int :=
  clampInt x.integralSum x.maxI

/-- The sum of the three products. -/
def correction (x : PIDInput) : Int :=
  x.kp * x.error + x.ki * x.integral + x.kd * (x.error - x.previousError)

/-- The output before it is limited. -/
def command (x : PIDInput) : Int :=
  x.rampReference + x.correction.tdiv 32

/-- A command that is clamped, and zeroed where it is small. -/
def limit (x : PIDInput) (command : Int) : Int :=
  let output := clampInt command x.maxPwm
  if output < x.minPwm ∧ output > -x.minPwm then 0 else output

def output (x : PIDInput) : Int :=
  x.limit x.command

/-! ### Sixteen bits -/

def Fits (v : Int) : Prop :=
  -2 ^ 15 ≤ v ∧ v < 2 ^ 15

instance (v : Int) : Decidable (Fits v) :=
  inferInstanceAs (Decidable (_ ∧ _))

/-- The number of 16 bits that is left of an integer. -/
def wrap (v : Int) : Int :=
  v.bmod (2 ^ 16)

/-- The command if the correction and the command itself are cut to 16 bits. -/
def wrappedCommand (x : PIDInput) : Int :=
  wrap (x.rampReference + (wrap x.correction).tdiv 32)

/-- The error and its integral are not cut to 16 bits, or the limits hide it. -/
def SumsFit (x : PIDInput) : Prop :=
  (Fits x.difference ∨ x.slope = 0) ∧ (Fits x.integralSum ∨ x.maxI = 0)

/-- No result is cut to 16 bits, or the limits hide it. -/
def HarmlessOverflow (x : PIDInput) : Prop :=
  x.SumsFit ∧ ((Fits x.correction ∧ Fits x.command) ∨ x.maxPwm = 0 ∨ x.maxPwm < x.minPwm)

instance (x : PIDInput) : Decidable x.SumsFit :=
  inferInstanceAs (Decidable (_ ∧ _))

instance (x : PIDInput) : Decidable x.HarmlessOverflow :=
  inferInstanceAs (Decidable (_ ∧ _))

lemma wrap_of_fits {v : Int} (h : Fits v) : wrap v = v := by
  unfold Fits at h
  unfold wrap
  exact Int.bmod_eq_of_le (by omega) (by omega)

lemma fits_wrap (v : Int) : Fits (wrap v) := by
  have hlow : -2 ^ 15 ≤ wrap v := Int.le_bmod (by decide)
  have hhigh : wrap v < 2 ^ 15 := Int.bmod_lt (by decide)
  exact ⟨hlow, hhigh⟩

/-- A difference that is cut to 16 bits changes its sign, which only a slope of zero hides. -/
lemma clampInt_wrap_iff {v value : Int} (hvalue : 0 ≤ value) (hfits : value < 2 ^ 15) (hlow : -2 ^ 16 ≤ v)
    (hhigh : v < 2 ^ 16) : clampInt (wrap v) value = clampInt v value ↔ Fits v ∨ value = 0 := by
  constructor
  · intro h
    by_contra hnot
    unfold Fits at hnot
    unfold clampInt wrap at h
    rw [Int.bmod_def] at h
    split at h <;> split at h <;> omega
  · rintro (h | rfl)
    · rw [wrap_of_fits h]
    · unfold clampInt
      omega

/-- With these limits every output is zero. -/
lemma limit_eq_zero {x : PIDInput} (hmax : 0 ≤ x.maxPwm) (h : x.maxPwm = 0 ∨ x.maxPwm < x.minPwm) (u : Int) :
    x.limit u = 0 := by
  have hlow : -x.maxPwm ≤ clampInt u x.maxPwm := by
    unfold clampInt
    split_ifs <;> omega
  have hhigh : clampInt u x.maxPwm ≤ x.maxPwm := by
    unfold clampInt
    split_ifs <;> omega
  unfold limit
  simp only
  split <;> omega

/-- A command that is cut to 16 bits changes its sign, which only limits of zero hide. -/
lemma limit_wrap_iff {x : PIDInput} (hmax : 0 ≤ x.maxPwm) (hfits : x.maxPwm < 2 ^ 15) {u : Int}
    (hlow : -2 ^ 16 ≤ u) (hhigh : u < 2 ^ 16) :
    x.limit (wrap u) = x.limit u ↔ Fits u ∨ x.maxPwm = 0 ∨ x.maxPwm < x.minPwm := by
  constructor
  · intro h
    by_contra hnot
    rw [not_or] at hnot
    have hclamp : clampInt u x.maxPwm = x.maxPwm ∧ clampInt (wrap u) x.maxPwm ≤ 0 ∨
        clampInt u x.maxPwm = -x.maxPwm ∧ 0 ≤ clampInt (wrap u) x.maxPwm := by
      obtain ⟨hout, -⟩ := hnot
      unfold Fits at hout
      unfold clampInt wrap
      rw [Int.bmod_def]
      split_ifs <;> omega
    unfold limit at h
    simp only at h
    split at h <;> split at h <;> omega
  · rintro (h | h)
    · rw [wrap_of_fits h]
    · rw [limit_eq_zero hmax h, limit_eq_zero hmax h]

/-- The correction is divided by 32. -/
lemma tdiv_of_fits {v : Int} (h : Fits v) : -1024 ≤ v.tdiv 32 ∧ v.tdiv 32 ≤ 1024 := by
  have hquotient : (v.tdiv 32).natAbs = v.natAbs / 32 := Int.natAbs_tdiv v 32
  unfold Fits at h
  omega

end PIDInput

/-! ### The controller -/

/-- None of the parameters of a joint is negative. -/
structure NonnegParams (params : JointParams) : Prop extends NonnegLimits params where
  kp : 0 ≤ params.kp
  ki : 0 ≤ params.ki
  kd : 0 ≤ params.kd

open PIDInput

lemma toInt_nonneg {v : Int16} (hv : 0 ≤ v) : 0 ≤ v.toInt := by
  have h := Int16.le_iff_toInt_le.mp hv
  rwa [Int16.toInt_zero] at h

lemma toInt_add_wrap (a b : Int16) : (a + b).toInt = wrap (a.toInt + b.toInt) :=
  Int16.toInt_add a b

lemma toInt_sub_wrap (a b : Int16) : (a - b).toInt = wrap (a.toInt - b.toInt) :=
  Int16.toInt_sub a b

lemma toInt_clamp (v : Int16) {value : Int16} (hvalue : 0 ≤ value) :
    (clamp v value).toInt = clampInt v.toInt value.toInt := by
  have hneg := toInt_neg hvalue
  unfold clamp clampInt
  simp only [gt_iff_lt, Int16.lt_iff_toInt_lt, hneg]
  split
  · rfl
  · split
    · exact hneg
    · rfl

section Handle

variable (j : JointController) {params : JointParams} (control : JointControl) (status : JointInfo)

/-- The branch `JointPID` as it reads its arguments. -/
abbrev pidInput (params : JointParams) : PIDInput :=
  .ofController j params control status.encoderSpeed

lemma difference_bounds (hspeed : 0 ≤ params.maxSpeed) :
    -2 ^ 16 ≤ (pidInput j control status params).difference ∧
      (pidInput j control status params).difference < 2 ^ 16 := by
  have hclamp := toInt_clamp control.speed hspeed
  have hlow := (clamp control.speed params.maxSpeed).le_toInt
  have hhigh := (clamp control.speed params.maxSpeed).toInt_lt
  have hlow' := status.encoderSpeed.le_toInt
  have hhigh' := status.encoderSpeed.toInt_lt
  simp only [difference, ofController]
  omega

lemma toInt_error (hparams : NonnegParams params) :
    (j.handlePID params control status).1.error.toInt =
      clampInt (wrap (pidInput j control status params).difference) params.slope.toInt := by
  simp only [JointController.handlePID, toInt_clamp _ hparams.slope, toInt_sub_wrap,
    toInt_clamp _ hparams.maxSpeed]
  rfl

/-- The error is exact if and only if the difference of the speeds fits, or the slope is zero. -/
lemma error_eq_iff (hparams : NonnegParams params) :
    (j.handlePID params control status).1.error.toInt = (pidInput j control status params).error ↔
      Fits (pidInput j control status params).difference ∨
        (pidInput j control status params).slope = 0 := by
  have hbounds := difference_bounds j control status hparams.maxSpeed
  rw [toInt_error j control status hparams]
  exact clampInt_wrap_iff (toInt_nonneg hparams.slope) params.slope.toInt_lt hbounds.1 hbounds.2

/-- The ramp lies between the measured and the desired speed. -/
lemma fits_rampReference (hparams : NonnegParams params) :
    Fits (pidInput j control status params).rampReference := by
  have hclamp := toInt_clamp control.speed hparams.maxSpeed
  have hlow := (clamp control.speed params.maxSpeed).le_toInt
  have hhigh := (clamp control.speed params.maxSpeed).toInt_lt
  have hlow' := status.encoderSpeed.le_toInt
  have hhigh' := status.encoderSpeed.toInt_lt
  have hslope := toInt_nonneg hparams.slope
  simp only [Fits, rampReference, PIDInput.error, difference, ofController, ← hclamp]
  unfold clampInt
  split <;> omega

lemma toInt_rampReference (hparams : NonnegParams params)
    (herror : (j.handlePID params control status).1.error.toInt =
      (pidInput j control status params).error) :
    (j.handlePID params control status).1.rampReference.toInt =
      (pidInput j control status params).rampReference := by
  have hstored : (j.handlePID params control status).1.rampReference =
      status.encoderSpeed + (j.handlePID params control status).1.error := rfl
  rw [hstored, toInt_add_wrap, herror]
  exact wrap_of_fits (fits_rampReference j control status hparams)

/-- The integral is exact if and only if its sum fits, or it is held at zero. -/
lemma errorIntegral_eq_iff (hparams : NonnegParams params)
    (herror : (j.handlePID params control status).1.error.toInt =
      (pidInput j control status params).error) :
    (j.handlePID params control status).1.errorIntegral.toInt =
        (pidInput j control status params).integral ↔
      Fits (pidInput j control status params).integralSum ∨
        (pidInput j control status params).maxI = 0 := by
  have hstored : (j.handlePID params control status).1.errorIntegral =
      clamp (j.errorIntegral + (j.handlePID params control status).1.error) params.maxI := by
    simp only [JointController.handlePID]
  have hmemory : (pidInput j control status params).errorIntegral = j.errorIntegral.toInt := rfl
  have hlow := j.errorIntegral.le_toInt
  have hhigh := j.errorIntegral.toInt_lt
  have hlow' := (j.handlePID params control status).1.error.le_toInt
  have hhigh' := (j.handlePID params control status).1.error.toInt_lt
  rw [hstored, toInt_clamp _ hparams.maxI, toInt_add_wrap]
  simp only [herror] at hlow' hhigh' ⊢
  exact clampInt_wrap_iff (toInt_nonneg hparams.maxI) params.maxI.toInt_lt
    (by omega) (by omega)

lemma toInt_limit (hparams : NonnegParams params) (command : Int16) :
    (if clamp command params.maxPwm < params.minPwm ∧ clamp command params.maxPwm > -params.minPwm then 0
      else clamp command params.maxPwm).toInt = (pidInput j control status params).limit command.toInt := by
  have hclamp := toInt_clamp command hparams.maxPwm
  have hneg := toInt_neg hparams.minPwm
  simp only [gt_iff_lt, Int16.lt_iff_toInt_lt, hneg, hclamp]
  split
  · next hsmall => exact (if_pos hsmall).symm
  · next hlarge => exact hclamp.trans (if_neg hlarge).symm

/-- The sum of the products is exact up to a multiple of 2^16, and so is the command. -/
lemma toInt_output (hparams : NonnegParams params)
    (herror : (j.handlePID params control status).1.error.toInt =
      (pidInput j control status params).error)
    (hintegral : (j.handlePID params control status).1.errorIntegral.toInt =
      (pidInput j control status params).integral) :
    (j.handlePID params control status).1.output.toInt =
      (pidInput j control status params).limit (pidInput j control status params).wrappedCommand := by
  have hramp := toInt_rampReference j control status hparams herror
  obtain ⟨j', hj'⟩ : ∃ j', j' = (j.handlePID params control status).1 := ⟨_, rfl⟩
  rw [← hj'] at herror hintegral hramp ⊢
  obtain ⟨correction, hcorrection⟩ : ∃ c : Int16, c = params.kp * j'.error +
      params.ki * j'.errorIntegral + params.kd * (j'.error - j.previousError) := ⟨_, rfl⟩
  have hwrap : correction.toInt = wrap (pidInput j control status params).correction := by
    rw [hcorrection]
    simp only [Int16.toInt_add, Int16.toInt_mul, Int16.toInt_sub, herror, hintegral, wrap,
      PIDInput.correction, ofController, Int.bmod_add_bmod, Int.add_bmod_bmod, Int.mul_bmod_bmod]
  obtain ⟨command, hcommand⟩ : ∃ c : Int16, c = j'.rampReference + correction / 32 := ⟨_, rfl⟩
  have hcommandWrap : command.toInt = (pidInput j control status params).wrappedCommand := by
    have hdiv : (correction / 32).toInt = correction.toInt.tdiv 32 :=
      Int16.toInt_div_of_ne_right correction 32 (by decide)
    rw [hcommand, toInt_add_wrap, hdiv, hwrap, hramp]
    rfl
  have hstored : j'.output =
      if clamp command params.maxPwm < params.minPwm ∧ clamp command params.maxPwm > -params.minPwm then 0
      else clamp command params.maxPwm := by
    simp only [hcommand, hcorrection, hj', JointController.handlePID]
  rw [hstored, ← hcommandWrap]
  exact toInt_limit j control status hparams command

/-- The error, its integral and the ramp are exact if and only if the first two are. -/
lemma sums_exact_iff (hparams : NonnegParams params) :
    ((j.handlePID params control status).1.error.toInt = (pidInput j control status params).error ∧
        (j.handlePID params control status).1.errorIntegral.toInt = (pidInput j control status params).integral ∧
        (j.handlePID params control status).1.rampReference.toInt =
          (pidInput j control status params).rampReference) ↔
      (pidInput j control status params).SumsFit := by
  constructor
  · rintro ⟨herror, hintegral, -⟩
    exact ⟨(error_eq_iff j control status hparams).mp herror,
      (errorIntegral_eq_iff j control status hparams herror).mp hintegral⟩
  · rintro ⟨hdifference, hsum⟩
    have herror := (error_eq_iff j control status hparams).mpr hdifference
    exact ⟨herror, (errorIntegral_eq_iff j control status hparams herror).mpr hsum,
      toInt_rampReference j control status hparams herror⟩

section Output

variable (hparams : NonnegParams params)
  (herror : (j.handlePID params control status).1.error.toInt = (pidInput j control status params).error)
  (hintegral : (j.handlePID params control status).1.errorIntegral.toInt =
    (pidInput j control status params).integral)

include hparams herror hintegral

/-- If the correction fits, the output is exact if and only if the command fits as well. -/
lemma output_exact_iff (hcorrection : Fits (pidInput j control status params).correction) :
    (j.handlePID params control status).1.output.toInt = (pidInput j control status params).output ↔
      Fits (pidInput j control status params).command ∨ (pidInput j control status params).maxPwm = 0 ∨
        (pidInput j control status params).maxPwm < (pidInput j control status params).minPwm := by
  have hramp := fits_rampReference j control status hparams
  have hquotient := tdiv_of_fits hcorrection
  have hwrapped : (pidInput j control status params).wrappedCommand =
      wrap (pidInput j control status params).command := by
    rw [wrappedCommand, wrap_of_fits hcorrection, command]
  rw [toInt_output j control status hparams herror hintegral, hwrapped]
  unfold Fits at hramp
  exact limit_wrap_iff (toInt_nonneg hparams.maxPwm) params.maxPwm.toInt_lt
    (by unfold command; omega) (by unfold command; omega)

lemma output_exact_of
    (h : (Fits (pidInput j control status params).correction ∧ Fits (pidInput j control status params).command) ∨
      (pidInput j control status params).maxPwm = 0 ∨
      (pidInput j control status params).maxPwm < (pidInput j control status params).minPwm) :
    (j.handlePID params control status).1.output.toInt = (pidInput j control status params).output := by
  obtain ⟨hcorrection, hcommand⟩ | hzero := h
  · exact (output_exact_iff j control status hparams herror hintegral hcorrection).mpr (.inl hcommand)
  · have hmax := toInt_nonneg hparams.maxPwm
    rw [toInt_output j control status hparams herror hintegral, PIDInput.output,
      limit_eq_zero hmax hzero, limit_eq_zero hmax hzero]

end Output

end Handle

/-- What the closed loop has stored is what its formulas give over unbounded integers. -/
structure StoresExact (x : PIDInput) (j : JointController) : Prop where
  error : j.error.toInt = x.error
  errorIntegral : j.errorIntegral.toInt = x.integral
  rampReference : j.rampReference.toInt = x.rampReference
  output : j.output.toInt = x.output

/-- The closed loop stores the exact values if no result is cut to 16 bits, up to cuts that the limits
hide. For the error, its integral and the ramp this is also necessary, and for the output as long as
the correction fits. -/
theorem pid_exact (j : JointController) (params : JointParams) (control : JointControl)
    (status : JointInfo) (enc : UInt16) (hparams : NonnegParams params)
    (hmode : control.mode = JointPID) :
    let x := PIDInput.ofController j params control (enc - status.encoderPosition).toInt16
    let j' := (j.handle params control status enc).1
    (x.HarmlessOverflow → StoresExact x j') ∧
      ((j'.error.toInt = x.error ∧ j'.errorIntegral.toInt = x.integral ∧
        j'.rampReference.toInt = x.rampReference) ↔ x.SumsFit) ∧
      (Fits x.correction → StoresExact x j' → x.HarmlessOverflow) := by
  intro x j'
  obtain ⟨measured, hmeasured⟩ : ∃ measured : JointInfo, measured =
      { status with
        encoderSpeed := (enc - status.encoderPosition).toInt16
        encoderPosition := enc
        mode := control.mode
        pwm := j.output } := ⟨_, rfl⟩
  have hj' : j' = (j.handlePID params control measured).1 := by
    simp only [j', JointController.handle, hmode, hmeasured]
    rfl
  have hx : x = pidInput j control measured params := by
    rw [hmeasured]
  rw [hj', hx]
  have hsums := sums_exact_iff j control measured hparams
  refine ⟨?_, hsums, ?_⟩
  · rintro ⟨hfit, hcommand⟩
    obtain ⟨herror, hintegral, hramp⟩ := hsums.mpr hfit
    exact ⟨herror, hintegral, hramp, output_exact_of j control measured hparams herror hintegral hcommand⟩
  · rintro hcorrection ⟨herror, hintegral, hramp, houtput⟩
    refine ⟨hsums.mp ⟨herror, hintegral, hramp⟩, ?_⟩
    obtain hfits | hzero :=
      (output_exact_iff j control measured hparams herror hintegral hcorrection).mp houtput
    · exact .inl ⟨hcorrection, hfits⟩
    · exact .inr hzero

lemma initJointParams_nonnegParams (i : Fin NUM_MOTORS) : NonnegParams (initJointParams.joints i) :=
  { initJointParams_nonneg i with
    kp := show (0 : Int16) ≤ 255 by decide
    ki := show (0 : Int16) ≤ 32 by decide
    kd := show (0 : Int16) ≤ 0 by decide }

/-- The first step of a joint at rest with the initial parameters. -/
theorem pid_exact_first :
    let x := PIDInput.ofController .zero (initJointParams.joints 0) ⟨JointPID, 90⟩ 0
    let j := (JointController.zero.handle (initJointParams.joints 0) ⟨JointPID, 90⟩
      (initJointStatus.joints 0) 0).1
    StoresExact x j ∧ x.output = 99 :=
  ⟨(pid_exact .zero (initJointParams.joints 0) ⟨JointPID, 90⟩ (initJointStatus.joints 0) 0
    (initJointParams_nonnegParams 0) rfl).1 (by decide), by decide⟩

/-- A large gain with a slope of 100. -/
def strongParams : JointParams :=
  { initJointParams.joints 0 with kp := 400, slope := 100 }

/-- The product of gain and error is cut to 16 bits, and the motor runs backwards at full power. -/
theorem pid_reversed :
    NonnegParams strongParams ∧
      (PIDInput.ofController .zero strongParams ⟨JointPID, 100⟩ 0).output = 255 ∧
      (JointController.zero.handle strongParams ⟨JointPID, 100⟩ (initJointStatus.joints 0) 0).1.output =
        -255 :=
  ⟨{ maxI := by decide, minPwm := by decide, maxPwm := by decide, maxSpeed := by decide,
     slope := by decide, kp := by decide, ki := by decide, kd := by decide }, by decide, by decide⟩

end Orazio.Proofs
