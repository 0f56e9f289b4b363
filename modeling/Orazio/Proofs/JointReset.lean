import Orazio.Proofs.JointArithmetic

/-!
# Disabling a joint

A disabled joint loses its output and its integral, but keeps the error of the last step of the
closed loop. The two-run law compares it with a joint that was just initialised.
-/

namespace Orazio.Proofs

/-- What one call of `JointController_handle` reads besides controller and joint. -/
structure JointTick where
  params : JointParams
  control : JointControl
  enc : UInt16

/-- A call leaves the output and the status of the joint as its outputs. -/
def tickJoint (s : JointController × JointInfo) (t : JointTick) :
    (Int16 × JointInfo) × JointController × JointInfo :=
  let s' := s.1.handle t.params t.control s.2 t.enc
  ((s'.1.output, s'.2), s')

/-- The fields of a controller that a later call can read. -/
structure SameMemory (j k : JointController) : Prop where
  output : j.output = k.output
  errorIntegral : j.errorIntegral = k.errorIntegral
  previousError : j.previousError = k.previousError

/-- Two joints that answer alike: every call overwrites `pwm` before it reads anything else. -/
def SameJoint (s t : JointController × JointInfo) : Prop :=
  SameMemory s.1 t.1 ∧ ∃ pwm, t.2 = { s.2 with pwm }

lemma handle_sameMemory {j k : JointController} (h : SameMemory j k) (params : JointParams)
    (control : JointControl) (status : JointInfo) (enc : UInt16) :
    SameMemory (j.handle params control status enc).1 (k.handle params control status enc).1 ∧
      (j.handle params control status enc).2 = (k.handle params control status enc).2 := by
  unfold JointController.handle
  rw [h.output]
  by_cases hdisabled : control.mode = JointDisabled
  · simp only [if_pos hdisabled]
    exact ⟨⟨rfl, rfl, h.previousError⟩, trivial⟩
  · by_cases hpwm : control.mode = JointPWM
    · simp only [if_neg hdisabled, if_pos hpwm]
      exact ⟨⟨rfl, h.errorIntegral, h.previousError⟩, trivial⟩
    · by_cases hpid : control.mode = JointPID
      · simp only [if_neg hdisabled, if_neg hpwm, if_pos hpid, JointController.handlePID,
          h.errorIntegral, h.previousError]
        exact ⟨⟨rfl, rfl, rfl⟩, trivial⟩
      · simp only [if_neg hdisabled, if_neg hpwm, if_neg hpid]
        exact ⟨h, trivial⟩

lemma tickJoint_sameJoint {s t : JointController × JointInfo} (h : SameJoint s t) (tick : JointTick) :
    (tickJoint s tick).1 = (tickJoint t tick).1 ∧ SameJoint (tickJoint s tick).2 (tickJoint t tick).2 := by
  obtain ⟨j, status⟩ := s
  obtain ⟨k, status'⟩ := t
  obtain ⟨hmemory, pwm, hinfo⟩ := h
  have hnext := handle_sameMemory hmemory tick.params tick.control status tick.enc
  have hpwm : k.handle tick.params tick.control { status with pwm } tick.enc =
      k.handle tick.params tick.control status tick.enc := rfl
  simp only at hinfo
  simp only [tickJoint, hinfo, hpwm]
  exact ⟨Prod.ext hnext.1.output hnext.2, hnext.1, _, hnext.2.symm⟩

/-- Joints with the same memory answer every continuation alike. -/
lemma outputs_eq_of_sameJoint {s t : JointController × JointInfo} (h : SameJoint s t)
    (ts : List JointTick) :
    StepMachine.outputs tickJoint s ts = StepMachine.outputs tickJoint t ts :=
  StepMachine.outputs_eq_of_related SameJoint (fun _ _ tick hst => tickJoint_sameJoint hst tick) h ts

lemma tickJoint_disabled (s : JointController × JointInfo) {t : JointTick}
    (h : t.control.mode = JointDisabled) :
    (tickJoint s t).2 =
      ({ s.1 with output := 0, errorIntegral := 0 },
        { s.2 with
          encoderSpeed := (t.enc - s.2.encoderPosition).toInt16
          encoderPosition := t.enc
          mode := t.control.mode
          pwm := s.1.output }) := by
  simp only [tickJoint, JointController.handle, if_pos h]

/-! ### The kick -/

/-- Parameters that let only the derivative of the error through. -/
def derivativeParams (kd : Int16) : JointParams where
  kp := 0
  ki := 0
  kd := kd
  maxI := 0
  minPwm := 0
  maxPwm := 32767
  maxSpeed := 0
  slope := 0

lemma derivativeParams_nonneg {kd : Int16} (hkd : 0 ≤ kd) : NonnegParams (derivativeParams kd) where
  maxI := Int16.le_refl 0
  minPwm := Int16.le_refl 0
  maxPwm := show (0 : Int16) ≤ 32767 by decide
  maxSpeed := Int16.le_refl 0
  slope := Int16.le_refl 0
  kp := Int16.le_refl 0
  ki := Int16.le_refl 0
  kd := hkd

lemma clampInt_zero (v : Int) : clampInt v 0 = 0 := by
  unfold clampInt
  split <;> omega

lemma fits_tdiv {v : Int} (hv : PIDInput.Fits v) : PIDInput.Fits (v.tdiv 32) := by
  have habs : (v.tdiv 32).natAbs = v.natAbs / 32 := Int.natAbs_tdiv v 32
  unfold PIDInput.Fits at hv ⊢
  omega

/-- A quotient by 32 passes the limits of `derivativeParams`. -/
lemma limit_derivativeParams {x : PIDInput} (hmax : x.maxPwm = 32767) (hmin : x.minPwm = 0) {v : Int}
    (hv : PIDInput.Fits v) : x.limit (v.tdiv 32) = v.tdiv 32 := by
  have habs : (v.tdiv 32).natAbs = v.natAbs / 32 := Int.natAbs_tdiv v 32
  unfold PIDInput.Fits at hv
  unfold PIDInput.limit clampInt
  rw [hmax, hmin]
  simp only
  split <;> omega

/-- A joint at rest that is enabled answers with the error it had before. -/
lemma derivative_output (j : JointController) {status : JointInfo} (hrest : status.encoderSpeed = 0)
    {kd : Int16} (hkd : 0 ≤ kd) :
    (j.handlePID (derivativeParams kd) ⟨JointPID, 0⟩ status).1.output.toInt =
      (PIDInput.wrap (kd.toInt * -j.previousError.toInt)).tdiv 32 := by
  have hparams := derivativeParams_nonneg hkd
  obtain ⟨x, hx⟩ : ∃ x, x = pidInput j ⟨JointPID, 0⟩ status (derivativeParams kd) := ⟨_, rfl⟩
  have herror := (error_eq_iff j ⟨JointPID, 0⟩ status hparams).mpr (.inr rfl)
  have hintegral := (errorIntegral_eq_iff j ⟨JointPID, 0⟩ status hparams herror).mpr (.inr rfl)
  rw [toInt_output j ⟨JointPID, 0⟩ status hparams herror hintegral, ← hx]
  have herror₀ : x.error = 0 := by
    rw [PIDInput.error, hx]
    exact clampInt_zero _
  have hintegral₀ : x.integral = 0 := by
    rw [PIDInput.integral, hx]
    exact clampInt_zero _
  have hramp : x.rampReference = 0 := by
    rw [PIDInput.rampReference, herror₀, hx]
    simp [PIDInput.ofController, hrest]
  have hcorrection : x.correction = kd.toInt * -j.previousError.toInt := by
    rw [PIDInput.correction, herror₀, hintegral₀, hx]
    simp [PIDInput.ofController, derivativeParams]
  have hfits := PIDInput.fits_wrap (kd.toInt * -j.previousError.toInt)
  have hcommand : x.wrappedCommand = (PIDInput.wrap (kd.toInt * -j.previousError.toInt)).tdiv 32 := by
    rw [PIDInput.wrappedCommand, hramp, hcorrection, Int.zero_add]
    exact PIDInput.wrap_of_fits (fits_tdiv hfits)
  rw [hcommand]
  exact limit_derivativeParams (by rw [hx]; rfl) (by rw [hx]; rfl) hfits

/-- The magnitude of a wrapped negation. -/
lemma natAbs_wrap_neg {v : Int} (hv : PIDInput.Fits v) : (PIDInput.wrap (-v)).natAbs = v.natAbs := by
  unfold PIDInput.Fits at hv
  rw [PIDInput.wrap, Int.bmod_def]
  split <;> omega

/-- An error other than zero is seen through the gain 1 or the gain 32. -/
lemma exists_derivative {e : Int16} (he : e ≠ 0) :
    ∃ kd : Int16, 0 ≤ kd ∧ (PIDInput.wrap (kd.toInt * -e.toInt)).tdiv 32 ≠ 0 := by
  have hne : e.toInt ≠ 0 := fun h => he (Int16.toInt_inj.mp h)
  have hfits : PIDInput.Fits e.toInt := ⟨e.le_toInt, e.toInt_lt⟩
  by_cases hsmall : e.toInt.natAbs < 32
  · refine ⟨32, by decide, ?_⟩
    have hwrap : PIDInput.wrap ((32 : Int16).toInt * -e.toInt) = 32 * -e.toInt :=
      PIDInput.wrap_of_fits (show -2 ^ 15 ≤ 32 * -e.toInt ∧ 32 * -e.toInt < 2 ^ 15 by omega)
    have habs : ((32 * -e.toInt).tdiv 32).natAbs = (32 * -e.toInt).natAbs / 32 := Int.natAbs_tdiv _ 32
    rw [hwrap]
    omega
  · refine ⟨1, by decide, ?_⟩
    have hwrap : PIDInput.wrap ((1 : Int16).toInt * -e.toInt) = PIDInput.wrap (-e.toInt) :=
      congrArg PIDInput.wrap (Int.one_mul _)
    have habs : ((PIDInput.wrap (-e.toInt)).tdiv 32).natAbs = (PIDInput.wrap (-e.toInt)).natAbs / 32 :=
      Int.natAbs_tdiv _ 32
    rw [natAbs_wrap_neg hfits] at habs
    rw [hwrap]
    omega

/-- A joint that is enabled where it stands answers with the error it had before. -/
lemma tickJoint_derivative (j : JointController) {status : JointInfo} {kd : Int16} (hkd : 0 ≤ kd) :
    (tickJoint (j, status) ⟨derivativeParams kd, ⟨JointPID, 0⟩, status.encoderPosition⟩).1.1.toInt =
      (PIDInput.wrap (kd.toInt * -j.previousError.toInt)).tdiv 32 := by
  apply derivative_output j _ hkd
  simp

/-! ### The two-run law -/

variable {F π : Type}

/-- A joint that was disabled answers every continuation like one that was just initialised if and
only if the error of its last step of the closed loop was zero. -/
theorem disable_resets_iff (g : Globals F π) (i : Fin NUM_MOTORS) (j : JointController)
    (status : JointInfo) (off : JointTick) (hoff : off.control.mode = JointDisabled) :
    (∀ ts : List JointTick,
        StepMachine.outputs tickJoint (tickJoint (j, status) off).2 ts =
          StepMachine.outputs tickJoint
            (tickJoint ((Orazio_jointsInit g).jointControllers i, status) off).2 ts) ↔
      j.previousError = 0 := by
  have hfresh : (Orazio_jointsInit g).jointControllers i = .zero := rfl
  rw [hfresh, tickJoint_disabled _ hoff, tickJoint_disabled _ hoff]
  constructor
  · intro hsame
    by_contra hne
    obtain ⟨kd, hkd, hkick⟩ := exists_derivative hne
    have htick := congrArg List.head? (hsame [⟨derivativeParams kd, ⟨JointPID, 0⟩, off.enc⟩])
    have houtput := congrArg (fun o => o.1.toInt) (Option.some.inj htick)
    have hzero : (PIDInput.wrap (kd.toInt * -(0 : Int16).toInt)).tdiv 32 = 0 := by
      simp [PIDInput.wrap]
    simp only at houtput
    rw [tickJoint_derivative _ hkd, tickJoint_derivative _ hkd] at houtput
    exact hkick (houtput.trans hzero)
  · intro hzero
    exact outputs_eq_of_sameJoint ⟨⟨rfl, rfl, hzero⟩, 0, rfl⟩

/-- A joint that was driven and then held at rest in the closed loop is reset completely. -/
theorem disable_resets_iff_rest :
    let g : Globals BitFloat Pins := .static (fun _ => 0xFF) Pins.zero
    let s := (tickJoint (tickJoint (.zero, initJointStatus.joints 0)
      ⟨initJointParams.joints 0, ⟨JointPID, 90⟩, 0⟩).2 ⟨initJointParams.joints 0, ⟨JointPID, 0⟩, 0⟩).2
    let off : JointTick := ⟨initJointParams.joints 0, ⟨JointDisabled, 0⟩, 0⟩
    ∀ ts : List JointTick,
      StepMachine.outputs tickJoint (tickJoint (s.1, s.2) off).2 ts =
        StepMachine.outputs tickJoint
          (tickJoint ((Orazio_jointsInit g).jointControllers 0, s.2) off).2 ts := by
  intro g s off
  exact (disable_resets_iff g 0 s.1 s.2 off rfl).mpr (by decide)

/-- A joint that is driven, disabled and enabled again at rest gets a kick. -/
theorem enabled_kick :
    let g : Globals BitFloat Pins := .static (fun _ => 0xFF) Pins.zero
    let params : JointParams := { initJointParams.joints 0 with kd := 64 }
    let s := (tickJoint ((Orazio_jointsInit g).jointControllers 0, initJointStatus.joints 0)
      ⟨params, ⟨JointPID, 90⟩, 0⟩).2
    let off : JointTick := ⟨params, ⟨JointDisabled, 0⟩, 0⟩
    let ts : List JointTick := [⟨params, ⟨JointPID, 0⟩, 0⟩]
    (StepMachine.outputs tickJoint (tickJoint s off).2 ts).map (·.1) = [-20] ∧
      (StepMachine.outputs tickJoint
        (tickJoint ((Orazio_jointsInit g).jointControllers 0, s.2) off).2 ts).map (·.1) = [0] := by
  decide

end Orazio.Proofs
