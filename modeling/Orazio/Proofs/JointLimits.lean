import Orazio.Lib.StepMachine
import Orazio.Model.Bench

/-!
# The limits of the joints

The comment on `min_pwm` and `max_pwm` promises a magnitude for all values sent as output. Only the
controller applies the limits; in the open loop mode and in a mode it does not know
`JointController_handle` relies on the command and on the old output.
-/

namespace Orazio.Proofs

/-! ### One call of the controller -/

/-- The output is off or has a magnitude within the limits. -/
def WithinLimits (params : JointParams) (output : Int16) : Prop :=
  output = 0 ∨ (params.minPwm.toInt ≤ output.toInt.natAbs ∧ output.toInt.natAbs ≤ params.maxPwm.toInt)

instance (params : JointParams) (output : Int16) : Decidable (WithinLimits params output) :=
  inferInstanceAs (Decidable (_ ∨ _))

/-- None of the limits is negative. -/
structure NonnegLimits (params : JointParams) : Prop where
  maxI : 0 ≤ params.maxI
  minPwm : 0 ≤ params.minPwm
  maxPwm : 0 ≤ params.maxPwm
  maxSpeed : 0 ≤ params.maxSpeed
  slope : 0 ≤ params.slope

instance (params : JointParams) : Decidable (NonnegLimits params) :=
  decidable_of_iff
    (0 ≤ params.maxI ∧ 0 ≤ params.minPwm ∧ 0 ≤ params.maxPwm ∧ 0 ≤ params.maxSpeed ∧ 0 ≤ params.slope)
    ⟨fun ⟨h₁, h₂, h₃, h₄, h₅⟩ => ⟨h₁, h₂, h₃, h₄, h₅⟩, fun ⟨h₁, h₂, h₃, h₄, h₅⟩ => ⟨h₁, h₂, h₃, h₄, h₅⟩⟩

/-- A call with this command and this old output meets the limits: the open loop mode needs a speed
within the limits, an unknown mode an old output within them. -/
def CommandWithinLimits (params : JointParams) (control : JointControl) (output : Int16) : Prop :=
  (control.mode = JointPWM → WithinLimits params control.speed) ∧
    (control.mode ≠ JointDisabled → control.mode ≠ JointPWM → control.mode ≠ JointPID →
      WithinLimits params output)

instance (params : JointParams) (control : JointControl) (output : Int16) :
    Decidable (CommandWithinLimits params control output) :=
  inferInstanceAs (Decidable (_ ∧ _))

lemma toInt_neg {x : Int16} (hx : 0 ≤ x) : (-x).toInt = -x.toInt := by
  have hnonneg := Int16.le_iff_toInt_le.mp hx
  have hlt := x.toInt_lt
  rw [Int16.toInt_zero] at hnonneg
  rw [Int16.toInt_neg]
  exact Int.bmod_eq_of_le (by omega) (by omega)

lemma clamp_natAbs (v : Int16) {value : Int16} (hvalue : 0 ≤ value) :
    ((clamp v value).toInt.natAbs : Int) ≤ value.toInt := by
  have hnonneg := Int16.le_iff_toInt_le.mp hvalue
  have hneg := toInt_neg hvalue
  rw [Int16.toInt_zero] at hnonneg
  unfold clamp
  split
  · omega
  · next habove =>
    rw [gt_iff_lt, Int16.lt_iff_toInt_lt] at habove
    split
    · omega
    · next hbelow =>
      rw [Int16.lt_iff_toInt_lt] at hbelow
      omega

/-- A clamped output whose small values are zeroed is within the limits. -/
lemma dead_zone_withinLimits {params : JointParams} (hmin : 0 ≤ params.minPwm) {output : Int16}
    (hbound : (output.toInt.natAbs : Int) ≤ params.maxPwm.toInt) :
    WithinLimits params (if output < params.minPwm ∧ output > -params.minPwm then 0 else output) := by
  have hneg := toInt_neg hmin
  split
  · exact .inl rfl
  · next hlarge =>
    right
    rw [gt_iff_lt, Int16.lt_iff_toInt_lt, Int16.lt_iff_toInt_lt] at hlarge
    omega

/-- The closed loop meets the limits. -/
lemma handlePID_withinLimits (j : JointController) {params : JointParams} (hparams : NonnegLimits params)
    (control : JointControl) (status : JointInfo) :
    WithinLimits params (j.handlePID params control status).1.output :=
  dead_zone_withinLimits hparams.minPwm (clamp_natAbs _ hparams.maxPwm)

/-- After a call of `JointController_handle` the output is within the limits if and only if the
command and the old output meet them. -/
lemma handle_withinLimits_iff (j : JointController) {params : JointParams} (hparams : NonnegLimits params)
    (control : JointControl) (status : JointInfo) (enc : UInt16) :
    WithinLimits params (j.handle params control status enc).1.output ↔
      CommandWithinLimits params control j.output := by
  unfold JointController.handle CommandWithinLimits
  by_cases hdisabled : control.mode = JointDisabled
  · have hpwm : control.mode ≠ JointPWM := by
      rw [hdisabled]
      decide
    simp only [if_pos hdisabled]
    exact ⟨fun _ => ⟨fun h => absurd h hpwm, fun h => absurd hdisabled h⟩, fun _ => .inl rfl⟩
  · by_cases hpwm : control.mode = JointPWM
    · simp only [if_neg hdisabled, if_pos hpwm]
      exact ⟨fun h => ⟨fun _ => h, fun _ h' => absurd hpwm h'⟩, fun h => h.1 hpwm⟩
    · by_cases hpid : control.mode = JointPID
      · simp only [if_neg hdisabled, if_neg hpwm, if_pos hpid]
        exact ⟨fun _ => ⟨fun h => absurd h hpwm, fun _ _ h => absurd hpid h⟩,
          fun _ => handlePID_withinLimits j hparams control _⟩
      · simp only [if_neg hdisabled, if_neg hpwm, if_neg hpid]
        exact ⟨fun h => ⟨fun h' => absurd h' hpwm, fun _ _ _ => h⟩, fun h => h.2 hdisabled hpwm hpid⟩

/-! ### Runs -/

variable {F π : Type}

/-- A timer tick with the sampled encoders, or new parameters or commands of the joints. The limits
among the parameters are not negative. -/
inductive JointInput
  | tick (encoders : Fin NUM_MOTORS → UInt16)
  | params (p : JointParamPacket) (nonneg : ∀ i, NonnegLimits (p.joints i))
  | control (c : JointControlPacket)

/-- The parameters in force at the calls of `JointController_handle` and the outputs they leave. -/
inductive JointEvent
  | handled (params : Fin NUM_MOTORS → JointParams) (outputs : Fin NUM_MOTORS → Int16)
  | changed

def jointStep (g : Globals F π) : JointInput → Except Fault (JointEvent × Globals F π)
  | .tick encoders =>
    let g' := Orazio_jointsHandle encoders g
    .ok (.handled g.jointParams.joints fun i => (g'.jointControllers i).output, g')
  | .params p _ => .ok (.changed, { g with jointParams := p })
  | .control c => .ok (.changed, { g with jointControl := c })

/-- All outputs of a call are within the limits in force. -/
def JointEvent.InLimits : JointEvent → Prop
  | handled params outputs => ∀ i, WithinLimits (params i) (outputs i)
  | changed => True

instance : DecidablePred JointEvent.InLimits
  | .handled params outputs => inferInstanceAs (Decidable (∀ i, WithinLimits (params i) (outputs i)))
  | .changed => .isTrue trivial

/-- A tick finds commands and old outputs that meet the limits in force. -/
def TickWithinLimits (g : Globals F π) : JointInput → Prop
  | .tick _ => ∀ i, CommandWithinLimits (g.jointParams.joints i) (g.jointControl.joints i)
      (g.jointControllers i).output
  | _ => True

instance (g : Globals F π) : DecidablePred (TickWithinLimits g)
  | .tick _ => inferInstanceAs (Decidable (∀ i, CommandWithinLimits (g.jointParams.joints i)
      (g.jointControl.joints i) (g.jointControllers i).output))
  | .params _ _ => .isTrue trivial
  | .control _ => .isTrue trivial

lemma jointStep_inLimits_iff {g g' : Globals F π} {input : JointInput} {event : JointEvent}
    (hparams : ∀ i, NonnegLimits (g.jointParams.joints i)) (h : jointStep g input = .ok (event, g')) :
    event.InLimits ↔ TickWithinLimits g input := by
  cases input with
  | tick encoders =>
    cases h
    exact forall_congr' fun i => handle_withinLimits_iff _ (hparams i) _ _ _
  | params p nonneg =>
    cases h
    exact Iff.rfl
  | control c =>
    cases h
    exact Iff.rfl

lemma jointStep_nonneg {g g' : Globals F π} {input : JointInput} {event : JointEvent}
    (hparams : ∀ i, NonnegLimits (g.jointParams.joints i)) (h : jointStep g input = .ok (event, g')) :
    ∀ i, NonnegLimits (g'.jointParams.joints i) := by
  cases input with
  | tick encoders =>
    cases h
    exact hparams
  | params p nonneg =>
    cases h
    exact nonneg
  | control c =>
    cases h
    exact hparams

/-- From any variables with limits that are not negative, all outputs of a run are within the limits
in force if and only if every tick finds commands and old outputs that meet them. -/
theorem joint_limits_iff (g g' : Globals F π) (inputs : List JointInput) (events : List JointEvent)
    (hparams : ∀ i, NonnegLimits (g.jointParams.joints i))
    (hrun : StepMachine.run jointStep g inputs = .ok (events, g')) :
    (∀ event ∈ events, event.InLimits) ↔
      StepMachine.Always jointStep (fun g input _ _ => TickWithinLimits g input) g inputs := by
  induction inputs generalizing g events with
  | nil =>
    cases hrun
    exact ⟨fun _ => trivial, fun _ => nofun⟩
  | cons input inputs ih =>
    obtain ⟨event, g₁, events', hstep, hrest, rfl⟩ := StepMachine.run_cons_eq_ok.mp hrun
    rw [StepMachine.always_cons hstep, List.forall_mem_cons, jointStep_inLimits_iff hparams hstep,
      ih g₁ events' (jointStep_nonneg hparams hstep) hrest]

/-- Limits of 20 and 100 for both joints. -/
def narrowLimits : JointParamPacket :=
  { initJointParams with joints := fun i => { initJointParams.joints i with minPwm := 20, maxPwm := 100 } }

lemma narrowLimits_nonneg : ∀ i, NonnegLimits (narrowLimits.joints i) := by
  decide

lemma initJointParams_nonneg : ∀ i, NonnegLimits (initJointParams.joints i) := by
  decide

/-- Both joints in this mode at this speed. -/
def bothJoints (mode : UInt8) (speed : Int16) : JointControlPacket :=
  { initJointControl with joints := fun _ => ⟨mode, speed⟩ }

/-- Closed loop and open loop with a speed within the limits. -/
theorem joint_limits_iff_modes :
    ∃ (events : List JointEvent) (g : Globals BitFloat Pins),
      StepMachine.run jointStep (Globals.static (fun _ => 0xFF) Pins.zero)
        [.control (bothJoints JointPID 90), .tick fun _ => 3, .params narrowLimits narrowLimits_nonneg,
          .tick fun _ => 9, .control (bothJoints JointPWM (-60)), .tick fun _ => 4] = .ok (events, g) ∧
      ∀ event ∈ events, event.InLimits := by
  have hcheck : ∃ r, StepMachine.run jointStep (Globals.static (F := BitFloat) (fun _ => 0xFF) Pins.zero)
        [.control (bothJoints JointPID 90), .tick fun _ => 3, .params narrowLimits narrowLimits_nonneg,
          .tick fun _ => 9, .control (bothJoints JointPWM (-60)), .tick fun _ => 4] = .ok r ∧
      StepMachine.Always jointStep (fun g input _ _ => TickWithinLimits g input)
        (Globals.static (F := BitFloat) (fun _ => 0xFF) Pins.zero)
        [.control (bothJoints JointPID 90), .tick fun _ => 3, .params narrowLimits narrowLimits_nonneg,
          .tick fun _ => 9, .control (bothJoints JointPWM (-60)), .tick fun _ => 4] := by
    decide +kernel
  obtain ⟨⟨events, g⟩, hrun, hmeet⟩ := hcheck
  exact ⟨events, g, hrun, (joint_limits_iff _ g _ events initJointParams_nonneg hrun).mpr hmeet⟩

/-- An open loop command above `max_pwm` becomes the output; in an unknown mode an output that was
within the old limits stays above the new ones. -/
theorem limits_exceeded :
    (∃ r, StepMachine.run jointStep (Globals.static (F := BitFloat) (fun _ => 0xFF) Pins.zero)
        [.control (bothJoints JointPWM 300), .tick fun _ => 0] = .ok r ∧
      (r.2.jointControllers 0).output = 300 ∧ (r.2.jointParams.joints 0).maxPwm = 255 ∧
      ¬∀ event ∈ r.1, event.InLimits) ∧
    ∃ r, StepMachine.run jointStep (Globals.static (F := BitFloat) (fun _ => 0xFF) Pins.zero)
        [.control (bothJoints JointPWM 200), .tick fun _ => 0, .params narrowLimits narrowLimits_nonneg,
          .control (bothJoints 7 0), .tick fun _ => 0] = .ok r ∧
      (r.2.jointControllers 0).output = 200 ∧ (r.2.jointParams.joints 0).maxPwm = 100 ∧
      ¬∀ event ∈ r.1, event.InLimits := by
  decide +kernel

end Orazio.Proofs
