import Mathlib.Data.List.Chain
import Orazio.Proofs.NeutralBridges

/-!
# The wires of a dual PWM bridge

`HBridgeDualPWM_setSpeed` writes the two pins one after the other. For a negative speed it switches the
forward pin off first, for the others it switches the backward pin off last: so a change from a negative to
a positive speed leaves both pins on between its two writes.
-/

namespace Orazio.Proofs

open PinDriver

/-! ### Duty cycles -/

/-- Pins whose duty cycles can be read; a pin without PWM has none. -/
class PWMDriver (π : Type) extends PinDriver π where
  dutyCycle : UInt8 → π → Option UInt8
  dutyCycle_setDutyCycle : ∀ c d x pins, dutyCycle c (setDutyCycle d x pins) =
    if c = d then (dutyCycle c pins).map fun _ => x else dutyCycle c pins

open PWMDriver

/-- Pins with the pins after each duty cycle that was set, the first one first. -/
structure Recorded (π : Type) where
  pins : π
  writes : List π

instance {π : Type} [PinDriver π] : PinDriver (Recorded π) where
  setDirection pin dir s := { s with pins := setDirection pin dir s.pins }
  setValue pin value s := { s with pins := setValue pin value s.pins }
  setDutyCycle c x s := ⟨setDutyCycle c x s.pins, s.writes ++ [setDutyCycle c x s.pins]⟩
  enable c on s := { s with pins := enable c on s.pins }

/-! ### Speeds -/

/-- `min(|speed|, 255)` -/
def dutyOf (speed : Int16) : UInt8 :=
  UInt8.ofNat (min speed.toInt.natAbs 255)

/-- The duty cycle of the forward pin for a speed. -/
def forwardDuty (speed : Int16) : UInt8 :=
  if 0 ≤ speed then dutyOf speed else 0

/-- The duty cycle of the backward pin for a speed. -/
def backwardDuty (speed : Int16) : UInt8 :=
  if 0 ≤ speed then 0 else dutyOf speed

lemma toInt_limitSpeed (speed : Int16) : (limitSpeed speed).toInt = max (-255) (min speed.toInt 255) := by
  have hhigh : (255 : Int16).toInt = 255 := by decide
  have hlow : (-255 : Int16).toInt = -255 := by decide
  unfold limitSpeed
  simp only [gt_iff_lt, Int16.lt_iff_toInt_lt, hhigh, hlow]
  split
  · rw [hhigh, if_neg (by decide), hhigh]
    omega
  · split
    · rw [hlow]
      omega
    · omega

lemma limitSpeed_nonneg_iff (speed : Int16) : limitSpeed speed ≥ 0 ↔ 0 ≤ speed := by
  rw [ge_iff_le, Int16.le_iff_toInt_le, Int16.le_iff_toInt_le, toInt_limitSpeed, Int16.toInt_zero]
  omega

/-- A number of type `int16_t` as the argument of `PWM_setDutyCycle`. -/
lemma toUInt8_of_toInt {v : Int16} {n : ℕ} (h : v.toInt = n) : v.toUInt16.toUInt8 = UInt8.ofNat n := by
  have hpos : 0 ≤ v := by
    rw [Int16.le_iff_toInt_le, h]
    exact Int.natCast_nonneg n
  apply UInt8.toNat_inj.mp
  rw [UInt16.toNat_toUInt8, Int16.toNat_toUInt16_of_le hpos, Int16.toNatClampNeg, h, UInt8.toNat_ofNat']
  rfl

lemma limitSpeed_forward {speed : Int16} (h : 0 ≤ speed) :
    (limitSpeed speed).toUInt16.toUInt8 = dutyOf speed := by
  rw [Int16.le_iff_toInt_le, Int16.toInt_zero] at h
  apply toUInt8_of_toInt
  rw [toInt_limitSpeed]
  omega

lemma limitSpeed_backward {speed : Int16} (h : ¬0 ≤ speed) :
    (-limitSpeed speed).toUInt16.toUInt8 = dutyOf speed := by
  rw [Int16.le_iff_toInt_le, Int16.toInt_zero] at h
  apply toUInt8_of_toInt
  rw [Int16.toInt_neg, toInt_limitSpeed, Int.bmod_eq_of_le (by omega) (by omega)]
  omega

lemma dutyOf_eq_zero_iff (speed : Int16) : dutyOf speed = 0 ↔ speed = 0 := by
  rw [← UInt8.toNat_inj, ← Int16.toInt_inj, dutyOf, UInt8.toNat_ofNat', Int16.toInt_zero]
  change min speed.toInt.natAbs 255 % 256 = 0 ↔ _
  omega

lemma forwardDuty_eq_zero_iff (speed : Int16) : forwardDuty speed = 0 ↔ ¬0 < speed := by
  have hzero := dutyOf_eq_zero_iff speed
  simp only [forwardDuty, ← Int16.toInt_inj, Int16.lt_iff_toInt_lt, Int16.le_iff_toInt_le,
    Int16.toInt_zero] at hzero ⊢
  split
  · rw [hzero]
    omega
  · simp only [true_iff]
    omega

lemma backwardDuty_eq_zero_iff (speed : Int16) : backwardDuty speed = 0 ↔ ¬speed < 0 := by
  have hzero := dutyOf_eq_zero_iff speed
  simp only [backwardDuty, ← Int16.toInt_inj, Int16.lt_iff_toInt_lt, Int16.le_iff_toInt_le,
    Int16.toInt_zero] at hzero ⊢
  split
  · simp only [true_iff]
    omega
  · rw [hzero]
    omega

/-! ### One call -/

/-- A call of `HBridgeDualPWM_setSpeed`, with the pins after each of its writes. -/
def dualStep {π : Type} [PinDriver π] (bridge : HBridge) (pins : π) (speed : Int16) :
    Except Fault (List π × π) :=
  .ok ((HBridgeDualPWM_setSpeed bridge speed (⟨pins, []⟩ : Recorded π)).writes,
    HBridgeDualPWM_setSpeed bridge speed pins)

/-- A call writes the forward pin first, whatever the speed. -/
lemma dualStep_eq {π : Type} [PinDriver π] (bridge : HBridge) (pins : π) (speed : Int16) :
    dualStep bridge pins speed =
      let first := setDutyCycle bridge.pwmPin (forwardDuty speed) pins
      let second := setDutyCycle bridge.otherPin (backwardDuty speed) first
      .ok ([first, second], second) := by
  unfold dualStep HBridgeDualPWM_setSpeed forwardDuty backwardDuty
  simp only [limitSpeed_nonneg_iff]
  by_cases h : 0 ≤ speed
  · simp only [if_pos h, limitSpeed_forward h]
    rfl
  · simp only [if_neg h, limitSpeed_backward h]
    rfl

section

variable {π : Type} [PWMDriver π] (bridge : HBridge)

/-- At most one of the two pins has a duty cycle other than 0. -/
def Exclusive (pins : π) : Prop :=
  dutyCycle bridge.pwmPin pins = some 0 ∨ dutyCycle bridge.otherPin pins = some 0

instance (pins : π) : Decidable (Exclusive bridge pins) :=
  inferInstanceAs (Decidable (_ ∨ _))

/-- The pin on the side of the speed's sign has the duty cycle of the speed. -/
def Driven (speed : Int16) (pins : π) : Prop :=
  dutyCycle (if 0 ≤ speed then bridge.pwmPin else bridge.otherPin) pins = some (dutyOf speed)

/-- The duty cycles that a call with this speed leaves. -/
structure Shows (speed : Int16) (pins : π) : Prop where
  forward : dutyCycle bridge.pwmPin pins = some (forwardDuty speed)
  backward : dutyCycle bridge.otherPin pins = some (backwardDuty speed)

/-- After every write of a call the wires are exclusive, and after the call one of them is driven. -/
def WiresExclusive (_ : π) (speed : Int16) (writes : List π) (pins' : π) : Prop :=
  (∀ pins ∈ writes, Exclusive bridge pins) ∧ Driven bridge speed pins'

variable {bridge}

lemma Shows.exclusive {speed : Int16} {pins : π} (h : Shows bridge speed pins) : Exclusive bridge pins := by
  rw [Exclusive, h.forward, h.backward, Option.some_inj, Option.some_inj, forwardDuty_eq_zero_iff,
    backwardDuty_eq_zero_iff, Int16.lt_iff_toInt_lt, Int16.lt_iff_toInt_lt]
  omega

lemma Shows.driven {speed : Int16} {pins : π} (h : Shows bridge speed pins) : Driven bridge speed pins := by
  unfold Driven
  have hforward := h.forward
  have hbackward := h.backward
  unfold forwardDuty at hforward
  unfold backwardDuty at hbackward
  by_cases hspeed : 0 ≤ speed
  · rwa [if_pos hspeed] at hforward ⊢
  · rwa [if_neg hspeed] at hbackward ⊢

/-- With two pins a call shows its speed, and only the change from a negative to a positive speed is not
exclusive. -/
lemma Shows.step (hne : bridge.pwmPin ≠ bridge.otherPin) {last : Int16} {pins : π}
    (h : Shows bridge last pins) (speed : Int16) :
    ∃ writes pins', dualStep bridge pins speed = .ok (writes, pins') ∧ Shows bridge speed pins' ∧
      (WiresExclusive bridge pins speed writes pins' ↔ ¬(last < 0 ∧ 0 < speed)) := by
  have hforward : dutyCycle bridge.pwmPin (setDutyCycle bridge.pwmPin (forwardDuty speed) pins) =
      some (forwardDuty speed) := by
    rw [dutyCycle_setDutyCycle, if_pos rfl, h.forward]
    rfl
  have hbackward : dutyCycle bridge.otherPin (setDutyCycle bridge.pwmPin (forwardDuty speed) pins) =
      some (backwardDuty last) := by
    rw [dutyCycle_setDutyCycle, if_neg hne.symm, h.backward]
  have hshows : Shows bridge speed (setDutyCycle bridge.otherPin (backwardDuty speed)
      (setDutyCycle bridge.pwmPin (forwardDuty speed) pins)) := by
    constructor
    · rw [dutyCycle_setDutyCycle, if_neg hne, hforward]
    · rw [dutyCycle_setDutyCycle, if_pos rfl, hbackward]
      rfl
  have hfirst : Exclusive bridge (setDutyCycle bridge.pwmPin (forwardDuty speed) pins) ↔
      ¬(last < 0 ∧ 0 < speed) := by
    rw [Exclusive, hforward, hbackward, Option.some_inj, Option.some_inj, forwardDuty_eq_zero_iff,
      backwardDuty_eq_zero_iff, not_and_or, or_comm]
  refine ⟨_, _, dualStep_eq bridge pins speed, hshows, ?_⟩
  simp only [WiresExclusive, List.forall_mem_cons, List.not_mem_nil, false_imp_iff, implies_true,
    hfirst, hshows.exclusive, hshows.driven, and_true]

/-- The runs from pins that show a speed. -/
lemma Shows.always_iff (hne : bridge.pwmPin ≠ bridge.otherPin) {last : Int16} {pins : π}
    (h : Shows bridge last pins) (speeds : List Int16) :
    StepMachine.Always (dualStep bridge) (WiresExclusive bridge) pins speeds ↔
      (last :: speeds).IsChain fun a b => ¬(a < 0 ∧ 0 < b) := by
  induction speeds generalizing last pins with
  | nil => exact iff_of_true trivial (.singleton last)
  | cons speed speeds ih =>
    obtain ⟨writes, pins', hstep, hshows, hexclusive⟩ := h.step hne speed
    rw [StepMachine.always_cons hstep, hexclusive, ih hshows, List.isChain_cons_cons]

/-- With one pin for both wires every speed but 0 is a conflict. -/
lemma always_same_iff (hsame : bridge.pwmPin = bridge.otherPin) {x : UInt8} {pins : π}
    (h : dutyCycle bridge.otherPin pins = some x) (speeds : List Int16) :
    StepMachine.Always (dualStep bridge) (WiresExclusive bridge) pins speeds ↔ ∀ speed ∈ speeds, speed = 0 := by
  induction speeds generalizing x pins with
  | nil => simp [StepMachine.Always]
  | cons speed speeds ih =>
    have hfirst : dutyCycle bridge.otherPin (setDutyCycle bridge.pwmPin (forwardDuty speed) pins) =
        some (forwardDuty speed) := by
      rw [dutyCycle_setDutyCycle, if_pos hsame.symm, h]
      rfl
    have hsecond : dutyCycle bridge.otherPin (setDutyCycle bridge.otherPin (backwardDuty speed)
        (setDutyCycle bridge.pwmPin (forwardDuty speed) pins)) = some (backwardDuty speed) := by
      rw [dutyCycle_setDutyCycle, if_pos rfl, hfirst]
      rfl
    rw [StepMachine.always_cons (dualStep_eq bridge pins speed), ih hsecond, List.forall_mem_cons]
    apply and_congr_left
    intro _
    rw [hsame] at hfirst hsecond
    simp only [WiresExclusive, Exclusive, Driven, hsame, hfirst, hsecond, ite_self, or_self,
      List.forall_mem_cons, List.not_mem_nil, false_imp_iff, implies_true, and_true, Option.some_inj,
      forwardDuty_eq_zero_iff, backwardDuty_eq_zero_iff]
    constructor
    · rintro ⟨⟨hforward, hbackward⟩, -⟩
      rw [Int16.lt_iff_toInt_lt, Int16.toInt_zero] at hforward hbackward
      rw [← Int16.toInt_inj, Int16.toInt_zero]
      omega
    · rintro rfl
      decide

end

/-! ### Runs -/

/-- The wires are mutually exclusive in a run if and only if they are two pins and no call with a positive
speed follows one with a negative speed; with one pin for both, only if all speeds are 0. -/
theorem wires_exclusive_iff {π : Type} [PWMDriver π] (bridge : HBridge) (pins : π)
    (hforward : dutyCycle bridge.pwmPin pins = some 0) (hbackward : dutyCycle bridge.otherPin pins = some 0)
    (speeds : List Int16) :
    StepMachine.Always (dualStep bridge) (WiresExclusive bridge) pins speeds ↔
      if bridge.pwmPin = bridge.otherPin then ∀ speed ∈ speeds, speed = 0
      else speeds.IsChain fun a b => ¬(a < 0 ∧ 0 < b) := by
  by_cases hsame : bridge.pwmPin = bridge.otherPin
  · rw [if_pos hsame]
    exact always_same_iff hsame hbackward speeds
  · have hshows : Shows bridge 0 pins := ⟨hforward, hbackward⟩
    rw [if_neg hsame, hshows.always_iff hsame, List.isChain_cons]
    apply and_iff_right
    rintro speed - ⟨hneg, -⟩
    exact absurd hneg (by decide)

/-! ### The pins of the atmega2560 -/

/-- Two pins have two compare registers. -/
lemma ocRegister_ne : ∀ i : Fin 14, ∀ j : Fin 14, i ≠ j → ∀ p ∈ Orazio.pins[i].pwm, ∀ q ∈ Orazio.pins[j].pwm,
    p.ocRegister ≠ q.ocRegister := by
  decide

instance : PWMDriver Registers where
  dutyCycle c r := (pwmRegisters c).map fun pwm => 255 - r pwm.ocRegister
  dutyCycle_setDutyCycle := by
    intro c d x r
    change (pwmRegisters c).map (fun pwm => 255 - (PWM_setDutyCycle d x r).2 pwm.ocRegister) = _
    by_cases hsame : c = d
    · subst hsame
      rw [if_pos rfl]
      unfold PWM_setDutyCycle
      cases hc : pwmRegisters c with
      | none => rfl
      | some p =>
        have hcomplement : 255 - (255 - x) = x := by grind
        simp [hcomplement]
    · rw [if_neg hsame]
      unfold PWM_setDutyCycle
      cases hc : pwmRegisters c with
      | none => rfl
      | some p =>
        cases hd : pwmRegisters d with
        | none => rfl
        | some q =>
          obtain ⟨i, j, hij, hp, hq⟩ := pwmRegisters_ne hc hd hsame
          simp [Function.update_of_ne (ocRegister_ne i j hij p hp q hq)]

/-- `PWM_getDutyCycle` reads the duty cycle, or returns its error code. -/
lemma getDutyCycle_eq (c : UInt8) (r : Registers) :
    PWM_getDutyCycle c r = (dutyCycle c r).getD (UInt8.ofInt PWMError.channelOutOfBound.code) := by
  change _ = ((pwmRegisters c).map fun pwm => 255 - r pwm.ocRegister).getD _
  unfold PWM_getDutyCycle
  cases pwmRegisters c <;> rfl

/-- The first bridge as `Orazio_hBridgeInit` connects it. -/
def dualBridge : HBridge :=
  ⟨some .dualPWM, 3, 2⟩

theorem wires_exclusive_iff_forward_first :
    StepMachine.Always (dualStep dualBridge) (WiresExclusive dualBridge) (fun _ => 255 : Registers)
      [100, -100, 0, 300] :=
  (wires_exclusive_iff dualBridge (fun _ => 255 : Registers) rfl rfl [100, -100, 0, 300]).mpr (by decide)

/-- From backward to forward: the first write leaves 100 on both pins. -/
theorem wires_not_exclusive :
    ¬StepMachine.Always (dualStep dualBridge) (WiresExclusive dualBridge) (fun _ => 255 : Registers)
      [-100, 100] := by
  rintro ⟨-, ⟨hwrites, -⟩, -⟩
  exact absurd (hwrites _ List.mem_cons_self) (by decide)

end Orazio.Proofs
