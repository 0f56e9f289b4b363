import Orazio.Lib.StepMachine
import Orazio.Model.AtmegaPins
import Orazio.Model.Bench

/-!
# The bridges after their initialisation

On the atmega2560 an initialisation enables exactly the PWM pins of the new type, whatever the type
before was. But `PWM_enable` clears the compare register, which holds the complement of the duty cycle.
So every pin it enables has the duty cycle 255, and no initialisation leaves the bridges neutral.
-/

namespace Orazio.Proofs

open PinDriver RegisterFile

/-! ### The table of pins -/

inductive RegisterKind
  | port | direction | mode | compare | other
  deriving DecidableEq

def kind : Register → RegisterKind
  | .portB | .portE | .portG | .portH => .port
  | .ddrB | .ddrE | .ddrG | .ddrH => .direction
  | .tccr0A | .tccr1A | .tccr2A | .tccr3A | .tccr4A => .mode
  | .ocr0B | .ocr1AL | .ocr1BL | .ocr1CL | .ocr2A | .ocr2B => .compare
  | .ocr3AL | .ocr3BL | .ocr3CL | .ocr4AL | .ocr4BL | .ocr4CL => .compare
  | _ => .other

lemma ne_of_kind {register other : Register} (h : kind register ≠ kind other) : register ≠ other :=
  fun hsame => h (congrArg kind hsame)

/-- The pins keep their data in registers of different kinds. -/
lemma pins_kinds : ∀ pin ∈ pins, kind pin.outRegister = .port ∧ kind pin.dirRegister = .direction ∧
    bitMask pin.bit ≠ 0 ∧ ∀ pwm ∈ pin.pwm, kind pwm.tccRegister = .mode ∧ kind pwm.ocRegister = .compare ∧
      pwm.comMask ≠ 0 := by
  decide

/-- Two pins have no bits of a mode in common. -/
lemma pins_apart : ∀ i : Fin 14, ∀ j : Fin 14, i ≠ j → ∀ p ∈ pins[i].pwm, ∀ q ∈ pins[j].pwm,
    q.tccRegister = p.tccRegister → p.comMask &&& q.comMask = 0 := by
  decide

lemma pwmRegisters_eq_some {c : UInt8} {pwm : PWMRegisters} (h : pwmRegisters c = some pwm) :
    ∃ pin, pins[c.toNat]? = some pin ∧ pin ∈ pins ∧ pin.pwm = some pwm := by
  obtain ⟨pin, hpin, hpwm⟩ := Option.bind_eq_some_iff.mp h
  exact ⟨pin, hpin, List.mem_of_getElem? hpin, hpwm⟩

lemma pwmRegisters_kinds {c : UInt8} {pwm : PWMRegisters} (h : pwmRegisters c = some pwm) :
    kind pwm.tccRegister = .mode ∧ kind pwm.ocRegister = .compare ∧ pwm.comMask ≠ 0 := by
  obtain ⟨pin, -, hmem, hpwm⟩ := pwmRegisters_eq_some h
  exact (pins_kinds pin hmem).2.2.2 pwm hpwm

/-- Two channels are two entries of the table. -/
lemma pwmRegisters_ne {c d : UInt8} {p q : PWMRegisters} (hc : pwmRegisters c = some p)
    (hd : pwmRegisters d = some q) (hne : c ≠ d) :
    ∃ i j : Fin 14, i ≠ j ∧ p ∈ pins[i].pwm ∧ q ∈ pins[j].pwm := by
  obtain ⟨pinC, hpinC, -, hpwmC⟩ := pwmRegisters_eq_some hc
  obtain ⟨pinD, hpinD, -, hpwmD⟩ := pwmRegisters_eq_some hd
  obtain ⟨hltC, rfl⟩ := List.getElem?_eq_some_iff.mp hpinC
  obtain ⟨hltD, rfl⟩ := List.getElem?_eq_some_iff.mp hpinD
  refine ⟨⟨c.toNat, hltC⟩, ⟨d.toNat, hltD⟩, ?_, hpwmC, hpwmD⟩
  intro h
  exact hne (UInt8.toNat_inj.mp (Fin.mk.inj h))

/-- The modes of two channels are apart. -/
lemma pwmRegisters_apart {c d : UInt8} {p q : PWMRegisters} (hc : pwmRegisters c = some p)
    (hd : pwmRegisters d = some q) (hne : c ≠ d) :
    q.tccRegister = p.tccRegister → p.comMask &&& q.comMask = 0 := by
  obtain ⟨i, j, hij, hp, hq⟩ := pwmRegisters_ne hc hd hne
  exact pins_apart i j hij p hp q hq

/-! ### What the drivers change -/

lemma setDirection_of_kind {register : Register} (h : kind register ≠ .direction) (pin dir : UInt8)
    (r : Registers) : (setDirection pin dir r : Registers) register = r register := by
  change (DigIO_setDirection pin dir r).2 register = r register
  unfold DigIO_setDirection
  cases hpin : pins[pin.toNat]? with
  | none => rfl
  | some mapping =>
    obtain ⟨-, hdir, -⟩ := pins_kinds mapping (List.mem_of_getElem? hpin)
    exact writeBits_of_ne (ne_of_kind (by rw [hdir]; exact h)) _ _ _

lemma setValue_of_kind {register : Register} (h : kind register ≠ .port) (pin value : UInt8)
    (r : Registers) : (setValue pin value r : Registers) register = r register := by
  change DigIO_setValue pin value r register = r register
  unfold DigIO_setValue
  cases hpin : pins[pin.toNat]? with
  | none => rfl
  | some mapping =>
    obtain ⟨hout, -⟩ := pins_kinds mapping (List.mem_of_getElem? hpin)
    exact writeBits_of_ne (ne_of_kind (by rw [hout]; exact h)) _ _ _

lemma setDutyCycle_of_kind {register : Register} (h : kind register ≠ .compare) (c dutyCycle : UInt8)
    (r : Registers) : (setDutyCycle c dutyCycle r : Registers) register = r register := by
  change (PWM_setDutyCycle c dutyCycle r).2 register = r register
  unfold PWM_setDutyCycle
  cases hpwm : pwmRegisters c with
  | none => rfl
  | some pwm =>
    obtain ⟨-, hoc, -⟩ := pwmRegisters_kinds hpwm
    exact Function.update_of_ne (ne_of_kind (by rw [hoc]; exact h)) _ _

/-- What `PWM_enable` does to a channel with PWM. -/
lemma enable_eq {c : UInt8} {pwm : PWMRegisters} (h : pwmRegisters c = some pwm) (on : UInt8)
    (r : Registers) :
    ∃ pin ∈ pins, (enable c on r : Registers) = writeBits pin.dirRegister (bitMask pin.bit) (on ≠ 0)
      (writeBits pwm.tccRegister pwm.comMask (on ≠ 0) (Function.update r pwm.ocRegister 0)) := by
  obtain ⟨pin, hpin, hmem, hpwm⟩ := pwmRegisters_eq_some h
  refine ⟨pin, hmem, ?_⟩
  change (PWM_enable c on r).2 = _
  unfold PWM_enable
  simp only [hpin, hpwm]

lemma enable_of_kind {register : Register} (h : kind register = .port) {c : UInt8}
    (hc : pwmRegisters c ≠ none) (on : UInt8) (r : Registers) :
    (enable c on r : Registers) register = r register := by
  obtain ⟨pwm, hpwm⟩ := Option.ne_none_iff_exists'.mp hc
  obtain ⟨pin, hmem, henable⟩ := enable_eq hpwm on r
  obtain ⟨-, hdir, -⟩ := pins_kinds pin hmem
  obtain ⟨htcc, hoc, -⟩ := pwmRegisters_kinds hpwm
  rw [henable, writeBits_of_ne (ne_of_kind (by rw [h, hdir]; decide)),
    writeBits_of_ne (ne_of_kind (by rw [h, htcc]; decide)),
    Function.update_of_ne (ne_of_kind (by rw [h, hoc]; decide))]

/-! ### Enabled channels -/

def Enabled (c : UInt8) (r : Registers) : Prop :=
  PWM_isEnabled c r = .enabled

instance (c : UInt8) (r : Registers) : Decidable (Enabled c r) :=
  inferInstanceAs (Decidable (_ = _))

lemma enabled_iff (c : UInt8) (r : Registers) :
    Enabled c r ↔ ∃ pwm, pwmRegisters c = some pwm ∧ r pwm.tccRegister &&& pwm.comMask ≠ 0 := by
  unfold Enabled PWM_isEnabled
  cases pwmRegisters c with
  | none => simp
  | some pwm => by_cases h : r pwm.tccRegister &&& pwm.comMask = 0 <;> simp [h]

/-- The modes decide which channels are enabled. -/
lemma enabled_congr {r r' : Registers} (h : ∀ register, kind register = .mode → r' register = r register)
    (c : UInt8) : Enabled c r' ↔ Enabled c r := by
  rw [enabled_iff, enabled_iff]
  apply exists_congr
  intro pwm
  apply and_congr_right
  intro hpwm
  rw [h _ (pwmRegisters_kinds hpwm).1]

@[simp] lemma enabled_setDirection (c pin dir : UInt8) (r : Registers) :
    Enabled c (setDirection pin dir r) ↔ Enabled c r :=
  enabled_congr (fun _ h => setDirection_of_kind (by rw [h]; decide) _ _ _) c

@[simp] lemma enabled_setValue (c pin value : UInt8) (r : Registers) :
    Enabled c (setValue pin value r) ↔ Enabled c r :=
  enabled_congr (fun _ h => setValue_of_kind (by rw [h]; decide) _ _ _) c

@[simp] lemma enabled_setDutyCycle (c d dutyCycle : UInt8) (r : Registers) :
    Enabled c (setDutyCycle d dutyCycle r) ↔ Enabled c r :=
  enabled_congr (fun _ h => setDutyCycle_of_kind (by rw [h]; decide) _ _ _) c

lemma enabled_enable {d : UInt8} (hd : pwmRegisters d ≠ none) (c on : UInt8) (r : Registers) :
    Enabled c (enable d on r) ↔ if c = d then on ≠ 0 else Enabled c r := by
  obtain ⟨q, hq⟩ := Option.ne_none_iff_exists'.mp hd
  obtain ⟨pin, hmem, henable⟩ := enable_eq hq on r
  obtain ⟨-, hdir, -⟩ := pins_kinds pin hmem
  obtain ⟨htcc, hoc, hmask⟩ := pwmRegisters_kinds hq
  rw [henable, enabled_iff]
  by_cases hsame : c = d
  · subst hsame
    rw [if_pos rfl]
    have hfield : ∀ pwm, pwmRegisters c = some pwm ↔ pwm = q := by
      intro pwm
      rw [hq]
      exact ⟨fun h => (Option.some.inj h).symm, fun h => congrArg some h.symm⟩
    simp only [hfield, exists_eq_left]
    rw [writeBits_of_ne (ne_of_kind (by rw [htcc, hdir]; decide)), writeBits_self]
    by_cases hon : on = 0
    · simp [hon]
    · simp [hon, hmask]
  · rw [if_neg hsame, enabled_iff]
    apply exists_congr
    intro p
    apply and_congr_right
    intro hp
    obtain ⟨htccC, -, -⟩ := pwmRegisters_kinds hp
    rw [writeBits_of_ne (ne_of_kind (by rw [htccC, hdir]; decide)),
      writeBits_apart (pwmRegisters_apart hq hp (Ne.symm hsame)),
      Function.update_of_ne (ne_of_kind (by rw [htccC, hoc]; decide))]

/-- Enabling or disabling a channel clears its compare register. -/
lemma getDutyCycle_enable {c : UInt8} (hc : pwmRegisters c ≠ none) (on : UInt8) (r : Registers) :
    PWM_getDutyCycle c (enable c on r) = 255 := by
  obtain ⟨pwm, hpwm⟩ := Option.ne_none_iff_exists'.mp hc
  obtain ⟨pin, hmem, henable⟩ := enable_eq hpwm on r
  obtain ⟨-, hdir, -⟩ := pins_kinds pin hmem
  obtain ⟨htcc, hoc, -⟩ := pwmRegisters_kinds hpwm
  unfold PWM_getDutyCycle
  simp only [hpwm]
  rw [henable, writeBits_of_ne (ne_of_kind (by rw [hoc, hdir]; decide)),
    writeBits_of_ne (ne_of_kind (by rw [hoc, htcc]; decide)), Function.update_self]
  rfl

lemma getDutyCycle_setDirection (c pin dir : UInt8) (r : Registers) :
    PWM_getDutyCycle c (setDirection pin dir r) = PWM_getDutyCycle c r := by
  unfold PWM_getDutyCycle
  cases hpwm : pwmRegisters c with
  | none => rfl
  | some pwm =>
    obtain ⟨-, hoc, -⟩ := pwmRegisters_kinds hpwm
    simp only [setDirection_of_kind (show kind pwm.ocRegister ≠ .direction by rw [hoc]; decide)]

/-! ### The PWM pins of a bridge -/

/-- The channels that the initialisation of a bridge enables. -/
def enabledPins (bridge : HBridge) : List UInt8 :=
  match bridge.ops with
  | none => []
  | some .pwmDir => [bridge.pwmPin]
  | some .dualPWM => [bridge.pwmPin, bridge.otherPin]
  | some .halfCyclePWM => [bridge.pwmPin]

def HavePWM (channels : List UInt8) : Prop :=
  ∀ c ∈ channels, pwmRegisters c ≠ none

instance (channels : List UInt8) : Decidable (HavePWM channels) :=
  List.decidableBAll (fun c => pwmRegisters c ≠ none) channels

lemma enabled_enable_on {d : UInt8} (hd : pwmRegisters d ≠ none) (c : UInt8) (r : Registers) :
    Enabled c (enable d 1 r) ↔ c = d ∨ Enabled c r := by
  rw [enabled_enable hd]
  by_cases hsame : c = d <;> simp [hsame]

lemma enabled_enable_off {d : UInt8} (hd : pwmRegisters d ≠ none) (c : UInt8) (r : Registers) :
    Enabled c (enable d 0 r) ↔ Enabled c r ∧ c ≠ d := by
  rw [enabled_enable hd]
  by_cases hsame : c = d <;> simp [hsame]

/-- The channels of the bridge are disabled. -/
lemma fini_enabled {bridge : HBridge} (h : HavePWM (enabledPins bridge)) (c : UInt8) (r : Registers) :
    Enabled c (bridge.fini r) ↔ Enabled c r ∧ c ∉ enabledPins bridge := by
  obtain ⟨ops, pwmPin, otherPin⟩ := bridge
  rcases ops with _ | _ | _ | _
  · simp [HBridge.fini, enabledPins]
  · have hpwm := h pwmPin (by simp [enabledPins])
    simp [HBridge.fini, HBridgePWMDir_fini, enabledPins, enabled_enable_off hpwm]
  · have hforward := h pwmPin (by simp [enabledPins])
    have hbackward := h otherPin (by simp [enabledPins])
    simp [HBridge.fini, HBridgeDualPWM_fini, enabledPins, enabled_enable_off hforward,
      enabled_enable_off hbackward, and_assoc]
  · have hpwm := h pwmPin (by simp [enabledPins])
    simp [HBridge.fini, HBridgeHalfPWM_fini, enabledPins, enabled_enable_off hpwm]

/-- An initialisation with these pins enables the new channels of the bridge instead of its old ones. -/
def InitEnables (init : HBridge → UInt8 → UInt8 → Registers → HBridge × Registers) (pin other : UInt8) :
    Prop :=
  ∀ (bridge : HBridge) (c : UInt8) (r : Registers), HavePWM (enabledPins bridge) →
    (Enabled c (init bridge pin other r).2 ↔
      c ∈ enabledPins (init bridge pin other r).1 ∨ (Enabled c r ∧ c ∉ enabledPins bridge))

lemma pwmDir_initEnables {pwmPin : UInt8} (hpwm : pwmRegisters pwmPin ≠ none) (dirPin : UInt8) :
    InitEnables HBridgePWMDir_init pwmPin dirPin := by
  intro bridge c r h
  rw [← fini_enabled h]
  simp [HBridgePWMDir_init, enabledPins, enabled_enable_on hpwm]

lemma dualPWM_initEnables {forwardPin backwardPin : UInt8} (hforward : pwmRegisters forwardPin ≠ none)
    (hbackward : pwmRegisters backwardPin ≠ none) :
    InitEnables HBridgeDualPWM_init forwardPin backwardPin := by
  intro bridge c r h
  rw [← fini_enabled h]
  simp [HBridgeDualPWM_init, enabledPins, enabled_enable_on hforward, enabled_enable_on hbackward,
    or_assoc, or_left_comm]

lemma halfPWM_initEnables {pwmPin : UInt8} (hpwm : pwmRegisters pwmPin ≠ none) (enablePin : UInt8) :
    InitEnables HBridgeHalfPWM_init pwmPin enablePin := by
  intro bridge c r h
  rw [← fini_enabled h]
  simp [HBridgeHalfPWM_init, enabledPins, enabled_enable_on hpwm]

/-! ### Both bridges -/

variable {F : Type}

/-- The bridges have pins of their own, and their channels are the enabled ones. -/
structure Placed (g : Globals F Registers) : Prop where
  first : enabledPins (g.bridges 0) ⊆ [2, 3]
  second : enabledPins (g.bridges 1) ⊆ [4, 5, 11]
  enabled : ∀ c, Enabled c g.pins ↔ c ∈ enabledPins (g.bridges 0) ∨ c ∈ enabledPins (g.bridges 1)

/-- Initialising both bridges with pins from their own ranges. -/
lemma initBridges_placed {g : Globals F Registers} (hg : Placed g)
    {init : HBridge → UInt8 → UInt8 → Registers → HBridge × Registers} {pin₀ other₀ pin₁ other₁ : UInt8}
    (h₀ : InitEnables init pin₀ other₀) (h₁ : InitEnables init pin₁ other₁)
    (hfirst : ∀ bridge r, enabledPins (init bridge pin₀ other₀ r).1 ⊆ [2, 3])
    (hsecond : ∀ bridge r, enabledPins (init bridge pin₁ other₁ r).1 ⊆ [4, 5, 11]) :
    Placed (initBridges g init pin₀ other₀ pin₁ other₁) := by
  have hpwm : ∀ channels : List UInt8, channels ⊆ [2, 3] ∨ channels ⊆ [4, 5, 11] → HavePWM channels := by
    rintro channels (hsub | hsub) c hc
    · exact (show HavePWM [2, 3] by decide) c (hsub hc)
    · exact (show HavePWM [4, 5, 11] by decide) c (hsub hc)
  have hdisjoint : ∀ c : UInt8, c ∈ [2, 3] → c ∉ [4, 5, 11] := by
    intro c hc
    simp only [List.mem_cons, List.not_mem_nil, or_false] at hc
    rcases hc with rfl | rfl <;> decide
  refine ⟨hfirst _ _, hsecond _ _, ?_⟩
  intro c
  have hmiddle := h₀ (g.bridges 0) c g.pins (hpwm _ (.inl hg.first))
  have hlast := h₁ (g.bridges 1) c (init (g.bridges 0) pin₀ other₀ g.pins).2 (hpwm _ (.inr hg.second))
  have hnew := hfirst (g.bridges 0) g.pins
  have hold₀ := hg.first
  have hold₁ := hg.second
  have henabled := hg.enabled c
  have hone : (1 : Fin NUM_MOTORS) ≠ 0 := by decide
  simp only [initBridges, if_true, if_neg hone]
  rw [hlast, hmiddle, henabled]
  constructor
  · rintro (h | ⟨h | ⟨h | h, hne⟩, hne'⟩)
    · exact .inr h
    · exact .inl h
    · exact absurd h hne
    · exact absurd h hne'
  · rintro (h | h)
    · exact .inr ⟨.inl h, fun hsecond => hdisjoint c (hnew h) (hold₁ hsecond)⟩
    · exact .inl h

/-- The type of bridges that a value of `h_bridge_type` stands for. -/
def knownType (hBridgeType : UInt8) : Option HBridgeType :=
  if hBridgeType = HBridgeTypePWMDir then some .pwmDir
  else if hBridgeType = HBridgeTypeDualPWM then some .dualPWM
  else if hBridgeType = HBridgeTypeHalfCyclePWM then some .halfCyclePWM
  else none

/-- The PWM pins of a type. -/
def pwmPins : HBridgeType → List UInt8
  | .pwmDir => [3, 11]
  | .dualPWM => [3, 2, 5, 4]
  | .halfCyclePWM => [2, 4]

lemma hBridgeInit_known {g : Globals F Registers} {type : HBridgeType}
    (h : knownType g.systemParams.hBridgeType = some type) :
    Orazio_hBridgeInit g = match type with
      | .pwmDir => initBridges g HBridgePWMDir_init 3 12 11 13
      | .dualPWM => initBridges g HBridgeDualPWM_init 3 2 5 4
      | .halfCyclePWM => initBridges g HBridgeHalfPWM_init 2 3 4 5 := by
  unfold knownType at h
  unfold Orazio_hBridgeInit
  split_ifs at h ⊢ <;> cases h <;> rfl

lemma hBridgeInit_unknown {g : Globals F Registers} (h : knownType g.systemParams.hBridgeType = none) :
    Orazio_hBridgeInit g = g := by
  unfold knownType at h
  unfold Orazio_hBridgeInit
  split_ifs at h ⊢
  rfl

lemma hBridgeInit_placed {g : Globals F Registers} (hg : Placed g) : Placed (Orazio_hBridgeInit g) := by
  cases h : knownType g.systemParams.hBridgeType with
  | none =>
    rw [hBridgeInit_unknown h]
    exact hg
  | some type =>
    rw [hBridgeInit_known h]
    cases type with
    | pwmDir =>
      exact initBridges_placed hg (pwmDir_initEnables (by decide) 12) (pwmDir_initEnables (by decide) 13)
        (fun _ _ => by simp [HBridgePWMDir_init, enabledPins])
        (fun _ _ => by simp [HBridgePWMDir_init, enabledPins])
    | dualPWM =>
      exact initBridges_placed hg (dualPWM_initEnables (by decide) (by decide))
        (dualPWM_initEnables (by decide) (by decide))
        (fun _ _ => by simp [HBridgeDualPWM_init, enabledPins])
        (fun _ _ => by simp [HBridgeDualPWM_init, enabledPins])
    | halfCyclePWM =>
      exact initBridges_placed hg (halfPWM_initEnables (by decide) 3) (halfPWM_initEnables (by decide) 5)
        (fun _ _ => by simp [HBridgeHalfPWM_init, enabledPins])
        (fun _ _ => by simp [HBridgeHalfPWM_init, enabledPins])

/-- After the initialisation with a known type, the PWM pins of that type are enabled and no others. -/
lemma hBridgeInit_enabled {g : Globals F Registers} (hg : Placed g) {type : HBridgeType}
    (h : knownType g.systemParams.hBridgeType = some type) (c : UInt8) :
    Enabled c (Orazio_hBridgeInit g).pins ↔ c ∈ pwmPins type := by
  rw [(hBridgeInit_placed hg).enabled, hBridgeInit_known h]
  cases type <;>
    simp [initBridges, HBridgePWMDir_init, HBridgeDualPWM_init, HBridgeHalfPWM_init, enabledPins, pwmPins,
      or_assoc]

/-! ### Zero drive -/

/-- The port bit of a pin is clear. -/
def drivesLow (pin : UInt8) (r : Registers) : Bool :=
  pins[pin.toNat]?.any fun mapping => r mapping.outRegister &&& bitMask mapping.bit = 0

/-- The bridge commands no drive; 127 is what `HBridgeHalfPWM_setSpeed` sets for the speed 0. -/
def CommandsZero (bridge : HBridge) (r : Registers) : Prop :=
  match bridge.ops with
  | none => True
  | some .pwmDir => PWM_getDutyCycle bridge.pwmPin r = 0
  | some .dualPWM => PWM_getDutyCycle bridge.pwmPin r = 0 ∧ PWM_getDutyCycle bridge.otherPin r = 0
  | some .halfCyclePWM => drivesLow bridge.otherPin r = true ∨ PWM_getDutyCycle bridge.pwmPin r = 127

/-- Only PWM pins of this type are enabled, and both bridges command zero drive. -/
def Neutral (type : HBridgeType) (g : Globals F Registers) : Prop :=
  (∀ c, Enabled c g.pins → c ∈ pwmPins type) ∧ ∀ i, CommandsZero (g.bridges i) g.pins

lemma halfPWM_init_high (bridge : HBridge) (r : Registers) :
    drivesLow 5 (HBridgeHalfPWM_init bridge 4 5 r).2 = false := by
  have hport : (HBridgeHalfPWM_init bridge 4 5 r).2 .portE =
      (setValue 5 1 (setDutyCycle 4 0 (bridge.fini r)) : Registers) .portE := by
    change (setDirection 5 1 (enable 4 1 (setValue 5 1 (setDutyCycle 4 0 (bridge.fini r)))) : Registers)
      .portE = _
    rw [setDirection_of_kind (by decide), enable_of_kind rfl (by decide)]
  have hset : (setValue 5 1 (setDutyCycle 4 0 (bridge.fini r)) : Registers) .portE &&& bitMask 3 =
      bitMask 3 :=
    writeBits_self Register.portE (bitMask 3) true (setDutyCycle 4 0 (bridge.fini r))
  change decide ((HBridgeHalfPWM_init bridge 4 5 r).2 .portE &&& bitMask 3 = 0) = false
  rw [hport, hset]
  decide

/-- The second bridge drives at full power after the initialisation. -/
lemma hBridgeInit_drives {g : Globals F Registers} {type : HBridgeType}
    (h : knownType g.systemParams.hBridgeType = some type) :
    ¬CommandsZero ((Orazio_hBridgeInit g).bridges 1) (Orazio_hBridgeInit g).pins := by
  rw [hBridgeInit_known h]
  cases type with
  | pwmDir =>
    intro hzero
    change PWM_getDutyCycle 11 (enable 11 1 _) = 0 at hzero
    rw [getDutyCycle_enable (by decide)] at hzero
    exact absurd hzero (by decide)
  | dualPWM =>
    rintro ⟨-, hzero⟩
    change PWM_getDutyCycle 4 (enable 4 1 _) = 0 at hzero
    rw [getDutyCycle_enable (by decide)] at hzero
    exact absurd hzero (by decide)
  | halfCyclePWM =>
    rintro (hlow | hneutral)
    · exact absurd (hlow.symm.trans (halfPWM_init_high _ _)) (by decide)
    · change PWM_getDutyCycle 4 (setDirection 5 1 (enable 4 1 _)) = 127 at hneutral
      rw [getDutyCycle_setDirection, getDutyCycle_enable (by decide)] at hneutral
      exact absurd hneutral (by decide)

/-! ### Runs -/

/-- `h_bridge_type` gets a value and the bridges are initialised, or the speed of one is set. -/
inductive BridgeInput
  | init (hBridgeType : UInt8)
  | setSpeed (i : Fin NUM_MOTORS) (speed : Int16)

/-- The initialisation with this value of `h_bridge_type`. -/
def initWith (hBridgeType : UInt8) (g : Globals F Registers) : Globals F Registers :=
  Orazio_hBridgeInit { g with systemParams.hBridgeType := hBridgeType }

def bridgeStep (g : Globals F Registers) : BridgeInput → Except Fault (Unit × Globals F Registers)
  | .init hBridgeType => .ok ((), initWith hBridgeType g)
  | .setSpeed i speed =>
    match (g.bridges i).setSpeed speed g.pins with
    | .error e => .error e
    | .ok pins => .ok ((), { g with pins })

variable [CFloat F]

/-- The variables after `DigIO_init` and `PWM_init`. -/
def startBridges (eeprom : Nat → UInt8) (r : Registers) : Globals F Registers :=
  .static eeprom (PWM_init (DigIO_init r)).2

/-- After each initialisation with a known type the bridges are neutral, until the speed of a bridge is
set or a known type is initialised again. -/
def BridgesNeutral (g₀ : Globals F Registers) (inputs : List BridgeInput) : Prop :=
  ∀ before after rest hBridgeType type g, inputs = before ++ .init hBridgeType :: after ++ rest →
    knownType hBridgeType = some type →
    (∀ input ∈ after, ∃ other, input = .init other ∧ knownType other = none) →
    (∃ u, StepMachine.run bridgeStep g₀ (before ++ .init hBridgeType :: after) = .ok (u, g)) →
    Neutral type g

/-- `PWM_init` disables all channels. -/
lemma pwmInit_disables (c : UInt8) (r : Registers) : ¬Enabled c (PWM_init r).2 := by
  have hmodes : ∀ register, kind register = .mode →
      (PWM_init r).2 register = bitMask 0 ||| bitMask 1 ∨ (PWM_init r).2 register = bitMask 0 := by
    intro register hkind
    cases register <;> first | exact .inl rfl | exact .inr rfl | cases hkind
  have hfields : ∀ pin ∈ pins, ∀ pwm ∈ pin.pwm,
      (bitMask 0 ||| bitMask 1) &&& pwm.comMask = 0 ∧ bitMask 0 &&& pwm.comMask = 0 := by
    decide
  intro henabled
  obtain ⟨pwm, hpwm, hmode⟩ := (enabled_iff c _).mp henabled
  obtain ⟨pin, -, hmem, hpin⟩ := pwmRegisters_eq_some hpwm
  obtain ⟨hboth, hone⟩ := hfields pin hmem pwm hpin
  rcases hmodes _ (pwmRegisters_kinds hpwm).1 with h | h
  · exact hmode (by rw [h, hboth])
  · exact hmode (by rw [h, hone])

lemma startBridges_placed (eeprom : Nat → UInt8) (r : Registers) :
    Placed (startBridges eeprom r : Globals F Registers) := by
  refine ⟨List.nil_subset _, List.nil_subset _, ?_⟩
  intro c
  apply iff_of_false (pwmInit_disables c _)
  rintro (h | h)
  · cases h
  · cases h

omit [CFloat F] in
lemma setSpeed_enabled {bridge : HBridge} {speed : Int16} {r r' : Registers}
    (h : bridge.setSpeed speed r = .ok r') (c : UInt8) : Enabled c r' ↔ Enabled c r := by
  unfold HBridge.setSpeed at h
  split at h
  · cases h
  · cases h
    simp [HBridgePWMDir_setSpeed]
  · cases h
    unfold HBridgeDualPWM_setSpeed
    simp only
    split <;> simp
  · cases h
    simp [HBridgeHalfPWM_setSpeed]

omit [CFloat F] in
lemma bridgeStep_placed {g g' : Globals F Registers} {input : BridgeInput} {u : Unit} (hg : Placed g)
    (h : bridgeStep g input = .ok (u, g')) : Placed g' := by
  cases input with
  | init hBridgeType =>
    cases h
    exact hBridgeInit_placed ⟨hg.first, hg.second, hg.enabled⟩
  | setSpeed i speed =>
    unfold bridgeStep at h
    simp only at h
    split at h
    · cases h
    · next r' hspeed =>
      cases h
      exact ⟨hg.first, hg.second, fun c => (setSpeed_enabled hspeed c).trans (hg.enabled c)⟩

/-- Whatever the types before, an initialisation with a known type leaves exactly the PWM pins of that
type enabled. -/
theorem only_pins_of_type_enabled (eeprom : Nat → UInt8) (r : Registers) (g : Globals F Registers)
    (inputs : List BridgeInput) (u : List Unit) (hBridgeType : UInt8) (type : HBridgeType)
    (hrun : StepMachine.run bridgeStep (startBridges eeprom r) inputs = .ok (u, g))
    (htype : knownType hBridgeType = some type) (c : UInt8) :
    PWM_isEnabled c (initWith hBridgeType g).pins = .enabled ↔ c ∈ pwmPins type := by
  have hg : Placed g := StepMachine.run_invariant Placed (startBridges_placed eeprom r)
    (fun _ _ _ _ h hstep => bridgeStep_placed h hstep) hrun
  exact hBridgeInit_enabled (g := { g with systemParams.hBridgeType := hBridgeType })
    ⟨hg.first, hg.second, hg.enabled⟩ htype c

/-- The bridges come up neutral in a run if and only if it never initialises a known type. -/
theorem bridges_neutral_iff (eeprom : Nat → UInt8) (r : Registers) (g : Globals F Registers)
    (inputs : List BridgeInput) (u : List Unit)
    (hrun : StepMachine.run bridgeStep (startBridges eeprom r) inputs = .ok (u, g)) :
    BridgesNeutral (startBridges eeprom r : Globals F Registers) inputs ↔
      ∀ hBridgeType, .init hBridgeType ∈ inputs → knownType hBridgeType = none := by
  constructor
  · intro hneutral hBridgeType hmem
    cases htype : knownType hBridgeType with
    | none => rfl
    | some type =>
      exfalso
      obtain ⟨before, rest, rfl⟩ := List.append_of_mem hmem
      obtain ⟨u₁, g₁, -, hbefore, -, -⟩ := StepMachine.run_append_eq_ok.mp hrun
      have hinit : StepMachine.run bridgeStep (startBridges eeprom r) (before ++ [.init hBridgeType]) =
          .ok (u₁ ++ [()], initWith hBridgeType g₁) :=
        StepMachine.run_concat_eq_ok.mpr ⟨u₁, g₁, (), hbefore, rfl, rfl⟩
      have hzero := (hneutral before [] rest hBridgeType type (initWith hBridgeType g₁) (by simp) htype
        (by simp) ⟨_, hinit⟩).2 1
      exact hBridgeInit_drives (g := { g₁ with systemParams.hBridgeType := hBridgeType }) htype hzero
  · intro hnone before after rest hBridgeType type g' hinputs htype
    have hmem : .init hBridgeType ∈ inputs := by
      rw [hinputs]
      simp
    rw [hnone hBridgeType hmem] at htype
    cases htype

/-- Two types one after the other, with a speed between them. -/
def twoTypes : List BridgeInput :=
  [.init HBridgeTypePWMDir, .setSpeed 0 100, .init HBridgeTypeDualPWM]

theorem bridges_neutral_iff_two_types :
    ∃ (g : Globals ExactFloat Registers) (u : List Unit),
      StepMachine.run bridgeStep (startBridges (fun _ => 0xFF) fun _ => 0) twoTypes = .ok (u, g) ∧
      ¬BridgesNeutral (startBridges (fun _ => 0xFF) fun _ => 0 : Globals ExactFloat Registers)
        twoTypes := by
  obtain ⟨⟨u, g⟩, hrun, -⟩ :
      ∃ x, StepMachine.run bridgeStep (startBridges (F := ExactFloat) (fun _ => 0xFF) fun _ => 0)
        twoTypes = .ok x ∧ True := by
    decide +kernel
  refine ⟨g, u, hrun, ?_⟩
  intro hneutral
  have hnone := (bridges_neutral_iff _ _ g twoTypes u hrun).mp hneutral HBridgeTypePWMDir
    List.mem_cons_self
  exact absurd hnone (by decide)

/-- The first initialisation with PWM and direction pins enables both PWM pins at full power. -/
theorem first_init_full_power :
    (∀ c ∈ pwmPins .pwmDir,
      PWM_isEnabled c (initWith HBridgeTypePWMDir
        (startBridges (F := ExactFloat) (fun _ => 0xFF) fun _ => 0)).pins = .enabled ∧
      PWM_getDutyCycle c (initWith HBridgeTypePWMDir
        (startBridges (F := ExactFloat) (fun _ => 0xFF) fun _ => 0)).pins = 255) ∧
    ¬BridgesNeutral (startBridges (fun _ => 0xFF) fun _ => 0 : Globals ExactFloat Registers)
      [.init HBridgeTypePWMDir] := by
  refine ⟨by decide +kernel, ?_⟩
  intro hneutral
  have hafter := hneutral [] [] [] HBridgeTypePWMDir .pwmDir _ rfl rfl (by simp) ⟨_, rfl⟩
  exact absurd (hafter.2 1) (hBridgeInit_drives rfl)

end Orazio.Proofs
