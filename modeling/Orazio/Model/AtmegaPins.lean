import Orazio.Lib.RegisterFile
import Orazio.Model.OrazioHBridge

/-!
# The pins of the atmega2560

Model of `pins.c`, `digio.c` and `pwm.c` of this microcontroller. Its registers are a function on their
names; the bit numbers are those of its manual.
-/

namespace Orazio

open RegisterFile

/-- The registers that the table of pins and the initialisation of the PWM mention. -/
inductive Register
  | portB | portE | portG | portH
  | ddrB | ddrE | ddrG | ddrH
  | timsk0 | timsk1 | timsk2 | timsk3 | timsk4
  | tccr0A | tccr0B | tccr1A | tccr1B | tccr2A | tccr2B | tccr3A | tccr3B | tccr4A | tccr4B
  | ocr0B | ocr1AL | ocr1AH | ocr1BL | ocr1BH | ocr1CL | ocr1CH | ocr2A | ocr2B
  | ocr3AL | ocr3AH | ocr3BL | ocr3BH | ocr3CL | ocr3CH | ocr4AL | ocr4BL | ocr4CL
  deriving DecidableEq, Repr

abbrev Registers := Register → UInt8

/-! ### The table of pins -/

/-- The timer registers of a pin. -/
structure PWMRegisters where
  tccRegister : Register
  ocRegister : Register
  comMask : UInt8
  deriving DecidableEq

/-- A pin; without `pwm` its `tcc_register` is null. -/
structure Pin where
  outRegister : Register
  dirRegister : Register
  bit : UInt8
  pwm : Option PWMRegisters

/-- `1<<bit`. -/
def bitMask (bit : UInt8) : UInt8 :=
  (1 : UInt8) <<< bit

abbrev COM_A : UInt8 := bitMask 6 ||| bitMask 7
abbrev COM_B : UInt8 := bitMask 4 ||| bitMask 5
abbrev COM_C : UInt8 := bitMask 2 ||| bitMask 3

def pins : List Pin :=
  [⟨.portE, .ddrE, 0, none⟩,
    ⟨.portE, .ddrE, 1, none⟩,
    ⟨.portE, .ddrE, 4, some ⟨.tccr3A, .ocr3BL, COM_B⟩⟩,
    ⟨.portE, .ddrE, 5, some ⟨.tccr3A, .ocr3CL, COM_C⟩⟩,
    ⟨.portG, .ddrG, 5, some ⟨.tccr0A, .ocr0B, COM_B⟩⟩,
    ⟨.portE, .ddrE, 3, some ⟨.tccr3A, .ocr3AL, COM_A⟩⟩,
    ⟨.portH, .ddrH, 3, some ⟨.tccr4A, .ocr4AL, COM_A⟩⟩,
    ⟨.portH, .ddrH, 4, some ⟨.tccr4A, .ocr4BL, COM_B⟩⟩,
    ⟨.portH, .ddrH, 5, some ⟨.tccr4A, .ocr4CL, COM_C⟩⟩,
    ⟨.portH, .ddrH, 6, some ⟨.tccr2A, .ocr2B, COM_B⟩⟩,
    ⟨.portB, .ddrB, 4, some ⟨.tccr2A, .ocr2A, COM_A⟩⟩,
    ⟨.portB, .ddrB, 5, some ⟨.tccr1A, .ocr1AL, COM_A⟩⟩,
    ⟨.portB, .ddrB, 6, some ⟨.tccr1A, .ocr1BL, COM_B⟩⟩,
    ⟨.portB, .ddrB, 7, some ⟨.tccr1A, .ocr1CL, COM_C⟩⟩]

/-- The timer registers of a channel; none for a channel without PWM or beyond `PINS_NUM`. -/
def pwmRegisters (c : UInt8) : Option PWMRegisters :=
  pins[c.toNat]?.bind Pin.pwm

/-! ### Digital pins -/

def DigIO_setDirection (pin dir : UInt8) (r : Registers) : UInt8 × Registers :=
  match pins[pin.toNat]? with
  | none => (1, r)
  | some mapping => (0, writeBits mapping.dirRegister (bitMask mapping.bit) (dir ≠ 0) r)

def DigIO_setValue (pin value : UInt8) (r : Registers) : Registers :=
  match pins[pin.toNat]? with
  | none => r
  | some mapping => writeBits mapping.outRegister (bitMask mapping.bit) (value ≠ 0) r

/-- All pins become inputs with a pull up. -/
def DigIO_init (r : Registers) : Registers :=
  (List.range pins.length).foldl
    (fun r i => DigIO_setValue (UInt8.ofNat i) 1 (DigIO_setDirection (UInt8.ofNat i) 0 r).2) r

/-! ### PWM -/

inductive PWMError
  | enabled | success | channelOutOfBound
  deriving DecidableEq, Repr

namespace PWMError

def code : PWMError → Int
  | enabled => 1
  | success => 0
  | channelOutOfBound => -1

end PWMError

abbrev TCCRA_MASK : UInt8 := bitMask 0
abbrev TCCRB_MASK : UInt8 := bitMask 3 ||| bitMask 0

/-- What `PWM_init` assigns to the registers, in this order. -/
def pwmInitValues : List (Register × UInt8) :=
  [(.timsk0, 0), (.timsk1, 0), (.timsk2, 0), (.timsk3, 0), (.timsk4, 0),
    (.tccr0A, bitMask 0 ||| bitMask 1), (.tccr0B, bitMask 0),
    (.tccr2A, bitMask 0 ||| bitMask 1), (.tccr2B, bitMask 0),
    (.tccr1A, TCCRA_MASK), (.tccr1B, TCCRB_MASK), (.ocr1AH, 0), (.ocr1BH, 0), (.ocr1CH, 0),
    (.tccr3A, TCCRA_MASK), (.tccr3B, TCCRB_MASK), (.ocr3AH, 0), (.ocr3BH, 0), (.ocr3CH, 0),
    (.tccr4A, TCCRA_MASK), (.tccr4B, TCCRB_MASK), (.ocr3AH, 0), (.ocr3BH, 0), (.ocr3CH, 0)]

def PWM_init (r : Registers) : PWMError × Registers :=
  (.success, pwmInitValues.foldl (fun r assignment => Function.update r assignment.1 assignment.2) r)

def PWM_isEnabled (c : UInt8) (r : Registers) : PWMError :=
  match pwmRegisters c with
  | none => .channelOutOfBound
  | some pin => if r pin.tccRegister &&& pin.comMask = 0 then .success else .enabled

def PWM_enable (c enable : UInt8) (r : Registers) : PWMError × Registers :=
  match pins[c.toNat]? with
  | none => (.channelOutOfBound, r)
  | some mapping =>
    match mapping.pwm with
    | none => (.channelOutOfBound, r)
    | some pin =>
      let r := Function.update r pin.ocRegister 0
      let r := writeBits pin.tccRegister pin.comMask (enable ≠ 0) r
      (.success, writeBits mapping.dirRegister (bitMask mapping.bit) (enable ≠ 0) r)

/-- The duty cycle, or the error code as a byte. -/
def PWM_getDutyCycle (c : UInt8) (r : Registers) : UInt8 :=
  match pwmRegisters c with
  | none => UInt8.ofInt PWMError.channelOutOfBound.code
  | some pin => 255 - r pin.ocRegister

def PWM_setDutyCycle (c dutyCycle : UInt8) (r : Registers) : PWMError × Registers :=
  match pwmRegisters c with
  | none => (.channelOutOfBound, r)
  | some pin => (.success, Function.update r pin.ocRegister (255 - dutyCycle))

instance : PinDriver Registers where
  setDirection pin dir r := (DigIO_setDirection pin dir r).2
  setValue := DigIO_setValue
  setDutyCycle c dutyCycle r := (PWM_setDutyCycle c dutyCycle r).2
  enable c on r := (PWM_enable c on r).2

end Orazio
