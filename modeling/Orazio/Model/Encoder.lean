import Mathlib.Logic.Function.Basic
import Orazio.Model.OrazioPackets

/-!
# The encoders of the AVR

Model of `encoder.c` of the atmega2560. The registers that `Encoder_init` sets up are left out; `PINB`
is the input of the interrupt.
-/

namespace Orazio

abbrev NUM_ENCODERS : Nat := 2
abbrev ENCODER_MASK : UInt8 := 0x0F

structure Encoder where
  currentValue : UInt16
  sampledValue : UInt16
  pinState : UInt8
  deriving DecidableEq

abbrev Encoders : Type := Fin NUM_ENCODERS → Encoder

/-- `_encoders` when the program starts. -/
def initialEncoders : Encoders :=
  fun _ => ⟨0, 0, 0⟩

def transitionTable : List Int8 :=
  [0, -1, 1, 0, 1, 0, 0, -1, -1, 0, 0, 1, 0, 1, -1, 0]

/-- The part of the interrupt that is about one encoder. -/
def Encoder.transition (e : Encoder) (newPinState : UInt8) : Except Fault Encoder :=
  let idx := (e.pinState <<< 2) ||| newPinState
  match transitionTable[idx.toNat]? with
  | none => .error .outOfBounds
  | some step =>
    .ok { e with currentValue := e.currentValue + .ofInt step.toInt, pinState := newPinState }

/-- `ISR(PCINT0_vect)`. -/
def PCINT0_vect (encoders : Encoders) (pinb : UInt8) : Except Fault Encoders :=
  let portValue := pinb &&& ENCODER_MASK
  match (encoders 0).transition (portValue &&& 0x3) with
  | .error e => .error e
  | .ok encoder0 =>
    match (encoders 1).transition (portValue >>> 2) with
    | .error e => .error e
    | .ok encoder1 => .ok (Function.update (Function.update encoders 0 encoder0) 1 encoder1)

/-- `Encoder_sample`. -/
def sampleEncoders (encoders : Encoders) : Encoders :=
  fun i => { encoders i with sampledValue := (encoders i).currentValue }

/-- `Encoder_getValue`. -/
def getEncoderValue (encoders : Encoders) (numEncoder : Fin NUM_ENCODERS) : UInt16 :=
  (encoders numEncoder).sampledValue

end Orazio
