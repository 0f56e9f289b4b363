import Mathlib.Data.Rat.Defs
import Orazio.Model.Main

/-!
# A concrete board

Instances of what the firmware model leaves open: rational numbers that are rounded to single
precision when they become bytes, numbers that are rounded after every operation, and pins that
remember what was last set.
-/

namespace Orazio

structure ExactFloat where
  value : Rat
  deriving DecidableEq

namespace ExactFloat

/-- The exponent of the power of two below a positive number. -/
def exponent (x : Rat) : Int :=
  let e : Int := (x.num.toNat.log2 : Int) - x.den.log2
  if x < (2 : Rat) ^ e then e - 1 else e

/-- The single precision format of a number, rounded to the nearest. -/
def toBits (x : Rat) : UInt32 :=
  if x = 0 then 0
  else
    let sign : Nat := if x < 0 then 2 ^ 31 else 0
    let a := if x < 0 then -x else x
    let e := exponent a
    let mantissa := (a * (2 : Rat) ^ (23 - e) + 1 / 2).floor.toNat
    UInt32.ofNat (sign + (e + 126).toNat * 2 ^ 23 + mantissa)

def ofBits (b : UInt32) : Rat :=
  let n := b.toNat
  if n % 2 ^ 31 = 0 then 0
  else
    let a : Rat := (2 ^ 23 + n % 2 ^ 23 : Nat) * (2 : Rat) ^ ((n / 2 ^ 23 % 2 ^ 8 : Nat) - 150 : Int)
    if n / 2 ^ 31 = 1 then -a else a

instance : CFloat ExactFloat where
  bytes x := LittleEndian.u32 (toBits x.value)
  ofBytes m := ⟨ofBits (LittleEndian.getU32 m 0)⟩
  length_bytes _ := rfl
  add x y := ⟨x.value + y.value⟩
  sub x y := ⟨x.value - y.value⟩
  mul x y := ⟨x.value * y.value⟩
  div x y := ⟨x.value / y.value⟩
  neg x := ⟨-x.value⟩
  const := .mk
  ofInt n := ⟨n⟩
  lt x y := x.value < y.value
  eq x y := x.value = y.value
  sin x := ⟨x.value - x.value ^ 3 / 6 + x.value ^ 5 / 120⟩
  cos x := ⟨1 - x.value ^ 2 / 2 + x.value ^ 4 / 24⟩
  pi := ⟨3141592654 / 1000000000⟩
  toInt16 x := Int16.ofInt (x.value.num.tdiv x.value.den)

end ExactFloat

/-- A number in the single precision format. -/
structure BitFloat where
  bits : UInt32
  deriving DecidableEq

namespace BitFloat

def value (x : BitFloat) : ExactFloat :=
  ⟨ExactFloat.ofBits x.bits⟩

def round (x : ExactFloat) : BitFloat :=
  ⟨ExactFloat.toBits x.value⟩

instance : CFloat BitFloat where
  bytes x := LittleEndian.u32 x.bits
  ofBytes m := ⟨LittleEndian.getU32 m 0⟩
  length_bytes _ := rfl
  add x y := round (x.value + y.value)
  sub x y := round (x.value - y.value)
  mul x y := round (x.value * y.value)
  div x y := round (x.value / y.value)
  neg x := round (-x.value)
  const r := round (CFloat.const r)
  ofInt n := round (CFloat.ofInt n)
  lt x y := CFloat.lt x.value y.value
  eq x y := CFloat.eq x.value y.value
  sin x := round (CFloat.sin x.value)
  cos x := round (CFloat.cos x.value)
  pi := round CFloat.pi
  toInt16 x := CFloat.toInt16 x.value

instance : LawfulFloatBytes BitFloat where
  bytes_ofBytes m := LittleEndian.u32_getU32 m 0
  ofBytes_bytes x m hm := by
    have hbits : LittleEndian.getU32 m 0 = x.bits := by
      obtain ⟨h₀, h₁, h₂, h₃, -⟩ : m 0 = _ ∧ m 1 = _ ∧ m 2 = _ ∧ m 3 = _ ∧ True := by
        simpa [Bytes.read, List.range_succ, FloatBytes.bytes, LittleEndian.u32] using hm
      exact LittleEndian.getU32_eq h₀ h₁ h₂ h₃
    exact congrArg BitFloat.mk hbits

end BitFloat

/-- The last values set on each pin. -/
structure Pins where
  direction : UInt8 → UInt8
  value : UInt8 → UInt8
  dutyCycle : UInt8 → UInt8
  enabled : UInt8 → UInt8

namespace Pins

def zero : Pins :=
  ⟨fun _ => 0, fun _ => 0, fun _ => 0, fun _ => 0⟩

instance : PinDriver Pins where
  setDirection pin dir p := { p with direction := Function.update p.direction pin dir }
  setValue pin value p := { p with value := Function.update p.value pin value }
  setDutyCycle pin duty p := { p with dutyCycle := Function.update p.dutyCycle pin duty }
  enable pin on p := { p with enabled := Function.update p.enabled pin on }

end Pins

/-- An EEPROM in which the default parameters are stored with these `watchdog_cycles`. -/
def storedParams (watchdogCycles : UInt16) : Nat → UInt8 :=
  EEPROM_write PROTOCOL_VERSION_OFFSET (LittleEndian.u32 ORAZIO_PROTOCOL_VERSION)
    (EEPROM_write SYSTEM_PARAM_OFFSET { initSystemParams with watchdogCycles }.bytes
      (EEPROM_write JOINT_PARAM_OFFSET initJointParams.bytes
        (EEPROM_write DRIVE_PARAM_OFFSET (initDriveParams : DifferentialDriveParamPacket ExactFloat).bytes
          fun _ => 0xFF)))

/-- The steps before the loop. -/
def startInputs : List MainInput :=
  List.replicate 2 (.step ⟨0, [], 0⟩)

/-- Two ticks with the encoders at rest and an epoch that receives these bytes. -/
def epochInputs (received : List UInt8) : List MainInput :=
  List.replicate 2 (.tick fun _ => 0) ++ List.replicate 8 (.step ⟨0, received, 0⟩)

end Orazio
