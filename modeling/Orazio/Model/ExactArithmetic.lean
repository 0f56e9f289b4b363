import Mathlib.Algebra.Order.Field.Basic
import Mathlib.Analysis.Complex.Trigonometric
import Orazio.Model.OrazioDrive

/-!
# Exact arithmetic

The operations of the drive controller on numbers that are never rounded: the elements of an ordered
field `K`. What the mathematical library and the memory add to a field is a `MathLibrary`.
-/

namespace Orazio

class MathLibrary (K : Type) extends FloatBytes K where
  sin : K → K
  cos : K → K
  pi : K
  toInt16 : K → Int16

structure Exact (K : Type) where
  value : K

namespace Exact

variable {K : Type} [Field K] [LinearOrder K] [MathLibrary K]

instance : CFloat (Exact K) where
  bytes x := FloatBytes.bytes x.value
  ofBytes m := ⟨FloatBytes.ofBytes m⟩
  length_bytes x := FloatBytes.length_bytes x.value
  add x y := ⟨x.value + y.value⟩
  sub x y := ⟨x.value - y.value⟩
  mul x y := ⟨x.value * y.value⟩
  div x y := ⟨x.value / y.value⟩
  neg x := ⟨-x.value⟩
  const r := ⟨r⟩
  ofInt n := ⟨n⟩
  lt x y := x.value < y.value
  eq x y := x.value = y.value
  sin x := ⟨MathLibrary.sin x.value⟩
  cos x := ⟨MathLibrary.cos x.value⟩
  pi := ⟨MathLibrary.pi⟩
  toInt16 x := MathLibrary.toInt16 x.value

@[simp] lemma value_add (x y : Exact K) : (x + y).value = x.value + y.value := rfl

@[simp] lemma value_sub (x y : Exact K) : (x - y).value = x.value - y.value := rfl

@[simp] lemma value_mul (x y : Exact K) : (x * y).value = x.value * y.value := rfl

@[simp] lemma value_div (x y : Exact K) : (x / y).value = x.value / y.value := rfl

@[simp] lemma value_neg (x : Exact K) : (-x).value = -x.value := rfl

@[simp] lemma value_const (r : ℚ) : (CFloat.const r : Exact K).value = r := rfl

@[simp] lemma value_ofInt (n : ℤ) : (CFloat.ofInt n : Exact K).value = n := rfl

@[simp] lemma value_pi : (CFloat.pi : Exact K).value = MathLibrary.pi := rfl

@[simp] lemma lt_iff (x y : Exact K) : CFloat.lt x y = true ↔ x.value < y.value :=
  decide_eq_true_iff

@[simp] lemma eq_iff (x y : Exact K) : CFloat.eq x y = true ↔ x.value = y.value :=
  decide_eq_true_iff

end Exact

/-- The real numbers with the `M_PI` of the source. No bytes of theirs are ever read. -/
noncomputable instance realLibrary : MathLibrary ℝ where
  bytes _ := [0, 0, 0, 0]
  ofBytes _ := 0
  length_bytes _ := rfl
  sin := Real.sin
  cos := Real.cos
  pi := 3.141592654
  toInt16 x := Int16.ofInt (if 0 ≤ x then ⌊x⌋ else ⌈x⌉)

end Orazio
