import Mathlib.Logic.Function.Basic

/-!
# Register files

A register file is a function from the names of its 8 bit registers to their values. Writing the bits of
a mask in one register leaves the fields that are apart from it unchanged.
-/

namespace RegisterFile

/-! ### Fields of a byte -/

lemma setBits_self (x mask : UInt8) : (x ||| mask) &&& mask = mask := by
  apply UInt8.eq_of_toBitVec_eq
  ext i hi
  simp only [UInt8.toBitVec_and, UInt8.toBitVec_or, BitVec.getElem_and, BitVec.getElem_or]
  exact Bool.and_eq_right_iff_imp.mpr fun h => by simp [h]

lemma clearBits_self (x mask : UInt8) : (x &&& ~~~mask) &&& mask = 0 := by
  rw [UInt8.and_assoc, UInt8.not_and_self, UInt8.and_zero]

lemma setBits_apart {mask field : UInt8} (x : UInt8) (h : mask &&& field = 0) :
    (x ||| mask) &&& field = x &&& field := by
  have hbits := congrArg UInt8.toBitVec h
  apply UInt8.eq_of_toBitVec_eq
  ext i hi
  have hbit := congrArg (fun b : BitVec 8 => b[i]) hbits
  simp only [UInt8.toBitVec_and, UInt8.toBitVec_or, BitVec.getElem_and, BitVec.getElem_or] at hbit ⊢
  cases hm : mask.toBitVec[i] <;> cases hf : field.toBitVec[i] <;> simp_all

lemma clearBits_apart {mask field : UInt8} (x : UInt8) (h : mask &&& field = 0) :
    (x &&& ~~~mask) &&& field = x &&& field := by
  have hkeep : ~~~mask &&& field = field := by
    have hsplit := setBits_apart (~~~mask) h
    rw [UInt8.or_comm, UInt8.or_not_self, UInt8.neg_one_and] at hsplit
    exact hsplit.symm
  rw [UInt8.and_assoc, hkeep]

/-! ### Masked writes -/

variable {ρ : Type*} [DecidableEq ρ]

/-- A register with the bits of the mask set or cleared. -/
def writeBits (register : ρ) (mask : UInt8) (set : Bool) (r : ρ → UInt8) : ρ → UInt8 :=
  Function.update r register (if set then r register ||| mask else r register &&& ~~~mask)

lemma writeBits_of_ne {register other : ρ} (h : other ≠ register) (mask : UInt8) (set : Bool)
    (r : ρ → UInt8) : writeBits register mask set r other = r other :=
  Function.update_of_ne h _ _

lemma writeBits_self (register : ρ) (mask : UInt8) (set : Bool) (r : ρ → UInt8) :
    writeBits register mask set r register &&& mask = if set then mask else 0 := by
  rw [writeBits, Function.update_self]
  cases set with
  | false => exact clearBits_self _ _
  | true => exact setBits_self _ _

/-- A field in another register, or with other bits in the same one. -/
lemma writeBits_apart {register other : ρ} {mask field : UInt8}
    (h : other = register → mask &&& field = 0) (set : Bool) (r : ρ → UInt8) :
    writeBits register mask set r other &&& field = r other &&& field := by
  by_cases hsame : other = register
  · subst hsame
    rw [writeBits, Function.update_self]
    cases set with
    | false => exact clearBits_apart _ (h rfl)
    | true => exact setBits_apart _ (h rfl)
  · rw [writeBits_of_ne hsame]

end RegisterFile
