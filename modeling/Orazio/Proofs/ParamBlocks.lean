import Mathlib.Data.List.Basic
import Mathlib.Data.List.GetD
import Mathlib.Tactic.IntervalCases
import Orazio.Lib.Bytes
import Orazio.Proofs.FirmwareActions

/-!
# The blocks of parameters

The three structs of parameters, their places in the EEPROM, and what saving and loading one of them
does to the bytes.
-/

namespace Orazio.Proofs

open LittleEndian

inductive ParamBlock
  | system | joints | drive
  deriving DecidableEq

namespace ParamBlock

def var : ParamBlock → PacketVar
  | system => .systemParams
  | joints => .jointParams
  | drive => .driveParams

def offset : ParamBlock → Nat
  | system => SYSTEM_PARAM_OFFSET
  | joints => JOINT_PARAM_OFFSET
  | drive => DRIVE_PARAM_OFFSET

/-- The block that a packet of this type replaces. -/
def ofType (type : UInt8) : Option ParamBlock :=
  if type = SYSTEM_PARAM_PACKET_ID then some system
  else if type = JOINT_PARAM_PACKET_ID then some joints
  else if type = DIFFERENTIAL_DRIVE_PARAM_PACKET_ID then some drive
  else none

/-- The block that a `ParamControlPacket` is about. -/
def ofParamType (paramType : UInt8) : Option ParamBlock :=
  if paramType = ParamSystem then some system
  else if paramType = ParamJoints then some joints
  else if paramType = ParamDrive then some drive
  else none

end ParamBlock

lemma paramBlock_eq (paramType : UInt8) :
    paramBlock paramType = (ParamBlock.ofParamType paramType).map fun b => (b.var, b.offset) := by
  unfold paramBlock ParamBlock.ofParamType
  split
  · rfl
  · split
    · rfl
    · split <;> rfl

/-! ### The EEPROM -/

lemma eepromWrite_outside {dest a : Nat} (bs : List UInt8) (eeprom : Nat → UInt8)
    (ha : a < dest ∨ dest + bs.length ≤ a) : EEPROM_write dest bs eeprom a = eeprom a := by
  induction bs generalizing dest eeprom with
  | nil => rfl
  | cons b bs ih =>
    rw [List.length_cons] at ha
    rw [EEPROM_write, ih _ (by omega), Function.update_of_ne (by omega)]

lemma eepromWrite_inside (dest : Nat) (bs : List UInt8) (eeprom : Nat → UInt8) {i : Nat}
    (hi : i < bs.length) : EEPROM_write dest bs eeprom (dest + i) = bs[i] := by
  induction bs generalizing dest eeprom i with
  | nil => cases hi
  | cons b bs ih =>
    rw [EEPROM_write]
    cases i with
    | zero => rw [eepromWrite_outside bs _ (by omega), Nat.add_zero, Function.update_self]; rfl
    | succ i =>
      rw [List.length_cons] at hi
      have hrest := ih (dest + 1) (Function.update eeprom dest b) (i := i) (by omega)
      rw [Nat.add_right_comm, Nat.add_assoc] at hrest
      rw [hrest]
      rfl

/-- What has been written is read. -/
lemma read_eepromWrite (dest : Nat) (bs : List UInt8) (eeprom : Nat → UInt8) :
    Bytes.read (EEPROM_write dest bs eeprom) dest bs.length = bs := by
  apply List.ext_getElem
  · exact Bytes.length_read _ _ _
  · intro i _ hi
    rw [Bytes.getElem_read, eepromWrite_inside dest bs eeprom hi]

/-- Writing changes no other block. -/
lemma read_eepromWrite_of_apart {dest src n : Nat} (bs : List UInt8) (eeprom : Nat → UInt8)
    (h : ∀ i < n, src + i < dest ∨ dest + bs.length ≤ src + i) :
    Bytes.read (EEPROM_write dest bs eeprom) src n = Bytes.read eeprom src n := by
  apply Bytes.read_congr
  intro i hi
  exact eepromWrite_outside bs eeprom (h i hi)

lemma getU32_eepromWrite (dest : Nat) (x : UInt32) (eeprom : Nat → UInt8) :
    getU32 (EEPROM_write dest (u32 x) eeprom) dest = x := by
  have hbyte : ∀ i (hi : i < (u32 x).length), EEPROM_write dest (u32 x) eeprom (dest + i) = (u32 x)[i] :=
    fun i hi => eepromWrite_inside dest (u32 x) eeprom hi
  exact getU32_eq (hbyte 0 (by simp)) (hbyte 1 (by simp)) (hbyte 2 (by simp)) (hbyte 3 (by simp))

lemma getU32_eepromWrite_of_apart {dest src : Nat} (bs : List UInt8) (eeprom : Nat → UInt8)
    (h : src + 4 ≤ dest ∨ dest + bs.length ≤ src) :
    getU32 (EEPROM_write dest bs eeprom) src = getU32 eeprom src := by
  have hbyte : ∀ i < 4, EEPROM_write dest bs eeprom (src + i) = eeprom (src + i) :=
    fun i hi => eepromWrite_outside bs eeprom (by omega)
  have hfirst := hbyte 0 (by omega)
  rw [Nat.add_zero] at hfirst
  simp only [getU32]
  rw [hfirst, hbyte 1 (by omega), hbyte 2 (by omega), hbyte 3 (by omega)]

lemma length_sizeof (b : ParamBlock) :
    b.var.sizeof.toNat = match b with | .system => 25 | .joints => 36 | .drive => 38 := by
  cases b <;> rfl

/-- Different blocks lie apart. -/
lemma blocks_apart {b b' : ParamBlock} (h : b' ≠ b) {i : Nat} (hi : i < b'.var.sizeof.toNat) :
    b'.offset + i < b.offset ∨ b.offset + b.var.sizeof.toNat ≤ b'.offset + i := by
  rw [length_sizeof] at hi ⊢
  cases b <;> cases b' <;>
    simp only [ParamBlock.offset, ne_eq, reduceCtorEq, not_true_eq_false, SYSTEM_PARAM_OFFSET,
      JOINT_PARAM_OFFSET, DRIVE_PARAM_OFFSET, FIRMWARE_VERSION_OFFSET, PROTOCOL_VERSION_OFFSET]
      at h hi ⊢ <;>
    omega

variable {F π : Type} [CFloat F]

lemma length_bytes (p : PacketVar) (g : Globals F π) : (p.bytes g).length = p.sizeof.toNat := by
  cases p <;>
    simp only [PacketVar.bytes, PacketVar.sizeof, PacketHeader.bytes, SystemParamPacket.bytes,
      JointParamPacket.bytes, JointParams.bytes, DifferentialDriveParamPacket.bytes,
      SystemStatusPacket.bytes, JointStatusPacket.bytes, JointInfo.bytes,
      DifferentialDriveStatusPacket.bytes, JointControlPacket.bytes, JointControl.bytes,
      DifferentialDriveControlPacket.bytes, ResponsePacket.bytes, FloatBytes.length_bytes,
      List.length_append, List.length_cons, List.length_nil, LittleEndian.length_u16,
      LittleEndian.length_u32, LittleEndian.length_i16] <;>
    rfl

/-! ### Structs and their bytes -/

lemma header_bytes_ofBytes (m : PacketBytes) :
    (PacketHeader.ofBytes m).bytes = Bytes.read m 0 4 := by
  simp only [PacketHeader.ofBytes, PacketHeader.bytes, u16_getU16]
  rfl

lemma systemParam_bytes_ofBytes (m : PacketBytes) :
    (SystemParamPacket.ofBytes m).bytes = Bytes.read m 0 25 := by
  simp only [SystemParamPacket.ofBytes, SystemParamPacket.bytes, header_bytes_ofBytes, u16_getU16,
    u32_getU32, i16_getI16]
  rfl

lemma jointParam_bytes_ofBytes (m : PacketBytes) :
    (JointParamPacket.ofBytes m).bytes = Bytes.read m 0 36 := by
  simp only [JointParamPacket.ofBytes, JointParamPacket.bytes, JointParams.ofBytes, JointParams.bytes,
    header_bytes_ofBytes, i16_getI16]
  rfl

lemma driveParam_bytes_ofBytes [LawfulFloatBytes F] (m : PacketBytes) :
    (DifferentialDriveParamPacket.ofBytes m : DifferentialDriveParamPacket F).bytes =
      Bytes.read m 0 38 := by
  simp only [DifferentialDriveParamPacket.ofBytes, DifferentialDriveParamPacket.bytes, getFloat,
    header_bytes_ofBytes, LawfulFloatBytes.bytes_ofBytes]
  rfl

/-- The bytes of a block that has been overwritten. -/
lemma bytes_ofMemory [LawfulFloatBytes F] (b : ParamBlock) (m : PacketBytes) (g : Globals F π) :
    b.var.bytes (b.var.ofMemory m g) = Bytes.read m 0 b.var.sizeof.toNat := by
  cases b with
  | system => exact systemParam_bytes_ofBytes m
  | joints => exact jointParam_bytes_ofBytes m
  | drive => exact driveParam_bytes_ofBytes m

lemma header_ofBytes_bytes (h : PacketHeader) (m : PacketBytes) (hm : ∀ i < 4, m i = h.bytes.getD i 0) :
    PacketHeader.ofBytes m = h := by
  have hseq : getU16 m 2 = h.seq := getU16_eq (hm 2 (by omega)) (hm 3 (by omega))
  have htype : m 0 = h.type := hm 0 (by omega)
  have hsize : m 1 = h.size := hm 1 (by omega)
  rw [PacketHeader.ofBytes, hseq, htype, hsize]

lemma systemParam_ofBytes_bytes (p : SystemParamPacket) (m : PacketBytes)
    (hm : ∀ i < 25, m i = p.bytes.getD i 0) : SystemParamPacket.ofBytes m = p := by
  have hheader := header_ofBytes_bytes p.header m fun i hi => by
    rw [hm i (by omega)]
    interval_cases i <;> rfl
  simp only [SystemParamPacket.bytes, PacketHeader.bytes, u16, u32, i16, List.cons_append,
    List.nil_append] at hm
  rw [SystemParamPacket.ofBytes, hheader,
    getU32_eq (hm 4 (by omega)) (hm 5 (by omega)) (hm 6 (by omega)) (hm 7 (by omega)),
    getU32_eq (hm 8 (by omega)) (hm 9 (by omega)) (hm 10 (by omega)) (hm 11 (by omega)),
    getI16_eq (hm 12 (by omega)) (hm 13 (by omega)),
    getU32_eq (hm 14 (by omega)) (hm 15 (by omega)) (hm 16 (by omega)) (hm 17 (by omega)),
    getU16_eq (hm 18 (by omega)) (hm 19 (by omega)), hm 20 (by omega),
    getU16_eq (hm 21 (by omega)) (hm 22 (by omega)), hm 23 (by omega), hm 24 (by omega)]
  rfl

lemma jointParams_ofBytes_bytes (p : JointParams) {m : PacketBytes} {a : Nat}
    (hm : ∀ i < 16, m (a + i) = p.bytes.getD i 0) : JointParams.ofBytes m a = p := by
  rw [JointParams.ofBytes,
    getI16_eq (a := a) (x := p.kp) (hm 0 (by omega)) (hm 1 (by omega)),
    getI16_eq (x := p.ki) (hm 2 (by omega)) (hm 3 (by omega)),
    getI16_eq (x := p.kd) (hm 4 (by omega)) (hm 5 (by omega)),
    getI16_eq (x := p.maxI) (hm 6 (by omega)) (hm 7 (by omega)),
    getI16_eq (x := p.minPwm) (hm 8 (by omega)) (hm 9 (by omega)),
    getI16_eq (x := p.maxPwm) (hm 10 (by omega)) (hm 11 (by omega)),
    getI16_eq (x := p.maxSpeed) (hm 12 (by omega)) (hm 13 (by omega)),
    getI16_eq (x := p.slope) (hm 14 (by omega)) (hm 15 (by omega))]

lemma jointParam_ofBytes_bytes (p : JointParamPacket) (m : PacketBytes)
    (hm : ∀ i < 36, m i = p.bytes.getD i 0) : JointParamPacket.ofBytes m = p := by
  have hheader := header_ofBytes_bytes p.header m fun i hi => by
    rw [hm i (by omega)]
    interval_cases i <;> rfl
  have hlength : p.header.bytes.length = 4 := rfl
  have hlength₀ : (p.joints 0).bytes.length = 16 := rfl
  have hfirst : JointParams.ofBytes m (4 + 16 * 0) = p.joints 0 := by
    apply jointParams_ofBytes_bytes
    intro k hk
    rw [hm _ (by omega), JointParamPacket.bytes, List.append_assoc,
      List.getD_append_right _ _ _ _ (by omega), List.getD_append _ _ _ _ (by omega)]
    congr 1
    omega
  have hsecond : JointParams.ofBytes m (4 + 16 * 1) = p.joints 1 := by
    apply jointParams_ofBytes_bytes
    intro k hk
    rw [hm _ (by omega), JointParamPacket.bytes, List.append_assoc,
      List.getD_append_right _ _ _ _ (by omega), List.getD_append_right _ _ _ _ (by omega)]
    congr 1
    omega
  have hjoints : (fun i : Fin NUM_MOTORS => JointParams.ofBytes m (4 + 16 * i)) = p.joints := by
    funext i
    match i with
    | 0 => exact hfirst
    | 1 => exact hsecond
  rw [JointParamPacket.ofBytes, hheader, hjoints]

lemma getFloat_eq [LawfulFloatBytes F] {x : F} {m : PacketBytes} {a : Nat} {b₀ b₁ b₂ b₃ : UInt8}
    (hx : FloatBytes.bytes x = [b₀, b₁, b₂, b₃]) (h₀ : m a = b₀) (h₁ : m (a + 1) = b₁)
    (h₂ : m (a + 2) = b₂) (h₃ : m (a + 3) = b₃) : getFloat m a = x := by
  apply LawfulFloatBytes.ofBytes_bytes
  rw [hx, ← h₀, ← h₁, ← h₂, ← h₃]
  rfl

lemma driveParam_ofBytes_bytes [LawfulFloatBytes F] (p : DifferentialDriveParamPacket F) (m : PacketBytes)
    (hm : ∀ i < 38, m i = p.bytes.getD i 0) : DifferentialDriveParamPacket.ofBytes m = p := by
  have hheader := header_ofBytes_bytes p.header m fun i hi => by
    rw [hm i (by omega)]
    simp only [DifferentialDriveParamPacket.bytes, List.append_assoc]
    interval_cases i <;> rfl
  obtain ⟨_, _, _, _, hkr⟩ := List.length_eq_four.mp (FloatBytes.length_bytes p.kr)
  obtain ⟨_, _, _, _, hkl⟩ := List.length_eq_four.mp (FloatBytes.length_bytes p.kl)
  obtain ⟨_, _, _, _, hbaseline⟩ := List.length_eq_four.mp (FloatBytes.length_bytes p.baseline)
  obtain ⟨_, _, _, _, htv⟩ :=
    List.length_eq_four.mp (FloatBytes.length_bytes p.maxTranslationalVelocity)
  obtain ⟨_, _, _, _, hta⟩ :=
    List.length_eq_four.mp (FloatBytes.length_bytes p.maxTranslationalAcceleration)
  obtain ⟨_, _, _, _, htb⟩ := List.length_eq_four.mp (FloatBytes.length_bytes p.maxTranslationalBrake)
  obtain ⟨_, _, _, _, hrv⟩ := List.length_eq_four.mp (FloatBytes.length_bytes p.maxRotationalVelocity)
  obtain ⟨_, _, _, _, hra⟩ :=
    List.length_eq_four.mp (FloatBytes.length_bytes p.maxRotationalAcceleration)
  simp only [DifferentialDriveParamPacket.bytes, PacketHeader.bytes, u16, hkr, hkl, hbaseline, htv, hta,
    htb, hrv, hra, List.cons_append, List.nil_append] at hm
  rw [DifferentialDriveParamPacket.ofBytes, hheader,
    getFloat_eq hkr (hm 4 (by omega)) (hm 5 (by omega)) (hm 6 (by omega)) (hm 7 (by omega)),
    getFloat_eq hkl (hm 8 (by omega)) (hm 9 (by omega)) (hm 10 (by omega)) (hm 11 (by omega)),
    getFloat_eq hbaseline (hm 12 (by omega)) (hm 13 (by omega)) (hm 14 (by omega)) (hm 15 (by omega)),
    hm 16 (by omega), hm 17 (by omega),
    getFloat_eq htv (hm 18 (by omega)) (hm 19 (by omega)) (hm 20 (by omega)) (hm 21 (by omega)),
    getFloat_eq hta (hm 22 (by omega)) (hm 23 (by omega)) (hm 24 (by omega)) (hm 25 (by omega)),
    getFloat_eq htb (hm 26 (by omega)) (hm 27 (by omega)) (hm 28 (by omega)) (hm 29 (by omega)),
    getFloat_eq hrv (hm 30 (by omega)) (hm 31 (by omega)) (hm 32 (by omega)) (hm 33 (by omega)),
    getFloat_eq hra (hm 34 (by omega)) (hm 35 (by omega)) (hm 36 (by omega)) (hm 37 (by omega))]
  rfl

/-- Overwriting a block with its own bytes. -/
lemma ofMemory_bytes [LawfulFloatBytes F] (b : ParamBlock) {m : PacketBytes} (g : Globals F π)
    (hm : Bytes.read m 0 b.var.sizeof.toNat = b.var.bytes g) : b.var.ofMemory m g = g := by
  have hbyte : ∀ i < b.var.sizeof.toNat, m i = (b.var.bytes g).getD i 0 := by
    intro i hi
    rw [← length_bytes b.var g] at hm hi
    rw [Bytes.getD_of_read hm hi, Nat.zero_add]
  cases b with
  | system =>
    have hp : SystemParamPacket.ofBytes m = g.systemParams := systemParam_ofBytes_bytes _ m hbyte
    simp only [ParamBlock.var, PacketVar.ofMemory, hp]
  | joints =>
    have hp : JointParamPacket.ofBytes m = g.jointParams := jointParam_ofBytes_bytes _ m hbyte
    simp only [ParamBlock.var, PacketVar.ofMemory, hp]
  | drive =>
    have hp : DifferentialDriveParamPacket.ofBytes m = g.driveParams :=
      driveParam_ofBytes_bytes _ m hbyte
    simp only [ParamBlock.var, PacketVar.ofMemory, hp]

end Orazio.Proofs
