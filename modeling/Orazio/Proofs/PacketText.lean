import Orazio.Model.PrintPacket

/-!
# What the print functions return

Callers continue behind the characters that `Orazio_printPacket` says it wrote. It says so truly for the
packets that one `sprintf` prints.
-/

namespace Orazio.Proofs

open Stdio CString

/-! ### Texts without a NUL -/

lemma nul_not_mem_showU8 (x : UInt8) : nul ∉ showU8 x :=
  nul_not_mem_printInt _

lemma nul_not_mem_showU16 (x : UInt16) : nul ∉ showU16 x :=
  nul_not_mem_printInt _

lemma nul_not_mem_showI16 (x : Int16) : nul ∉ showI16 x :=
  nul_not_mem_printInt _

lemma nul_not_mem_showU32 (x : UInt32) : nul ∉ showU32 x :=
  nul_not_mem_printInt _

lemma nul_not_mem_showFloat (x : Binary32) : nul ∉ showFloat x :=
  nul_not_mem_printFixed 3 x

lemma nul_not_mem_systemStatus (p : SystemStatusPacket) : nul ∉ p.text := by
  simp +decide [SystemStatusPacket.text, nul_mem_format_cons, nul_not_mem_showU16, nul_not_mem_showI16,
    nul_not_mem_showU32]

lemma nul_not_mem_systemParam (p : SystemParamPacket) : nul ∉ p.text := by
  have hhex : ∀ n, nul ∉ Nat.toDigits 16 n := nul_not_mem_toDigits (by decide)
  simp +decide [SystemParamPacket.text, nul_mem_format_cons, nul_not_mem_showU8, nul_not_mem_showU16,
    nul_not_mem_showI16, nul_not_mem_showU32, hhex, nul_not_mem_zeroPad 2 (hhex _)]

lemma nul_not_mem_driveStatus (p : DifferentialDriveStatusPacket Binary32) : nul ∉ p.text := by
  simp +decide [DifferentialDriveStatusPacket.text, nul_mem_format_cons, nul_not_mem_showU16,
    nul_not_mem_showFloat]

lemma nul_not_mem_driveParam (p : DifferentialDriveParamPacket Binary32) : nul ∉ p.text := by
  simp +decide [DifferentialDriveParamPacket.text, nul_mem_format_cons, nul_not_mem_showU8,
    nul_not_mem_showU16, nul_not_mem_showFloat]

/-! ### What is printed -/

/-- The parts of the packet that the print function of its type prints, one after the other. -/
def printedParts (h : Nat → UInt8) : List Text :=
  if h 0 = SYSTEM_STATUS_PACKET_ID then [(SystemStatusPacket.ofBytes h).text]
  else if h 0 = SYSTEM_PARAM_PACKET_ID then [(SystemParamPacket.ofBytes h).text]
  else if h 0 = JOINT_STATUS_PACKET_ID then
    let p := JointStatusPacket.ofBytes h
    [jointsHead p.header, (p.joints 0).text, ", j1:".toList, (p.joints 1).text, "\x7d".toList]
  else if h 0 = JOINT_PARAM_PACKET_ID then
    let p := JointParamPacket.ofBytes h
    [jointsHead p.header, (p.joints 0).text, ", j1:".toList, (p.joints 1).text, "\x7d".toList]
  else if h 0 = DIFFERENTIAL_DRIVE_STATUS_PACKET_ID then [(DifferentialDriveStatusPacket.ofBytes h).text]
  else if h 0 = DIFFERENTIAL_DRIVE_PARAM_PACKET_ID then [(DifferentialDriveParamPacket.ofBytes h).text]
  else []

/-- The memory holds a string of this length with all the parts in it. -/
def HoldsWhole (m : Memory) (f n : Nat) (parts : List Text) : Prop :=
  ∃ t, IsString m f t ∧ t.length = n ∧ ∀ part ∈ parts, part <:+: t

lemma holdsWhole_sprintf (m : Memory) (f : Nat) {t : Text} (ht : nul ∉ t) :
    HoldsWhole (sprintf m f t).2 f (sprintf m f t).1 [t] := by
  refine ⟨t, isString_sprintf m f ht, rfl, ?_⟩
  intro part hpart
  cases List.mem_singleton.mp hpart
  exact List.infix_rfl

variable (m : Memory) (f : Nat) (header : PacketHeader) (texts : Fin NUM_MOTORS → Text)

/-- The sum of the five pieces is returned. -/
lemma printJoints_fst : (printJoints m f header fun i m f => sprintf m f (texts i)).1 =
    (jointsHead header ++ texts 0 ++ ", j1:".toList ++ texts 1 ++ "\x7d".toList).length := by
  simp only [printJoints, sprintf, List.length_append]
  omega

/-- But the last of them replaces the others. -/
lemma printJoints_isString :
    IsString (printJoints m f header fun i m f => sprintf m f (texts i)).2 f "\x7d".toList :=
  isString_sprintf _ f (by decide)

lemma printJoints_not_whole (parts : List Text) :
    ¬HoldsWhole (printJoints m f header fun i m f => sprintf m f (texts i)).2 f
      (printJoints m f header fun i m f => sprintf m f (texts i)).1 parts := by
  rintro ⟨t, ht, hlen, -⟩
  have hone : t = "\x7d".toList := ht.unique (printJoints_isString m f header texts)
  rw [hone, printJoints_fst] at hlen
  have hj1 : ", j1:".toList.length = 5 := rfl
  simp only [List.length_append, hj1] at hlen
  omega

/-- The print function of a registered type returns what it wrote exactly if the packet is not one with
joints. -/
theorem printPacket_returns_iff (h : Nat → UInt8) (hregistered : packetPrintOps (h 0) ≠ none) :
    HoldsWhole (printPacket m f h).2 f (printPacket m f h).1 (printedParts h) ↔
      h 0 ≠ JOINT_STATUS_PACKET_ID ∧ h 0 ≠ JOINT_PARAM_PACKET_ID := by
  have htype : h 0 = SYSTEM_STATUS_PACKET_ID ∨ h 0 = SYSTEM_PARAM_PACKET_ID ∨ h 0 = JOINT_STATUS_PACKET_ID ∨
      h 0 = JOINT_PARAM_PACKET_ID ∨ h 0 = DIFFERENTIAL_DRIVE_STATUS_PACKET_ID ∨
      h 0 = DIFFERENTIAL_DRIVE_PARAM_PACKET_ID := by
    by_contra hnone
    push Not at hnone
    simp [packetPrintOps, hnone] at hregistered
  rcases htype with ht | ht | ht | ht | ht | ht
  · have hprint : printPacket m f h = SystemStatusPacket.print m f (.ofBytes h) := by
      simp +decide [printPacket, packetPrintOps, ht]
    have hparts : printedParts h = [(SystemStatusPacket.ofBytes h).text] := by
      simp +decide [printedParts, ht]
    rw [hprint, hparts, ht]
    exact iff_of_true (holdsWhole_sprintf m f (nul_not_mem_systemStatus _)) (by decide)
  · have hprint : printPacket m f h = SystemParamPacket.print m f (.ofBytes h) := by
      simp +decide [printPacket, packetPrintOps, ht]
    have hparts : printedParts h = [(SystemParamPacket.ofBytes h).text] := by
      simp +decide [printedParts, ht]
    rw [hprint, hparts, ht]
    exact iff_of_true (holdsWhole_sprintf m f (nul_not_mem_systemParam _)) (by decide)
  · have hprint : printPacket m f h = JointStatusPacket.print m f (.ofBytes h) := by
      simp +decide [printPacket, packetPrintOps, ht]
    rw [hprint, ht]
    exact iff_of_false (printJoints_not_whole m f _ _ _) (by decide)
  · have hprint : printPacket m f h = JointParamPacket.print m f (.ofBytes h) := by
      simp +decide [printPacket, packetPrintOps, ht]
    rw [hprint, ht]
    exact iff_of_false (printJoints_not_whole m f _ _ _) (by decide)
  · have hprint : printPacket m f h = DifferentialDriveStatusPacket.print m f (.ofBytes h) := by
      simp +decide [printPacket, packetPrintOps, ht]
    have hparts : printedParts h = [(DifferentialDriveStatusPacket.ofBytes h).text] := by
      simp +decide [printedParts, ht]
    rw [hprint, hparts, ht]
    exact iff_of_true (holdsWhole_sprintf m f (nul_not_mem_driveStatus _)) (by decide)
  · have hprint : printPacket m f h = DifferentialDriveParamPacket.print m f (.ofBytes h) := by
      simp +decide [printPacket, packetPrintOps, ht]
    have hparts : printedParts h = [(DifferentialDriveParamPacket.ofBytes h).text] := by
      simp +decide [printedParts, ht]
    rw [hprint, hparts, ht]
    exact iff_of_true (holdsWhole_sprintf m f (nul_not_mem_driveParam _)) (by decide)

/-- A packet with nothing but its type. -/
def zeroPacket (type : UInt8) (i : Nat) : UInt8 :=
  if i = 0 then type else 0

theorem printPacket_returns_systemStatus :
    HoldsWhole (printPacket (fun _ => '?') 0 (zeroPacket SYSTEM_STATUS_PACKET_ID)).2 0
      (printPacket (fun _ => '?') 0 (zeroPacket SYSTEM_STATUS_PACKET_ID)).1
      (printedParts (zeroPacket SYSTEM_STATUS_PACKET_ID)) :=
  (printPacket_returns_iff (fun _ => '?') 0 (zeroPacket SYSTEM_STATUS_PACKET_ID)
    (by simp [packetPrintOps, zeroPacket])).mpr ⟨by decide, by decide⟩

/-- A status packet of the joints leaves a string of one character, and its length is not returned. -/
theorem printPacket_joint_status :
    (printPacket (fun _ => '?') 0 (zeroPacket JOINT_STATUS_PACKET_ID)).1 = 103 ∧
      IsString (printPacket (fun _ => '?') 0 (zeroPacket JOINT_STATUS_PACKET_ID)).2 0 "\x7d".toList ∧
      ¬HoldsWhole (printPacket (fun _ => '?') 0 (zeroPacket JOINT_STATUS_PACKET_ID)).2 0
        (printPacket (fun _ => '?') 0 (zeroPacket JOINT_STATUS_PACKET_ID)).1
        (printedParts (zeroPacket JOINT_STATUS_PACKET_ID)) := by
  have hprint : printPacket (fun _ => '?') 0 (zeroPacket JOINT_STATUS_PACKET_ID) =
      JointStatusPacket.print (fun _ => '?') 0 (.ofBytes (zeroPacket JOINT_STATUS_PACKET_ID)) := by
    simp +decide [printPacket, packetPrintOps]
  refine ⟨by decide +kernel, ?_, ?_⟩
  · rw [hprint]
    exact printJoints_isString _ _ _ _
  · rw [hprint]
    exact printJoints_not_whole _ _ _ _ _

end Orazio.Proofs
