import Orazio.Proofs.ControlMachine

/-!
# The motion packets of an epoch

A call of `Orazio_commHandle` applies the motion packets it executes to the control of the joints, in
their order.
-/

namespace Orazio.Proofs

variable {F π : Type} [CFloat F] [PinDriver π]

/-- The header of a stored packet is that of its type. -/
lemma Stored.header {α : Type} {cfg : Fin PACKET_TYPE_MAX → Option (Install α)}
    {mem : Addr → UInt8} {p : Pending} (h : Stored cfg mem p) {i : Install α}
    (hi : cfg p.type = some i) :
    (headerOf fun k => mem (p.packet + k)).type = UInt8.ofNat p.type ∧
      (headerOf fun k => mem (p.packet + k)).size = i.size := by
  obtain ⟨j, payload, hj, hbytes, -, hread⟩ := h
  rw [hi] at hj
  cases hj
  rw [hbytes, List.length_cons, Bytes.read_succ'] at hread
  have htail := (List.cons.inj hread).2
  rw [List.length_cons] at htail
  exact ⟨(List.cons.inj hread).1, Bytes.head_of_read_eq_cons htail⟩

omit [PinDriver π] in
lemma copyToVar_driveControl {p : PacketBytes} {x x' : TxFields × Globals F π}
    (hsize : (headerOf p).size = sizeofDriveControlPacket)
    (h : Orazio_copyToVar p (some .driveControl) x = .ok x') :
    control x'.2 = (control x.2).apply (.drive (headerOf p).seq) := by
  obtain ⟨v, g, hcopy, hresponse⟩ := copyToVar_eq_ok h
  obtain ⟨hv, -, rfl⟩ := copyArgs_eq_ok hcopy
  cases hv
  rw [sendResponse_control hresponse, hsize]
  rfl

omit [PinDriver π] in
lemma copyToVarAndDisableDrive_jointControl {p : PacketBytes}
    {x x' : TxFields × Globals F π} (hsize : (headerOf p).size = sizeofJointControlPacket)
    (h : Orazio_copyToVarAndDisableDrive p (some .jointControl) x = .ok x') :
    control x'.2 = (control x.2).apply (.joint (JointControlPacket.ofBytes p).joints) := by
  obtain ⟨v, g, hcopy, hresponse⟩ := copyToVarAndDisableDrive_eq_ok h
  obtain ⟨hv, -, rfl⟩ := copyArgs_eq_ok hcopy
  cases hv
  have hjoints : ∀ q : PacketBytes, (JointControlPacket.ofBytes fun k =>
      if k < sizeofJointControlPacket.toNat then p k else q k).joints =
        (JointControlPacket.ofBytes p).joints := by
    intro q
    funext i
    match i with
    | 0 => rfl
    | 1 => rfl
  rw [sendResponse_control hresponse, hsize]
  simp only [control, setRxSeq, PacketVar.ofMemory, Control.apply, Orazio_driveDisable, hjoints]

/-- A motion packet is applied to the control of the joints. -/
lemma deferredAction_motion {mem : Addr → UInt8} {p : Pending}
    (hs : Stored orazioConfig mem p) {action : OrazioAction}
    (haction : actionOf orazioConfig p.type = some action) {command : MotionCommand}
    (hcommand : motionCommand ⟨action, p.packet, mem⟩ = some command)
    {x x' : TxFields × Globals F π}
    (h : deferredAction action (fun k => mem (p.packet + k)) x = .ok x') :
    control x'.2 = (control x.2).apply command := by
  obtain ⟨i, hmem, htype, hi, hcfg⟩ := orazioConfig_action haction
  obtain ⟨hheader, hsize⟩ := hs.header hcfg
  rw [← htype, UInt8.ofNat_toNat] at hheader
  have hmotion : motionCommand ⟨action, p.packet, mem⟩ =
      if i.type = JOINT_CONTROL_PACKET_ID then
        some (.joint (JointControlPacket.ofBytes fun k => mem (p.packet + k)).joints)
      else if i.type = DIFFERENTIAL_DRIVE_CONTROL_PACKET_ID then
        some (.drive (headerOf fun k => mem (p.packet + k)).seq)
      else none := by
    rw [← hheader]
    rfl
  rw [hmotion] at hcommand
  simp only [orazioInstalls, List.mem_cons, List.not_mem_nil, or_false] at hmem
  rcases hmem with rfl | rfl | rfl | rfl | rfl | rfl
  · cases hcommand
  · cases hcommand
  · cases hcommand
    cases hi
    exact copyToVarAndDisableDrive_jointControl hsize h
  · cases hcommand
  · cases hcommand
    cases hi
    exact copyToVar_driveControl hsize h
  · cases hcommand

/-- When all executed packets are motion packets, they are applied one after the other. -/
lemma runActions_motion {mem : Addr → UInt8} {ps : List Pending}
    (hs : ∀ p ∈ ps, Stored orazioConfig mem p) {x x' : TxFields × Globals F π}
    {executed : List (Executed OrazioAction)}
    (h : runActions deferredAction orazioConfig mem ps x = .ok (executed, x'))
    (hmotion : ∀ e ∈ executed, (motionCommand e).isSome) :
    control x'.2 = (executed.filterMap motionCommand).foldl Control.apply (control x.2) := by
  induction ps generalizing x executed with
  | nil =>
    cases h
    rfl
  | cons p ps ih =>
    obtain ⟨first, rest, y, hfirst, hrest, rfl⟩ := runActions_cons_eq_ok h
    have htail := ih (fun q hq => hs q (List.mem_cons_of_mem p hq)) hrest
      (fun e he => hmotion e (List.mem_append_right first he))
    rw [htail, List.filterMap_append, List.foldl_append]
    congr 1
    obtain ⟨-, rfl, rfl⟩ | ⟨action, haction, rfl, hact⟩ := runAction_eq_ok hfirst
    · rfl
    · obtain ⟨command, hcommand⟩ := Option.isSome_iff_exists.mp
        (hmotion ⟨action, p.packet, mem⟩ (by simp))
      rw [deferredAction_motion (hs p List.mem_cons_self) haction hcommand hact]
      simp [hcommand]

lemma runActions_rxPackets {mem : Addr → UInt8} {ps : List Pending}
    {x x' : TxFields × Globals F π} {executed : List (Executed OrazioAction)}
    (h : runActions deferredAction orazioConfig mem ps x = .ok (executed, x')) :
    (control x'.2).rxPackets = (control x.2).rxPackets :=
  runActions_invariant (fun y => (control y.2).rxPackets = (control x.2).rxPackets)
    (fun _ _ _ _ _ haction hy hact => (deferredAction_rxPackets haction hact).trans hy) h rfl

lemma foldl_apply_rxPackets (commands : List MotionCommand) (c : Control) (n : UInt16) :
    commands.foldl Control.apply { c with rxPackets := n } =
      { commands.foldl Control.apply c with rxPackets := n } := by
  induction commands generalizing c with
  | nil => rfl
  | cons command commands ih =>
    rw [List.foldl_cons, List.foldl_cons, ← ih]
    cases command <;> rfl

/-- A call of `Orazio_commHandle` from an empty queue, seen by the control machine. -/
lemma commHandle_commStep {io : UartIo} {s s' : System F π}
    {ph : Phase (Fin PACKET_TYPE_MAX)} {e : CommEvent} (h : DeferredRep orazioConfig s ph [])
    (hcomm : Orazio_commHandle io s = .ok (e, s')) :
    CommStep (control s.env) e (control s'.env) ∧ ∃ ph', DeferredRep orazioConfig s' ph' [] := by
  obtain ⟨s₁, ph', ps, errors, -, hrep₁, hrep', hcount, ⟨acted, closed, hans⟩, -, henv₁⟩ :=
    commHandle_answered h hcomm
  have hbegin : control (beginEpoch s₁).env =
      { control s.env with rxPackets := (control s.env).rxPackets + UInt16.ofNat e.received } := by
    unfold beginEpoch
    rw [henv₁]
    rfl
  have hrx := runActions_rxPackets hans.actions
  rw [← hans.control, hbegin] at hrx
  refine ⟨⟨hrx, ?_, ?_⟩, ph', hrep'⟩
  · intro hzero
    have hnone : ps = [] := List.eq_nil_of_length_eq_zero (by omega)
    have hactions := hans.actions
    rw [hnone, runActions] at hactions
    exact (congrArg Prod.fst (Except.ok.inj hactions)).symm
  · intro hmotion
    have hactions := runActions_motion hrep₁.queued.stored hans.actions hmotion
    rw [← hans.control, hbegin, foldl_apply_rxPackets] at hactions
    rw [hrx, hactions]
    rfl

end Orazio.Proofs
