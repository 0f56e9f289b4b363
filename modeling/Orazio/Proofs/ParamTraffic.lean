import Mathlib.Data.List.DropRight
import Orazio.Proofs.EpochOutput
import Orazio.Proofs.MotionCommands

/-!
# Parameters and drive commands

A drive command enables the drive when the next call of `Orazio_driveControl` finds its sequence
number new. Parameters of the system or of the drive initialise the drive again, and with it the
sequence number to compare with: a command that has been received but not yet found new is lost.
-/

namespace Orazio.Proofs

/-! ### Packets of an epoch -/

abbrev packetHeader (packet : List UInt8) : PacketHeader :=
  .ofBytes fun i => packet.getD i 0

abbrev paramControlOf (packet : List UInt8) : ParamControlPacket :=
  .ofBytes fun i => packet.getD i 0

/-- A packet that carries or loads parameters. -/
def IsParamTraffic (packet : List UInt8) : Prop :=
  (packetHeader packet).type = SYSTEM_PARAM_PACKET_ID ∨
    (packetHeader packet).type = DIFFERENTIAL_DRIVE_PARAM_PACKET_ID ∨
    ((packetHeader packet).type = PARAM_CONTROL_PACKET_ID ∧ (paramControlOf packet).action = ParamLoad)

/-- A packet whose action calls `Orazio_driveInit`. -/
def InitialisesDrive (packet : List UInt8) : Prop :=
  (packetHeader packet).type = SYSTEM_PARAM_PACKET_ID ∨
    (packetHeader packet).type = DIFFERENTIAL_DRIVE_PARAM_PACKET_ID ∨
    ((packetHeader packet).type = PARAM_CONTROL_PACKET_ID ∧ (paramControlOf packet).action = ParamLoad ∧
      ((paramControlOf packet).paramType = ParamSystem ∨ (paramControlOf packet).paramType = ParamDrive))

instance : DecidablePred IsParamTraffic :=
  fun _ => inferInstanceAs (Decidable (_ ∨ _))

instance : DecidablePred InitialisesDrive :=
  fun _ => inferInstanceAs (Decidable (_ ∨ _))

/-- The second list of packets is the first one with parameter traffic inserted. -/
inductive Inserted : List (List UInt8) → List (List UInt8) → Prop
  | nil : Inserted [] []
  | keep {packets packets' : List (List UInt8)} (packet : List UInt8) (rest : Inserted packets packets') :
      Inserted (packet :: packets) (packet :: packets')
  | insert {packets packets' : List (List UInt8)} (packet : List UInt8)
      (traffic : IsParamTraffic packet) (rest : Inserted packets packets') :
      Inserted packets (packet :: packets')

/-- The sequence number of the last drive command, if `seq` is that of the one before. -/
def lastDriveSeq (seq : UInt16) (packets : List (List UInt8)) : UInt16 :=
  packets.foldl (fun seq packet =>
    if (packetHeader packet).type = DIFFERENTIAL_DRIVE_CONTROL_PACKET_ID then (packetHeader packet).seq
    else seq) seq

/-- The sequence number that `Orazio_driveControl` compares with after the packets: that of the drive
command in force when the drive was initialised last, or `known` if it was not. -/
def comparedSeq (known seq : UInt16) (packets : List (List UInt8)) : UInt16 :=
  if ∃ packet ∈ packets, InitialisesDrive packet then
    lastDriveSeq seq (packets.rdropWhile fun packet => !decide (InitialisesDrive packet))
  else known

/-- After the packets the last drive command is found to be new. -/
def FoundNew (known seq : UInt16) (packets : List (List UInt8)) : Prop :=
  lastDriveSeq seq packets ≠ comparedSeq known seq packets

instance (known seq : UInt16) (packets : List (List UInt8)) : Decidable (FoundNew known seq packets) :=
  inferInstanceAs (Decidable (_ ≠ _))

lemma lastDriveSeq_concat (seq : UInt16) (packets : List (List UInt8)) (packet : List UInt8) :
    lastDriveSeq seq (packets ++ [packet]) =
      if (packetHeader packet).type = DIFFERENTIAL_DRIVE_CONTROL_PACKET_ID then (packetHeader packet).seq
      else lastDriveSeq seq packets :=
  List.foldl_concat _ _ _ _

lemma comparedSeq_concat (known seq : UInt16) (packets : List (List UInt8)) (packet : List UInt8) :
    comparedSeq known seq (packets ++ [packet]) =
      if InitialisesDrive packet then lastDriveSeq seq (packets ++ [packet])
      else comparedSeq known seq packets := by
  by_cases hinit : InitialisesDrive packet
  · have hexists : ∃ p ∈ packets ++ [packet], InitialisesDrive p := ⟨packet, by simp, hinit⟩
    rw [if_pos hinit, comparedSeq, if_pos hexists, List.rdropWhile_concat_neg _ _ _ (by simp [hinit])]
  · have hexists : (∃ p ∈ packets ++ [packet], InitialisesDrive p) ↔
        ∃ p ∈ packets, InitialisesDrive p := by
      simp [or_and_right, exists_or, hinit]
    rw [if_neg hinit, comparedSeq, comparedSeq, List.rdropWhile_concat_pos _ _ _ (by simp [hinit])]
    simp only [hexists]

/-- Parameter traffic contains no commands. -/
lemma IsParamTraffic.not_command {packet : List UInt8} (h : IsParamTraffic packet) :
    (packetHeader packet).type ≠ DIFFERENTIAL_DRIVE_CONTROL_PACKET_ID ∧
      (packetHeader packet).type ≠ JOINT_CONTROL_PACKET_ID := by
  obtain htype | htype | ⟨htype, -⟩ := h
  · rw [htype]
    decide
  · rw [htype]
    decide
  · rw [htype]
    decide

lemma InitialisesDrive.isParamTraffic {packet : List UInt8} (h : InitialisesDrive packet) :
    IsParamTraffic packet := by
  obtain hsystem | hdrive | ⟨hcontrol, hload, -⟩ := h
  · exact .inl hsystem
  · exact .inr (.inl hdrive)
  · exact .inr (.inr ⟨hcontrol, hload⟩)

lemma Inserted.lastDriveSeq {packets packets' : List (List UInt8)} (h : Inserted packets packets')
    (seq : UInt16) : Proofs.lastDriveSeq seq packets' = Proofs.lastDriveSeq seq packets := by
  induction h generalizing seq with
  | nil => rfl
  | keep packet _ ih => exact ih _
  | insert packet traffic _ ih =>
    rw [Proofs.lastDriveSeq, List.foldl_cons, if_neg traffic.not_command.1]
    exact ih seq

lemma Inserted.noJoint {packets packets' : List (List UInt8)} (h : Inserted packets packets')
    (hjoint : ∀ packet ∈ packets, (packetHeader packet).type ≠ JOINT_CONTROL_PACKET_ID) :
    ∀ packet ∈ packets', (packetHeader packet).type ≠ JOINT_CONTROL_PACKET_ID := by
  induction h with
  | nil => exact hjoint
  | keep packet _ ih =>
    rw [List.forall_mem_cons] at hjoint ⊢
    exact ⟨hjoint.1, ih hjoint.2⟩
  | insert packet traffic _ ih =>
    rw [List.forall_mem_cons]
    exact ⟨traffic.not_command.2, ih hjoint⟩

/-! ### Actions -/

variable {F π : Type} [CFloat F] [PinDriver π]

lemma paramSet_lastSeq {paramType : UInt8} {g g' : Globals F π} {r : PacketStatus}
    (h : Orazio_paramSet paramType g = .ok (r, g')) :
    g'.lastDriveControlSeq = if paramType = ParamSystem ∨ paramType = ParamDrive then
      g.driveControl.header.seq else g.lastDriveControlSeq := by
  unfold Orazio_paramSet at h
  by_cases hsystem : paramType = ParamSystem
  · rw [if_pos hsystem] at h
    rw [if_pos (.inl hsystem)]
    split at h
    · cases h
    · next g₁ hinit =>
      cases h
      obtain ⟨bridges, pins, hbridge⟩ := hBridgeInit_eq g
      rw [hbridge] at hinit
      obtain ⟨controller, status, rfl, -⟩ := driveInit_eq_ok hinit
      rfl
  · rw [if_neg hsystem] at h
    by_cases hjoints : paramType = ParamJoints
    · rw [if_pos hjoints] at h
      cases h
      rw [if_neg (by rw [hjoints]; decide)]
    · rw [if_neg hjoints] at h
      by_cases hdrive : paramType = ParamDrive
      · rw [if_pos hdrive] at h
        rw [if_pos (.inr hdrive)]
        split at h
        · cases h
        · next g₁ hinit =>
          cases h
          obtain ⟨controller, status, rfl, -⟩ := driveInit_eq_ok hinit
          rfl
      · rw [if_neg hdrive] at h
        cases h
        rw [if_neg (by simp [hsystem, hdrive])]

lemma paramLoad_lastSeq {paramType : UInt8} {g g' : Globals F π} {r : PacketStatus}
    (h : Orazio_paramLoad paramType g = .ok (r, g')) :
    g'.lastDriveControlSeq = if paramType = ParamSystem ∨ paramType = ParamDrive then
      g.driveControl.header.seq else g.lastDriveControlSeq := by
  obtain ⟨hblock, -, rfl⟩ | ⟨v, offset, r', hblock, -, hset⟩ := paramLoad_eq_ok h
  · have hnone : ¬(paramType = ParamSystem ∨ paramType = ParamDrive) := by
      rintro (rfl | rfl)
      · exact absurd hblock (by decide)
      · exact absurd hblock (by decide)
    rw [if_neg hnone]
  · rw [paramSet_lastSeq hset]
    obtain ⟨-, rfl, -⟩ | ⟨-, rfl, -⟩ | ⟨-, rfl, -⟩ := paramBlock_cases hblock <;> rfl

lemma runParamAction_lastSeq {ctl : ParamControlPacket} {g g' : Globals F π} {r : PacketStatus}
    (h : runParamAction ctl g = .ok (r, g')) :
    g'.lastDriveControlSeq =
      if ctl.action = ParamLoad ∧ (ctl.paramType = ParamSystem ∨ ctl.paramType = ParamDrive) then
        g.driveControl.header.seq else g.lastDriveControlSeq := by
  obtain ⟨hrequest, -, rfl⟩ | ⟨hload, hparam⟩ | ⟨hsave, -, rfl⟩ | ⟨⟨-, hload, -⟩, -, rfl⟩ :=
    runParamAction_eq_ok h
  · rw [if_neg (by rw [hrequest]; exact fun hand => absurd hand.1 (by decide))]
  · rw [paramLoad_lastSeq hparam]
    simp only [hload, true_and]
  · rw [if_neg (by rw [hsave]; exact fun hand => absurd hand.1 (by decide))]
    unfold Orazio_paramSave
    split <;> rfl
  · rw [if_neg (fun hand => hload hand.1)]

lemma setReceived_lastSeq {type : UInt8} {g g' : Globals F π} {r : PacketStatus}
    (h : setReceived type g = .ok (r, g')) :
    g'.lastDriveControlSeq =
      if type = SYSTEM_PARAM_PACKET_ID ∨ type = DIFFERENTIAL_DRIVE_PARAM_PACKET_ID then
        g.driveControl.header.seq else g.lastDriveControlSeq := by
  unfold setReceived at h
  by_cases hsystem : type = SYSTEM_PARAM_PACKET_ID
  · rw [if_pos hsystem] at h
    rw [paramSet_lastSeq h, if_pos (.inl rfl), if_pos (.inl hsystem)]
  · rw [if_neg hsystem] at h
    by_cases hjoint : type = JOINT_PARAM_PACKET_ID
    · rw [if_pos hjoint] at h
      rw [paramSet_lastSeq h, if_neg (by decide), if_neg (by rw [hjoint]; decide)]
    · rw [if_neg hjoint] at h
      by_cases hdrive : type = DIFFERENTIAL_DRIVE_PARAM_PACKET_ID
      · rw [if_pos hdrive] at h
        rw [paramSet_lastSeq h, if_pos (.inr rfl), if_pos (.inr hdrive)]
      · rw [if_neg hdrive] at h
        cases h
        rw [if_neg (by simp [hsystem, hdrive])]

/-- What `Orazio_driveControl` looks at. -/
structure DriveSeqs where
  enable : UInt8
  current : UInt16
  compared : UInt16

def driveSeqs (g : Globals F π) : DriveSeqs where
  enable := g.driveEnable
  current := g.driveControl.header.seq
  compared := g.lastDriveControlSeq

/-- What a packet other than a joint command changes. -/
def DriveSeqs.receive (d : DriveSeqs) (packet : List UInt8) : DriveSeqs :=
  if (packetHeader packet).type = DIFFERENTIAL_DRIVE_CONTROL_PACKET_ID then
    { d with current := (packetHeader packet).seq }
  else if InitialisesDrive packet then { d with compared := d.current }
  else d

omit [CFloat F] [PinDriver π] in
lemma driveSeqs_of_control {g g' : Globals F π} (h : control g' = control g) :
    driveSeqs g' = driveSeqs g := by
  have hproject : ∀ g : Globals F π, driveSeqs g =
      ⟨(control g).enable, (control g).driveSeq, (control g).lastSeq⟩ := fun _ => rfl
  rw [hproject g', h]
  rfl

lemma copyToVarAndSend_driveSeqs {p : PacketBytes} {v : PacketVar}
    (hv : v = .systemParams ∨ v = .jointParams ∨ v = .driveParams) {x x' : TxFields × Globals F π}
    (h : Orazio_copyToVarAndSend p (some v) x = .ok x') :
    driveSeqs x'.2 = { driveSeqs x.2 with
      compared := if (headerOf p).type = SYSTEM_PARAM_PACKET_ID ∨
          (headerOf p).type = DIFFERENTIAL_DRIVE_PARAM_PACKET_ID then (driveSeqs x.2).current
        else (driveSeqs x.2).compared } := by
  obtain ⟨w, g, r, g', y, hcopy, hset, hsend, hresponse⟩ := copyToVarAndSend_eq_ok h
  obtain ⟨hw, -, hg⟩ := copyArgs_eq_ok hcopy
  cases hw
  have hcopied : driveSeqs g = driveSeqs x.2 := by
    rw [hg]
    obtain rfl | rfl | rfl := hv <;> rfl
  have hne : v ≠ .driveControl := by
    obtain rfl | rfl | rfl := hv <;> decide
  rw [driveSeqs_of_control (sendResponse_control hresponse),
    driveSeqs_of_control (sendPacket_control hne hsend), ← hcopied]
  have hchange := setReceived_change hset
  simp only [driveSeqs, hchange.driveEnable, hchange.driveControl, setReceived_lastSeq hset]

lemma handleParamControl_driveSeqs {p : PacketBytes} {x x' : TxFields × Globals F π}
    (h : Orazio_handleParamControlPacket p x = .ok x') :
    driveSeqs x'.2 = { driveSeqs x.2 with
      compared := if (ParamControlPacket.ofBytes p).action = ParamLoad ∧
          ((ParamControlPacket.ofBytes p).paramType = ParamSystem ∨
            (ParamControlPacket.ofBytes p).paramType = ParamDrive) then (driveSeqs x.2).current
        else (driveSeqs x.2).compared } := by
  obtain ⟨r, g, hrun, hanswer⟩ := handleParamControlPacket_eq_ok h
  have hchange := runParamAction_change hrun
  have hafter : driveSeqs g = { driveSeqs x.2 with
      compared := if (ParamControlPacket.ofBytes p).action = ParamLoad ∧
          ((ParamControlPacket.ofBytes p).paramType = ParamSystem ∨
            (ParamControlPacket.ofBytes p).paramType = ParamDrive) then (driveSeqs x.2).current
        else (driveSeqs x.2).compared } := by
    simp only [driveSeqs, hchange.driveEnable, hchange.driveControl, runParamAction_lastSeq hrun]
    rfl
  rw [← hafter]
  obtain ⟨-, hresponse⟩ | ⟨v, offset, y, hblock, hsend, hresponse⟩ := hanswer
  · exact driveSeqs_of_control (sendResponse_control hresponse)
  · have hne : v ≠ .driveControl := by
      obtain ⟨-, rfl, -⟩ | ⟨-, rfl, -⟩ | ⟨-, rfl, -⟩ := paramBlock_cases hblock <;> decide
    rw [driveSeqs_of_control (sendResponse_control hresponse),
      driveSeqs_of_control (sendPacket_control hne hsend)]

lemma Stored.byte {mem : Addr → UInt8} {p : Pending} (hs : Stored orazioConfig mem p) {k : Nat}
    (hk : k < p.bytes.length) : mem (p.packet + k) = p.bytes.getD k 0 := by
  obtain ⟨i, payload, -, -, -, hread⟩ := hs
  exact (Bytes.getD_of_read hread hk).symm

lemma Stored.length_eq {mem : Addr → UInt8} {p : Pending} (hs : Stored orazioConfig mem p)
    {i : Install OrazioAction} (hi : orazioConfig p.type = some i) : p.bytes.length = i.size.toNat := by
  obtain ⟨j, payload, hj, -, hlen, -⟩ := hs
  rw [hi] at hj
  cases hj
  exact hlen

/-- A stored packet read from its buffer, with the size in its header. -/
lemma Stored.packetOf_eq {mem : Addr → UInt8} {p : Pending} (hs : Stored orazioConfig mem p) :
    packetOf (fun k => mem (p.packet + k)) = p.bytes := by
  obtain ⟨i, payload, hi, hbytes, hlen, hread⟩ := hs
  have hsize : mem (p.packet + 1) = i.size := by
    have hstored : Stored orazioConfig mem p := ⟨i, payload, hi, hbytes, hlen, hread⟩
    have hshort : 1 < p.bytes.length := by
      rw [hbytes]
      simp
    rw [hstored.byte hshort, hbytes]
    rfl
  rw [packetOf, hsize, ← hlen, ← Bytes.read_shift]
  exact hread

/-- The header of a stored packet is that of its bytes. -/
lemma Stored.packetHeader_eq {mem : Addr → UInt8} {p : Pending} (hs : Stored orazioConfig mem p) :
    (headerOf fun k => mem (p.packet + k)) = packetHeader p.bytes := by
  have hlen : 4 ≤ p.bytes.length := by
    obtain ⟨i, payload, hi, -, hlen, -⟩ := hs
    rw [hlen]
    exact (orazioConfig_valid.size p.type i hi).1
  simp only [PacketHeader.ofBytes, LittleEndian.getU16]
  rw [hs.byte (by omega), hs.byte (by omega), hs.byte (by omega), hs.byte (by omega)]

lemma Stored.paramControlOf_eq {mem : Addr → UInt8} {p : Pending} (hs : Stored orazioConfig mem p)
    (hlen : 6 ≤ p.bytes.length) :
    (ParamControlPacket.ofBytes fun k => mem (p.packet + k)) = paramControlOf p.bytes := by
  have hheader := hs.packetHeader_eq
  simp only [ParamControlPacket.ofBytes]
  rw [hs.byte (by omega), hs.byte (by omega)]
  exact congrArg (fun header => ParamControlPacket.mk header (p.bytes.getD 4 0) (p.bytes.getD 5 0)) hheader

/-- The action of a packet other than a joint command. -/
lemma deferredAction_driveSeqs {mem : Addr → UInt8} {p : Pending} (hs : Stored orazioConfig mem p)
    {action : OrazioAction} (haction : actionOf orazioConfig p.type = some action)
    (hjoint : (packetHeader p.bytes).type ≠ JOINT_CONTROL_PACKET_ID) {x x' : TxFields × Globals F π}
    (h : deferredAction action (fun k => mem (p.packet + k)) x = .ok x') :
    driveSeqs x'.2 = (driveSeqs x.2).receive p.bytes := by
  obtain ⟨i, hmem, htype, hi, hcfg⟩ := orazioConfig_action haction
  obtain ⟨hheader, hsize⟩ := hs.header hcfg
  have hfields := hs.packetHeader_eq
  have hlen := hs.length_eq hcfg
  rw [← htype, UInt8.ofNat_toNat] at hheader
  have hparam : ∀ v : PacketVar, v = .systemParams ∨ v = .jointParams ∨ v = .driveParams →
      i.type ≠ DIFFERENTIAL_DRIVE_CONTROL_PACKET_ID → i.type ≠ PARAM_CONTROL_PACKET_ID →
      Orazio_copyToVarAndSend (fun k => mem (p.packet + k)) (some v) x = .ok x' →
      driveSeqs x'.2 = (driveSeqs x.2).receive p.bytes := by
    intro v hv hdrive hcontrol hcopy
    rw [copyToVarAndSend_driveSeqs hv hcopy]
    rw [hfields] at hheader ⊢
    simp only [DriveSeqs.receive, InitialisesDrive, hheader, if_neg hdrive, hcontrol, false_and,
      or_false]
    split <;> rfl
  simp only [orazioInstalls, List.mem_cons, List.not_mem_nil, or_false] at hmem
  rcases hmem with rfl | rfl | rfl | rfl | rfl | rfl
  · cases hi
    rw [handleParamControl_driveSeqs h, hs.paramControlOf_eq hlen.ge]
    rw [hfields] at hheader
    simp only [DriveSeqs.receive, InitialisesDrive, hheader]
    rw [if_neg (show PARAM_CONTROL_PACKET_ID ≠ DIFFERENTIAL_DRIVE_CONTROL_PACKET_ID by decide)]
    by_cases hload : (paramControlOf p.bytes).action = ParamLoad ∧
        ((paramControlOf p.bytes).paramType = ParamSystem ∨ (paramControlOf p.bytes).paramType = ParamDrive)
    · rw [if_pos hload, if_pos (.inr (.inr ⟨trivial, hload⟩))]
    · rw [if_neg hload, if_neg]
      rintro (hsystem | hdrive | ⟨-, hinit⟩)
      · exact absurd hsystem (by decide)
      · exact absurd hdrive (by decide)
      · exact hload hinit
  · cases hi
    exact hparam .systemParams (.inl rfl) (by decide) (by decide) h
  · rw [hfields] at hheader
    exact absurd hheader hjoint
  · cases hi
    exact hparam .jointParams (.inr (.inl rfl)) (by decide) (by decide) h
  · cases hi
    have hcontrol := copyToVar_driveControl hsize h
    rw [hfields] at hheader hcontrol
    rw [DriveSeqs.receive, if_pos hheader]
    exact congrArg (fun c : Control => DriveSeqs.mk c.enable c.driveSeq c.lastSeq) hcontrol
  · cases hi
    exact hparam .driveParams (.inr (.inr rfl)) (by decide) (by decide) h

/-- The actions of a queue without joint commands. -/
lemma runActions_driveSeqs {mem : Addr → UInt8} {ps : List Pending}
    (hs : ∀ p ∈ ps, Stored orazioConfig mem p)
    (hjoint : ∀ p ∈ ps, (packetHeader p.bytes).type ≠ JOINT_CONTROL_PACKET_ID)
    {x x' : TxFields × Globals F π} {executed : List (Executed OrazioAction)}
    (h : runActions deferredAction orazioConfig mem ps x = .ok (executed, x')) :
    driveSeqs x'.2 = (ps.map Pending.bytes).foldl DriveSeqs.receive (driveSeqs x.2) := by
  induction ps generalizing x executed with
  | nil =>
    cases h
    rfl
  | cons p ps ih =>
    obtain ⟨first, rest, y, hfirst, hrest, rfl⟩ := runActions_cons_eq_ok h
    rw [ih (fun q hq => hs q (List.mem_cons_of_mem p hq))
      (fun q hq => hjoint q (List.mem_cons_of_mem p hq)) hrest, List.map_cons, List.foldl_cons]
    congr 1
    obtain ⟨hnone, -, -⟩ | ⟨action, haction, -, hact⟩ := runAction_eq_ok hfirst
    · exact absurd hnone (actionOf_stored (hs p List.mem_cons_self))
    · exact deferredAction_driveSeqs (hs p List.mem_cons_self) haction (hjoint p List.mem_cons_self) hact

/-- What the packets of an epoch leave for `Orazio_driveControl`. -/
lemma foldl_receive (d : DriveSeqs) (packets : List (List UInt8)) :
    packets.foldl DriveSeqs.receive d =
      ⟨d.enable, lastDriveSeq d.current packets, comparedSeq d.compared d.current packets⟩ := by
  induction packets using List.reverseRecOn with
  | nil => rfl
  | append_singleton packets packet ih =>
    rw [List.foldl_concat, ih, lastDriveSeq_concat, comparedSeq_concat, lastDriveSeq_concat,
      DriveSeqs.receive]
    by_cases hdrive : (packetHeader packet).type = DIFFERENTIAL_DRIVE_CONTROL_PACKET_ID
    · have hinit : ¬InitialisesDrive packet := fun h => h.isParamTraffic.not_command.1 hdrive
      rw [if_pos hdrive, if_pos hdrive, if_neg hinit]
    · rw [if_neg hdrive, if_neg hdrive]
      by_cases hinit : InitialisesDrive packet
      · rw [if_pos hinit, if_pos hinit]
      · rw [if_neg hinit, if_neg hinit]

omit [PinDriver π] in
/-- `Orazio_driveControl` enables the drive if the sequence numbers differ. -/
lemma driveControl_enable {g g' : Globals F π} {ran : Bool}
    (h : Orazio_driveControl g = .ok (ran, g')) :
    g'.driveEnable =
      if (driveSeqs g).current ≠ (driveSeqs g).compared then 1 else (driveSeqs g).enable := by
  have henable : (enableDrive g).driveEnable =
      if (driveSeqs g).current ≠ (driveSeqs g).compared then 1 else (driveSeqs g).enable := by
    unfold enableDrive
    by_cases hnew : g.lastDriveControlSeq ≠ g.driveControl.header.seq
    · have hdiffer : (driveSeqs g).current ≠ (driveSeqs g).compared := Ne.symm hnew
      rw [if_pos hnew, if_pos hdiffer]
    · have hequal : ¬(driveSeqs g).current ≠ (driveSeqs g).compared := fun hne => hnew (Ne.symm hne)
      rw [if_neg hnew, if_neg hequal]
      rfl
  rw [← henable]
  obtain ⟨-, -, rfl⟩ | ⟨-, -, joints, rfl⟩ := driveControl_cases h
  · rfl
  · rfl

/-! ### Epochs -/

/-- The bytes of the pending packets. -/
def pendingBytes (s : System F π) : List (List UInt8) :=
  (pendingPackets s).map packetOf

omit [CFloat F] [PinDriver π] in
lemma pendingBytes_eq {s : System F π} {ph : Phase (Fin PACKET_TYPE_MAX)} {ps : List Pending}
    (hrep : DeferredRep orazioConfig s ph ps) : pendingBytes s = ps.map Pending.bytes := by
  rw [pendingBytes, hrep.pendingPackets, List.map_map]
  apply List.map_congr_left
  intro p hp
  exact (hrep.queued.stored p hp).packetOf_eq

/-- An epoch and the next call of `Orazio_driveControl`. -/
lemma epoch_enable {io : UartIo} {statuses : List PacketStatus} {s s₁ s' : System F π}
    {ph : Phase (Fin PACKET_TYPE_MAX)} {e : CommEvent} {ran : Bool} {g : Globals F π}
    (hrep : DeferredRep orazioConfig s ph [])
    (hflush : Orazio_flushInputBuffers io s = .ok (statuses, s₁))
    (hjoint : ∀ packet ∈ pendingBytes s₁, (packetHeader packet).type ≠ JOINT_CONTROL_PACKET_ID)
    (hcomm : Orazio_commHandle io s = .ok (e, s'))
    (hcontrol : Orazio_driveControl s'.env = .ok (ran, g)) :
    g.driveEnable = if FoundNew s.env.lastDriveControlSeq s.env.driveControl.header.seq (pendingBytes s₁)
      then 1 else s.env.driveEnable := by
  obtain ⟨s₂, ph', ps, errors, hflush', hrep₁, -, -, ⟨acted, closed, hans⟩, -, henv⟩ :=
    commHandle_answered hrep hcomm
  rw [hflush] at hflush'
  cases hflush'
  rw [pendingBytes_eq hrep₁] at hjoint ⊢
  have hactions := runActions_driveSeqs hrep₁.queued.stored
    (fun p hp => hjoint p.bytes (List.mem_map_of_mem hp)) hans.actions
  have hbegin : driveSeqs (beginEpoch s₁).env = driveSeqs s.env := by
    unfold beginEpoch
    rw [henv]
    rfl
  rw [hbegin, foldl_receive, ← driveSeqs_of_control hans.control] at hactions
  rw [driveControl_enable hcontrol, hactions]
  rfl

lemma ite_eq_one_iff (p : Prop) [Decidable p] (n : UInt8) : (if p then 1 else n) = 1 ↔ p ∨ n = 1 := by
  by_cases hp : p
  · simp [hp]
  · simp [hp]

/-- In every reachable state, let two epochs receive lists of packets without joint commands, one of
them with parameter traffic inserted. The next call of `Orazio_driveControl` leaves the drive enabled
in both or in none if and only if the drive was enabled already, or the last drive command is found
to be new in both or in none. -/
theorem param_traffic_iff (eeprom : Nat → UInt8) (pins : π) (s₀ s : MainState F π)
    (inputs : List MainInput) (events : List MainEvent) (io io' : UartIo)
    (statuses statuses' : List PacketStatus) (s₁ s₁' s₂ s₂' : System F π) (e e' : CommEvent)
    (ran ran' : Bool) (g g' : Globals F π) (hboot : boot eeprom pins = .ok s₀)
    (hrun : StepMachine.run MainState.mainStep s₀ inputs = .ok (events, s))
    (hflush : Orazio_flushInputBuffers io s.system = .ok (statuses, s₁))
    (hflush' : Orazio_flushInputBuffers io' s.system = .ok (statuses', s₁'))
    (hinserted : Inserted (pendingBytes s₁) (pendingBytes s₁'))
    (hjoint : ∀ packet ∈ pendingBytes s₁, (packetHeader packet).type ≠ JOINT_CONTROL_PACKET_ID)
    (hcomm : Orazio_commHandle io s.system = .ok (e, s₂))
    (hcomm' : Orazio_commHandle io' s.system = .ok (e', s₂'))
    (hcontrol : Orazio_driveControl s₂.env = .ok (ran, g))
    (hcontrol' : Orazio_driveControl s₂'.env = .ok (ran', g')) :
    (g'.driveEnable = 1 ↔ g.driveEnable = 1) ↔ s.env.driveEnable = 1 ∨
      (FoundNew s.env.lastDriveControlSeq s.env.driveControl.header.seq (pendingBytes s₁') ↔
        FoundNew s.env.lastDriveControlSeq s.env.driveControl.header.seq (pendingBytes s₁)) := by
  obtain ⟨⟨ph, hrep⟩, -, -⟩ := mainRun_ready (boot_ready hboot) hrun
  rw [epoch_enable hrep hflush hjoint hcomm hcontrol,
    epoch_enable hrep hflush' (hinserted.noJoint hjoint) hcomm' hcontrol']
  rw [ite_eq_one_iff, ite_eq_one_iff]
  by_cases henabled : s.env.driveEnable = 1
  · simp only [henabled, or_true, true_or]
  · simp only [henabled, or_false, false_or]

/-- The bytes of a packet with the default parameters of the system. -/
def systemParamPacket (seq : UInt16) : List UInt8 :=
  SystemParamPacket.bytes
    { initSystemParams with header := ⟨SYSTEM_PARAM_PACKET_ID, sizeofSystemParamPacket, seq⟩ }

set_option synthInstance.maxSize 1000 in
/-- Parameters inserted before a drive command. -/
theorem param_traffic_iff_before :
    ∃ (s₀ s : MainState ExactFloat Pins) (events : List MainEvent)
      (s₂ s₂' : System ExactFloat Pins) (e e' : CommEvent) (ran ran' : Bool)
      (g g' : Globals ExactFloat Pins),
      boot (fun _ => 0xFF) Pins.zero = .ok s₀ ∧
      StepMachine.run MainState.mainStep s₀ commInputs = .ok (events, s) ∧
      Orazio_commHandle ⟨0, frame (drivePacket 1), 0⟩ s.system = .ok (e, s₂) ∧
      Orazio_commHandle ⟨0, frame (systemParamPacket 1) ++ frame (drivePacket 1), 0⟩ s.system =
        .ok (e', s₂') ∧
      Orazio_driveControl s₂.env = .ok (ran, g) ∧ Orazio_driveControl s₂'.env = .ok (ran', g') ∧
      (g'.driveEnable = 1 ↔ g.driveEnable = 1) := by
  have hcheck : ∃ s₀, boot (F := ExactFloat) (fun _ => 0xFF) Pins.zero = .ok s₀ ∧
      ∃ r, StepMachine.run MainState.mainStep s₀ commInputs = .ok r ∧
      ∃ f, Orazio_flushInputBuffers ⟨0, frame (drivePacket 1), 0⟩ r.2.system = .ok f ∧
      ∃ f', Orazio_flushInputBuffers ⟨0, frame (systemParamPacket 1) ++ frame (drivePacket 1), 0⟩
          r.2.system = .ok f' ∧
      ∃ c, Orazio_commHandle ⟨0, frame (drivePacket 1), 0⟩ r.2.system = .ok c ∧
      ∃ c', Orazio_commHandle ⟨0, frame (systemParamPacket 1) ++ frame (drivePacket 1), 0⟩
          r.2.system = .ok c' ∧
      ∃ d, Orazio_driveControl c.2.env = .ok d ∧ ∃ d', Orazio_driveControl c'.2.env = .ok d' ∧
        pendingBytes f.2 = [drivePacket 1] ∧
        pendingBytes f'.2 = [systemParamPacket 1, drivePacket 1] ∧
        r.2.env.lastDriveControlSeq = 0 ∧ r.2.env.driveControl.header.seq = 0 := by
    decide +kernel
  obtain ⟨s₀, hboot, ⟨events, s⟩, hrun, ⟨statuses, s₁⟩, hflush, ⟨statuses', s₁'⟩, hflush', ⟨e, s₂⟩, hcomm,
    ⟨e', s₂'⟩, hcomm', ⟨ran, g⟩, hcontrol, ⟨ran', g'⟩, hcontrol', hpackets, hpackets', hknown, hseq⟩ :=
    hcheck
  have hinserted : Inserted (pendingBytes s₁) (pendingBytes s₁') := by
    rw [hpackets, hpackets']
    exact .insert _ (by decide) (.keep _ .nil)
  have hjoint : ∀ packet ∈ pendingBytes s₁, (packetHeader packet).type ≠ JOINT_CONTROL_PACKET_ID := by
    rw [hpackets]
    decide
  have hfound : FoundNew s.env.lastDriveControlSeq s.env.driveControl.header.seq (pendingBytes s₁') ↔
      FoundNew s.env.lastDriveControlSeq s.env.driveControl.header.seq (pendingBytes s₁) := by
    rw [hpackets, hpackets', hknown, hseq]
    decide
  exact ⟨s₀, s, events, s₂, s₂', e, e', ran, ran', g, g', hboot, hrun, hcomm, hcomm', hcontrol,
    hcontrol', (param_traffic_iff (fun _ => 0xFF) Pins.zero s₀ s commInputs events _ _ statuses statuses'
      s₁ s₁' s₂ s₂' e e' ran ran' g g' hboot hrun hflush hflush' hinserted hjoint hcomm hcomm' hcontrol
      hcontrol').mpr (.inr hfound)⟩

set_option synthInstance.maxSize 1000 in
/-- Parameters inserted behind a drive command: the drive stays disabled. -/
theorem drive_command_swallowed :
    ∃ (s₀ s : MainState ExactFloat Pins) (events : List MainEvent) (statuses statuses' : List PacketStatus)
      (s₁ s₁' s₂ s₂' : System ExactFloat Pins) (e e' : CommEvent) (ran ran' : Bool)
      (g g' : Globals ExactFloat Pins),
      boot (fun _ => 0xFF) Pins.zero = .ok s₀ ∧
      StepMachine.run MainState.mainStep s₀ commInputs = .ok (events, s) ∧
      Orazio_flushInputBuffers ⟨0, frame (drivePacket 1), 0⟩ s.system = .ok (statuses, s₁) ∧
      Orazio_flushInputBuffers ⟨0, frame (drivePacket 1) ++ frame (systemParamPacket 1), 0⟩ s.system =
        .ok (statuses', s₁') ∧
      pendingBytes s₁ = [drivePacket 1] ∧ s.env.lastDriveControlSeq = 0 ∧
      Inserted (pendingBytes s₁) (pendingBytes s₁') ∧
      Orazio_commHandle ⟨0, frame (drivePacket 1), 0⟩ s.system = .ok (e, s₂) ∧
      Orazio_commHandle ⟨0, frame (drivePacket 1) ++ frame (systemParamPacket 1), 0⟩ s.system =
        .ok (e', s₂') ∧
      Orazio_driveControl s₂.env = .ok (ran, g) ∧ Orazio_driveControl s₂'.env = .ok (ran', g') ∧
      g.driveEnable = 1 ∧ g'.driveEnable = 0 := by
  have hcheck : ∃ s₀, boot (F := ExactFloat) (fun _ => 0xFF) Pins.zero = .ok s₀ ∧
      ∃ r, StepMachine.run MainState.mainStep s₀ commInputs = .ok r ∧
      ∃ f, Orazio_flushInputBuffers ⟨0, frame (drivePacket 1), 0⟩ r.2.system = .ok f ∧
      ∃ f', Orazio_flushInputBuffers ⟨0, frame (drivePacket 1) ++ frame (systemParamPacket 1), 0⟩
          r.2.system = .ok f' ∧
      ∃ c, Orazio_commHandle ⟨0, frame (drivePacket 1), 0⟩ r.2.system = .ok c ∧
      ∃ c', Orazio_commHandle ⟨0, frame (drivePacket 1) ++ frame (systemParamPacket 1), 0⟩
          r.2.system = .ok c' ∧
      ∃ d, Orazio_driveControl c.2.env = .ok d ∧ ∃ d', Orazio_driveControl c'.2.env = .ok d' ∧
        pendingBytes f.2 = [drivePacket 1] ∧
        pendingBytes f'.2 = [drivePacket 1, systemParamPacket 1] ∧
        r.2.env.lastDriveControlSeq = 0 ∧ d.2.driveEnable = 1 ∧ d'.2.driveEnable = 0 := by
    decide +kernel
  obtain ⟨s₀, hboot, ⟨events, s⟩, hrun, ⟨statuses, s₁⟩, hflush, ⟨statuses', s₁'⟩, hflush', ⟨e, s₂⟩, hcomm,
    ⟨e', s₂'⟩, hcomm', ⟨ran, g⟩, hcontrol, ⟨ran', g'⟩, hcontrol', hpackets, hpackets', hknown, henabled,
    hdisabled⟩ := hcheck
  have hinserted : Inserted (pendingBytes s₁) (pendingBytes s₁') := by
    rw [hpackets, hpackets']
    exact .keep _ (.insert _ (by decide) .nil)
  exact ⟨s₀, s, events, statuses, statuses', s₁, s₁', s₂, s₂', e, e', ran, ran', g, g', hboot, hrun, hflush,
    hflush', hpackets, hknown, hinserted, hcomm, hcomm', hcontrol, hcontrol', henabled, hdisabled⟩

end Orazio.Proofs
