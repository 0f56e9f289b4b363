import Mathlib.Data.List.Basic
import Orazio.Proofs.BlockingSend

/-!
# The drive command of a sync cycle

The sequence number of the drive packet of a client says whether velocities have been set, and
`_sendPacket` overwrites it with the counter of packets. When the counter wraps around in a sync
cycle, the later cycles send nothing.
-/

namespace Orazio.Proofs

variable {F : Type} [CFloat F]

/-- The velocities that have been set last. -/
def latestVelocity (events : List (LinkEvent F)) : Option (F × F) :=
  events.foldl (fun v e => match e with
    | .setBaseVelocity tv rv => some (tv, rv)
    | _ => v) none

/-- Since velocities have been set last, a sync cycle has found the last sequence number in use. -/
def wrapped (events : List (LinkEvent F)) : Bool :=
  events.foldl (fun w e => match e with
    | .setBaseVelocity _ _ => false
    | .syncSend before _ _ _ => w || before.globalSeq == 65535
    | _ => w) false

/-- A sync cycle has queued one packet with these velocities. -/
def QueuesCommand (tv rv : F) (status : Option PacketStatus) (after : OrazioClient F) : Prop :=
  status = some .success ∧ ∃ seq, txContents after.packetHandler.toTxFields =
    frame (DifferentialDriveControlPacket.bytes
      ⟨⟨DIFFERENTIAL_DRIVE_CONTROL_PACKET_ID, sizeofDriveControlPacket, seq⟩, tv, rv⟩)

/-- What the drive packet of a client says: after velocities have been set, its sequence number is
zero exactly when the counter has wrapped around. -/
structure DriveFlag (cl : OrazioClient F) (latest : Option (F × F)) (w : Bool) : Prop where
  type : cl.driveControlPacket.header.type = DIFFERENTIAL_DRIVE_CONTROL_PACKET_ID
  size : cl.driveControlPacket.header.size = sizeofDriveControlPacket
  unset : latest = none → cl.driveControlPacket.header.seq = 0
  set : ∀ tv rv, latest = some (tv, rv) → cl.driveControlPacket.translationalVelocity = tv ∧
    cl.driveControlPacket.rotationalVelocity = rv ∧
    (cl.driveControlPacket.header.seq = 0 ↔ w = true)

omit [CFloat F] in
lemma DriveFlag.congr {cl cl' : OrazioClient F} {latest : Option (F × F)} {w : Bool}
    (h : DriveFlag cl latest w) (hkeeps : KeepsSender cl cl') : DriveFlag cl' latest w := by
  have hpacket := hkeeps.driveControlPacket
  refine ⟨?_, ?_, ?_, ?_⟩
  · rw [hpacket]
    exact h.type
  · rw [hpacket]
    exact h.size
  · rw [hpacket]
    exact h.unset
  · rw [hpacket]
    exact h.set

/-- The bytes of a drive packet that has been numbered. -/
lemma packetOf_driveControl (p : DifferentialDriveControlPacket F)
    (hsize : p.header.size = sizeofDriveControlPacket) (seq : UInt16) :
    packetOf (setPacketSeq (fun i => p.bytes.getD i 0) seq) =
      DifferentialDriveControlPacket.bytes { p with header := { p.header with seq := seq } } := by
  obtain ⟨a, b, c, d, htv⟩ :=
    List.length_eq_four.mp (FloatBytes.length_bytes p.translationalVelocity)
  obtain ⟨a', b', c', d', hrv⟩ :=
    List.length_eq_four.mp (FloatBytes.length_bytes p.rotationalVelocity)
  have hbyte : setPacketSeq (fun i => p.bytes.getD i 0) seq 1 = sizeofDriveControlPacket := hsize
  rw [packetOf, hbyte]
  simp only [DifferentialDriveControlPacket.bytes, htv, hrv]
  rfl

lemma driveControl_accepted {cl : OrazioClient F} {latest : Option (F × F)} {w : Bool}
    (h : DriveFlag cl latest w) (hring : TxHolds cl.packetHandler.toTxFields []) :
    Accepted cl fun i => cl.driveControlPacket.bytes.getD i 0 := by
  have htype : cl.driveControlPacket.bytes.getD 0 0 = DIFFERENTIAL_DRIVE_CONTROL_PACKET_ID := h.type
  have hsize : cl.driveControlPacket.bytes.getD 1 0 = sizeofDriveControlPacket := h.size
  have hempty := hring.size_eq
  rw [List.length_nil] at hempty
  simp only [Accepted, htype, hsize, hempty]
  decide

/-- A sync cycle queues the drive command unless the counter has wrapped around. -/
lemma syncSend_queues {cl : OrazioClient F} {latest : Option (F × F)} {w : Bool}
    (h : DriveFlag cl latest w) (hring : ∃ q, TxHolds cl.packetHandler.toTxFields q) :
    (∃ q, TxHolds (syncSend cl).2.2.packetHandler.toTxFields q) ∧
      DriveFlag (syncSend cl).2.2 latest (w || cl.globalSeq == 65535) ∧
      ∀ tv rv, latest = some (tv, rv) →
        (QueuesCommand tv rv (syncSend cl).2.1 (syncSend cl).2.2 ↔ w = false) := by
  obtain ⟨q, hq⟩ := hring
  have hflag := h.congr (flushBuffer_keepsSender cl)
  obtain ⟨tx, hflush, hempty⟩ := flushBuffer_holds hq
  rw [hflush] at hflag
  simp only [syncSend, hflush]
  by_cases hseq : cl.driveControlPacket.header.seq = 0
  · rw [if_neg (by simpa using hseq)]
    refine ⟨⟨[], hempty⟩, ?_, ?_⟩
    · refine ⟨h.type, h.size, h.unset, ?_⟩
      intro tv rv hlatest
      obtain ⟨htv, hrv, hwrap⟩ := h.set tv rv hlatest
      have hw : w = true := hwrap.mp hseq
      refine ⟨htv, hrv, ?_⟩
      simp [hseq, hw]
    · intro tv rv hlatest
      obtain ⟨-, -, hwrap⟩ := h.set tv rv hlatest
      rw [hwrap.mp hseq]
      simp [QueuesCommand]
  · rw [if_pos hseq]
    obtain ⟨tx', hsend, hholds⟩ := sendPacket_queues (driveControl_accepted hflag hempty) hempty
    rw [hsend]
    rw [List.nil_append, packetOf_driveControl _ h.size] at hholds
    simp only [setPacketSeq_seq]
    refine ⟨⟨_, hholds⟩, ?_, ?_⟩
    · refine ⟨h.type, h.size, ?_, ?_⟩
      · intro hlatest
        exact absurd (h.unset hlatest) hseq
      · intro tv rv hlatest
        obtain ⟨htv, hrv, hwrap⟩ := h.set tv rv hlatest
        refine ⟨htv, hrv, ?_⟩
        have hw : w = false := by simpa [hseq] using hwrap
        have hnext : cl.globalSeq + 1 = 0 ↔ cl.globalSeq = 65535 := by grind
        rw [hw, hnext]
        simp
    · intro tv rv hlatest
      obtain ⟨htv, hrv, hwrap⟩ := h.set tv rv hlatest
      have hw : w = false := by simpa [hseq] using hwrap
      refine iff_of_true ⟨rfl, cl.globalSeq + 1, ?_⟩ hw
      rw [← htv, ← hrv]
      have hheader : cl.driveControlPacket.header =
          ⟨DIFFERENTIAL_DRIVE_CONTROL_PACKET_ID, sizeofDriveControlPacket,
            cl.driveControlPacket.header.seq⟩ := by
        rw [← h.type, ← h.size]
      have hqueued := hholds.contents_eq
      rw [hheader] at hqueued
      exact hqueued

/-! ### Runs -/

omit [CFloat F] in
lemma latestVelocity_concat (events : List (LinkEvent F)) (e : LinkEvent F) :
    latestVelocity (events ++ [e]) = match e with
      | .setBaseVelocity tv rv => some (tv, rv)
      | _ => latestVelocity events := by
  rw [latestVelocity, List.foldl_concat]
  rfl

omit [CFloat F] in
lemma wrapped_concat (events : List (LinkEvent F)) (e : LinkEvent F) :
    wrapped (events ++ [e]) = match e with
      | .setBaseVelocity _ _ => false
      | .syncSend before _ _ _ => wrapped events || before.globalSeq == 65535
      | _ => wrapped events := by
  rw [wrapped, List.foldl_concat]
  rfl

/-- What holds of a client along its runs. -/
structure SyncInvariant (events : List (LinkEvent F)) (s : LinkState F) : Prop where
  receiving : Receiving s.client .hunt
  ring : ∃ q, TxHolds s.client.packetHandler.toTxFields q
  flag : DriveFlag s.client (latestVelocity events) (wrapped events)

lemma init_syncInvariant (cl₀ : OrazioClient F) : SyncInvariant [] ⟨cl₀.init, []⟩ := by
  refine ⟨init_receiving cl₀, ⟨[], ?_⟩, ?_⟩
  · exact initializeTx_holds cl₀.packetHandler.toTxFields
  · refine ⟨rfl, rfl, fun _ => rfl, ?_⟩
    intro tv rv hlatest
    cases hlatest

lemma linkStep_syncInvariant {events : List (LinkEvent F)} {s s' : LinkState F} {input : LinkInput F}
    {e : LinkEvent F} (h : SyncInvariant events s) (hstep : linkStep s input = .ok (e, s')) :
    SyncInvariant (events ++ [e]) s' := by
  obtain ⟨hreceiving, hexplains⟩ := linkStep_explains h.receiving hstep
  have hkeep : KeepsSender s.client s'.client → latestVelocity (events ++ [e]) = latestVelocity events →
      wrapped (events ++ [e]) = wrapped events → SyncInvariant (events ++ [e]) s' := by
    intro hkeeps hlatest hwrapped
    refine ⟨hreceiving, hkeeps.ring h.ring, ?_⟩
    rw [hlatest, hwrapped]
    exact h.flag.congr hkeeps
  cases e with
  | emit bytes => exact hkeep hexplains (latestVelocity_concat _ _) (wrapped_concat _ _)
  | sendPacket call => exact hkeep hexplains.1 (latestVelocity_concat _ _) (wrapped_concat _ _)
  | syncRead r => exact hkeep hexplains (latestVelocity_concat _ _) (wrapped_concat _ _)
  | syncSend before written status after =>
    obtain ⟨rfl, rfl, hsync⟩ := hexplains
    obtain ⟨hring, hflag, -⟩ := syncSend_queues h.flag h.ring
    rw [← hsync] at hring hflag
    refine ⟨hreceiving, hring, ?_⟩
    rw [latestVelocity_concat, wrapped_concat]
    exact hflag
  | setBaseVelocity tv rv =>
    refine ⟨hreceiving, ?_, ?_⟩
    · rw [hexplains]
      exact h.ring
    · rw [latestVelocity_concat, wrapped_concat, hexplains]
      refine ⟨h.flag.type, h.flag.size, ?_, ?_⟩
      · intro hlatest
        cases hlatest
      · intro tv' rv' hlatest
        cases hlatest
        simp [OrazioClient_setBaseVelocity]

/-- In every run of the client, a sync cycle after velocities have been set queues one packet with the
latest of them exactly when, since then, no sync cycle has found the last sequence number in use. -/
theorem drive_keep_alive_iff (cl₀ : OrazioClient F) (s : LinkState F) (inputs : List (LinkInput F))
    (pre post : List (LinkEvent F)) (before after : OrazioClient F) (written : List UInt8)
    (status : Option PacketStatus) (tv rv : F)
    (hrun : StepMachine.run linkStep ⟨cl₀.init, []⟩ inputs =
      .ok (pre ++ .syncSend before written status after :: post, s))
    (hset : latestVelocity pre = some (tv, rv)) :
    QueuesCommand tv rv status after ↔ wrapped pre = false := by
  obtain ⟨is₁, i, is₂, s₁, s₂, -, hpre, hstep, -⟩ := StepMachine.run_split hrun
  have hinv : SyncInvariant pre s₁ := StepMachine.run_history (fun _ events s => SyncInvariant events s)
    (init_syncInvariant cl₀) (fun _ _ _ _ _ _ h hs => linkStep_syncInvariant h hs) hpre
  obtain ⟨rfl, -, hsync⟩ := (linkStep_explains hinv.receiving hstep).2
  have hqueues := (syncSend_queues hinv.flag hinv.ring).2.2 tv rv hset
  rw [← hsync] at hqueues
  exact hqueues

/-- Velocities are set, and the cycle that follows sends them. -/
theorem drive_keep_alive_iff_first_cycle :
    ∃ (s : LinkState ExactFloat) (before after : OrazioClient ExactFloat) (written : List UInt8)
      (status : Option PacketStatus),
      StepMachine.run linkStep ⟨zeroClient.init, []⟩ [.setBaseVelocity ⟨1⟩ ⟨0⟩, .syncSend] =
        .ok ([.setBaseVelocity ⟨1⟩ ⟨0⟩] ++ .syncSend before written status after :: [], s) ∧
      QueuesCommand ⟨1⟩ ⟨0⟩ status after := by
  refine ⟨_, _, _, _, _, rfl, ?_⟩
  exact (drive_keep_alive_iff zeroClient _ [.setBaseVelocity ⟨1⟩ ⟨0⟩, .syncSend]
    [.setBaseVelocity ⟨1⟩ ⟨0⟩] [] _ _ _ _ ⟨1⟩ ⟨0⟩ rfl rfl).mpr rfl

/-- Packets that the client refuses are numbered as well. -/
lemma run_refused (cl : OrazioClient F) (n : Nat) :
    ∃ events, StepMachine.run linkStep ⟨cl, []⟩ (List.replicate n (.sendPacket (fun _ => 0) 0 [])) =
      .ok (events, ⟨{ cl with globalSeq := cl.globalSeq + UInt16.ofNat n }, []⟩) := by
  induction n generalizing cl with
  | zero => exact ⟨[], by simp⟩
  | succ n ih =>
    obtain ⟨events, hrun⟩ := ih { cl with globalSeq := cl.globalSeq + 1 }
    have hseq : cl.globalSeq + 1 + UInt16.ofNat n = cl.globalSeq + UInt16.ofNat (n + 1) := by
      rw [UInt16.ofNat_add, UInt16.add_assoc, UInt16.add_comm 1]
      rfl
    simp only [hseq] at hrun
    exact ⟨_, StepMachine.run_cons_eq_ok.mpr ⟨_, _, events, rfl, hrun, rfl⟩⟩

/-- After 65535 packets velocities are set. The next sync cycle sends them, the cycle after it sends
nothing. -/
theorem keep_alive_lost :
    ∃ (s : LinkState ExactFloat) (inputs : List (LinkInput ExactFloat))
      (pre : List (LinkEvent ExactFloat)) (before after : OrazioClient ExactFloat)
      (written : List UInt8) (status : Option PacketStatus),
      StepMachine.run linkStep ⟨zeroClient.init, []⟩ inputs =
        .ok (pre ++ .syncSend before written status after :: [], s) ∧
      latestVelocity pre = some (⟨1⟩, ⟨0⟩) ∧ ¬QueuesCommand ⟨1⟩ ⟨0⟩ status after := by
  obtain ⟨events, hrefused⟩ := run_refused zeroClient.init 65535
  have hcycles : ∃ before₁ written₁ status₁ after₁ r before written after s,
      StepMachine.run linkStep ⟨{ zeroClient.init with globalSeq := 65535 }, []⟩
        [.setBaseVelocity ⟨1⟩ ⟨0⟩, .syncSend, .emit (frame initEndEpoch.bytes), .syncRead, .syncSend] =
      .ok ([.setBaseVelocity ⟨1⟩ ⟨0⟩, .syncSend before₁ written₁ status₁ after₁,
        .emit (frame initEndEpoch.bytes), .syncRead r, .syncSend before written none after], s) :=
    ⟨_, _, _, _, _, _, _, _, _, rfl⟩
  obtain ⟨before₁, written₁, status₁, after₁, r, before, written, after, s, hcycles⟩ := hcycles
  refine ⟨s, _, events ++ [.setBaseVelocity ⟨1⟩ ⟨0⟩, .syncSend before₁ written₁ status₁ after₁,
    .emit (frame initEndEpoch.bytes), .syncRead r], before, after, written, none,
    StepMachine.run_append_eq_ok.mpr ⟨_, _, _, hrefused, hcycles, by simp⟩, ?_, ?_⟩
  · rw [latestVelocity, List.foldl_append]
    rfl
  · rintro ⟨hstatus, -⟩
    cases hstatus

end Orazio.Proofs
