import Orazio.Proofs.FirmwareActions

/-!
# The control machine behind the main loop

`LoopStep` is what a step of the main loop can do to the variables that decide how the joints move.
-/

namespace Orazio.Proofs

/-- A packet that commands a motion: the joint controls of a `JointControlPacket`, or the sequence
number of a `DifferentialDriveControlPacket`. -/
inductive MotionCommand
  | joint (joints : Fin NUM_MOTORS → JointControl)
  | drive (seq : UInt16)

def motionCommand (e : Executed OrazioAction) : Option MotionCommand :=
  if (headerOf e.memory).type = JOINT_CONTROL_PACKET_ID then
    some (.joint (JointControlPacket.ofBytes e.memory).joints)
  else if (headerOf e.memory).type = DIFFERENTIAL_DRIVE_CONTROL_PACKET_ID then
    some (.drive (headerOf e.memory).seq)
  else none

def motionCommands (e : CommEvent) : List MotionCommand :=
  e.executed.filterMap motionCommand

namespace Control

def apply (c : Control) : MotionCommand → Control
  | .joint joints => { c with joints, enable := 0 }
  | .drive seq => { c with driveSeq := seq }

/-- A new sequence number enables the drive. -/
def sync (c : Control) : Control :=
  if c.lastSeq ≠ c.driveSeq then { c with enable := 1, lastSeq := c.driveSeq } else c

lemma sync_enable (c : Control) : c.sync.enable ≠ 0 ↔ c.lastSeq ≠ c.driveSeq ∨ c.enable ≠ 0 := by
  unfold sync
  by_cases hseq : c.lastSeq ≠ c.driveSeq
  · rw [if_pos hseq]
    simp [hseq]
  · rw [if_neg hseq]
    simp [hseq]

lemma sync_eq (c : Control) : c.sync = { c with enable := c.sync.enable, lastSeq := c.driveSeq } := by
  unfold sync
  by_cases hseq : c.lastSeq ≠ c.driveSeq
  · rw [if_pos hseq]
  · rw [if_neg hseq]
    obtain ⟨joints, outputs, driveSeq, lastSeq, enable, cycles, count, rx⟩ := c
    obtain rfl : lastSeq = driveSeq := by simpa using hseq
    rfl

def disable (c : Control) : Control :=
  { c with
    joints := fun i => { c.joints i with mode := JointDisabled }
    outputs := fun _ => 0
    enable := 0 }

/-- The watchdog count of an epoch that began with `before` received packets. -/
def nextCount (before : UInt16) (c : Control) : Int16 :=
  if before = c.rxPackets then c.watchdogCount - 1 else c.watchdogCycles.toInt16

def watchdog (before : UInt16) (c : Control) : Bool × Control :=
  if c.watchdogCycles = 0 then (false, c)
  else if c.nextCount before = 0 then
    (true, { c.disable with watchdogCount := c.nextCount before })
  else (false, { c with watchdogCount := c.nextCount before })

lemma watchdog_off {before : UInt16} {c : Control} (h : c.watchdogCycles = 0) :
    (c.watchdog before).2 = c := by
  rw [watchdog, if_pos h]

lemma watchdog_expires {before : UInt16} {c : Control} (h : c.watchdogCycles ≠ 0)
    (hzero : c.nextCount before = 0) :
    (c.watchdog before).2 = { c.disable with watchdogCount := c.nextCount before } := by
  rw [watchdog, if_neg h, if_pos hzero]

lemma watchdog_counts {before : UInt16} {c : Control} (h : c.watchdogCycles ≠ 0)
    (hcount : c.nextCount before ≠ 0) :
    (c.watchdog before).2 = { c with watchdogCount := c.nextCount before } := by
  rw [watchdog, if_neg h, if_neg hcount]

/-- The watchdog keeps its setting and the sequence numbers of the drive. -/
lemma watchdog_keeps (before : UInt16) (c : Control) :
    (c.watchdog before).2.watchdogCycles = c.watchdogCycles ∧
      (c.watchdog before).2.lastSeq = c.lastSeq ∧ (c.watchdog before).2.driveSeq = c.driveSeq := by
  by_cases hoff : c.watchdogCycles = 0
  · rw [watchdog_off hoff]
    exact ⟨rfl, rfl, rfl⟩
  · by_cases hzero : c.nextCount before = 0
    · rw [watchdog_expires hoff hzero]
      exact ⟨rfl, rfl, rfl⟩
    · rw [watchdog_counts hoff hzero]
      exact ⟨rfl, rfl, rfl⟩

lemma watchdog_watchdogCount {before : UInt16} {c : Control} (h : c.watchdogCycles ≠ 0) :
    (c.watchdog before).2.watchdogCount = c.nextCount before := by
  by_cases hzero : c.nextCount before = 0
  · rw [watchdog_expires h hzero]
  · rw [watchdog_counts h hzero]

end Control

structure LoopView where
  pc : Pc
  control : Control
  before : UInt16

/-- What a call of `Orazio_commHandle` does: it counts, and motion packets are applied in turn. -/
structure CommStep (c : Control) (e : CommEvent) (c' : Control) : Prop where
  rxPackets : c'.rxPackets = c.rxPackets + UInt16.ofNat e.received
  silent : e.received = 0 → e.executed = []
  motion : (∀ x ∈ e.executed, (motionCommand x).isSome) →
    c' = { (motionCommands e).foldl Control.apply c with rxPackets := c'.rxPackets }

inductive LoopStep : LoopView → MainEvent → LoopView → Prop
  | tick {pc c before} (outputs : Fin NUM_MOTORS → Int16)
      (disabled : ∀ i, (c.joints i).mode = JointDisabled → outputs i = 0) :
      LoopStep ⟨pc, c, before⟩ .tick ⟨pc, { c with outputs }, before⟩
  | setTickCounter {c before} :
      LoopStep ⟨.setTickCounter, c, before⟩ .assign ⟨.setWatchdogCount, c, before⟩
  | setWatchdogCount {c before} :
      LoopStep ⟨.setWatchdogCount, c, before⟩ .assign
        ⟨.head, { c with watchdogCount := c.watchdogCycles.toInt16 }, before⟩
  | idle {c before} : LoopStep ⟨.head, c, before⟩ .head ⟨.head, c, before⟩
  | wake {c before} : LoopStep ⟨.head, c, before⟩ .head ⟨.driveUpdate, c, before⟩
  | driveUpdate {c before} :
      LoopStep ⟨.driveUpdate, c, before⟩ .driveUpdate ⟨.driveControl, c, before⟩
  | driveControl {c before} (joints : Fin NUM_MOTORS → JointControl)
      (kept : c.sync.enable = 0 → joints = c.joints) :
      LoopStep ⟨.driveControl, c, before⟩ (.driveControl (decide (c.sync.enable ≠ 0)) joints)
        ⟨.commHandle, { c.sync with joints }, before⟩
  | commHandle {c before} (e : CommEvent) (c' : Control) (step : CommStep c e c') :
      LoopStep ⟨.commHandle, c, before⟩ (.commHandle e) ⟨.watchdog, c', before⟩
  | watchdog {c before} :
      LoopStep ⟨.watchdog, c, before⟩ (.watchdog (c.watchdog before).1)
        ⟨.rxPacketsBefore, (c.watchdog before).2, before⟩
  | rxPacketsBefore {c before} :
      LoopStep ⟨.rxPacketsBefore, c, before⟩ .assign ⟨.clearCommHandle, c, c.rxPackets⟩
  | clearCommHandle {c before} :
      LoopStep ⟨.clearCommHandle, c, before⟩ .assign ⟨.clearIdleCycles, c, before⟩
  | clearIdleCycles {c before} :
      LoopStep ⟨.clearIdleCycles, c, before⟩ .assign ⟨.head, c, before⟩

inductive LoopRun : LoopView → List MainEvent → LoopView → Prop
  | nil (v : LoopView) : LoopRun v [] v
  | cons {v w v' : LoopView} {event : MainEvent} {events : List MainEvent}
      (first : LoopStep v event w) (rest : LoopRun w events v') : LoopRun v (event :: events) v'

end Orazio.Proofs
