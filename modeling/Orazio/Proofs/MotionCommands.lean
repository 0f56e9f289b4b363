import Orazio.Model.Bench
import Orazio.Proofs.MainLoop

/-!
# Which motion command wins

A drive command enables the drive one epoch late, when its sequence number is found to be new, and a
joint command disables it at once. The last command wins as long as no epoch mixes the two in a way
that the sequence numbers cannot tell apart.
-/

namespace Orazio.Proofs

/-! ### What should happen -/

namespace MotionCommand

def IsDrive : MotionCommand → Prop
  | joint _ => False
  | drive _ => True

instance : DecidablePred IsDrive
  | joint _ => inferInstanceAs (Decidable False)
  | drive _ => inferInstanceAs (Decidable True)

end MotionCommand

/-- The motion packet processed last. -/
def lastCommand (last : Option MotionCommand) : MainEvent → Option MotionCommand
  | .commHandle e => (motionCommands e).getLast?.or last
  | _ => last

/-- After a joint command a call of `Orazio_driveControl` leaves the commanded joint controls, after
a drive command it runs the controller. -/
def Obeys (last : Option MotionCommand) : MainEvent → Prop
  | .driveControl ran joints =>
    match last with
    | none => True
    | some (.joint commanded) => ran = false ∧ joints = commanded
    | some (.drive _) => ran = true
  | _ => True

instance (joints commanded : Fin NUM_MOTORS → JointControl) : Decidable (joints = commanded) :=
  decidable_of_iff (∀ i, joints i = commanded i) funext_iff.symm

instance (last : Option MotionCommand) : DecidablePred (Obeys last)
  | .driveControl ran joints =>
    match last with
    | none => inferInstanceAs (Decidable True)
    | some (.joint commanded) => inferInstanceAs (Decidable (ran = false ∧ joints = commanded))
    | some (.drive _) => inferInstanceAs (Decidable (ran = true))
  | .tick | .head | .driveUpdate | .commHandle _ | .watchdog _ | .assign =>
    inferInstanceAs (Decidable True)

def LastWins : Option MotionCommand → List MainEvent → Prop
  | _, [] => True
  | last, event :: events => Obeys last event ∧ LastWins (lastCommand last event) events

instance decidableLastWins : ∀ last events, Decidable (LastWins last events)
  | _, [] => inferInstanceAs (Decidable True)
  | last, event :: events =>
    have := decidableLastWins (lastCommand last event) events
    inferInstanceAs (Decidable (Obeys last event ∧ LastWins (lastCommand last event) events))

/-! ### When it happens -/

/-- The packets processed so far: the sequence number of the last drive command and whether the last
command was one, both up to the last call of `Orazio_driveControl`, and the commands since then. -/
structure History where
  seq : UInt16
  drive : Bool
  fresh : List MotionCommand

namespace History

def init : History :=
  ⟨0, false, []⟩

/-- The sequence number of the last drive command. -/
def lastSeq (seq : UInt16) (commands : List MotionCommand) : UInt16 :=
  commands.foldl (fun seq command =>
    match command with
    | .joint _ => seq
    | .drive seq' => seq') seq

/-- A joint command is not preceded by a drive command with a new sequence number; a drive command
has a new sequence number, or nothing but drive commands came before it. -/
def Clear (h : History) : Prop :=
  match h.fresh.getLast? with
  | none => True
  | some (.joint _) => lastSeq h.seq h.fresh = h.seq
  | some (.drive seq) => seq ≠ h.seq ∨ (h.drive = true ∧ ∀ command ∈ h.fresh, command.IsDrive)

instance (h : History) : Decidable h.Clear :=
  match hlast : h.fresh.getLast? with
  | none => .isTrue (by simp [Clear, hlast])
  | some (.joint _) =>
    decidable_of_iff (lastSeq h.seq h.fresh = h.seq) (by simp [Clear, hlast])
  | some (.drive seq) =>
    decidable_of_iff (seq ≠ h.seq ∨ (h.drive = true ∧ ∀ command ∈ h.fresh, command.IsDrive))
      (by simp [Clear, hlast])

def settle (h : History) : History where
  seq := lastSeq h.seq h.fresh
  drive :=
    match h.fresh.getLast? with
    | none => h.drive
    | some (.joint _) => false
    | some (.drive _) => true
  fresh := []

def next (h : History) : MainEvent → History
  | .commHandle e => { h with fresh := h.fresh ++ motionCommands e }
  | .driveControl _ _ => h.settle
  | _ => h

/-- What a call of `Orazio_driveControl` needs. -/
def ClearFor (h : History) : MainEvent → Prop
  | .driveControl _ _ => h.Clear
  | _ => True

instance (h : History) : DecidablePred h.ClearFor
  | .driveControl _ _ => inferInstanceAs (Decidable h.Clear)
  | .tick | .head | .driveUpdate | .commHandle _ | .watchdog _ | .assign =>
    inferInstanceAs (Decidable True)

/-- The condition on the packets of each epoch. -/
def Unambiguous : History → List MainEvent → Prop
  | _, [] => True
  | h, event :: events => h.ClearFor event ∧ Unambiguous (h.next event) events

instance decidableUnambiguous : ∀ (h : History) events, Decidable (h.Unambiguous events)
  | _, [] => inferInstanceAs (Decidable True)
  | h, event :: events =>
    have := decidableUnambiguous (h.next event) events
    inferInstanceAs (Decidable (h.ClearFor event ∧ Unambiguous (h.next event) events))

end History

/-! ### The invariant -/

/-- The drive is enabled when nothing but drive commands came since one was obeyed. -/
structure MotionInvariant (last : Option MotionCommand) (h : History) (c : Control) : Prop where
  cycles : c.watchdogCycles = 0
  lastSeq : c.lastSeq = h.seq
  driveSeq : c.driveSeq = History.lastSeq h.seq h.fresh
  enable : c.enable ≠ 0 ↔ h.drive = true ∧ ∀ command ∈ h.fresh, command.IsDrive
  fresh : ∀ command, h.fresh.getLast? = some command → last = some command
  settled : h.fresh = [] → (h.drive = true ↔ ∃ command, last = some command ∧ command.IsDrive)
  joints : ∀ joints, last = some (.joint joints) → c.joints = joints

lemma lastSeq_concat (seq : UInt16) (commands : List MotionCommand) (command : MotionCommand) :
    History.lastSeq seq (commands ++ [command]) =
      match command with
      | .joint _ => History.lastSeq seq commands
      | .drive seq' => seq' := by
  simp [History.lastSeq]

namespace MotionInvariant

variable {last : Option MotionCommand} {h : History} {c : Control}

/-- One more command is processed. -/
lemma apply (hinv : MotionInvariant last h c) (command : MotionCommand) :
    MotionInvariant (some command) { h with fresh := h.fresh ++ [command] } (c.apply command) where
  cycles := by cases command <;> exact hinv.cycles
  lastSeq := by cases command <;> exact hinv.lastSeq
  driveSeq := by
    rw [lastSeq_concat]
    cases command with
    | joint joints => exact hinv.driveSeq
    | drive seq => rfl
  enable := by
    cases command with
    | joint joints => simp [Control.apply, MotionCommand.IsDrive]
    | drive seq =>
      have henable := hinv.enable
      simp only [Control.apply, List.mem_append, List.mem_singleton]
      rw [henable]
      constructor
      · rintro ⟨hdrive, hall⟩
        refine ⟨hdrive, ?_⟩
        rintro command (hmem | rfl)
        · exact hall command hmem
        · trivial
      · rintro ⟨hdrive, hall⟩
        exact ⟨hdrive, fun command hmem => hall command (.inl hmem)⟩
  fresh := by
    intro command' hlast
    simpa using hlast
  settled := by
    intro hnil
    simp at hnil
  joints := by
    intro joints hlast
    cases hlast
    rfl

lemma foldl_apply (hinv : MotionInvariant last h c) (commands : List MotionCommand) :
    MotionInvariant (commands.getLast?.or last) { h with fresh := h.fresh ++ commands }
      (commands.foldl Control.apply c) := by
  induction commands using List.reverseRecOn with
  | nil => simpa using hinv
  | append_singleton commands command ih =>
    have happly := ih.apply command
    simp only [List.append_assoc] at happly
    simpa using happly

/-- The decision of a call of `Orazio_driveControl`. -/
lemma sync_enable (hinv : MotionInvariant last h c) : c.sync.enable ≠ 0 ↔
    h.seq ≠ History.lastSeq h.seq h.fresh ∨
      (h.drive = true ∧ ∀ command ∈ h.fresh, command.IsDrive) := by
  rw [Control.sync_enable, hinv.lastSeq, hinv.driveSeq, hinv.enable]

/-- The call obeys the last command exactly when the packets of the epoch are clear. -/
lemma obeys_iff_clear (hinv : MotionInvariant last h c) {joints : Fin NUM_MOTORS → JointControl}
    (kept : c.sync.enable = 0 → joints = c.joints) :
    Obeys last (.driveControl (decide (c.sync.enable ≠ 0)) joints) ↔ h.Clear := by
  have henable := hinv.sync_enable
  unfold History.Clear
  cases hfresh : h.fresh.getLast? with
  | none =>
    have hnil : h.fresh = [] := List.getLast?_eq_none_iff.mp hfresh
    have hran : c.sync.enable ≠ 0 ↔ h.drive = true := by
      rw [henable, hnil]
      simp [History.lastSeq]
    have hsettled := hinv.settled hnil
    simp only [iff_true]
    cases last with
    | none => trivial
    | some command =>
      cases command with
      | joint commanded =>
        have hzero : c.sync.enable = 0 := by
          by_contra hne
          obtain ⟨command, hlast, hdrive⟩ := hsettled.mp (hran.mp hne)
          cases hlast
          exact hdrive
        exact ⟨by simp [hzero], (kept hzero).trans (hinv.joints commanded rfl)⟩
      | drive seq =>
        have hne := hran.mpr (hsettled.mpr ⟨_, rfl, trivial⟩)
        simpa [Obeys] using hne
  | some command =>
    obtain rfl := hinv.fresh command hfresh
    obtain ⟨commands, hcommands⟩ := List.getLast?_eq_some_iff.mp hfresh
    cases command with
    | joint commanded =>
      have hran : c.sync.enable ≠ 0 ↔ h.seq ≠ History.lastSeq h.seq h.fresh := by
        rw [henable, or_iff_left]
        rintro ⟨-, hall⟩
        exact hall (.joint commanded) (by rw [hcommands]; simp)
      simp only [Obeys, decide_eq_false_iff_not]
      constructor
      · rintro ⟨hnot, -⟩
        by_contra hne
        exact hnot (hran.mpr (Ne.symm hne))
      · intro hsame
        have hzero : c.sync.enable = 0 := by
          by_contra hne
          exact hran.mp hne hsame.symm
        exact ⟨not_not.mpr hzero, (kept hzero).trans (hinv.joints commanded rfl)⟩
    | drive seq =>
      have hseq : History.lastSeq h.seq h.fresh = seq := by
        rw [hcommands, lastSeq_concat]
      simp only [Obeys, decide_eq_true_eq]
      rw [henable, hseq, ne_comm]

/-- After a settled call the drive flag tells the kind of the last command. -/
lemma settle_drive (hinv : MotionInvariant last h c) :
    h.settle.drive = true ↔ ∃ command, last = some command ∧ command.IsDrive := by
  unfold History.settle
  cases hfresh : h.fresh.getLast? with
  | none => exact hinv.settled (List.getLast?_eq_none_iff.mp hfresh)
  | some command =>
    obtain rfl := hinv.fresh command hfresh
    cases command <;> simp [MotionCommand.IsDrive]

/-- A call that obeys the last command settles the history. -/
lemma settle (hinv : MotionInvariant last h c) {joints : Fin NUM_MOTORS → JointControl}
    (hobeys : Obeys last (.driveControl (decide (c.sync.enable ≠ 0)) joints)) :
    MotionInvariant last h.settle { c.sync with joints } := by
  have henable : c.sync.enable ≠ 0 ↔ h.settle.drive = true := by
    unfold History.settle
    cases hfresh : h.fresh.getLast? with
    | none =>
      have hnil : h.fresh = [] := List.getLast?_eq_none_iff.mp hfresh
      rw [hinv.sync_enable, hnil]
      simp [History.lastSeq]
    | some command =>
      obtain rfl := hinv.fresh command hfresh
      cases command with
      | joint commanded => simpa [Obeys] using hobeys.1
      | drive seq => simpa [Obeys] using hobeys
  refine ⟨?_, ?_, ?_, ?_, ?_, ?_, ?_⟩
  · rw [Control.sync_eq]
    exact hinv.cycles
  · rw [Control.sync_eq]
    exact hinv.driveSeq
  · rw [Control.sync_eq]
    exact hinv.driveSeq
  · simpa [History.settle] using henable
  · intro command hlast
    simp [History.settle] at hlast
  · intro _
    exact hinv.settle_drive
  · rintro commanded rfl
    exact hobeys.2

/-- The invariant does not depend on the outputs and counters. -/
lemma congr (hinv : MotionInvariant last h c) {c' : Control}
    (hcycles : c'.watchdogCycles = c.watchdogCycles) (hlast : c'.lastSeq = c.lastSeq)
    (hdrive : c'.driveSeq = c.driveSeq) (henable : c'.enable = c.enable)
    (hjoints : c'.joints = c.joints) : MotionInvariant last h c' where
  cycles := hcycles.trans hinv.cycles
  lastSeq := hlast.trans hinv.lastSeq
  driveSeq := hdrive.trans hinv.driveSeq
  enable := by
    rw [henable]
    exact hinv.enable
  fresh := hinv.fresh
  settled := hinv.settled
  joints := by
    rw [hjoints]
    exact hinv.joints

end MotionInvariant

lemma initControl_motionInvariant : MotionInvariant none History.init (initControl 0) where
  cycles := rfl
  lastSeq := rfl
  driveSeq := rfl
  enable := by simp [initControl, History.init]
  fresh := by simp [History.init]
  settled := by simp [History.init]
  joints := by simp

/-! ### Runs -/

/-- The packets processed in a call of `Orazio_commHandle`. -/
def executedPackets : MainEvent → List (Executed OrazioAction)
  | .commHandle e => e.executed
  | _ => []

/-- Only motion packets are processed. -/
abbrev OnlyMotion (events : List MainEvent) : Prop :=
  ∀ event ∈ events, ∀ x ∈ executedPackets event, (motionCommand x).isSome

/-- A step other than a call of `Orazio_driveControl` keeps the invariant. -/
lemma loopStep_motionInvariant {last : Option MotionCommand} {h : History} {v v' : LoopView}
    {event : MainEvent} (hinv : MotionInvariant last h v.control) (hstep : LoopStep v event v')
    (hcall : ∀ ran joints, event ≠ .driveControl ran joints)
    (honly : ∀ x ∈ executedPackets event, (motionCommand x).isSome) :
    MotionInvariant (lastCommand last event) (h.next event) v'.control := by
  cases hstep with
  | driveControl joints kept => exact absurd rfl (hcall _ _)
  | commHandle e c' step =>
    have hmotion := step.motion honly
    apply (hinv.foldl_apply (motionCommands e)).congr <;> rw [hmotion]
  | @watchdog c before =>
    have hsame : c.watchdog before = (false, c) := if_pos hinv.cycles
    rw [hsame]
    exact hinv
  | tick outputs disabled => exact hinv.congr rfl rfl rfl rfl rfl
  | setWatchdogCount => exact hinv.congr rfl rfl rfl rfl rfl
  | _ => exact hinv

lemma loopRun_lastWins_iff {v v' : LoopView} {events : List MainEvent}
    (hrun : LoopRun v events v') {last : Option MotionCommand} {h : History}
    (hinv : MotionInvariant last h v.control) (honly : OnlyMotion events) :
    LastWins last events ↔ h.Unambiguous events := by
  induction hrun generalizing last h with
  | nil v => exact Iff.rfl
  | @cons v w v' event events first rest ih =>
    have hrest : OnlyMotion events := fun event he => honly event (List.mem_cons_of_mem _ he)
    by_cases hcall : ∃ ran joints, event = .driveControl ran joints
    · obtain ⟨ran, joints, rfl⟩ := hcall
      cases first with
      | @driveControl c before joints kept =>
        have hclear := hinv.obeys_iff_clear kept
        simp only [LastWins, History.Unambiguous, hclear]
        apply and_congr_right
        intro (hc : h.Clear)
        exact ih (hinv.settle (hclear.mpr hc)) hrest
    · have hcall' : ∀ ran joints, event ≠ .driveControl ran joints :=
        fun ran joints heq => hcall ⟨ran, joints, heq⟩
      have hnext := loopStep_motionInvariant hinv first hcall' (honly event List.mem_cons_self)
      have hobeys : Obeys last event := by
        cases event with
        | driveControl ran joints => exact absurd rfl (hcall' ran joints)
        | _ => trivial
      have hclear : h.ClearFor event := by
        cases event with
        | driveControl ran joints => exact absurd rfl (hcall' ran joints)
        | _ => trivial
      rw [LastWins, History.Unambiguous, ← ih hnext hrest, and_iff_right hobeys,
        and_iff_right hclear]

variable {F π : Type} [CFloat F] [PinDriver π]

/-- In a run from boot with the watchdog off and motion packets only, every call of
`Orazio_driveControl` obeys the last motion packet if and only if the packets of every epoch before
such a call are unambiguous. -/
theorem last_command_wins_iff (eeprom : Nat → UInt8) (pins : π) (s₀ s : MainState F π)
    (inputs : List MainInput) (events : List MainEvent) (hboot : boot eeprom pins = .ok s₀)
    (hoff : s₀.env.systemParams.watchdogCycles = 0)
    (hrun : StepMachine.run MainState.mainStep s₀ inputs = .ok (events, s))
    (honly : OnlyMotion events) :
    LastWins none events ↔ History.init.Unambiguous events := by
  obtain ⟨hview, hqueue⟩ := boot_loopView hboot
  obtain ⟨hloop, -⟩ := mainRun_loopRun hqueue hrun
  rw [hview, hoff] at hloop
  exact loopRun_lastWins_iff hloop initControl_motionInvariant honly

/-- The bytes of a drive command at rest. -/
def drivePacket (seq : UInt16) : List UInt8 :=
  PacketHeader.bytes ⟨DIFFERENTIAL_DRIVE_CONTROL_PACKET_ID, sizeofDriveControlPacket, seq⟩ ++
    List.replicate 8 0

/-- The bytes of a joint command for both joints. -/
def jointPacket (seq : UInt16) (control : JointControl) : List UInt8 :=
  PacketHeader.bytes ⟨JOINT_CONTROL_PACKET_ID, sizeofJointControlPacket, seq⟩ ++ control.bytes ++
    control.bytes

/-- A drive command and later a joint command, each in an epoch of its own. -/
theorem last_command_wins_iff_apart :
    ∃ (s₀ s : MainState ExactFloat Pins) (events : List MainEvent),
      boot (fun _ => 0xFF) Pins.zero = .ok s₀ ∧
      StepMachine.run MainState.mainStep s₀ (startInputs ++ epochInputs (frame (drivePacket 1)) ++
        epochInputs (frame (jointPacket 2 ⟨JointPWM, 5⟩)) ++ epochInputs []) = .ok (events, s) ∧
      LastWins none events := by
  obtain ⟨s₀, hboot, hoff, ⟨events, s⟩, hrun, honly, hunambiguous⟩ :
      ∃ s₀, boot (F := ExactFloat) (fun _ => 0xFF) Pins.zero = .ok s₀ ∧
        s₀.env.systemParams.watchdogCycles = 0 ∧
        ∃ r, StepMachine.run MainState.mainStep s₀ (startInputs ++ epochInputs (frame (drivePacket 1)) ++
            epochInputs (frame (jointPacket 2 ⟨JointPWM, 5⟩)) ++ epochInputs []) = .ok r ∧
          OnlyMotion r.1 ∧ History.init.Unambiguous r.1 := by
    decide +kernel
  exact ⟨s₀, s, events, hboot, hrun, (last_command_wins_iff (fun _ => 0xFF) Pins.zero s₀ s _ events hboot
    hoff hrun honly).mpr hunambiguous⟩

/-- A drive command and then a joint command in the same epoch: the joint command is overwritten. -/
theorem joint_command_overwritten :
    ∃ (s₀ s : MainState ExactFloat Pins) (events : List MainEvent),
      boot (fun _ => 0xFF) Pins.zero = .ok s₀ ∧ s₀.env.systemParams.watchdogCycles = 0 ∧
      StepMachine.run MainState.mainStep s₀ (startInputs ++
        epochInputs (frame (drivePacket 1) ++ frame (jointPacket 2 ⟨JointPWM, 5⟩)) ++
        epochInputs []) = .ok (events, s) ∧
      OnlyMotion events ∧ ¬LastWins none events ∧
      ∀ i, s.env.jointControl.joints i = ⟨JointPID, 0⟩ := by
  obtain ⟨s₀, hboot, hoff, ⟨events, s⟩, hrun, honly, hlost, hjoints⟩ :
      ∃ s₀, boot (F := ExactFloat) (fun _ => 0xFF) Pins.zero = .ok s₀ ∧
        s₀.env.systemParams.watchdogCycles = 0 ∧
        ∃ r, StepMachine.run MainState.mainStep s₀ (startInputs ++
            epochInputs (frame (drivePacket 1) ++ frame (jointPacket 2 ⟨JointPWM, 5⟩)) ++
            epochInputs []) = .ok r ∧
          OnlyMotion r.1 ∧ ¬LastWins none r.1 ∧ ∀ i, r.2.env.jointControl.joints i = ⟨JointPID, 0⟩ := by
    decide +kernel
  exact ⟨s₀, s, events, hboot, hoff, hrun, honly, hlost, hjoints⟩

end Orazio.Proofs
