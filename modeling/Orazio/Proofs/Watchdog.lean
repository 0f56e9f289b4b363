import Orazio.Model.Bench
import Orazio.Proofs.MainLoop

/-!
# The watchdog

The watchdog counts the epochs without a received packet. After `watchdog_cycles` of them the joints
are disabled, and they stay so until a packet arrives.
-/

namespace Orazio.Proofs

/-! ### Silent epochs -/

/-- The silent epochs since the last one with a received packet, and whether the current epoch has
received one. -/
structure Monitor where
  silent : Nat
  received : Bool

def Monitor.next (m : Monitor) : MainEvent → Monitor
  | .commHandle e => if e.received = 0 then ⟨m.silent, false⟩ else ⟨0, true⟩
  | .watchdog _ => if m.received then m else ⟨m.silent + 1, false⟩
  | _ => m

/-- The number of consecutive epochs without a received packet that ended a run from boot. -/
def silentEpochs (events : List MainEvent) : Nat :=
  (events.foldl Monitor.next ⟨0, false⟩).silent

/-! ### The invariant -/

def Control.Disabled (c : Control) : Prop :=
  ∀ i, (c.joints i).mode = JointDisabled ∧ c.outputs i = 0

/-- The counter counts down from `watchdog_cycles` with the silent epochs, an epoch without a packet
leaves no new drive command behind, and from `watchdog_cycles` silent epochs on all is disabled. -/
structure WatchdogInvariant (m : Monitor) (pc : Pc) (c : Control) (before : UInt16) : Prop where
  starting : pc = .setTickCounter ∨ pc = .setWatchdogCount → m.silent = 0
  received : pc ≠ .watchdog → pc ≠ .rxPacketsBefore → before = c.rxPackets
  quiet : pc = .watchdog → m.received = false → before = c.rxPackets
  heard : pc = .watchdog → m.received = true → before ≠ c.rxPackets ∧ m.silent = 0
  count : pc ≠ .setTickCounter → pc ≠ .setWatchdogCount →
    ¬(pc = .watchdog ∧ m.received = true) → c.watchdogCycles ≠ 0 →
    c.watchdogCount = (c.watchdogCycles - UInt16.ofNat m.silent).toInt16
  synced : pc = .commHandle ∨ (pc = .watchdog ∧ m.received = false) ∨ 0 < m.silent →
    c.lastSeq = c.driveSeq
  safe : c.watchdogCycles ≠ 0 → c.watchdogCycles.toNat ≤ m.silent →
    c.Disabled ∧ c.enable = 0

lemma toInt16_ne_zero {n : UInt16} (hn : n ≠ 0) : n.toInt16 ≠ 0 := by
  intro h
  apply hn
  have h' := congrArg Int16.toUInt16 h
  rwa [UInt16.toUInt16_toInt16] at h'

lemma count_succ (n : UInt16) (k : Nat) :
    (n - UInt16.ofNat k).toInt16 - 1 = (n - UInt16.ofNat (k + 1)).toInt16 := by
  rw [UInt16.ofNat_add, UInt16.toInt16_sub, UInt16.toInt16_sub, UInt16.toInt16_add, Int16.sub_sub]
  rfl

/-- The counter is zero only when the silent epochs have reached `watchdog_cycles`. -/
lemma le_of_count_eq_zero {n : UInt16} {k : Nat} (h : (n - UInt16.ofNat k).toInt16 = 0) :
    n.toNat ≤ k := by
  by_contra hlt
  apply toInt16_ne_zero _ h
  intro hzero
  have heq : n = UInt16.ofNat k := by
    rw [← UInt16.sub_add_cancel n (UInt16.ofNat k), hzero, UInt16.zero_add]
  rw [heq, UInt16.toNat_ofNat'] at hlt
  exact hlt (Nat.mod_le k _)

lemma count_eq_zero (n : UInt16) : (n - UInt16.ofNat n.toNat).toInt16 = 0 := by
  rw [UInt16.ofNat_toNat, UInt16.sub_self]
  rfl

lemma ofNat_ne_zero {k : Nat} (h₀ : k ≠ 0) (hk : k < 65536) : UInt16.ofNat k ≠ 0 := by
  intro h
  have h' := congrArg UInt16.toNat h
  rw [UInt16.toNat_ofNat', Nat.mod_eq_of_lt hk] at h'
  exact h₀ h'

/-! ### Steps -/

namespace WatchdogInvariant

variable {m : Monitor} {c : Control} {before : UInt16}

/-- Another place of the loop that makes the same demands. -/
lemma move {pc pc' : Pc} (h : WatchdogInvariant m pc c before)
    (hpc : pc ≠ .setTickCounter ∧ pc ≠ .setWatchdogCount ∧ pc ≠ .watchdog ∧ pc ≠ .rxPacketsBefore)
    (hpc' : pc' ≠ .setTickCounter ∧ pc' ≠ .setWatchdogCount ∧ pc' ≠ .watchdog ∧
      pc' ≠ .rxPacketsBefore ∧ pc' ≠ .commHandle) : WatchdogInvariant m pc' c before where
  starting hp := absurd hp (by simp [hpc'])
  received _ _ := h.received hpc.2.2.1 hpc.2.2.2
  quiet hp := absurd hp hpc'.2.2.1
  heard hp := absurd hp hpc'.2.2.1
  count _ _ _ := h.count hpc.1 hpc.2.1 (fun hp => hpc.2.2.1 hp.1)
  synced hp := by
    obtain hp | ⟨hp, -⟩ | hp := hp
    · exact absurd hp hpc'.2.2.2.2
    · exact absurd hp hpc'.2.2.1
    · exact h.synced (.inr (.inr hp))
  safe := h.safe

/-- A tick writes no control, and a disabled joint gets no output. -/
lemma tick {pc : Pc} (h : WatchdogInvariant m pc c before) {outputs : Fin NUM_MOTORS → Int16}
    (disabled : ∀ i, (c.joints i).mode = JointDisabled → outputs i = 0) :
    WatchdogInvariant m pc { c with outputs } before where
  starting := h.starting
  received := h.received
  quiet := h.quiet
  heard := h.heard
  count := h.count
  synced := h.synced
  safe hn hk := by
    obtain ⟨hdisabled, henable⟩ := h.safe hn hk
    exact ⟨fun i => ⟨(hdisabled i).1, disabled i (hdisabled i).1⟩, henable⟩

lemma setTickCounter (h : WatchdogInvariant m .setTickCounter c before) :
    WatchdogInvariant m .setWatchdogCount c before where
  starting _ := h.starting (.inl rfl)
  received _ _ := h.received (by decide) (by decide)
  quiet hp := by cases hp
  heard hp := by cases hp
  count _ hp := absurd rfl hp
  synced hp := by
    obtain hp | ⟨hp, -⟩ | hp := hp
    · cases hp
    · cases hp
    · exact h.synced (.inr (.inr hp))
  safe := h.safe

lemma setWatchdogCount (h : WatchdogInvariant m .setWatchdogCount c before) :
    WatchdogInvariant m .head { c with watchdogCount := c.watchdogCycles.toInt16 } before where
  starting hp := by rcases hp with hp | hp <;> cases hp
  received _ _ := h.received (by decide) (by decide)
  quiet hp := by cases hp
  heard hp := by cases hp
  count _ _ _ _ := by
    rw [h.starting (.inr rfl)]
    simp
  synced hp := by
    obtain hp | ⟨hp, -⟩ | hp := hp
    · cases hp
    · cases hp
    · exact h.synced (.inr (.inr hp))
  safe := h.safe

lemma driveControl (h : WatchdogInvariant m .driveControl c before)
    {joints : Fin NUM_MOTORS → JointControl} (kept : c.sync.enable = 0 → joints = c.joints) :
    WatchdogInvariant m .commHandle { c.sync with joints } before := by
  have hcycles : c.sync.watchdogCycles = c.watchdogCycles := by rw [Control.sync_eq]
  have hcount : c.sync.watchdogCount = c.watchdogCount := by rw [Control.sync_eq]
  have hrx : c.sync.rxPackets = c.rxPackets := by rw [Control.sync_eq]
  refine ⟨?_, ?_, ?_, ?_, ?_, ?_, ?_⟩
  · intro hp
    rcases hp with hp | hp <;> cases hp
  · intro _ _
    rw [hrx]
    exact h.received (by decide) (by decide)
  · intro hp
    cases hp
  · intro hp
    cases hp
  · intro _ _ _ hn
    rw [hcycles] at hn ⊢
    rw [hcount]
    exact h.count (by decide) (by decide) (fun hp => by cases hp.1) hn
  · intro _
    rw [Control.sync_eq]
  · intro hn hk
    rw [hcycles] at hn hk
    obtain ⟨hdisabled, henable⟩ := h.safe hn hk
    have hpos : 0 < m.silent := by
      have : c.watchdogCycles.toNat ≠ 0 := fun hz => hn (UInt16.toNat_inj.mp hz)
      omega
    -- no command has come since the last silent epoch, so the drive is not enabled again
    have hsync : c.sync = c := by
      unfold Control.sync
      rw [if_neg (by simpa using h.synced (.inr (.inr hpos)))]
    have hjoints := kept (by rw [hsync]; exact henable)
    rw [hsync, hjoints]
    exact ⟨hdisabled, henable⟩

lemma commHandle (h : WatchdogInvariant m .commHandle c before) {e : CommEvent} {c' : Control}
    (step : CommStep c e c') (hfew : e.received < 65536) :
    WatchdogInvariant (m.next (.commHandle e)) .watchdog c' before := by
  have hbefore : before = c.rxPackets := h.received (by decide) (by decide)
  by_cases hzero : e.received = 0
  · have hnext : m.next (.commHandle e) = ⟨m.silent, false⟩ := if_pos hzero
    have hrx : c'.rxPackets = c.rxPackets := by
      rw [step.rxPackets, hzero]
      simp
    have hexecuted := step.silent hzero
    have hsame : c' = c := by
      have hmotion := step.motion (by rw [hexecuted]; simp)
      rw [hrx, motionCommands, hexecuted] at hmotion
      exact hmotion
    subst hsame
    rw [hnext]
    refine ⟨?_, ?_, ?_, ?_, ?_, ?_, h.safe⟩
    · intro hp
      rcases hp with hp | hp <;> cases hp
    · intro hp
      exact absurd rfl hp
    · intro _ _
      exact hbefore
    · intro _ hp
      cases hp
    · intro _ _ _ hn
      exact h.count (by decide) (by decide) (fun hp => by cases hp.1) hn
    · intro _
      exact h.synced (.inl rfl)
  · have hnext : m.next (.commHandle e) = ⟨0, true⟩ := if_neg hzero
    rw [hnext]
    refine ⟨?_, ?_, ?_, ?_, ?_, ?_, ?_⟩
    · intro _
      rfl
    · intro hp
      exact absurd rfl hp
    · intro _ hp
      cases hp
    · intro _ _
      refine ⟨?_, rfl⟩
      rw [hbefore, step.rxPackets]
      intro hsame
      apply ofNat_ne_zero hzero hfew
      calc UInt16.ofNat e.received = c.rxPackets + UInt16.ofNat e.received - c.rxPackets := by
            rw [UInt16.add_comm, UInt16.add_sub_cancel]
        _ = 0 := by rw [← hsame, UInt16.sub_self]
    · intro _ _ hp
      exact absurd ⟨rfl, rfl⟩ hp
    · rintro (hp | ⟨-, hp⟩ | hp)
      · cases hp
      · cases hp
      · cases hp
    · intro hn hk
      exact absurd (UInt16.toNat_inj.mp (Nat.le_zero.mp hk)) hn

/-- The counter after a watchdog block that has seen no packet. -/
lemma nextCount_quiet (h : WatchdogInvariant m .watchdog c before) (hquiet : m.received = false)
    (hn : c.watchdogCycles ≠ 0) :
    c.nextCount before = (c.watchdogCycles - UInt16.ofNat (m.silent + 1)).toInt16 := by
  have hcount := h.count (by decide) (by decide) (fun hp => by rw [hquiet] at hp; cases hp.2) hn
  rw [Control.nextCount, if_pos (h.quiet rfl hquiet), hcount, count_succ]

/-- The watchdog block of an epoch that has seen a packet. -/
lemma watchdog_heard (h : WatchdogInvariant m .watchdog c before) (hheard : m.received = true) :
    WatchdogInvariant m .rxPacketsBefore (c.watchdog before).2 before := by
  obtain ⟨hnew, hzero⟩ := h.heard rfl hheard
  have hcycles := (Control.watchdog_keeps before c).1
  refine ⟨?_, ?_, ?_, ?_, ?_, ?_, ?_⟩
  · intro _
    exact hzero
  · intro _ hp
    exact absurd rfl hp
  · intro hp
    cases hp
  · intro hp
    cases hp
  · intro _ _ _ hn
    rw [hcycles] at hn ⊢
    rw [Control.watchdog_watchdogCount hn, Control.nextCount, if_neg hnew, hzero]
    simp
  · rintro (hp | ⟨hp, -⟩ | hp)
    · cases hp
    · cases hp
    · omega
  · intro hn hk
    rw [hcycles] at hn hk
    rw [hzero] at hk
    exact absurd (UInt16.toNat_inj.mp (Nat.le_zero.mp hk)) hn

/-- The watchdog block of a silent epoch. -/
lemma watchdog_quiet (h : WatchdogInvariant m .watchdog c before) (hquiet : m.received = false) :
    WatchdogInvariant ⟨m.silent + 1, false⟩ .rxPacketsBefore (c.watchdog before).2 before := by
  obtain ⟨hcycles, hlastSeq, hdriveSeq⟩ := Control.watchdog_keeps before c
  refine ⟨?_, ?_, ?_, ?_, ?_, ?_, ?_⟩
  · intro hp
    rcases hp with hp | hp <;> cases hp
  · intro _ hp
    exact absurd rfl hp
  · intro hp
    cases hp
  · intro hp
    cases hp
  · intro _ _ _ hn
    rw [hcycles] at hn ⊢
    rw [Control.watchdog_watchdogCount hn, h.nextCount_quiet hquiet hn]
  · intro _
    rw [hlastSeq, hdriveSeq]
    exact h.synced (.inr (.inl ⟨rfl, hquiet⟩))
  · intro hn hk
    rw [hcycles] at hn hk
    by_cases hzero : c.nextCount before = 0
    · rw [Control.watchdog_expires hn hzero]
      exact ⟨fun _ => ⟨rfl, rfl⟩, rfl⟩
    · -- the epoch that completes the count would have disabled everything
      have hlast : c.watchdogCycles.toNat ≠ m.silent + 1 := by
        intro hlast
        rw [h.nextCount_quiet hquiet hn, ← hlast, count_eq_zero] at hzero
        exact hzero rfl
      rw [Control.watchdog_counts hn hzero]
      exact h.safe hn (show c.watchdogCycles.toNat ≤ m.silent by
        simp only at hk
        omega)

lemma watchdog (h : WatchdogInvariant m .watchdog c before) {disabled : Bool} :
    WatchdogInvariant (m.next (.watchdog disabled)) .rxPacketsBefore (c.watchdog before).2 before := by
  by_cases hheard : m.received = true
  · have hnext : m.next (.watchdog disabled) = m := if_pos hheard
    rw [hnext]
    exact h.watchdog_heard hheard
  · have hquiet : m.received = false := by simpa using hheard
    have hnext : m.next (.watchdog disabled) = ⟨m.silent + 1, false⟩ := by
      simp [Monitor.next, hquiet]
    rw [hnext]
    exact h.watchdog_quiet hquiet

/-- The watchdog does not disable anything before its time. -/
lemma le_of_disabled (h : WatchdogInvariant m .watchdog c before)
    (hdisabled : (c.watchdog before).1 = true) :
    c.watchdogCycles.toNat ≤ (m.next (.watchdog true)).silent := by
  unfold Control.watchdog at hdisabled
  split at hdisabled
  · cases hdisabled
  · next hn =>
    split at hdisabled
    · next hzero =>
      by_cases hquiet : m.received = true
      · rw [Control.nextCount, if_neg (h.heard rfl hquiet).1] at hzero
        exact absurd hzero (toInt16_ne_zero hn)
      · have hquiet : m.received = false := by simpa using hquiet
        rw [h.nextCount_quiet hquiet hn] at hzero
        simpa [Monitor.next, hquiet] using le_of_count_eq_zero hzero
    · cases hdisabled

lemma rxPacketsBefore (h : WatchdogInvariant m .rxPacketsBefore c before) :
    WatchdogInvariant m .clearCommHandle c c.rxPackets where
  starting hp := by rcases hp with hp | hp <;> cases hp
  received _ _ := rfl
  quiet hp := by cases hp
  heard hp := by cases hp
  count _ _ _ := h.count (by decide) (by decide) (fun hp => by cases hp.1)
  synced hp := by
    obtain hp | ⟨hp, -⟩ | hp := hp
    · cases hp
    · cases hp
    · exact h.synced (.inr (.inr hp))
  safe := h.safe

end WatchdogInvariant

open WatchdogInvariant in
/-- Every step of the control machine keeps the invariant. -/
lemma loopStep_watchdogInvariant {m : Monitor} {v v' : LoopView} {event : MainEvent}
    (h : WatchdogInvariant m v.pc v.control v.before) (hstep : LoopStep v event v')
    (hfew : ∀ e, event = .commHandle e → e.received < 65536) :
    WatchdogInvariant (m.next event) v'.pc v'.control v'.before := by
  cases hstep with
  | tick outputs disabled => exact h.tick disabled
  | setTickCounter => exact h.setTickCounter
  | setWatchdogCount => exact h.setWatchdogCount
  | idle => exact h
  | @wake c before =>
    have hmove : WatchdogInvariant m .driveUpdate c before :=
      move (show WatchdogInvariant m .head c before from h) (by decide) (by decide)
    exact hmove
  | @driveUpdate c before =>
    have hmove : WatchdogInvariant m .driveControl c before :=
      move (show WatchdogInvariant m .driveUpdate c before from h) (by decide) (by decide)
    exact hmove
  | driveControl joints kept => exact h.driveControl kept
  | commHandle e c' step => exact h.commHandle step (hfew e rfl)
  | watchdog => exact h.watchdog
  | rxPacketsBefore => exact h.rxPacketsBefore
  | @clearCommHandle c before =>
    have hmove : WatchdogInvariant m .clearIdleCycles c before :=
      move (show WatchdogInvariant m .clearCommHandle c before from h) (by decide) (by decide)
    exact hmove
  | @clearIdleCycles c before =>
    have hmove : WatchdogInvariant m .head c before :=
      move (show WatchdogInvariant m .clearIdleCycles c before from h) (by decide) (by decide)
    exact hmove

lemma loopRun_watchdogInvariant {m : Monitor} {v v' : LoopView} {events : List MainEvent}
    (h : WatchdogInvariant m v.pc v.control v.before) (hrun : LoopRun v events v')
    (hfew : ∀ e, .commHandle e ∈ events → e.received < 65536) :
    WatchdogInvariant (events.foldl Monitor.next m) v'.pc v'.control v'.before := by
  induction hrun generalizing m with
  | nil v => exact h
  | cons first rest ih =>
    apply ih
    · apply loopStep_watchdogInvariant h first
      rintro e rfl
      exact hfew e List.mem_cons_self
    · intro e he
      exact hfew e (List.mem_cons_of_mem _ he)

lemma initControl_watchdogInvariant (watchdogCycles : UInt16) :
    WatchdogInvariant ⟨0, false⟩ .setTickCounter (initControl watchdogCycles) 0 where
  starting _ := rfl
  received _ _ := rfl
  quiet hp := by cases hp
  heard hp := by cases hp
  count hp := absurd rfl hp
  synced _ := rfl
  safe _ _ := ⟨fun _ => ⟨rfl, rfl⟩, rfl⟩

/-! ### The firmware -/

variable {F π : Type} [CFloat F] [PinDriver π]

/-- In every run from boot, once `watchdog_cycles` consecutive epochs have received no packet, all
joints are disabled with output zero until a packet is received; and the watchdog disables nothing
before that. -/
theorem watchdog_safe (eeprom : Nat → UInt8) (pins : π) (s₀ s : MainState F π)
    (inputs : List MainInput) (events : List MainEvent) (hboot : boot eeprom pins = .ok s₀)
    (hrun : StepMachine.run MainState.mainStep s₀ inputs = .ok (events, s))
    (hfew : ∀ e, .commHandle e ∈ events → e.received < 65536) :
    (s.env.systemParams.watchdogCycles ≠ 0 →
      s.env.systemParams.watchdogCycles.toNat ≤ silentEpochs events →
      ∀ i, (s.env.jointControl.joints i).mode = JointDisabled ∧
        (s.env.jointControllers i).output = 0) ∧
    (∀ io s', s.mainStep (.step io) = .ok (.watchdog true, s') →
      s.env.systemParams.watchdogCycles.toNat ≤ silentEpochs (events ++ [.watchdog true])) := by
  obtain ⟨hview, hqueue⟩ := boot_loopView hboot
  obtain ⟨hloop, hqueue'⟩ := mainRun_loopRun hqueue hrun
  rw [hview] at hloop
  have hinv := loopRun_watchdogInvariant (initControl_watchdogInvariant _) hloop hfew
  refine ⟨fun hn hk => (hinv.safe hn hk).1, ?_⟩
  intro io s' hstep
  obtain ⟨hloop', -⟩ := mainStep_loopStep hqueue' hstep
  generalize hv : loopView s = v at hloop' hinv
  generalize loopView s' = v' at hloop'
  generalize hd : MainEvent.watchdog true = event at hloop'
  cases hloop' with
  | @watchdog c before =>
    have hdisabled : (c.watchdog before).1 = true := (MainEvent.watchdog.inj hd).symm
    have hle := hinv.le_of_disabled hdisabled
    have hcycles : s.env.systemParams.watchdogCycles = c.watchdogCycles :=
      congrArg (fun v => v.control.watchdogCycles) hv
    rw [hcycles, silentEpochs, List.foldl_append]
    exact hle
  | _ => cases hd

/-- The bytes that arrived before an event. -/
def receivedBytes : MainEvent → Nat
  | .commHandle e => e.received
  | _ => 0

/-- An epoch that receives a command for both joints. -/
def enableJoints : List MainInput :=
  let command : JointControlPacket := { initJointControl with joints := fun _ => ⟨JointPWM, 50⟩ }
  startInputs ++ epochInputs (frame command.bytes)

/-- The joints move at the next tick, and with `watchdog_cycles` 1 one silent epoch disables them. -/
theorem watchdog_safe_one_cycle :
    ∃ (s₀ s₁ s : MainState ExactFloat Pins) (events₁ events : List MainEvent),
      boot (storedParams 1) Pins.zero = .ok s₀ ∧
      StepMachine.run MainState.mainStep s₀ (enableJoints ++ [.tick fun _ => 0]) = .ok (events₁, s₁) ∧
      (∀ i, (s₁.env.jointControl.joints i).mode = JointPWM ∧ (s₁.env.jointControllers i).output = 50) ∧
      StepMachine.run MainState.mainStep s₀ (enableJoints ++ epochInputs []) = .ok (events, s) ∧
      silentEpochs events = 1 ∧
      ∀ i, (s.env.jointControl.joints i).mode = JointDisabled ∧
        (s.env.jointControllers i).output = 0 := by
  obtain ⟨s₀, hboot, ⟨⟨events₁, s₁⟩, hfirst, hmoves⟩, ⟨events, s⟩, hrun, hcycles, hsilent, hfew⟩ :
      ∃ s₀, boot (F := ExactFloat) (storedParams 1) Pins.zero = .ok s₀ ∧
        (∃ r, StepMachine.run MainState.mainStep s₀ (enableJoints ++ [.tick fun _ => 0]) = .ok r ∧
          ∀ i, (r.2.env.jointControl.joints i).mode = JointPWM ∧ (r.2.env.jointControllers i).output = 50) ∧
        ∃ r, StepMachine.run MainState.mainStep s₀ (enableJoints ++ epochInputs []) = .ok r ∧
          r.2.env.systemParams.watchdogCycles = 1 ∧ silentEpochs r.1 = 1 ∧
          ∀ event ∈ r.1, receivedBytes event < 65536 := by
    decide +kernel
  refine ⟨s₀, s₁, s, events₁, events, hboot, hfirst, hmoves, hrun, hsilent, ?_⟩
  apply (watchdog_safe (storedParams 1) Pins.zero s₀ s _ events hboot hrun ?_).1
  · rw [hcycles]
    decide
  · rw [hcycles, hsilent]
    decide
  · intro e he
    exact hfew _ he

end Orazio.Proofs
