import Orazio.Proofs.EpochPackets

/-!
# Snapshots of the robot

A client that synchronises with the firmware reads the epochs one by one, and after each of them its variables
hold the last packets that the firmware has queued, up to this epoch.
-/

namespace Orazio.Proofs

open Journal

variable {F π : Type}

/-! ### Boot -/

variable [CFloat F]

lemma ramView_static (eeprom : Nat → UInt8) (pins : π) (b : ParamBlock) :
    (ramView (Globals.static eeprom pins : Globals F π)).kind b = ownKind b := by
  cases b <;> rfl

/-- If the protocol version in the EEPROM is that of the firmware, its blocks have their own headers. -/
def StoresHeaders (eeprom : Nat → UInt8) : Prop :=
  LittleEndian.getU32 eeprom PROTOCOL_VERSION_OFFSET = ORAZIO_PROTOCOL_VERSION →
    ∀ b, (eepromView eeprom).kind b = ownKind b

lemma runControl_save (v : Params) (b : ParamBlock) :
    v.runControl ParamSave b = { v with stored := .copyBlock b v.current v.stored } := by
  rw [Params.runControl, if_neg (by decide), if_pos rfl]

/-- The first boot saves all blocks. -/
lemma saveDefaults_own (g : Globals F π) (h : ∀ b, (ramView g).kind b = ownKind b) :
    OwnHeaders (paramsOf (saveDefaults g)) := by
  have hversions : ∀ b, (paramsOf (saveVersions g)).current.kind b = ownKind b := h
  unfold saveDefaults
  dsimp only
  rw [paramSave_params (b := .drive) rfl, paramSave_params (b := .joints) rfl,
    paramSave_params (b := .system) rfl, runControl_save, runControl_save, runControl_save]
  refine ⟨hversions, fun b => ?_⟩
  cases b <;> exact hversions _

omit [CFloat F] in
/-- Changes that keep the headers of the blocks, the mask and the EEPROM. -/
lemma paramsOf_congr {g g' : Globals F π} (hsystem : kindOf g'.systemParams.header = kindOf g.systemParams.header)
    (hjoints : kindOf g'.jointParams.header = kindOf g.jointParams.header)
    (hdrive : kindOf g'.driveParams.header = kindOf g.driveParams.header)
    (hmask : g'.systemParams.periodicPacketMask = g.systemParams.periodicPacketMask)
    (heeprom : g'.eeprom = g.eeprom) : paramsOf g' = paramsOf g := by
  have hkind : (ramView g').kind = (ramView g).kind := by
    funext b
    cases b with
    | system => exact hsystem
    | joints => exact hjoints
    | drive => exact hdrive
  exact congrArg₂ Params.mk (ParamView.ext hkind hmask) (congrArg eepromView heeprom)

variable [PinDriver π]

lemma loadParams_own {g g' : Globals F π} (hown : OwnHeaders (paramsOf g)) (h : loadParams g = .ok g') :
    OwnHeaders (paramsOf g') := by
  obtain ⟨r₁, g₁, r₂, g₂, r₃, h₁, h₂, h₃⟩ := loadParams_eq_ok h
  rw [paramLoad_params (b := .drive) rfl h₃, paramLoad_params (b := .joints) rfl h₂,
    paramLoad_params (b := .system) rfl h₁]
  exact ((hown.runControl _ _).runControl _ _).runControl _ _

lemma paramInit_own {eeprom : Nat → UInt8} {pins : π} (hstores : StoresHeaders eeprom) {g : Globals F π}
    (h : Orazio_paramInit (Globals.static eeprom pins : Globals F π) = .ok g) : OwnHeaders (paramsOf g) := by
  obtain ⟨g₁, hsync, rfl⟩ := initParams_eq_ok h
  have hown : OwnHeaders (paramsOf g₁) := by
    unfold syncParams at hsync
    split at hsync
    · rw [← Except.ok.inj hsync]
      exact saveDefaults_own _ (ramView_static eeprom pins)
    · next hversion =>
      exact loadParams_own ⟨ramView_static eeprom pins, hstores (not_not.mp hversion)⟩ hsync
  have hset : paramsOf (setVersions (LittleEndian.getU32 (Globals.static eeprom pins : Globals F π).eeprom
      PROTOCOL_VERSION_OFFSET) (LittleEndian.getU32 (Globals.static eeprom pins : Globals F π).eeprom
      FIRMWARE_VERSION_OFFSET) g₁) = paramsOf g₁ := paramsOf_congr rfl rfl rfl rfl rfl
  rw [hset]
  exact hown

/-- Between two epochs the number of the last one is known, and all headers are in order. -/
structure EpochReady (s : MainState F π) (n : ℕ) : Prop where
  output : OutputReady s
  own : OwnHeaders (paramsOf s.env)
  number : s.env.globalSeq = UInt16.ofNat n

lemma boot_epochReady {eeprom : Nat → UInt8} {pins : π} (hstores : StoresHeaders eeprom) {s : MainState F π}
    (h : boot eeprom pins = .ok s) : EpochReady s 0 := by
  obtain ⟨g, hinit, -, -, henv, -⟩ := startMain_eq_ok h
  obtain ⟨g₁, hparams, hdrive⟩ := initSubsystems_eq_ok hinit
  obtain ⟨bridges, pins', hbridge⟩ := hBridgeInit_eq (Orazio_jointsInit g₁)
  rw [hbridge] at hdrive
  obtain ⟨controller, status, rfl, -⟩ := driveInit_eq_ok hdrive
  have hsame : paramsOf s.env = paramsOf g₁ := by
    rw [henv]
    exact paramsOf_congr rfl rfl rfl rfl rfl
  refine ⟨boot_ready h, ?_, ?_⟩
  · rw [hsame]
    exact paramInit_own hstores hparams
  · rw [henv]
    rfl

/-! ### Steps -/

omit [PinDriver π] in
lemma driveUpdate_globalSeq {g g' : Globals F π} (h : Orazio_driveUpdate g = .ok g') :
    g'.globalSeq = g.globalSeq := by
  unfold Orazio_driveUpdate at h
  split at h
  · cases h
  · cases h
    rfl

omit [PinDriver π] in
lemma driveControl_globalSeq {g g' : Globals F π} {ran : Bool} (h : Orazio_driveControl g = .ok (ran, g')) :
    g'.globalSeq = g.globalSeq := by
  have henable : (enableDrive g).globalSeq = g.globalSeq := by
    unfold enableDrive
    split <;> rfl
  obtain ⟨-, -, rfl⟩ | ⟨-, -, joints, rfl⟩ := driveControl_cases h
  · exact henable
  · exact henable

omit [CFloat F] [PinDriver π] in
lemma watchdogBlock_globalSeq (s : MainState F π) : s.watchdogBlock.2.globalSeq = s.env.globalSeq := by
  unfold MainState.watchdogBlock
  split
  · simp only
    split <;> rfl
  · rfl

/-- The calls of `Orazio_commHandle`. -/
def epochOf : MainEvent → Option CommEvent
  | .commHandle e => some e
  | _ => none

/-- The answers of an epoch keep the headers. -/
lemma Answered.own {io : UartIo} {statuses : List PacketStatus} {s s' : System F π} {ps : List Pending}
    {acted closed : TxFields × Globals F π} {e : CommEvent} (h : Answered io statuses s ps acted closed e s')
    (hs : ∀ p ∈ ps, Stored orazioConfig s.mem p) (hstatus : StatusHeaders s.env)
    (hown : OwnHeaders (paramsOf s.env)) : OwnHeaders (paramsOf s'.env) := by
  have hbegin : SameHeaders s.env (beginEpoch s).env := ⟨fun v => by cases v <;> rfl, rfl, rfl⟩
  obtain ⟨hparams, hstatus₁, -⟩ := runActions_handles hs (hbegin.statusHeaders hstatus) h.actions
  obtain ⟨hkeep, -, -⟩ := sendStatus_handles hstatus₁ h.status
  have hflush : SameHeaders closed.2 s'.env := by
    rw [(flushOutputBuffers_eq_ok h.flush).2]
    exact ⟨fun v => by cases v <;> rfl, rfl, rfl⟩
  rw [hflush.paramsOf, hkeep, hparams, hbegin.paramsOf]
  apply hown.changeAll
  intro p hp
  obtain ⟨q, hq, rfl⟩ := List.mem_map.mp hp
  exact (hs q hq).ownSize

/-- A call of `Orazio_commHandle` puts an epoch on the link, if its end is queued. -/
lemma commHandle_epochReady {s s' : MainState F π} {io : UartIo} {e : CommEvent} {n : ℕ} (h : EpochReady s n)
    (hready : OutputReady s') (hcomm : Orazio_commHandle io s.system = .ok (e, s'.system)) :
    EpochReady s' (n + 1) ∧ (EndsEpoch e → ∃ epoch, PutsOnLink (UInt16.ofNat (n + 1)) e epoch) := by
  obtain ⟨ph, hrep⟩ := h.output.queue
  obtain ⟨s₁, ph', ps, errors, hflush, hrep₁, -, -, ⟨acted, closed, hans⟩, -, henv⟩ :=
    commHandle_answered hrep hcomm
  obtain ⟨htransmits, -, houtput, -⟩ := commHandle_frames hrep h.output.ring h.output.status hflush hcomm
  obtain ⟨hseq, hstamped⟩ := hans.stamped
  have hsame : SameHeaders s.env s₁.env := by
    rw [henv]
    exact ⟨fun v => by cases v <;> rfl, rfl, rfl⟩
  have hnumber : s₁.env.globalSeq + 1 = UInt16.ofNat (n + 1) := by
    have hkeep : s₁.env.globalSeq = s.env.globalSeq := by rw [henv]
    rw [hkeep, h.number, UInt16.ofNat_add]
    rfl
  have hown : OwnHeaders (paramsOf s₁.env) := hsame.paramsOf ▸ h.own
  have hpending : ∀ p ∈ pendingPackets s₁, OwnSize p := by
    rw [hrep₁.pendingPackets]
    intro p hp
    obtain ⟨q, hq, rfl⟩ := List.mem_map.mp hp
    exact (hrep₁.queued.stored q hq).ownSize
  rw [hnumber] at hseq hstamped
  exact ⟨⟨hready, hans.own hrep₁.queued.stored (hsame.statusHeaders h.output.status) hown, hseq⟩,
    exists_putsOnLink h.own hpending htransmits houtput hstamped⟩

omit [CFloat F] [PinDriver π] in
lemma EpochReady.keep {s s' : MainState F π} {n : ℕ} (h : EpochReady s n) (hready : OutputReady s')
    (hsame : SameHeaders s.env s'.env) (hseq : s'.env.globalSeq = s.env.globalSeq) : EpochReady s' n :=
  ⟨hready, hsame.paramsOf ▸ h.own, hseq.trans h.number⟩

/-- A call of `Orazio_commHandle` is an epoch, and the other steps leave its number alone. -/
lemma mainStep_epochReady {s s' : MainState F π} {input : MainInput} {event : MainEvent} {n : ℕ}
    (h : EpochReady s n) (hstep : s.mainStep input = .ok (event, s')) :
    (epochOf event = none ∧ EpochReady s' n) ∨
      ∃ e, epochOf event = some e ∧ EpochReady s' (n + 1) ∧
        (EndsEpoch e → ∃ epoch, PutsOnLink (UInt16.ofNat (n + 1)) e epoch) := by
  have hready := mainStep_ready h.output hstep
  cases mainStep_cases hstep with
  | driveUpdate _ hupdate =>
    exact .inl ⟨rfl, h.keep hready (driveUpdate_sameHeaders hupdate) (driveUpdate_globalSeq hupdate)⟩
  | driveControl _ hcontrol =>
    exact .inl ⟨rfl, h.keep hready (driveControl_sameHeaders hcontrol) (driveControl_globalSeq hcontrol)⟩
  | commHandle _ hcomm => exact .inr ⟨_, rfl, commHandle_epochReady h hready hcomm⟩
  | watchdog => exact .inl ⟨rfl, h.keep hready (watchdogBlock_sameHeaders s) (watchdogBlock_globalSeq s)⟩
  | _ => exact .inl ⟨rfl, h.keep hready ⟨fun v => by cases v <;> rfl, rfl, rfl⟩ rfl⟩

/-! ### Runs -/

/-- The epochs of a run. -/
def epochsOf (events : List MainEvent) : List CommEvent :=
  events.filterMap epochOf

/-- The epochs are numbered from one on. -/
lemma mainRun_epochs {eeprom : Nat → UInt8} {pins : π} (hstores : StoresHeaders eeprom) {s₀ s : MainState F π}
    {inputs : List MainInput} {events : List MainEvent} (hboot : boot eeprom pins = .ok s₀)
    (hrun : StepMachine.run MainState.mainStep s₀ inputs = .ok (events, s)) :
    EpochReady s (epochsOf events).length ∧
      ∀ i e, (epochsOf events)[i]? = some e → EndsEpoch e →
        ∃ epoch, PutsOnLink (UInt16.ofNat (i + 1)) e epoch := by
  refine StepMachine.run_history (fun _ events s => EpochReady s (epochsOf events).length ∧
    ∀ i e, (epochsOf events)[i]? = some e → EndsEpoch e → ∃ epoch, PutsOnLink (UInt16.ofNat (i + 1)) e epoch)
    ⟨boot_epochReady hstores hboot, fun i e hi => ?_⟩ ?_ hrun
  · cases hi
  · rintro is events s i event s' ⟨hready, hall⟩ hstep
    obtain ⟨hnone, hready'⟩ | ⟨e, hsome, hready', hputs⟩ := mainStep_epochReady hready hstep
    · have hkeep : epochsOf (events ++ [event]) = epochsOf events := by
        rw [epochsOf, List.filterMap_append, List.filterMap_cons_none hnone, List.filterMap_nil, List.append_nil]
        rfl
      rw [hkeep]
      exact ⟨hready', hall⟩
    · have hnext : epochsOf (events ++ [event]) = epochsOf events ++ [e] := by
        rw [epochsOf, List.filterMap_append, List.filterMap_cons_some hsome, List.filterMap_nil]
        rfl
      rw [hnext, List.length_append]
      refine ⟨hready', fun j e' hj => ?_⟩
      obtain ⟨e'', hbefore, rfl⟩ | ⟨rfl, rfl⟩ := (getElem?_concat_iff _ e j (· = e')).mp ⟨e', hj, rfl⟩
      · exact hall j e'' hbefore
      · exact hputs

/-! ### Snapshots -/

/-- The last packet of a type. -/
def lastOfType (type : UInt8) (packets : List (List UInt8)) : Option (List UInt8) :=
  (packets.filter (isOfType type)).getLast?

lemma latest_eq_lastOfType {ps : List (ClientVar × List UInt8)} (hps : ∀ p ∈ ps, IsPacket p) (v : ClientVar) :
    latest ps v = lastOfType v.type (ps.map Prod.snd) := by
  induction ps using List.reverseRecOn with
  | nil => rfl
  | append_singleton ps p ih =>
    rw [List.forall_mem_append, List.forall_mem_singleton] at hps
    rw [latest_concat, ih hps.1, lastOfType, lastOfType, List.map_append, List.map_singleton,
      List.filter_append]
    have htype := isOfType_of_isPacket hps.2 v
    by_cases hv : p.1 = v
    · rw [decide_eq_true hv] at htype
      rw [if_pos hv.symm, List.filter_cons_of_pos htype, List.filter_nil, List.getLast?_concat]
    · rw [decide_eq_false hv] at htype
      rw [if_neg (Ne.symm hv), List.filter_cons_of_neg (by rw [htype]; exact Bool.false_ne_true),
        List.filter_nil, List.append_nil]

/-- What the client reads of some epochs that are numbered behind `n`. -/
structure OnWire (n : ℕ) (es : List CommEvent) (epochs : List Epoch) : Prop where
  length : epochs.length = es.length
  wellFormed : ∀ e ∈ epochs, e.WellFormed
  chain : (UInt16.ofNat n :: epochs.map Epoch.seq).IsChain (· ≠ ·)
  packets : (epochs.flatMap Epoch.packets).map Prod.snd = es.flatMap fun e => queuedPackets e.sent
  output : epochsWire epochs = es.flatMap CommEvent.output

lemma exists_onWire {es : List CommEvent} {n : ℕ}
    (h : ∀ i e, es[i]? = some e → ∃ epoch, PutsOnLink (UInt16.ofNat (n + i + 1)) e epoch) :
    ∃ epochs, OnWire n es epochs := by
  induction es generalizing n with
  | nil => exact ⟨[], rfl, fun e he => absurd he List.not_mem_nil, .singleton _, rfl, rfl⟩
  | cons e es ih =>
    obtain ⟨epoch, hputs⟩ := h 0 e rfl
    obtain ⟨epochs, hrest⟩ := @ih (n + 1) fun i e' hi => by
      have hnext := h (i + 1) e' hi
      rw [Nat.add_assoc n 1 i, Nat.add_comm 1 i]
      exact hnext
    have hne : UInt16.ofNat n ≠ UInt16.ofNat (n + 1) := by
      intro heq
      have hmod := congrArg UInt16.toNat heq
      rw [UInt16.toNat_ofNat', UInt16.toNat_ofNat'] at hmod
      omega
    refine ⟨epoch :: epochs, ?_, ?_, ?_, ?_, ?_⟩
    · rw [List.length_cons, List.length_cons, hrest.length]
    · rw [List.forall_mem_cons]
      exact ⟨hputs.wellFormed, hrest.wellFormed⟩
    · rw [List.map_cons, hputs.number, List.isChain_cons_cons]
      exact ⟨hne, hrest.chain⟩
    · rw [List.flatMap_cons, List.map_append, hputs.packets, hrest.packets, List.flatMap_cons]
    · rw [epochsWire, List.flatMap_cons, List.flatMap_cons, ← hputs.output, ← hrest.output]
      rfl

/-- As long as every epoch of the firmware queues its end, a client that synchronises `k` times reads exactly
the first `k` epochs. Then `OrazioClient_get` returns the last packet of each type that the firmware has queued
in them, and the packets of each epoch carry its number. -/
theorem sync_takes_snapshots [LawfulFloatBytes F] {eeprom : Nat → UInt8} {pins : π}
    (hstores : StoresHeaders eeprom) {s₀ s : MainState F π} {inputs : List MainInput} {events : List MainEvent}
    (hboot : boot eeprom pins = .ok s₀)
    (hrun : StepMachine.run MainState.mainStep s₀ inputs = .ok (events, s))
    (hends : ∀ e ∈ epochsOf events, EndsEpoch e) (cl₀ : OrazioClient F) {k : ℕ}
    (hk : k ≤ (epochsOf events).length) :
    (∃ written cl, OrazioClient_sync ((epochsOf events).flatMap CommEvent.output) cl₀.init k =
        .ok (some (written, cl, ((epochsOf events).drop k).flatMap CommEvent.output)) ∧
      ∀ v : ClientVar, OrazioClient_get v.type cl = .ok (.success,
        (lastOfType v.type (((epochsOf events).take k).flatMap fun e => queuedPackets e.sent)).getD
          (v.bytes cl₀.init.packets))) ∧
      ∀ i e, (epochsOf events)[i]? = some e → ∀ packet ∈ queuedPackets e.sent,
        seqOf packet = UInt16.ofNat (i + 1) := by
  obtain ⟨-, hputs⟩ := mainRun_epochs hstores hboot hrun
  generalize epochsOf events = es at hends hk hputs ⊢
  have hall : ∀ i e, es[i]? = some e → ∃ epoch, PutsOnLink (UInt16.ofNat (i + 1)) e epoch :=
    fun i e hi => hputs i e hi (hends e (List.mem_of_getElem? hi))
  constructor
  · obtain ⟨epochs, hwire⟩ : ∃ epochs, OnWire 0 (es.take k) epochs := by
      apply exists_onWire
      intro i e hi
      rw [List.getElem?_take] at hi
      split at hi
      · rw [Nat.zero_add]
        exact hall i e hi
      · cases hi
    obtain ⟨written, cl, hsync, hreads⟩ := sync_epochs (init_receiving cl₀) hwire.wellFormed hwire.chain
      ((es.drop k).flatMap CommEvent.output)
    rw [hwire.length, List.length_take_of_le hk, hwire.output, ← List.flatMap_append,
      List.take_append_drop] at hsync
    refine ⟨written, cl, hsync, fun v => ?_⟩
    have hpackets : ∀ p ∈ epochs.flatMap Epoch.packets, IsPacket p := by
      intro p hp
      obtain ⟨epoch, hepoch, hp⟩ := List.mem_flatMap.mp hp
      exact (hwire.wellFormed epoch hepoch).isPacket p hp
    have hread : packetsIn (F := F) (epochsWire epochs) = epochs.flatMap Epoch.packets := by
      have hwires : epochsWire epochs = wire (epochs.flatMap Epoch.packets) := List.flatMap_assoc.symm
      rw [hwires]
      exact (packetsIn_wire hpackets).1
    rw [get_eq hreads.receiving, hreads.bytes, hread, latest_eq_lastOfType hpackets, hwire.packets]
  · intro i e hi packet hpacket
    obtain ⟨epoch, hputs⟩ := hall i e hi
    exact hputs.numbered packet hpacket

/-- A firmware with an erased EEPROM, up to the end of its first epoch. -/
theorem sync_takes_snapshots_first :
    ∃ (s₀ s : MainState BitFloat Pins) (events : List MainEvent),
      boot (fun _ => 0xFF) Pins.zero = .ok s₀ ∧
      StepMachine.run MainState.mainStep s₀ (commInputs ++ [.step ⟨0, [], 0⟩]) = .ok (events, s) ∧
      (epochsOf events).length = 1 ∧
      (∃ written cl, OrazioClient_sync ((epochsOf events).flatMap CommEvent.output) blankClient.init 1 =
          .ok (some (written, cl, ((epochsOf events).drop 1).flatMap CommEvent.output)) ∧
        ∀ v : ClientVar, OrazioClient_get v.type cl = .ok (.success,
          (lastOfType v.type (((epochsOf events).take 1).flatMap fun e => queuedPackets e.sent)).getD
            (v.bytes blankClient.init.packets))) ∧
      ∀ i e, (epochsOf events)[i]? = some e → ∀ packet ∈ queuedPackets e.sent,
        seqOf packet = UInt16.ofNat (i + 1) := by
  obtain ⟨s₀, hboot, ⟨events, s⟩, hrun, hone, hends⟩ :
      ∃ s₀, boot (F := BitFloat) (fun _ => 0xFF) Pins.zero = .ok s₀ ∧
        ∃ r, StepMachine.run MainState.mainStep s₀ (commInputs ++ [.step ⟨0, [], 0⟩]) = .ok r ∧
          (epochsOf r.1).length = 1 ∧ ∀ e ∈ epochsOf r.1, EndsEpoch e := by
    decide +kernel
  have hstores : StoresHeaders fun _ => 0xFF := fun hversion => absurd hversion (by decide)
  exact ⟨s₀, s, events, hboot, hrun, hone,
    sync_takes_snapshots hstores hboot hrun hends blankClient (Nat.le_of_eq hone.symm)⟩

end Orazio.Proofs
