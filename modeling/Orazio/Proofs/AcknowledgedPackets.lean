import Orazio.Proofs.FirmwareReception

/-!
# Acknowledged packets

`PacketHandler_rxByte` answers `SyncChecksum` for a complete frame whatever `_onReceive` has done
with it. The packet is executed by the next processing pass exactly when it has found less than eight
packets pending.
-/

namespace Orazio.Proofs

variable {α τ : Type} {cfg : Fin PACKET_TYPE_MAX → Option (Install α)}

/-! ### What the claims about a run are -/

/-- The packet that an answer acknowledges: its action and its bytes. -/
def acknowledged (cfg : Fin PACKET_TYPE_MAX → Option (Install α)) (e : RxEvent (Fin PACKET_TYPE_MAX)) :
    List (Work α) :=
  if e.status = .syncChecksum then
    e.received.toList.map fun r => (actionOf cfg r.op, r.bytes (r.mem (r.packet + 1)).toNat)
  else []

/-- Every processing pass executes the actions of the packets acknowledged since the last one. -/
def NoneLost (cfg : Fin PACKET_TYPE_MAX → Option (Install α)) (acked : List (Work α)) :
    List (DeferredEvent α) → Prop
  | [] => True
  | .rxByte e :: events => NoneLost cfg (acked ++ acknowledged cfg e) events
  | .processPendingPackets executed :: events =>
    executed.map Executed.work = acked.filter (fun w => w.1.isSome) ∧ NoneLost cfg [] events

instance decidableNoneLost [DecidableEq α] (acked : List (Work α)) (events : List (DeferredEvent α)) :
    Decidable (NoneLost cfg acked events) :=
  match events with
  | [] => .isTrue trivial
  | .rxByte e :: events => decidableNoneLost (acked ++ acknowledged cfg e) events
  | .processPendingPackets _ :: events =>
    have := decidableNoneLost [] events
    inferInstanceAs (Decidable (_ ∧ _))

/-- A byte that ends a frame makes its packet pending, or the answer is negative. -/
def Reported (s : DeferredState α τ) (_ : DeferredCall) (e : DeferredEvent α)
    (s' : DeferredState α τ) : Prop :=
  match e with
  | .rxByte e => s.handler.baseHandler.rxFn ≠ .rxAA → s'.handler.baseHandler.rxFn = .rxAA →
      s'.handler.pendingPacketsSize = s.handler.pendingPacketsSize + 1 ∨ e.status.code < 0
  | .processPendingPackets _ => True

/-- A byte that completes a frame finds room among the pending packets. -/
def HasRoom (s : DeferredState α τ) (call : DeferredCall) (_ : DeferredEvent α)
    (_ : DeferredState α τ) : Prop :=
  match call with
  | .rxByte c => s.handler.baseHandler.rxFn = .rxChecksum → c = s.handler.baseHandler.rxChecksum →
      s.handler.pendingPacketsSize < PENDING_PACKETS_MAX
  | .processPendingPackets => True

instance (s : DeferredState α τ) (call : DeferredCall) (e : DeferredEvent α) (s' : DeferredState α τ) :
    Decidable (HasRoom s call e s') := by
  cases call with
  | rxByte c => exact inferInstanceAs (Decidable (_ → _ → _))
  | processPendingPackets => exact .isTrue trivial

/-! ### Steps -/

/-- The function of the receiver in a phase. -/
def Phase.rxFn {ρ : Type} : Phase ρ → RxFn
  | .hunt => .rxAA
  | .sawAA => .rx55
  | .sawSync => .rxType
  | .sawType _ => .rxSize
  | .body _ _ _ => .rxPayload
  | .complete _ _ _ => .rxChecksum

lemma Rep.rxFn {ρ σ : Type} {ops : ρ → PacketOperations σ} {h : PacketHandler ρ} {w : World σ}
    {ph : Phase ρ} (hrep : Rep ops h w ph) : h.rxFn = ph.rxFn := by
  cases ph with
  | hunt => exact hrep
  | sawAA => exact hrep
  | _ => exact hrep.1

/-- The decoder goes back to hunting with a complete frame or with a negative answer. -/
lemma next_rxAA {ρ σ : Type} (ops : ρ → PacketOperations σ)
    (operations : Fin PACKET_TYPE_MAX → Option ρ) (buffer : Option Addr) (ph : Phase ρ) (c : UInt8)
    (h : (ph.next ops operations buffer c).2.rxFn = .rxAA) :
    (ph.next ops operations buffer c).1 = .syncChecksum ∨
      (ph.next ops operations buffer c).1.code < 0 := by
  cases ph with
  | hunt =>
    by_cases hc : c = 0xAA
    · simp [Phase.next, Phase.rxFn, hc] at h
    · simp [Phase.next, PacketStatus.code, hc]
  | sawAA =>
    by_cases hc : c = 0x55
    · simp [Phase.next, Phase.rxFn, hc] at h
    · simp [Phase.next, PacketStatus.code, hc]
  | sawSync =>
    by_cases hc : c.toNat < PACKET_TYPE_MAX
    · cases hop : operations ⟨c.toNat, hc⟩ with
      | none => simp [Phase.next, PacketStatus.code, hc, hop]
      | some op => simp [Phase.next, Phase.rxFn, hc, hop] at h
    · simp [Phase.next, PacketStatus.code, hc]
  | sawType op =>
    by_cases hc : (ops op).size = c
    · cases buffer with
      | none => simp [Phase.next, PacketStatus.code, hc]
      | some packet => simp [Phase.next, Phase.rxFn, hc] at h
    · simp [Phase.next, PacketStatus.code, hc]
  | body op packet got =>
    by_cases hc : got.length + 1 = (ops op).size.toNat <;> simp [Phase.next, Phase.rxFn, hc] at h
  | complete op packet got =>
    by_cases hc : c = Bytes.xorSum got <;> simp [Phase.next, PacketStatus.code, hc]

variable {s s' : DeferredState α τ} {ph : Phase (Fin PACKET_TYPE_MAX)} {ps : List Pending}

/-- The packet of a complete frame as `on_receive_fn` finds it. -/
lemma acknowledged_complete {op : Fin PACKET_TYPE_MAX} {packet : Addr} {got : List UInt8}
    (hrep : DeferredRep cfg s (.complete op packet got) ps) :
    acknowledged cfg ⟨.syncChecksum, (Phase.complete op packet got).delivery
        (DeferredFields.operations s.handler.packetInfos) ⟨s.mem, s.handler.toDeferredFields⟩
        (Bytes.xorSum got)⟩ = [(actionOf cfg op, got)] := by
  obtain ⟨-, hold, hlen⟩ := hrep.rep
  obtain ⟨t, ht, -⟩ := hold.installed
  obtain ⟨rfl, i, -, hinfo⟩ := hrep.installed ht
  have hfn : (DeferredFields.operations s.handler.packetInfos op).onReceiveFn =
      some DeferredFields.onReceive := if_pos hinfo.callbacks
  obtain ⟨payload, hgot⟩ := hold.header
  have hread := hold.stored
  have hsize : s.mem (packet + 1) = (DeferredFields.operations s.handler.packetInfos op).size := by
    rw [hgot, List.length_cons, Bytes.read_succ'] at hread
    exact Bytes.head_of_read_eq_cons (List.cons.inj hread).2
  rw [Phase.delivery, if_pos rfl, hfn, acknowledged, if_pos rfl]
  simp only [Option.map_some, Option.toList_some, List.map_cons, List.map_nil, hsize]
  rw [← hlen]
  exact congrArg (fun bytes => [(actionOf cfg op, bytes)]) hread

/-- A byte is acknowledged as the decoder says, and what does not find room is not reported. -/
lemma deferredStep_rxByte (hvalid : ValidInstalls cfg) (act : DeferredState.Act α τ)
    (hrep : DeferredRep cfg s ph ps) (c : UInt8) :
    ∃ e s' ph', deferredStep act s (.rxByte c) = .ok (.rxByte e, s') ∧
      DeferredRep cfg s' ph' (ps ++ ph.queuedBy ps.length c) ∧
      (Reported s (.rxByte c) (.rxByte e) s' ↔ HasRoom s (.rxByte c) (.rxByte e) s') ∧
      (HasRoom s (.rxByte c) (.rxByte e) s' →
        (ph.queuedBy ps.length c).map (Pending.work cfg) = acknowledged cfg e) := by
  obtain ⟨buffer, s', hrx, hrep', hops, -, -⟩ := hrep.rxByte hvalid c
  refine ⟨_, s', _, by rw [deferredStep, hrx], hrep', ?_⟩
  have hfn := Rep.rxFn hrep.rep
  have hfn' := Rep.rxFn hrep'.rep
  have hsize := hrep.size
  have hsize' := hrep'.size
  by_cases hsync : (ph.next (DeferredFields.operations s.handler.packetInfos)
      s.handler.baseHandler.operations buffer c).1 = .syncChecksum
  · obtain ⟨op, packet, got, rfl, rfl⟩ := (next_syncChecksum _ _ buffer ph c).mp hsync
    have hack := acknowledged_complete hrep
    rw [Phase.next, if_pos rfl] at hfn' ⊢
    obtain ⟨-, hold, -⟩ := hrep.rep
    have hroom : HasRoom s (.rxByte (Bytes.xorSum got)) (.rxByte ⟨.syncChecksum,
        (Phase.complete op packet got).delivery (DeferredFields.operations s.handler.packetInfos)
          ⟨s.mem, s.handler.toDeferredFields⟩ (Bytes.xorSum got)⟩) s' ↔ ps.length < 8 := by
      simp only [HasRoom, hfn, Phase.rxFn, hold.checksum, true_imp_iff, hsize, PENDING_PACKETS_MAX]
      omega
    rw [hroom, hack]
    constructor
    · simp only [Reported, hfn, hfn', Phase.rxFn, hsize, hsize', PacketStatus.code, Phase.queuedBy,
        true_and, ne_eq, reduceCtorEq, not_false_eq_true, true_imp_iff]
      by_cases hlt : ps.length < 8
      · simp [hlt]
      · have hne : (ps.length : Int) ≠ ps.length + 1 := by omega
        simp [hlt, hne]
    · intro hlt
      simp [Phase.queuedBy, hlt, Pending.work]
  · have hnone : ¬∃ op packet got, ph = .complete op packet got ∧ c = Bytes.xorSum got :=
      fun h => hsync ((next_syncChecksum _ _ buffer ph c).mpr h)
    have hqueue : ph.queuedBy ps.length c = [] := by
      cases ph with
      | complete op packet got =>
        rw [Phase.queuedBy, if_neg]
        intro h
        exact hnone ⟨op, packet, got, rfl, h.1⟩
      | _ => rfl
    refine ⟨iff_of_true ?_ ?_, ?_⟩
    · intro _ hAA
      rw [hfn'] at hAA
      exact .inr ((next_rxAA _ _ buffer ph c hAA).resolve_left hsync)
    · intro hcheck hc
      rw [hfn] at hcheck
      cases ph with
      | complete op packet got =>
        obtain ⟨-, hold, -⟩ := hrep.rep
        rw [hold.checksum] at hc
        exact absurd ⟨op, packet, got, rfl, hc⟩ hnone
      | _ => cases hcheck
    · intro _
      rw [hqueue, acknowledged, if_neg hsync]
      rfl

/-- The actions of a queue that has been processed. -/
lemma runActions_executed {act : DeferredState.Act α τ} {mem : Addr → UInt8}
    (hs : ∀ p ∈ ps, Stored cfg mem p) {x x' : TxFields × τ} {executed : List (Executed α)}
    (hrun : runActions act cfg mem ps x = .ok (executed, x')) :
    executed.map Executed.work = (ps.map (Pending.work cfg)).filter fun w => w.1.isSome := by
  induction ps generalizing x executed with
  | nil =>
    cases hrun
    rfl
  | cons p ps ih =>
    obtain ⟨first, rest, y, hfirst, hrest, rfl⟩ := runActions_cons_eq_ok hrun
    rw [List.map_append, ih (fun q hq => hs q (List.mem_cons_of_mem p hq)) hrest, List.map_cons]
    obtain ⟨hnone, rfl, -⟩ | ⟨action, haction, rfl, -⟩ := runAction_eq_ok hfirst
    · rw [List.filter_cons_of_neg (by simp [Pending.work, hnone])]
      rfl
    · rw [List.filter_cons_of_pos (by simp [Pending.work, haction])]
      simp [Executed.work, seenBytes_stored (hs p List.mem_cons_self), Pending.work, haction]

lemma deferredStep_process {act : DeferredState.Act α τ} {e : DeferredEvent α}
    (hvalid : ValidInstalls cfg) (hrep : DeferredRep cfg s ph ps)
    (hstep : deferredStep act s .processPendingPackets = .ok (e, s')) :
    ∃ executed, e = .processPendingPackets executed ∧ DeferredRep cfg s' ph [] ∧
      executed.map Executed.work = (ps.map (Pending.work cfg)).filter fun w => w.1.isSome := by
  have hprocess := hrep.process hvalid act
  rw [deferredStep] at hstep
  cases hrun : runActions act cfg s.mem ps (s.handler.baseHandler.toTxFields, s.env) with
  | error f =>
    rw [hrun] at hprocess
    simp only at hprocess
    rw [hprocess] at hstep
    cases hstep
  | ok r =>
    obtain ⟨executed, x⟩ := r
    rw [hrun] at hprocess
    obtain ⟨t, hprocess, hrep', -⟩ := hprocess
    rw [hprocess] at hstep
    cases hstep
    exact ⟨executed, rfl, hrep', runActions_executed hrep.queued.stored hrun⟩

/-! ### Runs -/

/-- Along a run nothing acknowledged is lost and every refusal is reported, exactly when every
complete frame finds room. -/
lemma run_noneLost_iff {act : DeferredState.Act α τ} (hvalid : ValidInstalls cfg)
    (hrep : DeferredRep cfg s ph ps) {calls : List DeferredCall} {events : List (DeferredEvent α)}
    (hrun : StepMachine.run (deferredStep act) s calls = .ok (events, s')) :
    (NoneLost cfg (ps.map (Pending.work cfg)) events ∧
        StepMachine.Always (deferredStep act) Reported s calls) ↔
      StepMachine.Always (deferredStep act) HasRoom s calls := by
  induction calls generalizing s ph ps events with
  | nil =>
    cases hrun
    exact iff_of_true ⟨trivial, trivial⟩ trivial
  | cons call calls ih =>
    obtain ⟨e, t, events', hstep, hrest, rfl⟩ := StepMachine.run_cons_eq_ok.mp hrun
    rw [StepMachine.always_cons hstep, StepMachine.always_cons hstep]
    cases call with
    | rxByte c =>
      obtain ⟨e', t', ph', hstep', hrep', hiff, hwork⟩ := deferredStep_rxByte hvalid act hrep c
      rw [hstep'] at hstep
      cases hstep
      rw [← ih hrep' hrest, ← hiff, NoneLost, List.map_append]
      constructor
      · rintro ⟨hlost, hreported, halways⟩
        rw [← hwork (hiff.mp hreported)] at hlost
        exact ⟨hreported, hlost, halways⟩
      · rintro ⟨hreported, hlost, halways⟩
        rw [hwork (hiff.mp hreported)] at hlost
        exact ⟨hlost, hreported, halways⟩
    | processPendingPackets =>
      obtain ⟨executed, rfl, hrep', hexecuted⟩ := deferredStep_process hvalid hrep hstep
      rw [← ih hrep' hrest, NoneLost]
      simp only [hexecuted, true_and, List.map_nil, Reported, HasRoom]

/-- Over every interleaving of received bytes and processing passes, every acknowledged packet has its
action executed by the next pass and every other frame is answered with a negative status, if and
only if no complete frame finds eight packets pending. -/
theorem acknowledged_executed_iff (act : DeferredState.Act α τ) (h₀ h : DeferredPacketHandler α)
    (installs : List (Install α)) (hsetup : ValidSetup installs)
    (hinstall : installDeferred h₀.initializeDeferred installs = .ok h) (mem : Addr → UInt8) (env : τ)
    (calls : List DeferredCall) (events : List (DeferredEvent α)) (s : DeferredState α τ)
    (hrun : StepMachine.run (deferredStep act) ⟨h, mem, env⟩ calls = .ok (events, s)) :
    (NoneLost (installedFor installs) [] events ∧
        StepMachine.Always (deferredStep act) Reported ⟨h, mem, env⟩ calls) ↔
      StepMachine.Always (deferredStep act) HasRoom ⟨h, mem, env⟩ calls := by
  obtain ⟨h', hinstall', hinst⟩ := installDeferred_installed
    (by simpa using hsetup) (initializeDeferred_installed h₀)
  rw [hinstall] at hinstall'
  cases hinstall'
  rw [List.nil_append] at hinst
  exact run_noneLost_iff hsetup.validInstalls (hinst.deferredRep mem env) hrun

/-- A frame of each of the first types that the firmware installs, twice. -/
def receivedFrames (n : Nat) : List DeferredCall :=
  ((orazioInstalls ++ orazioInstalls).take n).flatMap fun i =>
    (frame (i.type :: i.size :: List.replicate (i.size.toNat - 2) 0)).map .rxByte

/-- An action that counts. -/
def countAction : DeferredState.Act OrazioAction Nat :=
  fun _ _ x => .ok (x.1, x.2 + 1)

/-- Eight frames and a processing pass. -/
theorem acknowledged_executed_iff_eight :
    ∃ (h : DeferredPacketHandler OrazioAction) (s : DeferredState OrazioAction Nat)
      (events : List (DeferredEvent OrazioAction)),
      installDeferred staticHandler.initializeDeferred orazioInstalls = .ok h ∧
      StepMachine.run (deferredStep countAction) ⟨h, fun _ => 0, 0⟩
        (receivedFrames 8 ++ [.processPendingPackets]) = .ok (events, s) ∧ s.env = 8 ∧
      NoneLost orazioConfig [] events := by
  have hcheck : ∃ h, installDeferred staticHandler.initializeDeferred orazioInstalls = .ok h ∧
      ∃ r, StepMachine.run (deferredStep countAction) ⟨h, fun _ => 0, 0⟩
          (receivedFrames 8 ++ [.processPendingPackets]) = .ok r ∧ r.2.env = 8 ∧
        StepMachine.Always (deferredStep countAction) HasRoom ⟨h, fun _ => 0, 0⟩
          (receivedFrames 8 ++ [.processPendingPackets]) := by
    decide +kernel
  obtain ⟨h, hinstall, ⟨events, s⟩, hrun, henv, hroom⟩ := hcheck
  exact ⟨h, s, events, hinstall, hrun, henv,
    ((acknowledged_executed_iff countAction staticHandler h orazioInstalls orazioInstalls_validSetup
      hinstall (fun _ => 0) 0 _ events s hrun).mpr hroom).1⟩

/-- Nine frames and a processing pass: all are acknowledged, eight are executed. -/
theorem ninth_packet_lost :
    ∃ (h : DeferredPacketHandler OrazioAction) (s : DeferredState OrazioAction Nat)
      (events : List (DeferredEvent OrazioAction)),
      installDeferred staticHandler.initializeDeferred orazioInstalls = .ok h ∧
      StepMachine.run (deferredStep countAction) ⟨h, fun _ => 0, 0⟩
        (receivedFrames 9 ++ [.processPendingPackets]) = .ok (events, s) ∧
      (deferredRx events).countP (fun e => e.status = .syncChecksum) = 9 ∧ s.env = 8 ∧
      ¬NoneLost orazioConfig [] events := by
  have hcheck : ∃ h, installDeferred staticHandler.initializeDeferred orazioInstalls = .ok h ∧
      ∃ r, StepMachine.run (deferredStep countAction) ⟨h, fun _ => 0, 0⟩
          (receivedFrames 9 ++ [.processPendingPackets]) = .ok r ∧
        (deferredRx r.1).countP (fun e => e.status = .syncChecksum) = 9 ∧ r.2.env = 8 ∧
        ¬NoneLost orazioConfig [] r.1 := by
    decide +kernel
  obtain ⟨h, hinstall, ⟨events, s⟩, hrun, hcount, henv, hlost⟩ := hcheck
  exact ⟨h, s, events, hinstall, hrun, hcount, henv, hlost⟩

end Orazio.Proofs
