import Mathlib.Data.List.Pairwise
import Orazio.Proofs.DeferredProcessing

/-!
# Runs of the deferred packet handler

A handler with installed packet types is run over received bytes and processing passes in any
order.
-/

namespace Orazio.Proofs

open RingBuffer

variable {α τ : Type}

/-! ### Installing -/

/-- What has been installed for a type. -/
def installedFor (installs : List (Install α)) (t : Fin PACKET_TYPE_MAX) : Option (Install α) :=
  installs.find? fun i => i.type.toNat = t

structure ValidInstall (i : Install α) : Prop where
  type : i.type.toNat < PACKET_TYPE_MAX
  size : 4 ≤ i.size.toNat ∧ i.size.toNat ≤ 254
  buffers : 1 ≤ i.numBuffers ∧ i.numBuffers ≤ PACKETS_PER_TYPE_MAX

/-- Distinct types with buffers that do not overlap. -/
def Separate (i i' : Install α) : Prop :=
  i.type ≠ i'.type ∧ (i.bufferEnd ≤ i'.buffer ∨ i'.bufferEnd ≤ i.buffer)

structure ValidSetup (installs : List (Install α)) : Prop where
  each : ∀ i ∈ installs, ValidInstall i
  separate : installs.Pairwise Separate

/-- The calls of `DeferredPacketHandler_installPacket`, one after the other. -/
def installDeferred (h : DeferredPacketHandler α) :
    List (Install α) → Except Fault (DeferredPacketHandler α)
  | [] => .ok h
  | i :: installs =>
    match h.installPacket i.type i.size i.buffer i.numBuffers i.action with
    | .error e => .error e
    | .ok (_, h) => installDeferred h installs

lemma installedFor_mem {installs : List (Install α)} {t : Fin PACKET_TYPE_MAX} {i : Install α}
    (h : installedFor installs t = some i) : i ∈ installs ∧ i.type.toNat = t := by
  refine ⟨List.mem_of_find?_eq_some h, ?_⟩
  simpa using List.find?_some h

instance : Std.Symm (@Separate α) :=
  ⟨fun _ _ h => ⟨Ne.symm h.1, h.2.symm⟩⟩

lemma ValidSetup.validInstalls {installs : List (Install α)} (h : ValidSetup installs) :
    ValidInstalls (installedFor installs) := by
  refine ⟨?_, ?_, ?_⟩
  · intro t i hi
    exact (h.each i (installedFor_mem hi).1).size
  · intro t i hi
    exact (h.each i (installedFor_mem hi).1).buffers
  · intro t t' i i' hne hi hi'
    obtain ⟨hmem, ht⟩ := installedFor_mem hi
    obtain ⟨hmem', ht'⟩ := installedFor_mem hi'
    have hdistinct : i ≠ i' := by
      intro heq
      apply hne
      rw [heq, ht'] at ht
      exact Fin.ext ht.symm
    exact (h.separate.forall hmem hmem' hdistinct).2

lemma installedFor_concat_self {installs : List (Install α)} {i : Install α}
    (hnew : ∀ j ∈ installs, j.type ≠ i.type) {t : Fin PACKET_TYPE_MAX} (ht : i.type.toNat = t) :
    installedFor installs t = none ∧ installedFor (installs ++ [i]) t = some i := by
  have hnone : installedFor installs t = none := by
    rw [installedFor, List.find?_eq_none]
    intro j hj
    have hne := hnew j hj
    simp only [decide_eq_true_eq]
    intro heq
    exact hne (UInt8.toNat_inj.mp (heq.trans ht.symm))
  refine ⟨hnone, ?_⟩
  rw [installedFor] at hnone ⊢
  rw [List.find?_append, hnone]
  simp [ht]

lemma installedFor_concat_of_ne (installs : List (Install α)) {i : Install α}
    {t : Fin PACKET_TYPE_MAX} (ht : i.type.toNat ≠ t) :
    installedFor (installs ++ [i]) t = installedFor installs t := by
  simp [installedFor, List.find?_append, ht]

/-- The loop fills in one pointer for each buffer as long as they fit. -/
lemma fillBuffers_room (info : DeferredPacketOps α) (size : UInt8) (b : Addr) (j : Int) (n : ℕ)
    (hn : j + n ≤ PACKETS_PER_TYPE_MAX) : DeferredPacketHandler.fillBuffers info size b j n = .ok
      { info with packetBuffers := fun k =>
        if j ≤ k ∧ k < j + n then some (b + (k - j).toNat * size.toNat) else info.packetBuffers k } := by
  induction n generalizing info b j with
  | zero =>
    have hnone : ∀ k, ¬(j ≤ k ∧ k < j + (0 : ℕ)) := fun k => by omega
    simp only [DeferredPacketHandler.fillBuffers, if_neg (hnone _)]
  | succ n ih =>
    have hroom : j < PACKETS_PER_TYPE_MAX := by omega
    have hrest : j + 1 + (n : Int) ≤ PACKETS_PER_TYPE_MAX := by omega
    rw [DeferredPacketHandler.fillBuffers, if_pos hroom, ih _ _ _ hrest]
    congr 2
    funext k
    simp only
    by_cases hk : k = j
    · subst hk
      rw [if_neg (by omega), if_pos (by omega), Function.update_self, Int.sub_self]
      simp
    · rw [Function.update_of_ne hk]
      by_cases hin : j + 1 ≤ k ∧ k < j + 1 + n
      · have hnat : (k - j).toNat = (k - (j + 1)).toNat + 1 := by omega
        rw [if_pos hin, if_pos (by omega), hnat, Nat.succ_mul]
        congr 1
        exact (Nat.add_assoc _ _ _).trans (congrArg (b + ·) (Nat.add_comm _ _))
      · rw [if_neg hin, if_neg (by omega)]

/-- Buffers that do not fit are written beyond the array. -/
lemma fillBuffers_beyond (info : DeferredPacketOps α) (size : UInt8) (b : Addr) (j : Int) (n : ℕ)
    (hj : j ≤ PACKETS_PER_TYPE_MAX) (hn : PACKETS_PER_TYPE_MAX < j + n) :
    DeferredPacketHandler.fillBuffers info size b j n = .error .outOfBounds := by
  induction n generalizing info b j with
  | zero => omega
  | succ n ih =>
    rw [DeferredPacketHandler.fillBuffers]
    by_cases hroom : j < PACKETS_PER_TYPE_MAX
    · rw [if_pos hroom]
      exact ih _ _ _ (by omega) (by omega)
    · rw [if_neg hroom]

lemma fillBuffers_eq {i : Install α} (hroom : i.numBuffers ≤ PACKETS_PER_TYPE_MAX)
    (info : DeferredPacketOps α) (hnone : info.packetBuffers = fun _ => none) :
    DeferredPacketHandler.fillBuffers info i.size i.buffer 0 i.numBuffers.toNat =
      .ok { info with packetBuffers := i.cells } := by
  rw [fillBuffers_room info i.size i.buffer 0 i.numBuffers.toNat (by
    have : (0 : Int) ≤ PACKETS_PER_TYPE_MAX := by decide
    omega)]
  congr 2
  funext k
  have hbounds : (0 ≤ k ∧ k < 0 + (i.numBuffers.toNat : Int)) ↔ 0 ≤ k ∧ k < i.numBuffers := by omega
  rw [hnone, Install.cells, Int.sub_zero]
  simp only [hbounds]

/-- The record that a call enters for its type. -/
def Install.record (i : Install α) : DeferredPacketOps α :=
  { DeferredPacketOps.fresh i.type i.size i.numBuffers i.action with packetBuffers := i.cells }

/-- The call of `DeferredPacketHandler_installPacket`. -/
def installCall (h : DeferredPacketHandler α) (i : Install α) :
    Except Fault (PacketStatus × DeferredPacketHandler α) :=
  h.installPacket i.type i.size i.buffer i.numBuffers i.action

/-- The handler with another record of a type. -/
def enterRecord (h : DeferredPacketHandler α) (t : Fin PACKET_TYPE_MAX) (i : Install α) :
    DeferredPacketHandler α :=
  { h with packetInfos := Function.update h.packetInfos t i.record }

section

variable {h : DeferredPacketHandler α} {i : Install α}

lemma enterRecord_self (t : Fin PACKET_TYPE_MAX) : (enterRecord h t i).packetInfos t = i.record :=
  Function.update_self _ _ _

/-- The record is entered first, then the packet handler decides on the result. -/
lemma installCall_eq {t : Fin PACKET_TYPE_MAX} (ht : i.type.toNat = t)
    (hroom : i.numBuffers ≤ PACKETS_PER_TYPE_MAX) :
    installCall h i = .ok
      ((h.baseHandler.installPacket (DeferredFields.operations (enterRecord h t i).packetInfos) t).1,
        { enterRecord h t i with baseHandler :=
          (h.baseHandler.installPacket (DeferredFields.operations (enterRecord h t i).packetInfos) t).2 }) := by
  have hlt : i.type.toNat < PACKET_TYPE_MAX := by
    rw [ht]
    exact t.isLt
  obtain rfl : (⟨i.type.toNat, hlt⟩ : Fin PACKET_TYPE_MAX) = t := Fin.ext ht
  rw [installCall, DeferredPacketHandler.installPacket, dif_pos hlt,
    fillBuffers_eq hroom (.fresh i.type i.size i.numBuffers i.action) rfl]
  rfl

lemma enterRecord_type {t : Fin PACKET_TYPE_MAX} (ht : i.type.toNat = t) :
    (DeferredFields.operations (enterRecord h t i).packetInfos t).type.toNat = t := by
  rw [DeferredFields.operations, enterRecord_self]
  exact ht

lemma installCall_free {t : Fin PACKET_TYPE_MAX} (ht : i.type.toNat = t)
    (hroom : i.numBuffers ≤ PACKETS_PER_TYPE_MAX) (hfree : h.baseHandler.operations t = none) :
    installCall h i = .ok (.success, { enterRecord h t i with
      baseHandler := { h.baseHandler with
        operations := Function.update h.baseHandler.operations t (some t) } }) := by
  rw [installCall_eq ht hroom, installPacket_free (enterRecord_type ht) hfree]

end

/-- The handler after the packet types `installs` have been installed. -/
structure Installed (installs : List (Install α)) (h : DeferredPacketHandler α) : Prop where
  operations : ∀ t, h.baseHandler.operations t = (installedFor installs t).map fun _ => t
  info : ∀ t i, installedFor installs t = some i → InfoRep t i (h.packetInfos t) []
  size : h.pendingPacketsSize = 0
  rxFn : h.baseHandler.rxFn = .rxAA

lemma initializeDeferred_installed (h : DeferredPacketHandler α) :
    Installed [] h.initializeDeferred :=
  ⟨fun _ => rfl, fun _ i hi => (Option.some_ne_none i hi.symm).elim, rfl, rfl⟩

lemma installPacket_installed {installs : List (Install α)} {h : DeferredPacketHandler α}
    (hinst : Installed installs h) {i : Install α} (hvalid : ValidInstall i)
    (hnew : ∀ j ∈ installs, j.type ≠ i.type) :
    ∃ h', h.installPacket i.type i.size i.buffer i.numBuffers i.action = .ok (.success, h') ∧
      Installed (installs ++ [i]) h' := by
  let t : Fin PACKET_TYPE_MAX := ⟨i.type.toNat, hvalid.type⟩
  obtain ⟨hfree, hself⟩ := installedFor_concat_self hnew (t := t) rfl
  have hnone : h.baseHandler.operations t = none := by
    rw [hinst.operations, hfree]
    rfl
  have hother : ∀ t', t' ≠ t → installedFor (installs ++ [i]) t' = installedFor installs t' := by
    intro t' ht
    exact installedFor_concat_of_ne installs fun heq => ht (Fin.ext heq.symm)
  refine ⟨_, installCall_free rfl hvalid.buffers.2 hnone, ?_, ?_, hinst.size, hinst.rxFn⟩
  · intro t'
    by_cases ht : t' = t
    · subst ht
      rw [hself]
      exact Function.update_self _ _ _
    · rw [hother t' ht, ← hinst.operations]
      exact Function.update_of_ne ht _ _
  · intro t' j hj
    by_cases ht : t' = t
    · subst ht
      rw [hself] at hj
      cases hj
      have hrecord : (enterRecord h t i).packetInfos t = i.record := enterRecord_self t
      rw [hrecord]
      refine ⟨rfl, rfl, rfl, rfl, rfl, rfl, Holds.empty _ ?_⟩
      have := hvalid.buffers.1
      omega
    · rw [hother t' ht] at hj
      have hkept : (enterRecord h t i).packetInfos t' = h.packetInfos t' := Function.update_of_ne ht _ _
      rw [hkept]
      exact hinst.info t' j hj

lemma installDeferred_installed {before installs : List (Install α)}
    (hsetup : ValidSetup (before ++ installs)) {h : DeferredPacketHandler α}
    (hinst : Installed before h) :
    ∃ h', installDeferred h installs = .ok h' ∧ Installed (before ++ installs) h' := by
  induction installs generalizing before h with
  | nil => exact ⟨h, rfl, by simpa using hinst⟩
  | cons i installs ih =>
    have hpair := List.pairwise_append.mp hsetup.separate
    obtain ⟨h₁, hinstall, hinst₁⟩ := installPacket_installed hinst
      (hsetup.each i (by simp)) (fun j hj => (hpair.2.2 j hj i (by simp)).1)
    obtain ⟨h', hrest, hinst'⟩ := ih (by simpa using hsetup) hinst₁
    refine ⟨h', ?_, by simpa using hinst'⟩
    rw [installDeferred, hinstall]
    exact hrest

lemma Installed.deferredRep {installs : List (Install α)} {h : DeferredPacketHandler α}
    (hinst : Installed installs h) (mem : Addr → UInt8) (env : τ) :
    DeferredRep (installedFor installs) (⟨h, mem, env⟩ : DeferredState α τ) .hunt [] where
  operations := hinst.operations
  queued := ⟨hinst.info, by simp, by simp⟩
  size := hinst.size
  max := by simp
  rep := hinst.rxFn
  slot := fun _ _ hbuffer => by cases hbuffer

/-! ### Runs -/

inductive DeferredCall
  | rxByte (c : UInt8)
  | processPendingPackets

inductive DeferredEvent (α : Type)
  | rxByte (e : RxEvent (Fin PACKET_TYPE_MAX))
  | processPendingPackets (executed : List (Executed α))

def deferredStep (act : DeferredState.Act α τ) (s : DeferredState α τ) :
    DeferredCall → Except Fault (DeferredEvent α × DeferredState α τ)
  | .rxByte c =>
    match s.rxByte c with
    | .error e => .error e
    | .ok (status, received, s) => .ok (.rxByte ⟨status, received⟩, s)
  | .processPendingPackets =>
    match s.processPendingPackets act with
    | .error e => .error e
    | .ok (executed, s) => .ok (.processPendingPackets executed, s)

/-- The bytes passed to `PacketHandler_rxByte`. -/
def deferredStream (calls : List DeferredCall) : List UInt8 :=
  calls.flatMap fun call =>
    match call with
    | .rxByte c => [c]
    | .processPendingPackets => []

/-- What `PacketHandler_rxByte` answered. -/
def deferredRx (events : List (DeferredEvent α)) : List (RxEvent (Fin PACKET_TYPE_MAX)) :=
  events.flatMap fun event =>
    match event with
    | .rxByte e => [e]
    | .processPendingPackets _ => []

/-- The deferred actions executed. -/
def deferredExecuted (events : List (DeferredEvent α)) : List (Executed α) :=
  events.flatMap fun event =>
    match event with
    | .rxByte _ => []
    | .processPendingPackets executed => executed

/-- The bytes of the packet an action sees, as many as the size in its header says. -/
def seenBytes (e : Executed α) : List UInt8 :=
  e.bytes (e.mem (e.packet + 1)).toNat

variable {cfg : Fin PACKET_TYPE_MAX → Option (Install α)} {act : DeferredState.Act α τ}

/-- The action of a type together with the bytes of a packet. -/
abbrev Work (α : Type) := Option α × List UInt8

def Executed.work (e : Executed α) : Work α :=
  (some e.action, seenBytes e)

def Pending.work (cfg : Fin PACKET_TYPE_MAX → Option (Install α)) (p : Pending) : Work α :=
  (actionOf cfg p.type, p.bytes)

def Delivered.work (cfg : Fin PACKET_TYPE_MAX → Option (Install α))
    (d : Delivered (Fin PACKET_TYPE_MAX)) : Work α :=
  (actionOf cfg d.op, d.packet)

lemma seenBytes_stored {mem : Addr → UInt8} {p : Pending} (h : Stored cfg mem p) (action : α) :
    seenBytes ⟨action, p.packet, mem⟩ = p.bytes := by
  obtain ⟨i, payload, -, hbytes, hlen, hread⟩ := h
  have hsize : mem (p.packet + 1) = i.size := by
    rw [hbytes, List.length_cons, Bytes.read_succ'] at hread
    exact Bytes.head_of_read_eq_cons (List.cons.inj hread).2
  change Bytes.read mem p.packet (mem (p.packet + 1)).toNat = p.bytes
  rw [hsize, ← hlen]
  exact hread

lemma runAction_work {mem : Addr → UInt8} {p : Pending} (h : Stored cfg mem p)
    {x x' : TxFields × τ} {executed : List (Executed α)}
    (hrun : runAction act cfg mem p x = .ok (executed, x')) :
    (executed.map Executed.work).Sublist [p.work cfg] := by
  unfold runAction at hrun
  cases haction : actionOf cfg p.type with
  | none =>
    rw [haction] at hrun
    cases hrun
    exact List.nil_sublist _
  | some action =>
    simp only [haction] at hrun
    split at hrun
    · cases hrun
    · cases hrun
      simp only [List.map_cons, List.map_nil, Executed.work, seenBytes_stored h, Pending.work,
        haction]
      exact List.Sublist.refl _

/-- The executed actions are those of the queue that exist, on the bytes of their packets. -/
lemma runActions_work {mem : Addr → UInt8} {ps : List Pending} (h : ∀ p ∈ ps, Stored cfg mem p)
    {x x' : TxFields × τ} {executed : List (Executed α)}
    (hrun : runActions act cfg mem ps x = .ok (executed, x')) :
    (executed.map Executed.work).Sublist (ps.map (Pending.work cfg)) := by
  induction ps generalizing x executed with
  | nil =>
    cases hrun
    exact List.Sublist.refl _
  | cons p ps ih =>
    rw [runActions] at hrun
    cases hfirst : runAction act cfg mem p x with
    | error e => simp [hfirst] at hrun
    | ok r =>
      obtain ⟨executed₁, x₁⟩ := r
      simp only [hfirst] at hrun
      cases hrest : runActions act cfg mem ps x₁ with
      | error e => simp [hrest] at hrun
      | ok r =>
        obtain ⟨executed₂, x₂⟩ := r
        simp only [hrest] at hrun
        cases hrun
        rw [List.map_append, List.map_cons, ← List.singleton_append]
        exact (runAction_work (h p List.mem_cons_self) hfirst).append
          (ih (fun q hq => h q (List.mem_cons_of_mem p hq)) hrest)

lemma runActions_returns (cfg : Fin PACKET_TYPE_MAX → Option (Install α))
    (hact : ∀ action packet x, ∃ x', act action packet x = .ok x')
    (mem : Addr → UInt8) (ps : List Pending) (x : TxFields × τ) :
    ∃ executed x', runActions act cfg mem ps x = .ok (executed, x') := by
  induction ps generalizing x with
  | nil => exact ⟨[], x, rfl⟩
  | cons p ps ih =>
    obtain ⟨executed₁, x₁, hfirst⟩ : ∃ executed x', runAction act cfg mem p x = .ok (executed, x') := by
      unfold runAction
      cases actionOf cfg p.type with
      | none => exact ⟨[], x, rfl⟩
      | some action =>
        obtain ⟨x', hx'⟩ := hact action (fun i => mem (p.packet + i)) x
        simp only [hx']
        exact ⟨_, x', rfl⟩
    obtain ⟨executed₂, x₂, hrest⟩ := ih x₁
    rw [runActions, hfirst]
    simp only [hrest]
    exact ⟨_, x₂, rfl⟩

/-- A packet that becomes pending has just been delivered. -/
lemma queuedBy_work (cfg : Fin PACKET_TYPE_MAX → Option (Install α))
    (ph : Phase (Fin PACKET_TYPE_MAX)) (m n : Nat) (c : UInt8) :
    ((ph.queuedBy m c).map (Pending.work cfg)).Sublist
      ((ph.arrival n c).map (Delivered.work cfg)) := by
  cases ph with
  | complete op packet got =>
    simp only [Phase.queuedBy, Phase.arrival]
    by_cases hc : c = Bytes.xorSum got
    · rw [if_pos hc]
      by_cases hroom : m < 8
      · rw [if_pos ⟨hc, hroom⟩]
        exact List.Sublist.refl _
      · rw [if_neg (fun h => hroom h.2)]
        exact List.nil_sublist _
    · rw [if_neg (fun h => hc h.1)]
      exact List.nil_sublist _
  | _ => exact List.nil_sublist _

/-- Along a run the executed actions followed by the pending ones are among those of the delivered
packets, in order. -/
def DeferredInvariant (cfg : Fin PACKET_TYPE_MAX → Option (Install α))
    (ops : Fin PACKET_TYPE_MAX → PacketOperations (DeferredFields α)) (calls : List DeferredCall)
    (events : List (DeferredEvent α)) (s : DeferredState α τ) : Prop :=
  DeferredFields.operations s.handler.packetInfos = ops ∧
    ∃ ph ps ds, DeferredRep cfg s ph ps ∧
      RxHistory ops (fun t => (cfg t).map fun _ => t) (deferredStream calls) (deferredRx events)
        (s.handler.baseHandler, ⟨s.mem, s.handler.toDeferredFields⟩) ph ds ∧
      ((deferredExecuted events).map Executed.work ++ ps.map (Pending.work cfg)).Sublist
        (ds.map (Delivered.work cfg))

variable {ops : Fin PACKET_TYPE_MAX → PacketOperations (DeferredFields α)}
  {calls : List DeferredCall} {events : List (DeferredEvent α)} {s s' : DeferredState α τ}
  {event : DeferredEvent α}

lemma rxByte_invariant (hvalid : ValidInstalls cfg)
    (hinv : DeferredInvariant cfg ops calls events s) (c : UInt8) :
    ∃ event s', deferredStep act s (.rxByte c) = .ok (event, s') ∧
      DeferredInvariant cfg ops (calls ++ [.rxByte c]) (events ++ [event]) s' := by
  obtain ⟨hops, ph, ps, ds, hrep, hh, hwork⟩ := hinv
  have hfix := hrep.fixedOps hvalid
  obtain ⟨buffer, s', hrx, hrep', hops', -, -⟩ := hrep.rxByte hvalid c
  have hoperations : s.handler.baseHandler.operations = fun t => (cfg t).map fun _ => t := by
    funext t
    exact hrep.operations t
  rw [hops, hoperations] at hrx hrep' hfix
  rw [hops] at hops'
  have hrepr := hrep'.rep
  rw [hops'] at hrepr
  have hnext : RxHistory ops (fun t => (cfg t).map fun _ => t) _ _
      (s'.handler.baseHandler, ⟨s'.mem, s'.handler.toDeferredFields⟩) _ _ :=
    hh.next hfix buffer c (by funext t; exact hrep'.operations t) hrepr
  refine ⟨_, s', by rw [deferredStep, hrx], hops', _, _,
    ds ++ ph.arrival (deferredStream calls).length c, hrep', ?_, ?_⟩
  · simpa [deferredStream, deferredRx] using hnext
  · have hsub := hwork.append (queuedBy_work cfg ph ps.length (deferredStream calls).length c)
    rw [List.map_append, List.map_append, ← List.append_assoc]
    simpa [deferredExecuted] using hsub

lemma processPendingPackets_invariant (hvalid : ValidInstalls cfg)
    (hact : ∀ action packet x, ∃ x', act action packet x = .ok x')
    (hinv : DeferredInvariant cfg ops calls events s) :
    ∃ event s', deferredStep act s .processPendingPackets = .ok (event, s') ∧
      DeferredInvariant cfg ops (calls ++ [.processPendingPackets]) (events ++ [event]) s' := by
  obtain ⟨hops, ph, ps, ds, hrep, hh, hwork⟩ := hinv
  obtain ⟨executed, x, hrun⟩ := runActions_returns cfg hact s.mem ps
    (s.handler.baseHandler.toTxFields, s.env)
  have hprocess := hrep.process hvalid act
  rw [hrun] at hprocess
  obtain ⟨s', hprocess, hrep', hops', -, -, -⟩ := hprocess
  rw [hops] at hops'
  refine ⟨.processPendingPackets executed, s', by rw [deferredStep, hprocess], hops', ph, [], ds,
    hrep', ?_, ?_⟩
  · have hrepr := hrep'.rep
    rw [hops'] at hrepr
    have hh' : RxHistory ops (fun t => (cfg t).map fun _ => t) (deferredStream calls)
        (deferredRx events) (s'.handler.baseHandler, ⟨s'.mem, s'.handler.toDeferredFields⟩) ph ds :=
      ⟨by funext t; exact hrep'.operations t, hrepr, hh.current, hh.events_length, hh.delivered,
        hh.sound, hh.disjoint⟩
    simpa [deferredStream, deferredRx] using hh'
  · have hsub := (runActions_work hrep.queued.stored hrun).append_left
      ((deferredExecuted events).map Executed.work)
    simpa [deferredExecuted] using hsub.trans hwork

/-- The number of pending packets whose type byte is `t`. -/
def pendingOfType (s : DeferredState α τ) (t : Fin PACKET_TYPE_MAX) : Nat :=
  (List.range s.handler.pendingPacketsSize.toNat).countP fun (k : Nat) =>
    (s.mem (s.handler.pendingPackets k)).toNat = t

lemma DeferredRep.pendingOfType_eq {ph : Phase (Fin PACKET_TYPE_MAX)} {ps : List Pending}
    (hrep : DeferredRep cfg s ph ps) (t : Fin PACKET_TYPE_MAX) :
    pendingOfType s t = (ofType t ps).length := by
  have hcount : s.handler.pendingPacketsSize.toNat = ps.length := by
    have := hrep.size
    omega
  have htypes : (List.range ps.length).map (fun (k : Nat) =>
      (s.mem (s.handler.pendingPackets k)).toNat) = ps.map fun p => (p.type : Nat) := by
    apply List.ext_getElem
    · simp
    · intro k h₁ h₂
      have hk : k < ps.length := by simpa using h₂
      have hpending := hrep.queued.pending k hk
      obtain ⟨i, payload, -, hbytes, -, hread⟩ := hrep.queued.stored ps[k] (List.getElem_mem hk)
      rw [hbytes] at hread
      have htype := Bytes.head_of_read_eq_cons hread
      have hlt := (ps[k]).type.isLt
      simp only [PACKET_TYPE_MAX] at hlt
      simp only [List.getElem_map, List.getElem_range]
      rw [Int.zero_add] at hpending
      rw [hpending, htype, UInt8.toNat_ofNat']
      omega
  have hcountP := congrArg (List.countP fun n => n = (t : Nat)) htypes
  rw [List.countP_map, List.countP_map] at hcountP
  rw [pendingOfType, hcount, ofType, ← List.countP_eq_length_filter]
  calc (List.range ps.length).countP (fun (k : Nat) =>
        (s.mem (s.handler.pendingPackets k)).toNat = t)
      = ps.countP ((fun n => decide (n = (t : Nat))) ∘ fun p => (p.type : Nat)) := hcountP
    _ = ps.countP fun p => p.type = t := by
      apply List.countP_congr
      intro p _
      simp [Fin.ext_iff]

/-- Over every interleaving of received bytes and processing passes the deferred handler asserts
nothing false, counts the pending packets of each type, and executes its actions on a subsequence
of the delivered frames, in order. -/
theorem deferred_queue_sound (act : DeferredState.Act α τ)
    (hact : ∀ action packet x, ∃ x', act action packet x = .ok x')
    (h₀ : DeferredPacketHandler α) (installs : List (Install α)) (hsetup : ValidSetup installs)
    (mem : Addr → UInt8) (env : τ) (calls : List DeferredCall) :
    ∃ h, installDeferred h₀.initializeDeferred installs = .ok h ∧
      ∃ events s, StepMachine.run (deferredStep act) ⟨h, mem, env⟩ calls = .ok (events, s) ∧
        (∀ t i, installedFor installs t = some i →
          (s.handler.packetInfos t).packetBuffersSize = pendingOfType s t ∧
          (s.handler.packetInfos t).packetBuffersSize ≤
            (s.handler.packetInfos t).packetBuffersMax) ∧
        ∃ ds : List (Delivered (Fin PACKET_TYPE_MAX)),
          (∀ k, (∃ e, (deferredRx events)[k]? = some e ∧ e.status = .syncChecksum) ↔
            ∃ d ∈ ds, d.stop = k + 1) ∧
          ds.Pairwise (fun d d' => d.stop ≤ d'.start) ∧
          (∀ d ∈ ds, d.Sound (DeferredFields.operations h.packetInfos) h.baseHandler.operations
            (deferredStream calls) (deferredRx events)) ∧
          ((deferredExecuted events).map Executed.work).Sublist
            (ds.map (Delivered.work (installedFor installs))) := by
  have hvalid := hsetup.validInstalls
  obtain ⟨h, hinstall, hinst⟩ := installDeferred_installed
    (by simpa using hsetup) (initializeDeferred_installed h₀)
  rw [List.nil_append] at hinst
  have hoperations : h.baseHandler.operations = fun t => (installedFor installs t).map fun _ => t := by
    funext t
    exact hinst.operations t
  have hrep₀ := hinst.deferredRep mem env
  have hinit : DeferredInvariant (installedFor installs) (DeferredFields.operations h.packetInfos) []
      [] (⟨h, mem, env⟩ : DeferredState α τ) := by
    have hh : RxHistory (DeferredFields.operations h.packetInfos) h.baseHandler.operations [] []
        (h.baseHandler, ⟨mem, h.toDeferredFields⟩) .hunt [] :=
      RxHistory.nil (s := (h.baseHandler, ⟨mem, h.toDeferredFields⟩)) hinst.rxFn
    rw [hoperations] at hh
    exact ⟨rfl, .hunt, [], [], hrep₀, hh, List.Sublist.refl _⟩
  obtain ⟨events, s, hrun, -, ph, ps, ds, hrep, hh, hwork⟩ := StepMachine.run_total_history
    (deferredStep act) (DeferredInvariant (installedFor installs)
      (DeferredFields.operations h.packetInfos)) hinit (fun calls events s call hinv => by
        cases call with
        | rxByte c => exact rxByte_invariant hvalid hinv c
        | processPendingPackets => exact processPendingPackets_invariant hvalid hact hinv) calls
  refine ⟨h, hinstall, events, s, hrun, ?_, ds, hh.delivered, hh.disjoint, ?_, ?_⟩
  · intro t i hi
    have hinfo := hrep.queued.info t i hi
    have hsize := hinfo.holds.size_eq
    have hfits := hinfo.holds.fits
    rw [List.length_map] at hsize hfits
    rw [hrep.pendingOfType_eq, hinfo.max, hsize]
    exact ⟨rfl, hfits⟩
  · rw [hoperations]
    exact hh.sound
  · exact (List.sublist_append_left _ _).trans hwork

/-- A deferred handler before it is initialised. -/
def staticDeferred : DeferredPacketHandler Unit where
  packetInfos := fun _ => .zero
  pendingPackets := fun _ => 0
  pendingPacketsSize := 0
  baseHandler :=
    { txBuffer := fun _ => 0, txStart := 0, txEnd := 0, txSize := 0, txChecksum := 0
      operations := fun _ => none, rxCurrentOp := none, rxCurrentPacket := none, rxChecksum := 0
      rxBuffer := none, rxBufferEnd := none, rxBytesToRead := 0, rxFn := .rxAA }

/-- Two types, an action that counts, a frame, a processing pass and a frame cut in two. -/
theorem deferred_queue_sound_count :
    let act : DeferredState.Act Unit Nat := fun _ _ x => .ok (x.1, x.2 + 1)
    let installs : List (Install Unit) := [⟨1, 6, 0, 2, some ()⟩, ⟨5, 10, 12, 2, none⟩]
    let packet : List UInt8 := [1, 6, 0, 0, 7, 7]
    let calls := (frame packet ++ [0xAA, 0x55, 1]).map DeferredCall.rxByte ++
      [.processPendingPackets, .rxByte 6, .processPendingPackets]
    ∃ h events s, installDeferred staticDeferred.initializeDeferred installs = .ok h ∧
      StepMachine.run (deferredStep act) ⟨h, fun _ => 0, 0⟩ calls = .ok (events, s) ∧
      ∃ ds : List (Delivered (Fin PACKET_TYPE_MAX)),
        ((deferredExecuted events).map Executed.work).Sublist
          (ds.map (Delivered.work (installedFor installs))) := by
  intro act installs packet calls
  have hsetup : ValidSetup installs := by
    refine ⟨?_, ?_⟩
    · intro i hi
      simp only [installs, List.mem_cons, List.not_mem_nil, or_false] at hi
      rcases hi with rfl | rfl <;> constructor <;> decide
    · simp [installs, Separate, Install.bufferEnd]
  obtain ⟨h, hinstall, events, s, hrun, -, ds, -, -, -, hwork⟩ := deferred_queue_sound act
    (fun _ _ x => ⟨(x.1, x.2 + 1), rfl⟩) staticDeferred installs hsetup (fun _ => 0) 0 calls
  exact ⟨h, events, s, hinstall, hrun, ds, hwork⟩

end Orazio.Proofs
