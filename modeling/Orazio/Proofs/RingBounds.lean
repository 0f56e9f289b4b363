import Orazio.Proofs.DeferredInstall

/-!
# The rings of the deferred packet handler

The ring of a type lies in an array of `PACKETS_PER_TYPE_MAX` pointers, but it wraps at the number of buffers
of the call that installed the type.
-/

namespace Orazio.Proofs

variable {α τ : Type}

/-! ### Runs -/

/-- A call of the deferred handler, or something that happens to the memory, the transmit fields and the rest
of the program in between. -/
inductive RingCall (α τ : Type)
  | rxByte (c : UInt8)
  | processPendingPackets
  | install (i : Install α)
  | store (mem : Addr → UInt8)
  | program (x : TxFields × τ)

def ringStep (act : DeferredState.Act α τ) (s : DeferredState α τ) :
    RingCall α τ → Except Fault (PacketStatus × DeferredState α τ)
  | .rxByte c =>
    match s.rxByte c with
    | .error e => .error e
    | .ok (status, _, s) => .ok (status, s)
  | .processPendingPackets =>
    match s.processPendingPackets act with
    | .error e => .error e
    | .ok (_, s) => .ok (.success, s)
  | .install i =>
    match installCall s.handler i with
    | .error e => .error e
    | .ok (status, h) => .ok (status, { s with handler := h })
  | .store mem => .ok (.success, { s with mem := mem })
  | .program x => .ok (.success, s.setProgram x)

/-! ### Uses of the arrays -/

/-- An index on the `packet_buffers` of a type. -/
abbrev RingUse := Fin PACKET_TYPE_MAX × Int

def initializeUses (d : DeferredFields α) (type : UInt8) : List RingUse :=
  match DeferredFields.infoIndex type with
  | .error _ => []
  | .ok t =>
    if (d.packetInfos t).packetBuffersSize ≥ (d.packetInfos t).packetBuffersMax then []
    else [(t, (d.packetInfos t).packetBuffersEnd)]

def onReceiveUses (d : DeferredFields α) (type : UInt8) : List RingUse :=
  match DeferredFields.infoIndex type with
  | .error _ => []
  | .ok t => [(t, (d.packetInfos t).packetBuffersEnd)]

def receiveUses (s : DeferredState α τ) (c : UInt8) : List RingUse :=
  match s.handler.baseHandler.rxFn with
  | .rxSize =>
    match s.handler.baseHandler.rxCurrentOp with
    | none => []
    | some op =>
      if (s.handler.packetInfos op).size ≠ PACKET_SIZE_ANY ∧ (s.handler.packetInfos op).size ≠ c then []
      else initializeUses s.handler.toDeferredFields (s.handler.packetInfos op).type
  | .rxChecksum =>
    if c = s.handler.baseHandler.rxChecksum then
      match s.handler.baseHandler.rxCurrentPacket with
      | none => []
      | some packet => onReceiveUses s.handler.toDeferredFields (s.mem packet)
    else []
  | _ => []

/-- The loop with `n` packets left from `pnum` on. -/
def processUses (act : DeferredState.Act α τ) (s : DeferredState α τ) (pnum : Int) : ℕ → List RingUse
  | 0 => []
  | n + 1 =>
    match DeferredFields.infoIndex (s.mem (s.handler.pendingPackets pnum)) with
    | .error _ => []
    | .ok t =>
      (t, (s.handler.packetInfos t).packetBuffersStart) ::
        match DeferredState.processPacket act pnum s with
        | .error _ => []
        | .ok (_, s') => processUses act s' (pnum + 1) n

def installUses (i : Install α) : List RingUse :=
  match DeferredFields.infoIndex i.type with
  | .error _ => []
  | .ok t => (List.range i.numBuffers.toNat).map fun (k : ℕ) => (t, (k : Int))

/-- The indices on `packet_buffers` that a call uses. -/
def ringUses (act : DeferredState.Act α τ) (s : DeferredState α τ) : RingCall α τ → List RingUse
  | .rxByte c => receiveUses s c
  | .processPendingPackets => processUses act s 0 s.handler.pendingPacketsSize.toNat
  | .install i => installUses i
  | .store _ => []
  | .program _ => []

def Inside (uses : List RingUse) : Prop :=
  ∀ use ∈ uses, 0 ≤ use.2 ∧ use.2 < PACKETS_PER_TYPE_MAX

/-! ### Rings inside their arrays -/

/-- The ring of a record does not leave the array. -/
structure RingInside (info : DeferredPacketOps α) : Prop where
  room : info.packetBuffersMax ≤ PACKETS_PER_TYPE_MAX
  start_nonneg : 0 ≤ info.packetBuffersStart
  start_lt : info.packetBuffersStart < PACKETS_PER_TYPE_MAX
  end_nonneg : 0 ≤ info.packetBuffersEnd
  end_lt : info.packetBuffersEnd < PACKETS_PER_TYPE_MAX

def RingsInside (d : DeferredFields α) : Prop :=
  ∀ t, RingInside (d.packetInfos t)

lemma ringInside_zero : RingInside (DeferredPacketOps.zero : DeferredPacketOps α) :=
  ⟨show (0 : Int) ≤ 2 by decide, Int.le_refl 0, show (0 : Int) < 2 by decide, Int.le_refl 0,
    show (0 : Int) < 2 by decide⟩

lemma ringInside_record {i : Install α} (hroom : i.numBuffers ≤ PACKETS_PER_TYPE_MAX) :
    RingInside i.record :=
  ⟨hroom, Int.le_refl 0, show (0 : Int) < 2 by decide, Int.le_refl 0, show (0 : Int) < 2 by decide⟩

/-- An index that advances and wraps stays inside. -/
lemma wrap_inside {k max : Int} (hroom : max ≤ PACKETS_PER_TYPE_MAX) (hk : 0 ≤ k) :
    0 ≤ (if k + 1 ≥ max then 0 else k + 1) ∧
      (if k + 1 ≥ max then 0 else k + 1) < PACKETS_PER_TYPE_MAX := by
  have htwo : PACKETS_PER_TYPE_MAX = 2 := rfl
  split <;> omega

lemma RingInside.put {info : DeferredPacketOps α} (h : RingInside info) : RingInside info.put := by
  have hend := wrap_inside h.room h.end_nonneg
  exact ⟨h.room, h.start_nonneg, h.start_lt, hend.1, hend.2⟩

lemma RingInside.get {info : DeferredPacketOps α} (h : RingInside info) : RingInside info.get := by
  have hstart := wrap_inside h.room h.start_nonneg
  exact ⟨h.room, hstart.1, hstart.2, h.end_nonneg, h.end_lt⟩

lemma RingsInside.update {d d' : DeferredFields α} (h : RingsInside d) {t : Fin PACKET_TYPE_MAX}
    {info : DeferredPacketOps α} (hinfo : RingInside info)
    (hd : d'.packetInfos = Function.update d.packetInfos t info) : RingsInside d' := by
  intro u
  rw [hd]
  by_cases hu : u = t
  · subst hu
    rw [Function.update_self]
    exact hinfo
  · rw [Function.update_of_ne hu]
    exact h u

/-! ### Records -/

/-- The record apart from its ring. -/
def values (info : DeferredPacketOps α) : DeferredPacketOps α :=
  { info with packetBuffersSize := 0, packetBuffersStart := 0, packetBuffersEnd := 0 }

lemma values_record (i : Install α) : values i.record = i.record := rfl

lemma values_put (info : DeferredPacketOps α) : values info.put = values info := rfl

lemma values_get (info : DeferredPacketOps α) : values info.get = values info := rfl

/-- A call that installs nothing may move the rings but leaves the records. -/
structure Moves (d d' : DeferredFields α) : Prop where
  inside : RingsInside d → RingsInside d'
  values : ∀ t, values (d'.packetInfos t) = values (d.packetInfos t)

lemma Moves.refl (d : DeferredFields α) : Moves d d :=
  ⟨id, fun _ => rfl⟩

lemma Moves.trans {d d' d'' : DeferredFields α} (h : Moves d d') (h' : Moves d' d'') : Moves d d'' :=
  ⟨fun hd => h'.inside (h.inside hd), fun t => (h'.values t).trans (h.values t)⟩

lemma Moves.update {d d' : DeferredFields α} {t : Fin PACKET_TYPE_MAX} {info : DeferredPacketOps α}
    (hinfo : RingInside (d.packetInfos t) → RingInside info)
    (hvalues : Proofs.values info = Proofs.values (d.packetInfos t))
    (hd : d'.packetInfos = Function.update d.packetInfos t info) : Moves d d' := by
  refine ⟨fun h => h.update (hinfo (h t)) hd, ?_⟩
  intro u
  rw [hd]
  by_cases hu : u = t
  · subst hu
    rw [Function.update_self, hvalues]
  · rw [Function.update_of_ne hu]

lemma addPending_moves (d : DeferredFields α) (t : Fin PACKET_TYPE_MAX) (packet : Addr) :
    Moves d (d.addPending t packet) :=
  Moves.update RingInside.put (values_put _) rfl

/-! ### Receiving -/

lemma initializeBuffer_env {type size : UInt8} {w w' : World (DeferredFields α)} {answer : Option Addr}
    (h : DeferredFields.initializeBuffer type size w = .ok (answer, w')) : w' = w := by
  unfold DeferredFields.initializeBuffer at h
  split at h
  · cases h
  · simp only at h
    split at h
    · cases h
      rfl
    · split at h
      · cases h
      · cases h
        rfl

lemma onReceive_moves {packet : Addr} {w w' : World (DeferredFields α)}
    (h : DeferredFields.onReceive packet w = .ok w') : Moves w.env w'.env := by
  unfold DeferredFields.onReceive at h
  split at h
  · cases h
  · simp only at h
    split at h
    · cases h
    · split at h
      · cases h
      · split at h
        · cases h
          exact Moves.refl _
        · cases h
          exact addPending_moves _ _ _

/-- A byte changes what lies outside the handler only through the callbacks. -/
lemma rxByte_env {ρ σ : Type} {ops : ρ → PacketOperations σ} {R : σ → σ → Prop} (hrefl : ∀ x, R x x)
    (hinit : ∀ p type size w answer w', (ops p).initializeBufferFn type size w = .ok (answer, w') →
      R w.env w'.env)
    (hrecv : ∀ p onReceive packet w w', (ops p).onReceiveFn = some onReceive →
      onReceive packet w = .ok w' → R w.env w'.env)
    {h : PacketHandler ρ} {w : World σ} {c : UInt8} {r : PacketHandler.RxResult ρ σ}
    (hrx : h.rxByte ops w c = .ok r) : R w.env r.world.env := by
  unfold PacketHandler.rxByte at hrx
  split at hrx
  · cases hrx
    exact hrefl _
  · cases hrx
    exact hrefl _
  · cases hrx
    exact hrefl _
  · unfold PacketHandler.rxSize at hrx
    split at hrx
    · cases hrx
    · simp only at hrx
      split at hrx
      · cases hrx
        exact hrefl _
      · split at hrx
        · cases hrx
        · next hcall =>
          cases hrx
          exact hinit _ _ _ _ _ _ hcall
        · next hcall =>
          have henv := hinit _ _ _ _ _ _ hcall
          cases hrx
          exact henv
  · unfold PacketHandler.rxPayload at hrx
    split at hrx
    · cases hrx
    · simp only at hrx
      split at hrx <;> cases hrx <;> exact hrefl _
  · unfold PacketHandler.rxChecksumByte at hrx
    simp only at hrx
    split at hrx
    · split at hrx
      · split at hrx
        · cases hrx
          exact hrefl _
        · next honReceive =>
          split at hrx
          · cases hrx
          · next hcall =>
            cases hrx
            exact hrecv _ _ _ _ _ honReceive hcall
      · cases hrx
    · cases hrx
      exact hrefl _

lemma rxByte_moves {s s' : DeferredState α τ} {c : UInt8} {status : PacketStatus}
    {received : Option (PacketHandler.Received (Fin PACKET_TYPE_MAX))}
    (hrx : s.rxByte c = .ok (status, received, s')) :
    Moves s.handler.toDeferredFields s'.handler.toDeferredFields := by
  unfold DeferredState.rxByte at hrx
  split at hrx
  · cases hrx
  · next r hbase =>
    cases hrx
    refine rxByte_env (R := Moves) Moves.refl ?_ ?_ hbase
    · intro p type size w answer w' hcall
      simp only [DeferredFields.operations] at hcall
      split at hcall
      · rw [initializeBuffer_env hcall]
        exact Moves.refl _
      · cases hcall
    · intro p onReceive packet w w' hsome hcall
      simp only [DeferredFields.operations] at hsome
      split at hsome
      · cases hsome
        exact onReceive_moves hcall
      · cases hsome

/-! ### Processing -/

lemma callAction_handler {act : DeferredState.Act α τ} {info : DeferredPacketOps α} {p : Addr}
    {s s' : DeferredState α τ} {executed : List (Executed α)}
    (h : DeferredState.callAction act info p s = .ok (executed, s')) :
    s'.handler.toDeferredFields = s.handler.toDeferredFields := by
  unfold DeferredState.callAction at h
  split at h
  · cases h
    rfl
  · split at h
    · cases h
    · cases h
      rfl

lemma processPacket_moves {act : DeferredState.Act α τ} {pnum : Int} {s s' : DeferredState α τ}
    {executed : List (Executed α)} (h : DeferredState.processPacket act pnum s = .ok (executed, s')) :
    Moves s.handler.toDeferredFields s'.handler.toDeferredFields := by
  unfold DeferredState.processPacket at h
  simp only at h
  split at h
  · cases h
  · next t ht =>
    split at h
    · cases h
    · split at h
      · cases h
      · split at h
        · cases h
        · next s₁ hcall =>
          cases h
          have hinfos : s₁.handler.packetInfos = s.handler.packetInfos :=
            congrArg (fun d => d.packetInfos) (callAction_handler hcall)
          refine Moves.update (t := t) RingInside.get (values_get _) ?_
          simp only [hinfos]

lemma processLoop_moves {act : DeferredState.Act α τ} {n : ℕ} {pnum : Int} {s s' : DeferredState α τ}
    {executed : List (Executed α)} (h : DeferredState.processLoop act s pnum n = .ok (executed, s')) :
    Moves s.handler.toDeferredFields s'.handler.toDeferredFields := by
  induction n generalizing s pnum executed with
  | zero =>
    cases h
    exact Moves.refl _
  | succ n ih =>
    rw [DeferredState.processLoop] at h
    split at h
    · cases h
    · next hpacket =>
      split at h
      · cases h
      · next hrest =>
        cases h
        exact (processPacket_moves hpacket).trans (ih hrest)

lemma processPendingPackets_moves {act : DeferredState.Act α τ} {s s' : DeferredState α τ}
    {executed : List (Executed α)} (h : s.processPendingPackets act = .ok (executed, s')) :
    Moves s.handler.toDeferredFields s'.handler.toDeferredFields := by
  unfold DeferredState.processPendingPackets at h
  split at h
  · cases h
  · next hloop =>
    cases h
    have hmoves := processLoop_moves hloop
    exact ⟨hmoves.inside, hmoves.values⟩

/-! ### Steps -/

lemma ringStep_moves {act : DeferredState.Act α τ} {s s' : DeferredState α τ} {call : RingCall α τ}
    {status : PacketStatus} (h : ringStep act s call = .ok (status, s')) (hcall : ∀ i, call ≠ .install i) :
    Moves s.handler.toDeferredFields s'.handler.toDeferredFields := by
  cases call with
  | rxByte c =>
    simp only [ringStep] at h
    split at h
    · cases h
    · next hrx =>
      cases h
      exact rxByte_moves hrx
  | processPendingPackets =>
    simp only [ringStep] at h
    split at h
    · cases h
    · next hprocess =>
      cases h
      exact processPendingPackets_moves hprocess
  | install i => exact absurd rfl (hcall i)
  | store mem =>
    cases h
    exact Moves.refl _
  | program x =>
    cases h
    exact Moves.refl _

/-- A call that returns enters a record that fits, or nothing. -/
lemma installCall_fields {h h' : DeferredPacketHandler α} {i : Install α} {status : PacketStatus}
    (hcall : installCall h i = .ok (status, h')) :
    (PACKET_TYPE_MAX ≤ i.type.toNat ∧ h' = h) ∨
      ∃ t : Fin PACKET_TYPE_MAX, i.type.toNat = t ∧ i.numBuffers ≤ PACKETS_PER_TYPE_MAX ∧
        h'.packetInfos = Function.update h.packetInfos t i.record := by
  by_cases ht : i.type.toNat < PACKET_TYPE_MAX
  · right
    refine ⟨⟨i.type.toNat, ht⟩, rfl, ?_⟩
    by_cases hroom : i.numBuffers ≤ PACKETS_PER_TYPE_MAX
    · rw [installCall_eq (t := ⟨i.type.toNat, ht⟩) rfl hroom] at hcall
      cases hcall
      exact ⟨hroom, rfl⟩
    · rw [installCall_beyond ht (Int.not_le.mp hroom)] at hcall
      cases hcall
  · left
    rw [installCall_outOfType (Nat.not_lt.mp ht)] at hcall
    cases hcall
    exact ⟨Nat.not_lt.mp ht, rfl⟩

lemma ringStep_install {act : DeferredState.Act α τ} {s : DeferredState α τ} {i : Install α}
    {status : PacketStatus} {h : DeferredPacketHandler α}
    (hcall : installCall s.handler i = .ok (status, h)) :
    ringStep act s (.install i) = .ok (status, { s with handler := h }) := by
  rw [ringStep, hcall]

/-- The last call that installs the type of `i`, which is `i` itself unless a later one does. -/
def lastInstall (i : Install α) : List (RingCall α τ) → Install α
  | [] => i
  | .install j :: later => lastInstall (if j.type = i.type then j else i) later
  | _ :: later => lastInstall i later

lemma ringStep_inside {act : DeferredState.Act α τ} {s s' : DeferredState α τ} {call : RingCall α τ}
    {status : PacketStatus} (h : ringStep act s call = .ok (status, s'))
    (hinside : RingsInside s.handler.toDeferredFields) : RingsInside s'.handler.toDeferredFields := by
  cases call with
  | install i =>
    simp only [ringStep] at h
    split at h
    · cases h
    · next hcall =>
      cases h
      rcases installCall_fields hcall with ⟨-, rfl⟩ | ⟨t, -, hroom, hinfos⟩
      · exact hinside
      · exact hinside.update (ringInside_record hroom) hinfos
  | _ => exact (ringStep_moves h (fun _ => by simp)).inside hinside

/-- A record keeps what the last call for its type gave it. -/
lemma ringStep_values {act : DeferredState.Act α τ} {s s' : DeferredState α τ} {call : RingCall α τ}
    {status : PacketStatus} (h : ringStep act s call = .ok (status, s')) {i : Install α}
    {t : Fin PACKET_TYPE_MAX} (ht : i.type.toNat = t)
    (hvalues : values (s.handler.packetInfos t) = i.record) :
    values (s'.handler.packetInfos t) = (lastInstall i [call]).record := by
  cases call with
  | install j =>
    simp only [ringStep] at h
    split at h
    · cases h
    · next hcall =>
      cases h
      simp only [lastInstall]
      rcases installCall_fields hcall with ⟨hout, rfl⟩ | ⟨u, hu, -, hinfos⟩
      · have hne : j.type ≠ i.type := by
          intro heq
          rw [heq, ht] at hout
          exact absurd t.isLt (Nat.not_lt.mpr hout)
        rw [if_neg hne]
        exact hvalues
      · simp only [hinfos]
        by_cases htu : t = u
        · subst htu
          have heq : j.type = i.type := UInt8.toNat_inj.mp (hu.trans ht.symm)
          rw [Function.update_self, if_pos heq, values_record]
        · have hne : j.type ≠ i.type := by
            intro heq
            rw [heq, ht] at hu
            exact htu (Fin.ext hu)
          rw [Function.update_of_ne htu, if_neg hne]
          exact hvalues
  | _ => exact ((ringStep_moves h (fun _ => by simp)).values t).trans hvalues

lemma lastInstall_cons (i : Install α) (call : RingCall α τ) (later : List (RingCall α τ)) :
    lastInstall i (call :: later) = lastInstall (lastInstall i [call]) later := by
  cases call <;> rfl

lemma lastInstall_type (i : Install α) (call : RingCall α τ) : (lastInstall i [call]).type = i.type := by
  cases call with
  | install j =>
    simp only [lastInstall]
    split
    · assumption
    · rfl
  | _ => rfl

lemma ring_run {act : DeferredState.Act α τ} (later : List (RingCall α τ)) {s s' : DeferredState α τ}
    {outputs : List PacketStatus} (h : StepMachine.run (ringStep act) s later = .ok (outputs, s'))
    (hinside : RingsInside s.handler.toDeferredFields) {i : Install α} {t : Fin PACKET_TYPE_MAX}
    (ht : i.type.toNat = t) (hvalues : values (s.handler.packetInfos t) = i.record) :
    RingsInside s'.handler.toDeferredFields ∧
      values (s'.handler.packetInfos t) = (lastInstall i later).record := by
  induction later generalizing s outputs i with
  | nil =>
    cases h
    exact ⟨hinside, hvalues⟩
  | cons call later ih =>
    obtain ⟨status, s₁, os, hs, hr, -⟩ := StepMachine.run_cons_eq_ok.mp h
    rw [lastInstall_cons]
    exact ih hr (ringStep_inside hs hinside) (by rw [lastInstall_type, ht]) (ringStep_values hs ht hvalues)

/-! ### Uses -/

lemma RingsInside.initializeUses {d : DeferredFields α} (h : RingsInside d) (type : UInt8) :
    Inside (initializeUses d type) := by
  unfold Proofs.initializeUses
  split
  · exact nofun
  · next t _ =>
    split
    · exact nofun
    · intro use huse
      obtain rfl := List.mem_singleton.mp huse
      exact ⟨(h t).end_nonneg, (h t).end_lt⟩

lemma RingsInside.onReceiveUses {d : DeferredFields α} (h : RingsInside d) (type : UInt8) :
    Inside (onReceiveUses d type) := by
  unfold Proofs.onReceiveUses
  split
  · exact nofun
  · next t _ =>
    intro use huse
    obtain rfl := List.mem_singleton.mp huse
    exact ⟨(h t).end_nonneg, (h t).end_lt⟩

lemma RingsInside.receiveUses {s : DeferredState α τ} (h : RingsInside s.handler.toDeferredFields)
    (c : UInt8) : Inside (receiveUses s c) := by
  unfold Proofs.receiveUses
  split
  · split
    · exact nofun
    · split
      · exact nofun
      · exact h.initializeUses _
  · split
    · split
      · exact nofun
      · exact h.onReceiveUses _
    · exact nofun
  · exact nofun

lemma RingsInside.processUses {act : DeferredState.Act α τ} {s : DeferredState α τ}
    (h : RingsInside s.handler.toDeferredFields) (pnum : Int) (n : ℕ) :
    Inside (processUses act s pnum n) := by
  induction n generalizing s pnum with
  | zero => exact nofun
  | succ n ih =>
    rw [Proofs.processUses]
    split
    · exact nofun
    · next t _ =>
      intro use huse
      rcases List.mem_cons.mp huse with rfl | huse
      · exact ⟨(h t).start_nonneg, (h t).start_lt⟩
      · split at huse
        · cases huse
        · next hpacket => exact ih ((processPacket_moves hpacket).inside h) _ use huse

/-- The type is out of bounds, or the buffers fit. -/
def Fits (i : Install α) : Prop :=
  PACKET_TYPE_MAX ≤ i.type.toNat ∨ i.numBuffers ≤ PACKETS_PER_TYPE_MAX

lemma installUses_inside_iff (i : Install α) : Inside (installUses i) ↔ Fits i := by
  have htwo : PACKETS_PER_TYPE_MAX = 2 := rfl
  unfold installUses Fits DeferredFields.infoIndex
  by_cases ht : i.type.toNat < PACKET_TYPE_MAX
  · rw [dif_pos ht]
    simp only
    constructor
    · intro hinside
      right
      by_contra hbeyond
      have hmem : ((⟨i.type.toNat, ht⟩, (2 : ℕ)) : RingUse) ∈
          (List.range i.numBuffers.toNat).map fun (k : ℕ) => ((⟨i.type.toNat, ht⟩, (k : Int)) : RingUse) :=
        List.mem_map.mpr ⟨2, List.mem_range.mpr (by omega), rfl⟩
      have hlt : (2 : Int) < 2 := (hinside _ hmem).2
      exact Int.lt_irrefl 2 hlt
    · intro hfits use huse
      obtain ⟨k, hk, rfl⟩ := List.mem_map.mp huse
      have hlt := List.mem_range.mp hk
      have hroom := hfits.resolve_left (Nat.not_le.mpr ht)
      exact ⟨Int.natCast_nonneg k, by simp only; omega⟩
  · rw [dif_neg ht]
    exact ⟨fun _ => .inl (Nat.not_lt.mp ht), fun _ => nofun⟩

lemma RingsInside.ringUses {act : DeferredState.Act α τ} {s : DeferredState α τ}
    (h : RingsInside s.handler.toDeferredFields) {call : RingCall α τ}
    (hfits : ∀ i, call = .install i → Fits i) : Inside (ringUses act s call) := by
  cases call with
  | rxByte c => exact h.receiveUses c
  | processPendingPackets => exact h.processUses _ _
  | install i => exact (installUses_inside_iff i).mpr (hfits i rfl)
  | store mem => exact nofun
  | program x => exact nofun

/-! ### The law of the rings -/

/-- The call returns an error; or it and every call after it use only indices inside the arrays, as long as
these calls fit themselves, and the record always has the values of the last call for its type. -/
def StaysInside (act : DeferredState.Act α τ) (s : DeferredState α τ) (i : Install α) : Prop :=
  (∃ status s', ringStep act s (.install i) = .ok (status, s') ∧ status ≠ .success) ∨
    (Inside (ringUses act s (.install i)) ∧ ∃ s', ringStep act s (.install i) = .ok (.success, s') ∧
      ∀ later outputs s'', StepMachine.run (ringStep act) s' later = .ok (outputs, s'') →
        (∀ t : Fin PACKET_TYPE_MAX, i.type.toNat = t →
          values (s''.handler.packetInfos t) = (lastInstall i later).record) ∧
        ∀ call, (∀ j, call = .install j → Fits j) → Inside (ringUses act s'' call))

/-- A call keeps to the arrays exactly if its type is out of bounds or its buffers fit. -/
theorem stays_inside_iff (act : DeferredState.Act α τ) (h₀ : DeferredPacketHandler α) (mem : Addr → UInt8)
    (env : τ) (calls : List (RingCall α τ)) (outputs : List PacketStatus) (s : DeferredState α τ)
    (hrun : StepMachine.run (ringStep act) ⟨h₀.initializeDeferred, mem, env⟩ calls = .ok (outputs, s))
    (i : Install α) : StaysInside act s i ↔ Fits i := by
  have hinside : RingsInside s.handler.toDeferredFields :=
    StepMachine.run_invariant (fun s => RingsInside s.handler.toDeferredFields)
      (fun _ => ringInside_zero) (fun _ _ _ _ hI hs => ringStep_inside hs hI) hrun
  constructor
  · rintro (⟨status, s', hstep, -⟩ | ⟨huses, -⟩)
    · simp only [ringStep] at hstep
      split at hstep
      · cases hstep
      · next hcall =>
        rcases installCall_fields hcall with ⟨htype, -⟩ | ⟨-, -, hroom, -⟩
        · exact .inl htype
        · exact .inr hroom
    · exact (installUses_inside_iff i).mp huses
  · intro hfits
    by_cases htype : i.type.toNat < PACKET_TYPE_MAX
    · have hroom : i.numBuffers ≤ PACKETS_PER_TYPE_MAX := hfits.resolve_left (Nat.not_le.mpr htype)
      cases hop : s.handler.baseHandler.operations ⟨i.type.toNat, htype⟩ with
      | some p =>
        left
        exact ⟨_, _, ringStep_install (installCall_taken rfl hroom hop), by decide⟩
      | none =>
        right
        have hstep := @ringStep_install _ _ act _ _ _ _ (installCall_free rfl hroom hop)
        refine ⟨(installUses_inside_iff i).mpr hfits, _, hstep, ?_⟩
        intro later outputs' s'' hlater
        have hentered : values ((enterRecord s.handler ⟨i.type.toNat, htype⟩ i).packetInfos
            ⟨i.type.toNat, htype⟩) = i.record :=
          (congrArg values (enterRecord_self _)).trans (values_record i)
        obtain ⟨hlast, hvalues⟩ := ring_run later hlater (ringStep_inside hstep hinside) rfl hentered
        refine ⟨?_, fun call hcalls => hlast.ringUses hcalls⟩
        intro t ht
        obtain rfl : (⟨i.type.toNat, htype⟩ : Fin PACKET_TYPE_MAX) = t := Fin.ext ht
        exact hvalues
    · left
      exact ⟨_, _, ringStep_install (installCall_outOfType (Nat.not_lt.mp htype)), by decide⟩

/-- A type with two buffers, a frame for it and a pass over the pending packets. -/
def twoBuffers : List (RingCall Unit Unit) :=
  .install ⟨1, 6, 0, 2, some ()⟩ :: (frame [1, 6, 0, 0, 7, 7]).map .rxByte ++ [.processPendingPackets]

def idleAct : DeferredState.Act Unit Unit := fun _ _ x => .ok x

theorem stays_inside_two_buffers :
    ∃ outputs s, StepMachine.run (ringStep idleAct)
      ⟨staticDeferred.initializeDeferred, fun _ => 0, ()⟩ twoBuffers = .ok (outputs, s) ∧
      StaysInside idleAct s ⟨2, 8, 16, 2, none⟩ := by
  have hrun : ∃ r, StepMachine.run (ringStep idleAct)
      ⟨staticDeferred.initializeDeferred, fun _ => 0, ()⟩ twoBuffers = .ok r ∧ r.1.length = 11 := by
    decide +kernel
  obtain ⟨⟨outputs, s⟩, hrun, -⟩ := hrun
  exact ⟨outputs, s, hrun, (stays_inside_iff idleAct staticDeferred (fun _ => 0) () twoBuffers outputs s hrun
    ⟨2, 8, 16, 2, none⟩).mpr (.inr (by decide))⟩

/-- The four buffers of the host test do not fit. -/
theorem four_buffers_leave : ¬StaysInside idleAct
    ⟨staticDeferred.initializeDeferred, fun _ => 0, ()⟩ ⟨0, 8, 0, 4, some ()⟩ := by
  rintro (⟨status, s', hstep, -⟩ | ⟨huses, -⟩)
  · rw [ringStep, installCall_beyond (by decide) (by decide)] at hstep
    cases hstep
  · rcases (installUses_inside_iff ⟨0, 8, 0, 4, some ()⟩).mp huses with htype | hroom
    · exact absurd htype (by decide)
    · exact absurd hroom (by decide)

end Orazio.Proofs
