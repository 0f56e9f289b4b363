import Orazio.Proofs.DeferredQueue

/-!
# Processing the pending packets

The deferred handler calls the actions of the pending packets in the order of the queue, on the
bytes the packets had when they became pending, and empties the queue.
-/

namespace Orazio.Proofs

open RingBuffer

variable {α τ : Type} {cfg : Fin PACKET_TYPE_MAX → Option (Install α)}

def actionOf (cfg : Fin PACKET_TYPE_MAX → Option (Install α)) (t : Fin PACKET_TYPE_MAX) : Option α :=
  (cfg t).bind Install.action

/-- The action of a pending packet, if it has one. -/
def runAction (act : DeferredState.Act α τ) (cfg : Fin PACKET_TYPE_MAX → Option (Install α))
    (mem : Addr → UInt8) (p : Pending) (x : TxFields × τ) :
    Except Fault (List (Executed α) × (TxFields × τ)) :=
  match actionOf cfg p.type with
  | none => .ok ([], x)
  | some action =>
    match act action (fun i => mem (p.packet + i)) x with
    | .error e => .error e
    | .ok x => .ok ([⟨action, p.packet, mem⟩], x)

/-- The actions of a queue, one after the other. -/
def runActions (act : DeferredState.Act α τ) (cfg : Fin PACKET_TYPE_MAX → Option (Install α))
    (mem : Addr → UInt8) : List Pending → TxFields × τ →
      Except Fault (List (Executed α) × (TxFields × τ))
  | [], x => .ok ([], x)
  | p :: ps, x =>
    match runAction act cfg mem p x with
    | .error e => .error e
    | .ok (executed, x) =>
      match runActions act cfg mem ps x with
      | .error e => .error e
      | .ok (executed', x) => .ok (executed ++ executed', x)

lemma runAction_eq_ok {act : DeferredState.Act α τ} {mem : Addr → UInt8} {p : Pending}
    {x x' : TxFields × τ} {executed : List (Executed α)}
    (h : runAction act cfg mem p x = .ok (executed, x')) :
    (actionOf cfg p.type = none ∧ executed = [] ∧ x' = x) ∨
      ∃ action, actionOf cfg p.type = some action ∧ executed = [⟨action, p.packet, mem⟩] ∧
        act action (fun i => mem (p.packet + i)) x = .ok x' := by
  unfold runAction at h
  split at h
  · next hnone =>
    cases h
    exact .inl ⟨hnone, rfl, rfl⟩
  · next action haction =>
    split at h
    · cases h
    · next y hact =>
      cases h
      exact .inr ⟨action, haction, rfl, hact⟩

lemma runActions_cons_eq_ok {act : DeferredState.Act α τ} {mem : Addr → UInt8} {p : Pending}
    {ps : List Pending} {x x' : TxFields × τ} {executed : List (Executed α)}
    (h : runActions act cfg mem (p :: ps) x = .ok (executed, x')) :
    ∃ first rest y, runAction act cfg mem p x = .ok (first, y) ∧
      runActions act cfg mem ps y = .ok (rest, x') ∧ executed = first ++ rest := by
  rw [runActions] at h
  split at h
  · cases h
  · next first y hfirst =>
    split at h
    · cases h
    · next rest z hrest =>
      cases h
      exact ⟨first, rest, y, hfirst, hrest, rfl⟩

/-- What every action preserves is preserved by a whole queue. -/
lemma runActions_invariant (I : TxFields × τ → Prop) {act : DeferredState.Act α τ}
    {mem : Addr → UInt8} {ps : List Pending}
    (step : ∀ p ∈ ps, ∀ action x x', actionOf cfg p.type = some action → I x →
      act action (fun i => mem (p.packet + i)) x = .ok x' → I x')
    {x x' : TxFields × τ} {executed : List (Executed α)}
    (h : runActions act cfg mem ps x = .ok (executed, x')) (hx : I x) : I x' := by
  induction ps generalizing x executed with
  | nil =>
    cases h
    exact hx
  | cons p ps ih =>
    obtain ⟨first, rest, y, hfirst, hrest, -⟩ := runActions_cons_eq_ok h
    apply ih (fun q hq => step q (List.mem_cons_of_mem p hq)) hrest
    obtain ⟨-, -, rfl⟩ | ⟨action, haction, -, hact⟩ := runAction_eq_ok hfirst
    · exact hx
    · exact step p List.mem_cons_self action x y haction hx hact

/-- The state with the first packet of type `t` taken from its ring. -/
def takePacket (s : DeferredState α τ) (t : Fin PACKET_TYPE_MAX) : DeferredState α τ :=
  ⟨⟨s.handler.toDeferredFields.setInfo t (s.handler.packetInfos t).get, s.handler.baseHandler⟩,
    s.mem, s.env⟩

/-- Taking a packet from its ring leaves the free buffers free. -/
lemma Claims.get {d : DeferredFields α} {op : Fin PACKET_TYPE_MAX} {packet : Addr}
    (hc : Claims cfg d op packet) (t : Fin PACKET_TYPE_MAX) :
    Claims cfg (d.setInfo t (d.packetInfos t).get) op packet := by
  obtain ⟨i, hi, hroom, hcell⟩ := hc
  by_cases ht : op = t
  · subst ht
    refine ⟨i, hi, ?_, ?_⟩ <;> rw [d.setInfo_self]
    · simp only [DeferredPacketOps.get, bufferGet]
      omega
    · exact hcell
  · refine ⟨i, hi, ?_, ?_⟩ <;> rw [d.setInfo_of_ne ht]
    · exact hroom
    · exact hcell

variable {s : DeferredState α τ} {pnum : Int} {p : Pending} {ps : List Pending}

/-- The first pending packet passes the assertion and is handed to its action. -/
lemma processPacket_queued (hvalid : ValidInstalls cfg) (act : DeferredState.Act α τ)
    (hq : Queued cfg s.handler.toDeferredFields s.mem pnum (p :: ps)) :
    DeferredState.processPacket act pnum s =
      match runAction act cfg s.mem p (s.handler.baseHandler.toTxFields, s.env) with
      | .error e => .error e
      | .ok (executed, x) => .ok (executed, takePacket (s.setProgram x) p.type) := by
  obtain ⟨i, payload, hi, hbytes, hlen, hread⟩ := hq.stored p List.mem_cons_self
  have hinfo := hq.info p.type i hi
  have hpacket : s.handler.pendingPackets pnum = p.packet := by
    have := hq.pending 0 (by simp)
    simpa using this
  have htype : (s.mem p.packet).toNat = p.type := by
    rw [hbytes] at hread
    rw [Bytes.head_of_read_eq_cons hread]
    have := p.type.isLt
    simp only [PACKET_TYPE_MAX] at this
    simp only [UInt8.toNat_ofNat']
    omega
  obtain ⟨packet, hbuffer, hcell⟩ := hinfo.packetBuffer (hvalid.buffers p.type i hi).2
    hinfo.holds.start_nonneg hinfo.holds.start_lt
  have hhead : packet = p.packet := by
    rw [ofType_cons_self] at hinfo
    have hfirst := hinfo.holds.head rfl
    rw [hcell] at hfirst
    exact Option.some.inj hfirst
  subst hhead
  have haction : (s.handler.packetInfos p.type).deferredAction = actionOf cfg p.type := by
    rw [hinfo.action, actionOf, hi]
    rfl
  simp only [DeferredState.processPacket, hpacket, infoIndex_eq htype, hbuffer, ne_eq,
    not_true_eq_false, if_false, DeferredState.callAction, haction, runAction]
  cases actionOf cfg p.type with
  | none => rfl
  | some action =>
    simp only
    cases act action (fun i => s.mem (p.packet + i)) (s.handler.baseHandler.toTxFields, s.env) with
    | error e => rfl
    | ok x => rfl

/-- The loop calls the actions of the whole queue and leaves it empty. -/
lemma processLoop_queued (hvalid : ValidInstalls cfg) (act : DeferredState.Act α τ)
    (hq : Queued cfg s.handler.toDeferredFields s.mem pnum ps) :
    match runActions act cfg s.mem ps (s.handler.baseHandler.toTxFields, s.env) with
    | .error e => DeferredState.processLoop act s pnum ps.length = .error e
    | .ok (executed, x) => ∃ s', DeferredState.processLoop act s pnum ps.length = .ok (executed, s') ∧
        Queued cfg s'.handler.toDeferredFields s.mem (pnum + ps.length) [] ∧
        DeferredFields.operations s'.handler.packetInfos =
          DeferredFields.operations s.handler.packetInfos ∧
        (∀ op packet, Claims cfg s.handler.toDeferredFields op packet →
          Claims cfg s'.handler.toDeferredFields op packet) ∧
        s'.handler.baseHandler = { s.handler.baseHandler with toTxFields := x.1 } ∧
        s'.mem = s.mem ∧ s'.env = x.2 := by
  induction ps generalizing s pnum with
  | nil =>
    refine ⟨s, rfl, ?_, rfl, fun _ _ h => h, rfl, rfl, rfl⟩
    simpa using hq
  | cons p ps ih =>
    simp only [runActions, List.length_cons, DeferredState.processLoop,
      processPacket_queued hvalid act hq]
    cases hrun : runAction act cfg s.mem p (s.handler.baseHandler.toTxFields, s.env) with
    | error e => rfl
    | ok r =>
      obtain ⟨executed, x⟩ := r
      have hq' : Queued cfg (takePacket (s.setProgram x) p.type).handler.toDeferredFields s.mem
          (pnum + 1) ps := hq.get
      have hrest := ih (s := takePacket (s.setProgram x) p.type) hq'
      have hprogram : ((takePacket (s.setProgram x) p.type).handler.baseHandler.toTxFields,
          (takePacket (s.setProgram x) p.type).env) = x := rfl
      have hmem : (takePacket (s.setProgram x) p.type).mem = s.mem := rfl
      rw [hprogram, hmem] at hrest
      simp only
      cases hruns : runActions act cfg s.mem ps x with
      | error e =>
        rw [hruns] at hrest
        simp only at hrest ⊢
        rw [hrest]
      | ok r' =>
        obtain ⟨executed', x'⟩ := r'
        rw [hruns] at hrest
        simp only at hrest ⊢
        obtain ⟨s', hloop, hempty, hops, hclaims, hbase, hmem', henv⟩ := hrest
        rw [hloop]
        have hcast : pnum + 1 + (ps.length : Int) = pnum + ((ps.length + 1 : Nat) : Int) := by
          omega
        rw [hcast] at hempty
        refine ⟨s', rfl, hempty, ?_, ?_, hbase, hmem', henv⟩
        · rw [hops]
          exact operations_update _ p.type rfl rfl rfl
        · intro op packet hc
          exact hclaims op packet (hc.get p.type)

/-- Processing runs the actions of the pending packets and empties the queue; a frame under
reception is not affected. -/
theorem DeferredRep.process (hvalid : ValidInstalls cfg) (act : DeferredState.Act α τ)
    {ph : Phase (Fin PACKET_TYPE_MAX)} (h : DeferredRep cfg s ph ps) :
    match runActions act cfg s.mem ps (s.handler.baseHandler.toTxFields, s.env) with
    | .error e => s.processPendingPackets act = .error e
    | .ok (executed, x) => ∃ s', s.processPendingPackets act = .ok (executed, s') ∧
        DeferredRep cfg s' ph [] ∧
        DeferredFields.operations s'.handler.packetInfos =
          DeferredFields.operations s.handler.packetInfos ∧
        s'.handler.baseHandler.toTxFields = x.1 ∧ s'.mem = s.mem ∧ s'.env = x.2 := by
  have hcount : s.handler.pendingPacketsSize.toNat = ps.length := by
    have := h.size
    omega
  have hloop := processLoop_queued hvalid act h.queued
  simp only [DeferredState.processPendingPackets, hcount]
  cases hrun : runActions act cfg s.mem ps (s.handler.baseHandler.toTxFields, s.env) with
  | error e =>
    rw [hrun] at hloop
    simp only at hloop ⊢
    rw [hloop]
  | ok r =>
    obtain ⟨executed, x⟩ := r
    rw [hrun] at hloop
    simp only at hloop ⊢
    obtain ⟨s', hloop, hempty, hops, hclaims, hbase, hmem, henv⟩ := hloop
    rw [hloop]
    refine ⟨_, rfl, ⟨?_, ?_, rfl, by simp, ?_, ?_⟩, hops, ?_, hmem, henv⟩
    · intro t
      simp only [hbase]
      exact h.operations t
    · refine ⟨hempty.info, by simp, by simp⟩
    · simp only [hbase, hmem, hops]
      exact h.rep.congr x.1 _
    · intro op packet hbuffer
      exact hclaims op packet (h.slot op packet hbuffer)
    · simp only [hbase]

end Orazio.Proofs
