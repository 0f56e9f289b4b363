import Orazio.Proofs.Resync

/-!
# Packets that nobody sent

A receiver that refuses a frame goes back to the scanner in the middle of it, and payload bytes
are not escaped. `leftover` says which bytes of a frame the scanner is left with, `scan` is the
scanner alone. No byte is taken for the beginning of a frame that was not sent exactly if the
scanner finds no pair of sync bytes in what it is left with.
-/

namespace Orazio.Proofs

variable {ρ ρ' σ : Type}

/-- The scanner for the sync bytes, `pending` behind a 0xAA it takes for the first of them. It
answers `none` when it takes a 0x55 for the second. -/
def scan : Bool → List UInt8 → Option Bool
  | pending, [] => some pending
  | false, c :: cs => scan (c == 0xAA) cs
  | true, c :: cs => if c = 0x55 then none else scan false cs

/-- The operation installed for a type byte. -/
def lookup (operations : Fin PACKET_TYPE_MAX → Option ρ) (type : UInt8) : Option ρ :=
  if ht : type.toNat < PACKET_TYPE_MAX then operations ⟨type.toNat, ht⟩ else none

/-- The bytes of a frame that a receiver between two frames leaves to the scanner, and the world
behind the frame: it misses the sync bytes if it is `pending`, and gives the frame up behind an
unknown type, behind a wrong size or behind the size if there is no buffer. -/
def leftover (ops : ρ → PacketOperations σ) (operations : Fin PACKET_TYPE_MAX → Option ρ)
    (pending : Bool) (w : World σ) (p : PacketBytes) : Except Fault (List UInt8 × World σ) :=
  if pending then .ok ((frame (packetOf p)).drop 2, w)
  else
    match lookup operations (p 0) with
    | none => .ok ((frame (packetOf p)).drop 3, w)
    | some op =>
      if (ops op).size ≠ p 1 then .ok ((frame (packetOf p)).drop 4, w)
      else
        match (ops op).initializeBufferFn (ops op).type (ops op).size w with
        | .error e => .error e
        | .ok (none, w) => .ok ((frame (packetOf p)).drop 4, w)
        | .ok (some packet, w) =>
          match (ops op).onReceiveFn with
          | none => .ok ([], storeAll w packet (packetOf p))
          | some onReceive =>
            match onReceive packet (storeAll w packet (packetOf p)) with
            | .error e => .error e
            | .ok w => .ok ([], w)

/-- The scanner takes no bytes that the frames leave to it for the sync bytes. -/
def NoSyncPairLeft (ops : ρ → PacketOperations σ) (operations : Fin PACKET_TYPE_MAX → Option ρ) :
    Bool → World σ → List PacketBytes → Prop
  | _, _, [] => True
  | pending, w, p :: packets =>
    match leftover ops operations pending w p with
    | .error _ => True
    | .ok (left, w') =>
      match scan false left with
      | none => False
      | some pending' => NoSyncPairLeft ops operations pending' w' packets

/-- Every installed operation has the type it is installed for and a fixed size. -/
def FixedSizes (ops : ρ → PacketOperations σ) (operations : Fin PACKET_TYPE_MAX → Option ρ) : Prop :=
  ∀ t op, operations t = some op → (ops op).type.toNat = t ∧ (ops op).size ≠ PACKET_SIZE_ANY

/-- The frame of the packet begins behind the first `n` bytes. -/
def FrameAt (packets : List PacketBytes) (n : Nat) (p : PacketBytes) : Prop :=
  ∃ before after, packets = before ++ p :: after ∧
    n = (before.flatMap fun q => frame (packetOf q)).length

/-- Sync bytes are only recognised where a frame begins, and what is handed to `on_receive_fn` is
the packet of a frame that ends there. -/
structure NoPhantoms (operations : Fin PACKET_TYPE_MAX → Option ρ) (packets : List PacketBytes)
    (events : List (RxEvent ρ)) : Prop where
  synced : ∀ i e, events[i]? = some e → e.status = .sync55 → ∃ n p, FrameAt packets n p ∧ i = n + 1
  received : ∀ i e r, events[i]? = some e → e.received = some r →
    ∃ n p, FrameAt packets n p ∧ i + 1 = n + (frame (packetOf p)).length ∧ ReceivedAs operations r p

/-- The same for the events of a single frame. -/
structure OwnFrame (operations : Fin PACKET_TYPE_MAX → Option ρ) (p : PacketBytes)
    (events : List (RxEvent ρ)) : Prop where
  synced : ∀ i e, events[i]? = some e → e.status = .sync55 → i = 1
  received : ∀ i e r, events[i]? = some e → e.received = some r →
    i + 1 = (frame (packetOf p)).length ∧ ReceivedAs operations r p

/-- The scanner is hunting, or pending behind a 0xAA. -/
def Scanning (pending : Bool) (h : PacketHandler ρ) : Prop :=
  h.rxFn = if pending then .rx55 else .rxAA

lemma frameAt_cons {p q : PacketBytes} {packets : List PacketBytes} {n : Nat} :
    FrameAt (p :: packets) n q ↔
      (q = p ∧ n = 0) ∨ ∃ m, FrameAt packets m q ∧ n = (frame (packetOf p)).length + m := by
  constructor
  · rintro ⟨before, after, hsplit, hn⟩
    cases before with
    | nil =>
      cases hsplit
      exact .inl ⟨rfl, hn⟩
    | cons b before =>
      cases hsplit
      refine .inr ⟨_, ⟨before, after, rfl, rfl⟩, ?_⟩
      rw [hn, List.flatMap_cons, List.length_append]
  · rintro (⟨rfl, rfl⟩ | ⟨m, ⟨before, after, rfl, rfl⟩, rfl⟩)
    · exact ⟨[], packets, rfl, rfl⟩
    · refine ⟨p :: before, after, rfl, ?_⟩
      rw [List.flatMap_cons, List.length_append]

lemma noPhantoms_nil (operations : Fin PACKET_TYPE_MAX → Option ρ) : NoPhantoms operations [] [] where
  synced := by simp
  received := by simp

/-- Frame by frame. -/
lemma noPhantoms_cons {operations : Fin PACKET_TYPE_MAX → Option ρ} {p : PacketBytes}
    {packets : List PacketBytes} {es₁ es₂ : List (RxEvent ρ)}
    (hlen : es₁.length = (frame (packetOf p)).length) :
    NoPhantoms operations (p :: packets) (es₁ ++ es₂) ↔
      OwnFrame operations p es₁ ∧ NoPhantoms operations packets es₂ := by
  have hthree : 3 ≤ es₁.length := by
    rw [hlen, length_frame]
    omega
  constructor
  · intro h
    refine ⟨⟨?_, ?_⟩, ⟨?_, ?_⟩⟩
    · intro i e he hstatus
      have hi := (List.getElem?_eq_some_iff.mp he).1
      obtain ⟨n, q, hat, hn⟩ := h.synced i e (by rw [List.getElem?_append_left hi, he]) hstatus
      rcases frameAt_cons.mp hat with ⟨-, rfl⟩ | ⟨m, -, rfl⟩ <;> omega
    · intro i e r he hr
      have hi := (List.getElem?_eq_some_iff.mp he).1
      obtain ⟨n, q, hat, hn, has⟩ := h.received i e r (by rw [List.getElem?_append_left hi, he]) hr
      have hq := length_frame (packetOf q)
      rcases frameAt_cons.mp hat with ⟨rfl, rfl⟩ | ⟨m, -, rfl⟩
      · exact ⟨by omega, has⟩
      · omega
    · intro i e he hstatus
      obtain ⟨n, q, hat, hn⟩ := h.synced (es₁.length + i) e (by
        rw [List.getElem?_append_right (by omega), Nat.add_sub_cancel_left, he]) hstatus
      rcases frameAt_cons.mp hat with ⟨-, rfl⟩ | ⟨m, hm, rfl⟩
      · omega
      · exact ⟨m, q, hm, by omega⟩
    · intro i e r he hr
      obtain ⟨n, q, hat, hn, has⟩ := h.received (es₁.length + i) e r (by
        rw [List.getElem?_append_right (by omega), Nat.add_sub_cancel_left, he]) hr
      rcases frameAt_cons.mp hat with ⟨rfl, rfl⟩ | ⟨m, hm, rfl⟩
      · omega
      · exact ⟨m, q, hm, by omega, has⟩
  · rintro ⟨hown, hrest⟩
    refine ⟨?_, ?_⟩
    · intro i e he hstatus
      by_cases hi : i < es₁.length
      · rw [List.getElem?_append_left hi] at he
        exact ⟨0, p, frameAt_cons.mpr (.inl ⟨rfl, rfl⟩), hown.synced i e he hstatus⟩
      · rw [List.getElem?_append_right (by omega)] at he
        obtain ⟨m, q, hat, hm⟩ := hrest.synced _ e he hstatus
        exact ⟨_, q, frameAt_cons.mpr (.inr ⟨m, hat, rfl⟩), by omega⟩
    · intro i e r he hr
      by_cases hi : i < es₁.length
      · rw [List.getElem?_append_left hi] at he
        obtain ⟨hend, has⟩ := hown.received i e r he hr
        exact ⟨0, p, frameAt_cons.mpr (.inl ⟨rfl, rfl⟩), by omega, has⟩
      · rw [List.getElem?_append_right (by omega)] at he
        obtain ⟨m, q, hat, hm, has⟩ := hrest.received _ e r he hr
        exact ⟨_, q, frameAt_cons.mpr (.inr ⟨m, hat, rfl⟩), by omega, has⟩

variable {ops : ρ → PacketOperations σ} {s s' : PacketHandler ρ × World σ}

/-! ### Scanning -/

lemma rxStep_hunting (ops : ρ → PacketOperations σ) (hs : s.1.rxFn = .rxAA) (c : UInt8) :
    ∃ e h', rxStep ops s c = .ok (e, (h', s.2)) ∧ e.received = none ∧ e.status ≠ .sync55 ∧
      Scanning (c == 0xAA) h' ∧ h'.operations = s.1.operations := by
  refine ⟨⟨(s.1.rxAA c).1, none⟩, (s.1.rxAA c).2, ?_, rfl, ?_⟩
  · simp only [rxStep, PacketHandler.rxByte, hs]
  · unfold PacketHandler.rxAA
    by_cases hc : c = 0xAA
    · rw [if_pos hc]
      exact ⟨by simp, by simp [Scanning, hc], rfl⟩
    · rw [if_neg hc]
      exact ⟨by simp, by simpa [Scanning, hc] using hs, rfl⟩

lemma rxStep_pending (ops : ρ → PacketOperations σ) (hs : s.1.rxFn = .rx55) {c : UInt8} (hc : c ≠ 0x55) :
    ∃ h', rxStep ops s c = .ok (⟨.unsync, none⟩, (h', s.2)) ∧ Scanning false h' ∧
      h'.operations = s.1.operations := by
  refine ⟨{ s.1 with rxFn := .rxAA }, ?_, rfl, rfl⟩
  simp only [rxStep, PacketHandler.rxByte, hs, PacketHandler.rx55, if_neg hc]

lemma rxStep_sync (ops : ρ → PacketOperations σ) (hs : s.1.rxFn = .rx55) :
    ∃ h', rxStep ops s 0x55 = .ok (⟨.sync55, none⟩, (h', s.2)) ∧ h'.rxFn = .rxType ∧
      h'.operations = s.1.operations := by
  refine ⟨{ s.1 with rxFn := .rxType, rxChecksum := 0 }, ?_, rfl, rfl⟩
  simp only [rxStep, PacketHandler.rxByte, hs, PacketHandler.rx55, if_pos]

/-- Bytes in which the scanner finds no sync bytes deliver nothing. -/
lemma run_scan {pending pending' : Bool} (hs : Scanning pending s.1) {left : List UInt8}
    (hscan : scan pending left = some pending') {events : List (RxEvent ρ)}
    (hrun : StepMachine.run (rxStep ops) s left = .ok (events, s')) :
    (∀ e ∈ events, e.received = none ∧ e.status ≠ .sync55) ∧ Scanning pending' s'.1 ∧
      s'.1.operations = s.1.operations ∧ s'.2 = s.2 := by
  induction left generalizing s pending events with
  | nil =>
    cases hrun
    cases pending <;> cases hscan <;> exact ⟨by simp, hs, rfl, rfl⟩
  | cons c left ih =>
    obtain ⟨e, s₁, es, hstep, hrest, rfl⟩ := StepMachine.run_cons_eq_ok.mp hrun
    cases pending with
    | false =>
      obtain ⟨e', h', hstep', hnone, hstatus, hs', hops⟩ := rxStep_hunting ops hs c
      rw [hstep'] at hstep
      cases hstep
      obtain ⟨hes, hend, hops', hworld⟩ := ih hs' hscan hrest
      exact ⟨List.forall_mem_cons.mpr ⟨⟨hnone, hstatus⟩, hes⟩, hend, hops'.trans hops, hworld⟩
    | true =>
      by_cases hc : c = 0x55
      · rw [scan, if_pos hc] at hscan
        cases hscan
      · rw [scan, if_neg hc] at hscan
        obtain ⟨h', hstep', hs', hops⟩ := rxStep_pending ops hs hc
        rw [hstep'] at hstep
        cases hstep
        obtain ⟨hes, hend, hops', hworld⟩ := ih hs' hscan hrest
        exact ⟨List.forall_mem_cons.mpr ⟨⟨rfl, by simp⟩, hes⟩, hend, hops'.trans hops, hworld⟩

/-- Bytes in which the scanner finds the sync bytes begin a frame of their own. -/
lemma run_scan_none {pending : Bool} (hs : Scanning pending s.1) {left : List UInt8}
    (hscan : scan pending left = none) {events : List (RxEvent ρ)}
    (hrun : StepMachine.run (rxStep ops) s left = .ok (events, s')) :
    ∃ e ∈ events, e.status = .sync55 := by
  induction left generalizing s pending events with
  | nil => cases pending <;> cases hscan
  | cons c left ih =>
    obtain ⟨e, s₁, es, hstep, hrest, rfl⟩ := StepMachine.run_cons_eq_ok.mp hrun
    cases pending with
    | false =>
      obtain ⟨e', h', hstep', -, -, hs', -⟩ := rxStep_hunting ops hs c
      rw [hstep'] at hstep
      cases hstep
      obtain ⟨e, he, hsync⟩ := ih hs' hscan hrest
      exact ⟨e, List.mem_cons_of_mem _ he, hsync⟩
    | true =>
      by_cases hc : c = 0x55
      · obtain ⟨h', hstep', -, -⟩ := rxStep_sync ops hs
        rw [hc, hstep'] at hstep
        cases hstep
        exact ⟨_, List.mem_cons_self, rfl⟩
      · rw [scan, if_neg hc] at hscan
        obtain ⟨h', hstep', hs', -⟩ := rxStep_pending ops hs hc
        rw [hstep'] at hstep
        cases hstep
        obtain ⟨e, he, hsync⟩ := ih hs' hscan hrest
        exact ⟨e, List.mem_cons_of_mem _ he, hsync⟩

/-! ### One frame -/

/-- A frame was read: it left `left` to the scanner and the world `w`. -/
def FrameRead (operations : Fin PACKET_TYPE_MAX → Option ρ) (p : PacketBytes) (left : List UInt8)
    (w : World σ) (events : List (RxEvent ρ)) (s' : PacketHandler ρ × World σ) : Prop :=
  match scan false left with
  | some pending => OwnFrame operations p events ∧ Scanning pending s'.1 ∧
      s'.1.operations = operations ∧ s'.2 = w
  | none => ¬OwnFrame operations p events

/-- The answers to the first bytes of a frame: no packet, sync bytes at most in front. -/
def Opening (events : List (RxEvent ρ)) : Prop :=
  2 ≤ events.length ∧
    ∀ i e, events[i]? = some e → e.received = none ∧ (e.status = .sync55 → i = 1)

/-- A frame is read if the receiver hunts again behind its first bytes. -/
lemma frameRead_of_hunting {operations : Fin PACKET_TYPE_MAX → Option ρ} {p : PacketBytes}
    {head left : List UInt8} {es₁ events : List (RxEvent ρ)} {h₁ : PacketHandler ρ} {w : World σ}
    (hopening : Opening es₁) (hhead : StepMachine.run (rxStep ops) s head = .ok (es₁, (h₁, w)))
    (hhunt : h₁.rxFn = .rxAA) (hops : h₁.operations = operations)
    (hrun : StepMachine.run (rxStep ops) s (head ++ left) = .ok (events, s')) :
    FrameRead operations p left w events s' := by
  obtain ⟨hlen, hfirst⟩ := hopening
  obtain ⟨es, s₁, es₂, hhead', hleft, rfl⟩ := StepMachine.run_append_eq_ok.mp hrun
  rw [hhead] at hhead'
  cases hhead'
  have hscanning : Scanning false h₁ := hhunt
  unfold FrameRead
  cases hscan : scan false left with
  | some pending =>
    obtain ⟨hes, hend, hops', hworld⟩ := run_scan (s := (h₁, w)) hscanning hscan hleft
    refine ⟨⟨?_, ?_⟩, hend, hops'.trans hops, hworld⟩
    · intro i e he hstatus
      by_cases hi : i < es₁.length
      · rw [List.getElem?_append_left hi] at he
        exact (hfirst i e he).2 hstatus
      · rw [List.getElem?_append_right (by omega)] at he
        exact absurd hstatus (hes e (List.mem_of_getElem? he)).2
    · intro i e r he hr
      have hnone : e.received = none := by
        by_cases hi : i < es₁.length
        · rw [List.getElem?_append_left hi] at he
          exact (hfirst i e he).1
        · rw [List.getElem?_append_right (by omega)] at he
          exact (hes e (List.mem_of_getElem? he)).1
      rw [hnone] at hr
      cases hr
  | none =>
    intro hown
    obtain ⟨e, he, hsync⟩ := run_scan_none (s := (h₁, w)) hscanning hscan hleft
    obtain ⟨j, hj⟩ := List.mem_iff_getElem?.mp he
    have hindex := hown.synced (es₁.length + j) e (by
      rw [List.getElem?_append_right (by omega), Nat.add_sub_cancel_left, hj]) hsync
    omega

/-- Two sync bytes in front of a hunting receiver. -/
lemma run_sync (ops : ρ → PacketOperations σ) (hs : s.1.rxFn = .rxAA) :
    ∃ h', StepMachine.run (rxStep ops) s [0xAA, 0x55] =
        .ok ([⟨.syncAA, none⟩, ⟨.sync55, none⟩], (h', s.2)) ∧
      h'.rxFn = .rxType ∧ h'.operations = s.1.operations := by
  refine ⟨{ s.1 with rxFn := .rxType, rxChecksum := 0 }, ?_, rfl, rfl⟩
  simp [StepMachine.run, rxStep, PacketHandler.rxByte, hs, PacketHandler.rxAA, PacketHandler.rx55]

/-- Two sync bytes in front of a receiver that takes another 0xAA for the first of them. -/
lemma run_missed (ops : ρ → PacketOperations σ) (hs : s.1.rxFn = .rx55) :
    ∃ h', StepMachine.run (rxStep ops) s [0xAA, 0x55] =
        .ok ([⟨.unsync, none⟩, ⟨.unsync, none⟩], (h', s.2)) ∧
      h'.rxFn = .rxAA ∧ h'.operations = s.1.operations := by
  refine ⟨{ s.1 with rxFn := .rxAA, rxChecksum := 0 }, ?_, rfl, rfl⟩
  simp [StepMachine.run, rxStep, PacketHandler.rxByte, hs, PacketHandler.rxAA, PacketHandler.rx55]

lemma rxStep_unknownType (ops : ρ → PacketOperations σ) (hs : s.1.rxFn = .rxType) {c : UInt8}
    (hc : lookup s.1.operations c = none) :
    ∃ status h', rxStep ops s c = .ok (⟨status, none⟩, (h', s.2)) ∧ status ≠ .sync55 ∧
      h'.rxFn = .rxAA ∧ h'.operations = s.1.operations := by
  refine ⟨(s.1.rxType c).1, (s.1.rxType c).2, ?_, ?_⟩
  · simp only [rxStep, PacketHandler.rxByte, hs]
  · unfold lookup at hc
    unfold PacketHandler.rxType
    by_cases hlt : c.toNat < PACKET_TYPE_MAX
    · rw [dif_pos hlt] at hc
      simp [dif_pos hlt, hc]
    · rw [dif_neg hlt]
      exact ⟨by simp, rfl, rfl⟩

lemma rxStep_knownType (ops : ρ → PacketOperations σ) (hs : s.1.rxFn = .rxType) {c : UInt8} {op : ρ}
    (hc : lookup s.1.operations c = some op) :
    ∃ h', rxStep ops s c = .ok (⟨.syncType, none⟩, (h', s.2)) ∧ h'.rxFn = .rxSize ∧
      h'.rxCurrentOp = some op ∧ h'.operations = s.1.operations := by
  unfold lookup at hc
  by_cases hlt : c.toNat < PACKET_TYPE_MAX
  · rw [dif_pos hlt] at hc
    refine ⟨(s.1.rxType c).2, ?_, ?_⟩
    · simp only [rxStep, PacketHandler.rxByte, hs, PacketHandler.rxType, dif_pos hlt, hc]
    · simp [PacketHandler.rxType, dif_pos hlt, hc]
  · rw [dif_neg hlt] at hc
    cases hc

lemma rxStep_wrongSize (hs : s.1.rxFn = .rxSize) {op : ρ} (hop : s.1.rxCurrentOp = some op)
    (hfix : (ops op).size ≠ PACKET_SIZE_ANY) {c : UInt8} (hc : (ops op).size ≠ c) :
    ∃ h', rxStep ops s c = .ok (⟨.invalidSize, none⟩, (h', s.2)) ∧ h'.rxFn = .rxAA ∧
      h'.operations = s.1.operations := by
  refine ⟨{ s.1 with rxFn := .rxAA }, ?_, rfl, rfl⟩
  simp only [rxStep, PacketHandler.rxByte, hs, PacketHandler.rxSize, hop, if_pos (And.intro hfix hc)]

lemma rxStep_noBuffer (hs : s.1.rxFn = .rxSize) {op : ρ} (hop : s.1.rxCurrentOp = some op)
    {w' : World σ}
    (hinit : (ops op).initializeBufferFn (ops op).type (ops op).size s.2 = .ok (none, w')) :
    ∃ h', rxStep ops s (ops op).size = .ok (⟨.rxBufferError, none⟩, (h', w')) ∧ h'.rxFn = .rxAA ∧
      h'.operations = s.1.operations := by
  have hsize : ¬((ops op).size ≠ PACKET_SIZE_ANY ∧ (ops op).size ≠ (ops op).size) := by simp
  refine ⟨{ s.1 with rxCurrentPacket := none, rxFn := .rxAA }, ?_, rfl, rfl⟩
  simp only [rxStep, PacketHandler.rxByte, hs, PacketHandler.rxSize, hop, if_neg hsize, hinit]

/-- The callback fails, and so does the receiver. -/
lemma rxStep_bufferFault (hs : s.1.rxFn = .rxSize) {op : ρ} (hop : s.1.rxCurrentOp = some op)
    {f : Fault} (hinit : (ops op).initializeBufferFn (ops op).type (ops op).size s.2 = .error f) :
    rxStep ops s (ops op).size = .error f := by
  have hsize : ¬((ops op).size ≠ PACKET_SIZE_ANY ∧ (ops op).size ≠ (ops op).size) := by simp
  simp only [rxStep, PacketHandler.rxByte, hs, PacketHandler.rxSize, hop, if_neg hsize, hinit]

/-- The bytes up to a known type in front of a hunting receiver. -/
lemma run_knownType (ops : ρ → PacketOperations σ) (hs : s.1.rxFn = .rxAA) {c : UInt8} {op : ρ}
    (hc : lookup s.1.operations c = some op) :
    ∃ h', StepMachine.run (rxStep ops) s [0xAA, 0x55, c] =
        .ok ([⟨.syncAA, none⟩, ⟨.sync55, none⟩, ⟨.syncType, none⟩], (h', s.2)) ∧
      h'.rxFn = .rxSize ∧ h'.rxCurrentOp = some op ∧ h'.operations = s.1.operations := by
  obtain ⟨h₁, hsync, hfn₁, hops₁⟩ := run_sync ops hs
  rw [← hops₁] at hc
  obtain ⟨h₂, hstep, hfn₂, hop₂, hops₂⟩ := rxStep_knownType ops (s := (h₁, s.2)) hfn₁ hc
  exact ⟨h₂, StepMachine.run_concat_eq_ok.mpr ⟨_, _, _, hsync, hstep, rfl⟩, hfn₂, hop₂,
    hops₂.trans hops₁⟩

lemma opening_sync (status₁ status₂ : PacketStatus) (hfirst : status₁ ≠ .sync55)
    (rest : List (RxEvent ρ)) (hrest : ∀ e ∈ rest, e.received = none ∧ e.status ≠ .sync55) :
    Opening (⟨status₁, none⟩ :: ⟨status₂, none⟩ :: rest) := by
  refine ⟨by simp, ?_⟩
  intro i e he
  match i with
  | 0 =>
    cases he
    exact ⟨rfl, fun h => absurd h hfirst⟩
  | 1 =>
    cases he
    exact ⟨rfl, fun _ => rfl⟩
  | i + 2 =>
    obtain ⟨hnone, hstatus⟩ := hrest e (List.mem_of_getElem? he)
    exact ⟨hnone, fun h => absurd h hstatus⟩

/-- A frame that was read to its end. -/
lemma ownFrame_of_payload {operations : Fin PACKET_TYPE_MAX → Option ρ} {p : PacketBytes}
    {es : List (RxEvent ρ)} (hes : ∀ e ∈ es, InPayload e) {received : Option (PacketHandler.Received ρ)}
    (hlen : es.length + 5 = (frame (packetOf p)).length)
    (hreceived : ∀ r, received = some r → ReceivedAs operations r p) :
    OwnFrame operations p ((headerEvents ρ ++ es) ++ [⟨.syncChecksum, received⟩]) := by
  have hopening : Opening (headerEvents ρ ++ es) := by
    refine opening_sync _ _ (by simp) (_ :: _ :: es) ?_
    intro e he
    rcases List.mem_cons.mp he with rfl | he
    · exact ⟨rfl, by simp⟩
    rcases List.mem_cons.mp he with rfl | he
    · exact ⟨rfl, by simp⟩
    · obtain ⟨hnone, hstatus | hstatus⟩ := hes e he
      · exact ⟨hnone, by rw [hstatus]; simp⟩
      · exact ⟨hnone, by rw [hstatus]; simp⟩
  have hcount : (headerEvents ρ ++ es).length = es.length + 4 := by
    simp only [headerEvents, List.length_append, List.length_cons, List.length_nil]
    omega
  constructor
  · intro i e he hstatus
    rcases (getElem?_concat_iff _ _ i (· = e)).mp ⟨e, he, rfl⟩ with ⟨e', he', rfl⟩ | ⟨-, rfl⟩
    · exact (hopening.2 i e' he').2 hstatus
    · cases hstatus
  · intro i e r he hr
    rcases (getElem?_concat_iff _ _ i (· = e)).mp ⟨e, he, rfl⟩ with ⟨e', he', rfl⟩ | ⟨hi, rfl⟩
    · rw [(hopening.2 i e' he').1] at hr
      cases hr
    · exact ⟨by omega, hreceived r hr⟩

section Frame

variable {p : PacketBytes} {events : List (RxEvent ρ)}
  (hrun : StepMachine.run (rxStep ops) s (frame (packetOf p)) = .ok (events, s'))
include hrun

lemma frameRead_missed (hs : s.1.rxFn = .rx55) :
    FrameRead s.1.operations p ((frame (packetOf p)).drop 2) s.2 events s' := by
  obtain ⟨h', hhead, hhunt, hops⟩ := run_missed ops hs
  exact frameRead_of_hunting (opening_sync _ _ (by simp) [] (by simp)) hhead hhunt hops hrun

variable (hs : s.1.rxFn = .rxAA) (hmin : 4 ≤ (p 1).toNat)
include hs hmin

lemma frameRead_unknownType (htype : lookup s.1.operations (p 0) = none) :
    FrameRead s.1.operations p ((frame (packetOf p)).drop 3) s.2 events s' := by
  obtain ⟨payload, hpacket, -⟩ := packetOf_eq_cons p (by omega)
  obtain ⟨h₁, hsync, hfn₁, hops₁⟩ := run_sync ops hs
  rw [← hops₁] at htype
  obtain ⟨status, h₂, hstep, hstatus, hfn₂, hops₂⟩ :=
    rxStep_unknownType ops (s := (h₁, s.2)) hfn₁ htype
  have hhead : StepMachine.run (rxStep ops) s ([0xAA, 0x55] ++ [p 0]) = .ok (_, (h₂, s.2)) :=
    StepMachine.run_concat_eq_ok.mpr ⟨_, _, _, hsync, hstep, rfl⟩
  have hframe : frame (packetOf p) = ([0xAA, 0x55] ++ [p 0]) ++ (frame (packetOf p)).drop 3 := by
    rw [hpacket]
    rfl
  rw [hframe] at hrun
  exact frameRead_of_hunting (opening_sync _ _ (by simp) [_] (by simpa using hstatus)) hhead hfn₂
    (hops₂.trans hops₁) hrun

/-- A frame that is given up behind its size. -/
lemma frameRead_refused {op : ρ} (htype : lookup s.1.operations (p 0) = some op) {w' : World σ}
    (status : PacketStatus) (hstatus : status ≠ .sync55)
    (hsize : ∀ h : PacketHandler ρ, h.rxFn = .rxSize → h.rxCurrentOp = some op →
      ∃ h', rxStep ops (h, s.2) (p 1) = .ok (⟨status, none⟩, (h', w')) ∧ h'.rxFn = .rxAA ∧
        h'.operations = h.operations) :
    FrameRead s.1.operations p ((frame (packetOf p)).drop 4) w' events s' := by
  obtain ⟨payload, hpacket, -⟩ := packetOf_eq_cons p (by omega)
  obtain ⟨h₁, htyped, hfn₁, hop₁, hops₁⟩ := run_knownType ops hs htype
  obtain ⟨h₂, hstep, hfn₂, hops₂⟩ := hsize h₁ hfn₁ hop₁
  have hhead : StepMachine.run (rxStep ops) s ([0xAA, 0x55, p 0] ++ [p 1]) = .ok (_, (h₂, w')) :=
    StepMachine.run_concat_eq_ok.mpr ⟨_, _, _, htyped, hstep, rfl⟩
  have hframe : frame (packetOf p) =
      ([0xAA, 0x55, p 0] ++ [p 1]) ++ (frame (packetOf p)).drop 4 := by
    rw [hpacket]
    rfl
  rw [hframe] at hrun
  exact frameRead_of_hunting (opening_sync _ _ (by simp) [_, _] (by simpa using hstatus)) hhead hfn₂
    (hops₂.trans hops₁) hrun

/-- The callback fails, and so does the receiver. -/
lemma no_bufferFault {op : ρ} (htype : lookup s.1.operations (p 0) = some op)
    (hsize : (ops op).size = p 1) (f : Fault) :
    (ops op).initializeBufferFn (ops op).type (ops op).size s.2 ≠ .error f := by
  intro hinit
  obtain ⟨payload, hpacket, -⟩ := packetOf_eq_cons p (by omega)
  obtain ⟨h₁, htyped, hfn₁, hop₁, -⟩ := run_knownType ops hs htype
  have hfault := rxStep_bufferFault (s := (h₁, s.2)) hfn₁ hop₁ hinit
  have hframe : frame (packetOf p) =
      [0xAA, 0x55, p 0] ++ (p 1 :: (frame (packetOf p)).drop 4) := by
    rw [hpacket]
    rfl
  rw [hframe] at hrun
  obtain ⟨es, s₂, es', hhead, hrest, -⟩ := StepMachine.run_append_eq_ok.mp hrun
  rw [htyped] at hhead
  cases hhead
  obtain ⟨e, s₃, es'', hstep, -, -⟩ := StepMachine.run_cons_eq_ok.mp hrest
  rw [← hsize, hfault] at hstep
  cases hstep

/-- A frame that is read to its end. -/
lemma frameRead_accepted {op : ρ} (hfix : FixedSizes ops s.1.operations)
    (hmax : (p 1).toNat ≤ 253) (htype : lookup s.1.operations (p 0) = some op)
    (hsize : (ops op).size = p 1) {packet : Addr} {w' : World σ}
    (hinit : (ops op).initializeBufferFn (ops op).type (ops op).size s.2 = .ok (some packet, w')) :
    ∃ w, (match (ops op).onReceiveFn with
        | none => w = storeAll w' packet (packetOf p)
        | some onReceive => onReceive packet (storeAll w' packet (packetOf p)) = .ok w) ∧
      FrameRead s.1.operations p [] w events s' := by
  obtain ⟨payload, hpacket, hlen⟩ := packetOf_eq_cons p (by omega)
  obtain ⟨t, ht, hop⟩ : ∃ t : Fin PACKET_TYPE_MAX, (p 0).toNat = t ∧ s.1.operations t = some op := by
    unfold lookup at htype
    by_cases hlt : (p 0).toNat < PACKET_TYPE_MAX
    · rw [dif_pos hlt] at htype
      exact ⟨⟨_, hlt⟩, rfl, htype⟩
    · rw [dif_neg hlt] at htype
      cases htype
  have hfixed : FixedOp ops t op := by
    refine ⟨(hfix t op hop).1, ?_, ?_⟩ <;> rw [hsize] <;> omega
  have hptype : (ops op).type = p 0 := UInt8.toNat_inj.mp (hfixed.type.trans ht.symm)
  have hrep : Rep ops s.1 s.2 .hunt := hs
  obtain ⟨es, h₁, hpre, hrep₁, hops₁, hes, hcount⟩ :=
    run_packet hrep hop hfixed hinit (by rw [hlen, hsize] : payload.length + 2 = _)
  rw [hptype, hsize, ← hpacket] at hpre hrep₁
  have hframe : frame (packetOf p) =
      ([0xAA, 0x55, p 0, p 1] ++ payload) ++ [Bytes.xorSum (packetOf p)] := by
    rw [hpacket]
    rfl
  have hlast : es.length + 5 = (frame (packetOf p)).length := by
    rw [length_frame, hpacket, hcount]
    rfl
  rw [hframe] at hrun
  obtain ⟨es₁, s₁, e, hpre', hstep, rfl⟩ := StepMachine.run_concat_eq_ok.mp hrun
  rw [hpre] at hpre'
  cases hpre'
  obtain ⟨w, hcall⟩ : ∃ w, match (ops op).onReceiveFn with
      | none => w = storeAll w' packet (packetOf p)
      | some onReceive => onReceive packet (storeAll w' packet (packetOf p)) = .ok w := by
    unfold rxStep at hstep
    cases hrx : h₁.rxByte ops (storeAll w' packet (packetOf p)) (Bytes.xorSum (packetOf p)) with
    | error f => simp [hrx] at hstep
    | ok r =>
      obtain ⟨_, w, hw⟩ := worldStep_of_rxByte hrep₁ hrx
      rw [WorldStep, if_pos rfl] at hw
      exact ⟨w, hw⟩
  obtain ⟨h₂, hstep', hrep₂, hops₂⟩ := rxStep_of_worldStep (s := (h₁, _)) (Bytes.xorSum (packetOf p)) none
    (by simp) hrep₁ (by
      rw [WorldStep, if_pos rfl]
      exact hcall)
  rw [hstep'] at hstep
  cases hstep
  refine ⟨w, hcall, ?_, ?_, hops₂.trans hops₁, rfl⟩
  · rw [Phase.next, if_pos rfl]
    apply ownFrame_of_payload hes hlast
    intro r hr
    rw [Phase.delivery, if_pos rfl, Option.map_eq_some_iff] at hr
    obtain ⟨_, -, rfl⟩ := hr
    have hstored := hrep₁.2.1.stored
    rw [length_packetOf] at hstored
    exact ⟨⟨t, hop, ht.symm⟩, hstored⟩
  · rw [Phase.next, if_pos rfl] at hrep₂
    exact hrep₂

/-- What the receiver does with a frame. -/
lemma frameRead_leftover (hfix : FixedSizes ops s.1.operations) (hmax : (p 1).toNat ≤ 253) :
    ∃ left w, leftover ops s.1.operations false s.2 p = .ok (left, w) ∧
      FrameRead s.1.operations p left w events s' := by
  cases htype : lookup s.1.operations (p 0) with
  | none =>
    refine ⟨_, _, ?_, frameRead_unknownType hrun hs hmin htype⟩
    simp [leftover, htype]
  | some op =>
    by_cases hsize : (ops op).size = p 1
    · have hsame : ¬(ops op).size ≠ p 1 := not_not_intro hsize
      cases hinit : (ops op).initializeBufferFn (ops op).type (ops op).size s.2 with
      | error f => exact absurd hinit (no_bufferFault hrun hs hmin htype hsize f)
      | ok answer =>
        obtain ⟨buffer, w'⟩ := answer
        cases buffer with
        | none =>
          refine ⟨_, w', ?_, frameRead_refused hrun hs hmin htype .rxBufferError (by simp) ?_⟩
          · simp [leftover, htype, if_neg hsame, hinit]
          · intro h hfn hop
            rw [← hsize]
            exact rxStep_noBuffer (s := (h, s.2)) hfn hop hinit
        | some packet =>
          obtain ⟨w, hcall, hread⟩ := frameRead_accepted hrun hs hmin hfix hmax htype hsize hinit
          refine ⟨[], w, ?_, hread⟩
          cases hreceive : (ops op).onReceiveFn with
          | none =>
            rw [hreceive] at hcall
            simp [leftover, htype, if_neg hsame, hinit, hreceive, hcall]
          | some onReceive =>
            rw [hreceive] at hcall
            simp [leftover, htype, if_neg hsame, hinit, hreceive, hcall]
    · have hany : (ops op).size ≠ PACKET_SIZE_ANY := by
        unfold lookup at htype
        by_cases hlt : (p 0).toNat < PACKET_TYPE_MAX
        · rw [dif_pos hlt] at htype
          exact (hfix _ op htype).2
        · rw [dif_neg hlt] at htype
          cases htype
      refine ⟨_, s.2, ?_, frameRead_refused hrun hs hmin htype .invalidSize (by simp) ?_⟩
      · simp [leftover, htype, hsize]
      · intro h hfn hop
        exact rxStep_wrongSize (s := (h, s.2)) hfn hop hany hsize

end Frame

/-- Frame by frame, from a receiver between two frames. -/
lemma noPhantoms_iff_of_run {pending : Bool} (hs : Scanning pending s.1)
    (hfix : FixedSizes ops s.1.operations) {packets : List PacketBytes}
    (hsize : ∀ p ∈ packets, 4 ≤ (p 1).toNat ∧ (p 1).toNat ≤ 253) {events : List (RxEvent ρ)}
    (hrun : StepMachine.run (rxStep ops) s (packets.flatMap fun p => frame (packetOf p)) =
      .ok (events, s')) :
    NoPhantoms s.1.operations packets events ↔
      NoSyncPairLeft ops s.1.operations pending s.2 packets := by
  induction packets generalizing s pending events with
  | nil =>
    cases hrun
    exact ⟨fun _ => trivial, fun _ => noPhantoms_nil _⟩
  | cons p packets ih =>
    rw [List.flatMap_cons] at hrun
    obtain ⟨es₁, s₁, es₂, hrun₁, hrun₂, rfl⟩ := StepMachine.run_append_eq_ok.mp hrun
    obtain ⟨hmin, hmax⟩ := hsize p List.mem_cons_self
    obtain ⟨left, w, hleft, hread⟩ : ∃ left w, leftover ops s.1.operations pending s.2 p = .ok (left, w) ∧
        FrameRead s.1.operations p left w es₁ s₁ := by
      cases pending with
      | true => exact ⟨_, _, rfl, frameRead_missed hrun₁ hs⟩
      | false => exact frameRead_leftover hrun₁ hs hmin hfix hmax
    rw [noPhantoms_cons (StepMachine.run_length hrun₁), NoSyncPairLeft, hleft]
    unfold FrameRead at hread
    cases hscan : scan false left with
    | none =>
      rw [hscan] at hread
      simp [hscan, hread]
    | some pending' =>
      rw [hscan] at hread
      obtain ⟨hown, hs₁, hops, rfl⟩ := hread
      have hrest := ih hs₁ (by rw [hops]; exact hfix)
        (fun q hq => hsize q (List.mem_cons_of_mem p hq)) hrun₂
      rw [hops] at hrest
      simp only [hscan, hrest, hown, true_and]

/-- A frame that fits into an empty transmit ring. -/
lemma size_le_of_sent {sender : PacketHandler ρ'} {p : PacketBytes}
    (h : (sender.initializeHandler.sendPacket p).1 = .success) : (p 1).toNat ≤ 253 := by
  by_contra hlarge
  have hfull : BUFFER_SIZE_MAX - sender.initializeHandler.txSize < ((p 1).toNat : Int) + 3 := by
    change (256 : Int) - 0 < _
    omega
  have hrefused : (sender.initializeHandler.sendPacket p).1 = .txBufferFull := by
    simp only [PacketHandler.sendPacket, TxFields.sendPacket, if_pos hfull]
  rw [hrefused] at h
  cases h

/-- The receiver of a concatenation of sent frames begins no frame anywhere else, and delivers
nothing but packets of these frames with their last byte, exactly if the scanner finds no pair of
sync bytes in what refused and missed frames leave to it. -/
theorem no_phantom_packets_iff (ops : ρ → PacketOperations σ) (receiver : PacketHandler ρ)
    (w : World σ) (hhunt : receiver.rxFn = .rxAA) (hfix : FixedSizes ops receiver.operations)
    (sender : PacketHandler ρ') (packets : List PacketBytes)
    (hsent : ∀ p ∈ packets, 4 ≤ (p 1).toNat ∧ (sender.initializeHandler.sendPacket p).1 = .success)
    (events : List (RxEvent ρ)) (s' : PacketHandler ρ × World σ)
    (hrun : StepMachine.run (rxStep ops) (receiver, w) (packets.flatMap (sentFrame sender)) =
      .ok (events, s')) :
    NoPhantoms receiver.operations packets events ↔
      NoSyncPairLeft ops receiver.operations false w packets := by
  have hsize : ∀ p ∈ packets, 4 ≤ (p 1).toNat ∧ (p 1).toNat ≤ 253 := by
    intro p hp
    exact ⟨(hsent p hp).1, size_le_of_sent (hsent p hp).2⟩
  have hstream : packets.flatMap (sentFrame sender) = packets.flatMap fun p => frame (packetOf p) := by
    apply List.flatMap_congr
    intro p hp
    exact sentFrame_eq sender (hsize p hp).2
  rw [hstream] at hrun
  have hs : Scanning false receiver := hhunt
  exact noPhantoms_iff_of_run (s := (receiver, w)) hs hfix hsize hrun

/-- A packet of type 5, which the host test does not install, with the frame of a `Packet0` as its
payload. -/
def wrappedPacket0 : PacketBytes :=
  fun i => ([5, 15, 2, 0] ++ frame (packetOf hostPacket0)).getD i 0

/-- A packet of type 5 without sync bytes in it. -/
def foreignPacket : PacketBytes :=
  fun i => [5, 6, 2, 0, 0x55, 0xAA].getD i 0

lemma hostPacket_fixedSizes :
    FixedSizes HostPacket.operations (installAll HostPacket.operations
      HostPacket.staticHandler.initializeHandler [.packet0, .packet1]).operations := by
  intro t op ht
  have hfixed : FixedOp HostPacket.operations t op :=
    installAll_fixedOps (by intro t op ht; cases ht) (by decide) t op ht
  refine ⟨hfixed.type, ?_⟩
  intro hany
  have := hfixed.le_max
  rw [hany] at this
  exact absurd this (by decide)

/-- The receiver of the host test refuses a frame and delivers the one behind it. -/
theorem no_phantom_packets_iff_foreign :
    ∃ events s', StepMachine.run (rxStep HostPacket.operations) (installAll HostPacket.operations
        HostPacket.staticHandler.initializeHandler [.packet0, .packet1], HostPacket.staticWorld)
        ([foreignPacket, hostPacket0].flatMap (sentFrame HostPacket.staticHandler)) =
        .ok (events, s') ∧
      (NoPhantoms (installAll HostPacket.operations HostPacket.staticHandler.initializeHandler
          [.packet0, .packet1]).operations [foreignPacket, hostPacket0] events ↔
        NoSyncPairLeft HostPacket.operations (installAll HostPacket.operations
          HostPacket.staticHandler.initializeHandler [.packet0, .packet1]).operations false
          HostPacket.staticWorld [foreignPacket, hostPacket0]) := by
  obtain ⟨events, s', hrun⟩ : ∃ events s', StepMachine.run (rxStep HostPacket.operations)
      (installAll HostPacket.operations HostPacket.staticHandler.initializeHandler
        [.packet0, .packet1], HostPacket.staticWorld)
      ([foreignPacket, hostPacket0].flatMap (sentFrame HostPacket.staticHandler)) =
      .ok (events, s') := ⟨_, _, rfl⟩
  exact ⟨events, s', hrun, no_phantom_packets_iff HostPacket.operations _ HostPacket.staticWorld
    (by decide) hostPacket_fixedSizes HostPacket.staticHandler _ (by decide) events s' hrun⟩

/-- One frame of an unknown type is sent, and its payload is delivered as a `Packet0`. -/
theorem payload_delivered :
    4 ≤ (wrappedPacket0 1).toNat ∧
      (HostPacket.staticHandler.initializeHandler.sendPacket wrappedPacket0).1 = .success ∧
      ∃ events s', StepMachine.run (rxStep HostPacket.operations) (installAll HostPacket.operations
          HostPacket.staticHandler.initializeHandler [.packet0, .packet1], HostPacket.staticWorld)
          ([wrappedPacket0].flatMap (sentFrame HostPacket.staticHandler)) = .ok (events, s') ∧
        (∃ r, events[16]? = some ⟨.syncChecksum, some r⟩ ∧ r.op = .packet0 ∧
          r.bytes 8 = packetOf hostPacket0) ∧
        ¬NoPhantoms (installAll HostPacket.operations HostPacket.staticHandler.initializeHandler
          [.packet0, .packet1]).operations [wrappedPacket0] events := by
  refine ⟨by decide, by decide, _, _, rfl, ⟨_, rfl, rfl, rfl⟩, ?_⟩
  intro h
  obtain ⟨n, p, hat, hn, -⟩ := h.received 16 _ _ rfl rfl
  rcases frameAt_cons.mp hat with ⟨rfl, rfl⟩ | ⟨m, ⟨before, after, hsplit, -⟩, -⟩
  · exact absurd hn (by decide)
  · simp at hsplit

end Orazio.Proofs
