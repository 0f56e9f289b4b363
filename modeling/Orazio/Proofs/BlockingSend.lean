import Orazio.Model.Bench
import Orazio.Proofs.ClientSending

/-!
# When a blocking send tells the truth

A blocking call of `OrazioClient_sendPacket` returns `Success` when the cached response matches. That
response may be older than the call, may have been under way when the packet was sent, and may be a
refusal.
-/

namespace Orazio.Proofs

/-! ### The loop that waits for a response -/

/-- The packet is a response to the given packet. -/
def Delivered.Answers (type : UInt8) (seq : UInt16) (d : Delivered ClientVar) : Prop :=
  d.op = .response ∧ (responseOf d.packet).pType = type ∧ (responseOf d.packet).pSeq = seq

instance (type : UInt8) (seq : UInt16) (d : Delivered ClientVar) : Decidable (d.Answers type seq) :=
  inferInstanceAs (Decidable (_ ∧ _ ∧ _))

/-- The response reports success, and its frame begins behind the first `waiting` bytes. -/
def Delivered.Positive (waiting : Nat) (d : Delivered ClientVar) : Prop :=
  (responseOf d.packet).pResult = 0 ∧ waiting + (d.packet.length + 3) ≤ d.stop

instance (waiting : Nat) (d : Delivered ClientVar) : Decidable (d.Positive waiting) :=
  inferInstanceAs (Decidable (_ ∧ _))

/-- The first answer among some packets. -/
def firstAnswer (type : UInt8) (seq : UInt16) (ds : List (Delivered ClientVar)) :
    Option (Delivered ClientVar) :=
  ds.find? fun d => decide (d.Answers type seq)

/-- What the packets on the link must be for a call to tell the truth: if the cached response matches
already, the first packet is a response, and the first answer is positive. -/
structure ClearLink (type : UInt8) (seq : UInt16) (waiting : Nat) (cached : ResponsePacket)
    (ds : List (Delivered ClientVar)) : Prop where
  fresh : cached.pType = type ∧ cached.pSeq = seq → ∀ d ∈ ds.head?, d.op = .response
  positive : ∀ d ∈ firstAnswer type seq ds, d.Positive waiting

instance (type : UInt8) (seq : UInt16) (waiting : Nat) (cached : ResponsePacket)
    (ds : List (Delivered ClientVar)) : Decidable (ClearLink type seq waiting cached ds) :=
  decidable_of_iff ((cached.pType = type ∧ cached.pSeq = seq → ∀ d ∈ ds.head?, d.op = .response) ∧
      ∀ d ∈ firstAnswer type seq ds, d.Positive waiting)
    ⟨fun h => ⟨h.1, h.2⟩, fun h => ⟨h.fresh, h.positive⟩⟩

variable {type : UInt8} {seq : UInt16} {waiting : Nat}

lemma clearLink_nil (cached : ResponsePacket) : ClearLink type seq waiting cached [] := by
  refine ⟨?_, ?_⟩
  · intro _ d hd
    cases hd
  · intro d hd
    cases hd

/-- The first packet is the answer. -/
lemma clearLink_answer {cached : ResponsePacket} {d : Delivered ClientVar}
    (hd : d.Answers type seq) (ds : List (Delivered ClientVar)) :
    ClearLink type seq waiting cached (d :: ds) ↔ d.Positive waiting := by
  have hfind : firstAnswer type seq (d :: ds) = some d := by
    rw [firstAnswer, List.find?_cons_of_pos (by simpa using hd)]
  constructor
  · intro h
    exact h.positive d hfind
  · intro hpos
    refine ⟨?_, ?_⟩
    · intro _ d' hhead
      cases hhead
      exact hd.1
    · intro d' hfind'
      rw [hfind] at hfind'
      cases hfind'
      exact hpos

/-- A packet that is no answer is passed over, unless the cached response matches already. -/
lemma clearLink_skip {cached cached' : ResponsePacket} {d : Delivered ClientVar}
    (hd : ¬d.Answers type seq) (hold : cached.pType = type ∧ cached.pSeq = seq → d.op = .response)
    (hnew : ¬(cached'.pType = type ∧ cached'.pSeq = seq)) (ds : List (Delivered ClientVar)) :
    ClearLink type seq waiting cached (d :: ds) ↔ ClearLink type seq waiting cached' ds := by
  have hfind : firstAnswer type seq (d :: ds) = firstAnswer type seq ds := by
    rw [firstAnswer, List.find?_cons_of_neg (by simpa using hd), firstAnswer]
  constructor
  · intro h
    refine ⟨fun hmatch => absurd hmatch hnew, ?_⟩
    intro d' hd'
    exact h.positive d' (hfind.trans hd')
  · intro h
    refine ⟨?_, ?_⟩
    · intro hmatch d' hhead
      cases hhead
      exact hold hmatch
    · intro d' hd'
      rw [hfind] at hd'
      exact h.positive d' hd'

/-- A call that returns `Success` has received a positive answer exactly when the link is clear. -/
lemma awaitOn_iff {cached : ResponsePacket} {timeout : Nat} {ds read : List (Delivered ClientVar)}
    {status : PacketStatus} (h : awaitOn type seq cached timeout ds = some (status, read)) :
    (status = .success → ∃ d ∈ read, d.Answers type seq ∧ d.Positive waiting) ↔
      ClearLink type seq waiting cached (ds.take timeout) := by
  induction timeout generalizing cached ds status read with
  | zero =>
    cases h
    simp [clearLink_nil]
  | succ timeout ih =>
    cases ds with
    | nil => cases h
    | cons d ds =>
      rw [awaitOn] at h
      rw [List.take_succ_cons]
      by_cases hmatch : (cacheAfter cached d).pType = type ∧ (cacheAfter cached d).pSeq = seq
      · rw [if_pos hmatch] at h
        cases h
        simp only [true_implies, List.mem_singleton, exists_eq_left]
        by_cases hop : d.op = .response
        · rw [cacheAfter, if_pos hop] at hmatch
          have hd : d.Answers type seq := ⟨hop, hmatch⟩
          rw [clearLink_answer hd]
          exact and_iff_right hd
        · rw [cacheAfter, if_neg hop] at hmatch
          apply iff_of_false
          · intro hgood
            exact hop hgood.1.1
          · intro hclear
            exact hop (hclear.fresh hmatch d rfl)
      · rw [if_neg hmatch] at h
        obtain ⟨⟨status', read'⟩, hrest, heq⟩ := Option.map_eq_some_iff.mp h
        cases heq
        have hd : ¬d.Answers type seq := by
          rintro ⟨hop, hfields⟩
          rw [cacheAfter, if_pos hop] at hmatch
          exact hmatch hfields
        have hold : cached.pType = type ∧ cached.pSeq = seq → d.op = .response := by
          intro hstale
          by_contra hop
          rw [cacheAfter, if_neg hop] at hmatch
          exact hmatch hstale
        rw [clearLink_skip hd hold hmatch, ← ih hrest]
        simp only [List.mem_cons, exists_eq_or_imp, hd, false_and, false_or]

variable {F : Type} [CFloat F]

lemma OnLink.extend {link : List UInt8} {d : Delivered ClientVar} (h : OnLink link d)
    (more : List UInt8) : OnLink (link ++ more) d := by
  refine ⟨h.length, ?_, ?_⟩
  · rw [List.length_append]
    exact h.inside.trans (Nat.le_add_right _ _)
  · rw [List.take_append_of_le_length h.inside]
    exact h.segment

/-- The loop of a blocking call reads the packets of the link one after another. -/
lemma awaitResponse_reads {cl : OrazioClient F} (h : Receiving cl .hunt) {timeout : Nat}
    (before : List UInt8) {link : List UInt8} {w : Waited F}
    (hawait : OrazioClient.awaitResponse type seq before.length cl link timeout = .ok (some w)) :
    ∃ ds, awaitOn type seq cl.packets.response timeout (packetsOn (F := F) before.length link) =
        some (w.status, ds) ∧
      List.Forall₂ IsReception w.receptions ds ∧ (∀ d ∈ ds, OnLink (before ++ link) d) ∧
      Receiving w.client .hunt ∧ SameSender cl w.client := by
  induction timeout generalizing cl before link w with
  | zero =>
    cases hawait
    exact ⟨[], rfl, .nil, by simp, h, rfl, rfl, rfl⟩
  | succ timeout ih =>
    obtain ⟨result, hread, hresult⟩ :=
      readPacket_reads h before link (List.append_nil before).symm
    rw [OrazioClient.awaitResponse, hread] at hawait
    cases result with
    | none => cases hawait
    | some result =>
      obtain ⟨r, cl', rest⟩ := result
      obtain ⟨d, read, hlink, hds, hstop, hrec, hon, hresp, h', hsame⟩ := hresult r cl' rest rfl
      have hds' : packetsOn (F := F) before.length link =
          d :: packetsOn (F := F) (before ++ read).length rest := hds
      have happend : before ++ link = before ++ read ++ rest := by rw [hlink, List.append_assoc]
      have hon' : OnLink (before ++ link) d := by
        rw [happend]
        exact hon.extend rest
      rw [hds', awaitOn, ← hresp]
      simp only at hawait
      by_cases hmatch : cl'.Matches type seq
      · rw [if_pos hmatch] at hawait
        cases hawait
        refine ⟨[d], if_pos hmatch, .cons hrec .nil, ?_, h', hsame⟩
        intro d' hd'
        rw [List.mem_singleton.mp hd']
        exact hon'
      · rw [if_neg hmatch, hstop] at hawait
        split at hawait
        · cases hawait
        · cases hawait
        · next w' hrest =>
          cases hawait
          obtain ⟨ds, hds, hrecs, hall, hw, hsame'⟩ := ih h' (before ++ read) hrest
          refine ⟨d :: ds, ?_, .cons hrec hrecs, ?_, hw, hsame.trans hsame'⟩
          · change (if cl'.Matches type seq then _ else _) = _
            rw [if_neg hmatch, hds]
            rfl
          · intro d' hd'
            rw [List.mem_cons] at hd'
            rcases hd' with rfl | hd'
            · exact hon'
            · rw [happend]
              exact hall d' hd'

/-! ### Calls -/

/-- The response that a call is about: the firmware has sent its frame behind the first `waiting` bytes
of the link, it answers the given packet and it reports success. -/
def Confirms (type : UInt8) (seq : UInt16) (waiting : Nat) (link : List UInt8)
    (r : Reception) : Prop :=
  match r.received with
  | none => False
  | some rec =>
    let packet := rec.bytes sizeofResponsePacket.toNat
    rec.op = .response ∧ (responseOf packet).pType = type ∧ (responseOf packet).pSeq = seq ∧
      (responseOf packet).pResult = 0 ∧ frame packet <:+ (link.take r.stop).drop waiting

instance (type : UInt8) (seq : UInt16) (waiting : Nat) (link : List UInt8) (r : Reception) :
    Decidable (Confirms type seq waiting link r) := by
  unfold Confirms
  split <;> infer_instance

/-- What `Success` promises: during the call the firmware has sent and the client has received a
positive answer. -/
def Truthful (call : SendCall F) : Prop :=
  0 < call.timeout → call.result.status = .success →
    ∃ r ∈ call.result.receptions, Confirms (call.request 0)
      (LittleEndian.getU16 call.result.packet 2) call.before.link.length
      (call.before.link ++ call.emitted) r

/-- The packets that a call finds on the link make it tell the truth. -/
def ClearCall (call : SendCall F) : Prop :=
  Accepted call.before.client call.request →
    ClearLink (call.request 0) (call.before.client.globalSeq + 1) call.before.link.length
      call.before.client.packets.response
      ((packetsOn (F := F) 0 (call.before.link ++ call.emitted)).take call.timeout.toNat)

instance (call : SendCall F) : Decidable (Truthful call) :=
  inferInstanceAs (Decidable (_ → _ → _))

instance (call : SendCall F) : Decidable (ClearCall call) :=
  inferInstanceAs (Decidable (_ → _))

/-- A reception confirms the call exactly when its packet is a positive answer. -/
lemma confirms_iff {link : List UInt8} {r : Reception} {d : Delivered ClientVar}
    (hrec : IsReception r d) (hon : OnLink link d) :
    Confirms type seq waiting link r ↔ d.Answers type seq ∧ d.Positive waiting := by
  obtain ⟨rec, hsome, hop, hbytes⟩ := hrec.received
  rw [Confirms, hsome, hrec.stop]
  simp only
  rw [hop]
  by_cases hresp : d.op = .response
  · have hlen : d.packet.length = sizeofResponsePacket.toNat := by
      rw [hon.length, hresp]
      rfl
    have hframe : frame d.packet <:+ (link.take d.stop).drop waiting ↔
        waiting + (d.packet.length + 3) ≤ d.stop := by
      have hstop : (link.take d.stop).length = d.stop := List.length_take_of_le hon.inside
      rw [← length_frame]
      constructor
      · intro h
        have hle := h.length_le
        rw [List.length_drop, hstop, length_frame] at hle
        rw [length_frame]
        omega
      · intro h
        apply List.suffix_of_suffix_length_le hon.segment (List.drop_suffix _ _)
        rw [List.length_drop, hstop]
        omega
    rw [← hlen, hbytes, hframe]
    simp only [Delivered.Answers, Delivered.Positive, and_assoc]
  · simp only [Delivered.Answers, hresp, false_and]

lemma exists_confirms_iff {link : List UInt8} {rs : List Reception}
    {ds : List (Delivered ClientVar)} (hrecs : List.Forall₂ IsReception rs ds)
    (hon : ∀ d ∈ ds, OnLink link d) :
    (∃ r ∈ rs, Confirms type seq waiting link r) ↔
      ∃ d ∈ ds, d.Answers type seq ∧ d.Positive waiting := by
  induction hrecs with
  | nil => simp
  | cons hrec hrecs ih =>
    rw [List.forall_mem_cons] at hon
    simp only [List.mem_cons, exists_eq_or_imp, confirms_iff hrec hon.1, ih hon.2]

variable {cl : OrazioClient F} {p : PacketBytes}

/-- An accepted blocking call waits for the response to its packet. -/
lemma call_awaits {timeout : Int} {link : List UInt8} {r : SendResult F} (h : Receiving cl .hunt)
    (hacc : Accepted cl p) (htimeout : timeout ≠ 0)
    (hcall : OrazioClient_sendPacket p timeout link cl = .ok (some r)) :
    ∃ ds, awaitOn (p 0) (cl.globalSeq + 1) cl.packets.response timeout.toNat
        (packetsOn (F := F) 0 link) = some (r.status, ds) ∧
      List.Forall₂ IsReception r.receptions ds ∧ (∀ d ∈ ds, OnLink link d) ∧
      Receiving r.client .hunt ∧ KeepsSender cl r.client ∧
      LittleEndian.getU16 r.packet 2 = cl.globalSeq + 1 := by
  have hkeeps := sendPacket_keepsSender cl p
  obtain ⟨tx, -, hsend⟩ := sendPacket_accepted hacc
  unfold OrazioClient_sendPacket at hcall
  rw [hsend] at hcall hkeeps
  simp only [ne_eq, not_true_eq_false, or_false] at hcall
  rw [if_neg htimeout] at hcall
  split at hcall
  · cases hcall
  · cases hcall
  · next w hawait =>
    cases hcall
    rw [setPacketSeq_zero, setPacketSeq_seq] at hawait
    obtain ⟨ds, hds, hrecs, hall, hw, hsame⟩ := awaitResponse_reads (h.congr _ _ _) [] hawait
    exact ⟨ds, hds, hrecs, hall, hw,
      (hkeeps.trans (flushBuffer_keepsSender _)).trans hsame.keepsSender, setPacketSeq_seq p _⟩

/-- A call that does not wait only changes the number of packets and the transmit ring. -/
lemma call_returns {timeout : Int} {link : List UInt8} {r : SendResult F} (h : Receiving cl .hunt)
    (hno : ¬(Accepted cl p ∧ timeout ≠ 0))
    (hcall : OrazioClient_sendPacket p timeout link cl = .ok (some r)) :
    Receiving r.client .hunt ∧ KeepsSender cl r.client ∧ (timeout = 0 ∨ r.status ≠ .success) := by
  have hkeeps := sendPacket_keepsSender cl p
  unfold OrazioClient_sendPacket at hcall
  by_cases hacc : Accepted cl p
  · have htimeout : timeout = 0 := by
      by_contra hne
      exact hno ⟨hacc, hne⟩
    obtain ⟨tx, -, hsend⟩ := sendPacket_accepted hacc
    rw [hsend] at hcall hkeeps
    simp only at hcall
    rw [if_pos (.inl htimeout)] at hcall
    cases hcall
    exact ⟨h.congr tx _ _, hkeeps, .inl htimeout⟩
  · obtain ⟨status, p', hstatus, hsend⟩ := sendPacket_refused hacc
    rw [hsend] at hcall hkeeps
    simp only at hcall
    rw [if_pos (.inr hstatus)] at hcall
    cases hcall
    exact ⟨h.congr _ _ _, hkeeps, .inr hstatus⟩

/-- A call from a client that hunts for a frame leaves it so, and tells the truth exactly when the
packets on the link are clear. -/
lemma call_spec (call : SendCall F) (h : Receiving call.before.client .hunt)
    (hcall : OrazioClient_sendPacket call.request call.timeout (call.before.link ++ call.emitted)
      call.before.client = .ok (some call.result)) :
    Receiving call.result.client .hunt ∧ KeepsSender call.before.client call.result.client ∧
      (Truthful call ↔ ClearCall call) := by
  by_cases hwait : Accepted call.before.client call.request ∧ call.timeout ≠ 0
  · obtain ⟨ds, hds, hrecs, hall, hw, hkeeps, hseq⟩ := call_awaits h hwait.1 hwait.2 hcall
    refine ⟨hw, hkeeps, ?_⟩
    have hclear : _ ↔ ClearLink (call.request 0) (call.before.client.globalSeq + 1)
      call.before.link.length _ _ := awaitOn_iff hds
    rw [← exists_confirms_iff hrecs hall] at hclear
    rw [Truthful, ClearCall, hseq, forall_prop_of_true hwait.1, ← hclear]
    by_cases hpos : 0 < call.timeout
    · rw [forall_prop_of_true hpos]
    · have hzero : call.timeout.toNat = 0 := by omega
      rw [hzero, List.take_zero] at hclear
      exact iff_of_true (fun h => absurd h hpos) (hclear.mpr (clearLink_nil _))
  · obtain ⟨hw, hkeeps, hstop⟩ := call_returns h hwait hcall
    refine ⟨hw, hkeeps, iff_of_true ?_ ?_⟩
    · intro hpos hsuccess
      obtain hzero | hstatus := hstop
      · exact absurd hzero hpos.ne'
      · exact absurd hsuccess hstatus
    · intro hacc
      have hzero : call.timeout = 0 := by
        by_contra hne
        exact hwait ⟨hacc, hne⟩
      rw [hzero]
      exact clearLink_nil _

/-! ### Runs -/

/-- The calls of `OrazioClient_sendPacket` in a run. -/
def sendCalls (events : List (LinkEvent F)) : List (SendCall F) :=
  events.filterMap fun e => match e with
    | .sendPacket call => some call
    | _ => none

omit [CFloat F] in
lemma mem_sendCalls {events : List (LinkEvent F)} {call : SendCall F} :
    call ∈ sendCalls events ↔ .sendPacket call ∈ events := by
  rw [sendCalls, List.mem_filterMap]
  constructor
  · rintro ⟨e, he, hcall⟩
    cases e with
    | sendPacket call' =>
      cases hcall
      exact he
    | _ => cases hcall
  · intro h
    exact ⟨_, h, rfl⟩

/-- What the event of a step says about the client before and after it. -/
def Explains (e : LinkEvent F) (cl cl' : OrazioClient F) : Prop :=
  match e with
  | .emit _ => KeepsSender cl cl'
  | .sendPacket call => KeepsSender cl cl' ∧ (Truthful call ↔ ClearCall call)
  | .syncSend before written status after =>
    before = cl ∧ after = cl' ∧ (written, status, after) = syncSend cl
  | .syncRead _ => KeepsSender cl cl'
  | .setBaseVelocity tv rv => cl' = OrazioClient_setBaseVelocity tv rv cl

/-- A step leaves the client hunting for a frame, and does what its event says. -/
lemma linkStep_explains {s s' : LinkState F} {input : LinkInput F} {e : LinkEvent F}
    (h : Receiving s.client .hunt) (hstep : linkStep s input = .ok (e, s')) :
    Receiving s'.client .hunt ∧ Explains e s.client s'.client := by
  cases input with
  | emit bytes =>
    cases hstep
    exact ⟨h, rfl, id⟩
  | sendPacket p timeout emitted =>
    rw [linkStep] at hstep
    split at hstep
    · cases hstep
    · cases hstep
    · next r hcall =>
      cases hstep
      exact call_spec ⟨s, p, timeout, emitted, r⟩ h hcall
  | syncSend =>
    cases hstep
    exact ⟨syncSend_receiving h, rfl, rfl, rfl⟩
  | syncRead =>
    obtain ⟨result, hread, hresult⟩ := readPacket_reads h [] s.link (List.append_nil []).symm
    rw [List.length_nil] at hread
    rw [linkStep, hread] at hstep
    cases result with
    | none => cases hstep
    | some result =>
      obtain ⟨r, client, link⟩ := result
      cases hstep
      obtain ⟨d, read, -, -, -, -, -, -, h', hsame⟩ := hresult r client link rfl
      exact ⟨h', hsame.keepsSender⟩
  | setBaseVelocity tv rv =>
    cases hstep
    exact ⟨h.congr s.client.packetHandler.toTxFields s.client.globalSeq _, rfl⟩

/-- In every run of the client, a blocking call tells the truth exactly when the packets that it finds
on the link are clear. -/
theorem blocking_send_truthful_iff (cl₀ : OrazioClient F) (s : LinkState F)
    (inputs : List (LinkInput F)) (events : List (LinkEvent F))
    (hrun : StepMachine.run linkStep ⟨cl₀.init, []⟩ inputs = .ok (events, s)) (call : SendCall F)
    (hcall : LinkEvent.sendPacket call ∈ events) : Truthful call ↔ ClearCall call := by
  obtain ⟨pre, post, rfl⟩ := List.append_of_mem hcall
  obtain ⟨is₁, i, is₂, s₁, s₂, -, hpre, hstep, -⟩ := StepMachine.run_split hrun
  have hinv : Receiving s₁.client .hunt := StepMachine.run_invariant
    (fun s => Receiving s.client .hunt) (init_receiving cl₀)
    (fun s i o s' h hs => (linkStep_explains h hs).1) hpre
  exact (linkStep_explains hinv hstep).2.2

/-- The memory that `malloc` returns, if it is zero. -/
def zeroClient : OrazioClient ExactFloat where
  packetHandler :=
    { toTxFields := staticHandler.baseHandler.toTxFields
      operations := fun _ => none
      rxCurrentOp := none
      rxCurrentPacket := none
      rxChecksum := 0
      rxBuffer := none
      rxBufferEnd := none
      rxBytesToRead := 0
      rxFn := .rxAA }
  globalSeq := 0
  packets :=
    { response := .ofBytes fun _ => 0
      endEpoch := .ofBytes fun _ => 0
      systemParam := .ofBytes fun _ => 0
      systemStatus := .ofBytes fun _ => 0
      jointParam := .ofBytes fun _ => 0
      jointStatus := .ofBytes fun _ => 0
      driveParam := .ofBytes fun _ => 0
      driveStatus := .ofBytes fun _ => 0 }
  packetBuffer := fun _ => 0
  driveControlPacket := .ofBytes fun _ => 0

/-- The bytes of a query of `OrazioClient_readConfiguration` with this action. -/
def queryPacket (action : UInt8) : PacketBytes :=
  fun i => [PARAM_CONTROL_PACKET_ID, sizeofParamControlPacket, 0, 0, action, ParamSystem].getD i 0

/-- The bytes of the response to the first packet of a client, if that is a query. -/
def queryResponse (result : PacketStatus) : List UInt8 :=
  ResponsePacket.bytes
    ⟨⟨RESPONSE_PACKET_ID, sizeofResponsePacket, 1⟩, PARAM_CONTROL_PACKET_ID, 1,
      UInt8.ofInt result.code⟩

/-- The firmware answers a query with success. -/
theorem blocking_send_truthful_iff_query :
    ∃ (s : LinkState ExactFloat) (events : List (LinkEvent ExactFloat)) (call : SendCall ExactFloat),
      StepMachine.run linkStep ⟨zeroClient.init, []⟩
        [.sendPacket (queryPacket ParamRequest) 1 (frame (queryResponse .success))] =
          .ok (events, s) ∧
      LinkEvent.sendPacket call ∈ events ∧ call.result.status = .success ∧ Truthful call := by
  have hcheck : ∃ r, StepMachine.run linkStep ⟨zeroClient.init, []⟩
      [.sendPacket (queryPacket ParamRequest) 1 (frame (queryResponse .success))] = .ok r ∧
      ∃ call ∈ sendCalls r.1, call.result.status = .success ∧ ClearCall call := by
    decide +kernel
  obtain ⟨⟨events, s⟩, hrun, call, hcall, hsuccess, hclear⟩ := hcheck
  have hmem : LinkEvent.sendPacket call ∈ events := mem_sendCalls.mp hcall
  exact ⟨s, events, call, hrun, hmem, hsuccess,
    (blocking_send_truthful_iff zeroClient s _ events hrun call hmem).mpr hclear⟩

/-- The firmware refuses an action that it does not know, and the call returns `Success`. -/
theorem refusal_reported_as_success :
    ∃ (s : LinkState ExactFloat) (events : List (LinkEvent ExactFloat)) (call : SendCall ExactFloat),
      StepMachine.run linkStep ⟨zeroClient.init, []⟩
        [.sendPacket (queryPacket 3) 1 (frame (queryResponse .genericError))] = .ok (events, s) ∧
      LinkEvent.sendPacket call ∈ events ∧ call.result.status = .success ∧ ¬Truthful call := by
  have hcheck : ∃ r, StepMachine.run linkStep ⟨zeroClient.init, []⟩
      [.sendPacket (queryPacket 3) 1 (frame (queryResponse .genericError))] = .ok r ∧
      ∃ call ∈ sendCalls r.1, call.result.status = .success ∧ ¬Truthful call := by
    decide +kernel
  obtain ⟨⟨events, s⟩, hrun, call, hcall, hsuccess, hfalse⟩ := hcheck
  exact ⟨s, events, call, hrun, mem_sendCalls.mp hcall, hsuccess, hfalse⟩

end Orazio.Proofs
