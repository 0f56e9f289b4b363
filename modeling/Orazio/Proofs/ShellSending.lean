import Orazio.Proofs.ShellVariables

/-!
# What the shell sends

Only the queries at the start and packets that the user asked for leave the shell, each in one frame, in order
and numbered. A control packet goes out with the values that its variables were set to last.
-/

namespace Orazio.Proofs

open Stdio

variable {F : Type} [CFloat F]

/-! ### A call of the client -/

/-- The packet of a call has been put on the wire or into the transmit ring. -/
def Taken (r : SendResult F) : Prop :=
  r.status = .success ∨ r.status = .timeout

instance (r : SendResult F) : Decidable (Taken r) :=
  inferInstanceAs (Decidable (_ ∨ _))

omit [CFloat F] in
/-- Only the loop that waits for a response times out. -/
lemma sendPacket_ne_timeout (cl : OrazioClient F) (p : PacketBytes) : (cl.sendPacket p).1 ≠ .timeout := by
  have hring : ∀ (t : TxFields) (header : PacketBytes), (t.sendPacket header).1 ≠ .timeout := by
    intro t header
    simp only [TxFields.sendPacket]
    split <;> exact PacketStatus.noConfusion
  simp only [OrazioClient.sendPacket]
  split_ifs
  · exact PacketStatus.noConfusion
  · exact PacketStatus.noConfusion
  · exact PacketStatus.noConfusion
  · exact hring _ _

lemma awaitResponse_status {type : UInt8} {seq : UInt16} {timeout n : Nat} {cl : OrazioClient F}
    {link : List UInt8} {w : Waited F}
    (h : OrazioClient.awaitResponse type seq n cl link timeout = .ok (some w)) :
    w.status = .success ∨ w.status = .timeout := by
  induction timeout generalizing cl n link w with
  | zero =>
    cases h
    exact .inr rfl
  | succ timeout ih =>
    rw [OrazioClient.awaitResponse] at h
    split at h
    · cases h
    · cases h
    · split at h
      · cases h
        exact .inl rfl
      · split at h
        · cases h
        · cases h
        · next w' hrest =>
          cases h
          exact ih (w := w') hrest

/-- What a call does to the client, with the bytes that were queued before it. -/
structure CallSpec (cl : OrazioClient F) (p : PacketBytes) (queued : List UInt8) (r : SendResult F) : Prop where
  receiving : Receiving r.client .hunt
  globalSeq : r.client.globalSeq = cl.globalSeq + 1
  driveControlPacket : r.client.driveControlPacket = cl.driveControlPacket
  accepted : Taken r → Accepted cl p ∧ r.packet = setPacketSeq p (cl.globalSeq + 1)
  output : ∃ queued', TxHolds r.client.packetHandler.toTxFields queued' ∧
    r.written ++ queued' = queued ++ if Taken r then frame (packetOf r.packet) else []

/-- `_sendPacket` on a packet that it accepts. -/
lemma sendPacket_takes {cl : OrazioClient F} (h : Receiving cl .hunt) {queued : List UInt8}
    (hq : TxHolds cl.packetHandler.toTxFields queued) {p : PacketBytes} (hacc : Accepted cl p) :
    ∃ cl', cl.sendPacket p = (.success, setPacketSeq p (cl.globalSeq + 1), cl') ∧ Receiving cl' .hunt ∧
      cl'.globalSeq = cl.globalSeq + 1 ∧ cl'.driveControlPacket = cl.driveControlPacket ∧
      TxHolds cl'.packetHandler.toTxFields (queued ++ frame (packetOf (setPacketSeq p (cl.globalSeq + 1)))) := by
  obtain ⟨tx, hsend, hholds⟩ := sendPacket_queues hacc hq
  exact ⟨_, hsend, h.congr _ _ _, rfl, rfl, hholds⟩

lemma call_callSpec {cl : OrazioClient F} (h : Receiving cl .hunt) {queued : List UInt8}
    (hq : TxHolds cl.packetHandler.toTxFields queued) {p : PacketBytes} {timeout : Int} {link : List UInt8}
    {r : SendResult F} (hcall : OrazioClient_sendPacket p timeout link cl = .ok (some r)) :
    CallSpec cl p queued r := by
  unfold OrazioClient_sendPacket at hcall
  by_cases hacc : Accepted cl p
  · obtain ⟨cl₁, hsend, h₁, hseq, hdrive, hholds⟩ := sendPacket_takes h hq hacc
    rw [hsend] at hcall
    simp only [ne_eq, not_true_eq_false, or_false] at hcall
    split at hcall
    · cases hcall
      have htaken : Taken (⟨.success, setPacketSeq p (cl.globalSeq + 1), [], [], cl₁, link⟩ : SendResult F) :=
        .inl rfl
      refine ⟨h₁, hseq, hdrive, fun _ => ⟨hacc, rfl⟩, _, hholds, ?_⟩
      rw [if_pos htaken]
      rfl
    · obtain ⟨tx, hflush, hempty⟩ := flushBuffer_holds hholds
      rw [hflush] at hcall
      split at hcall
      · cases hcall
      · cases hcall
      · next w hawait =>
        cases hcall
        obtain ⟨ds, -, -, -, hreceiving, hsame⟩ :=
          awaitResponse_reads (h₁.congr tx cl₁.globalSeq cl₁.driveControlPacket) [] hawait
        have htaken : Taken (⟨w.status, setPacketSeq p (cl.globalSeq + 1),
            queued ++ frame (packetOf (setPacketSeq p (cl.globalSeq + 1))), w.receptions, w.client, w.link⟩ :
              SendResult F) := awaitResponse_status hawait
        refine ⟨hreceiving, hsame.globalSeq.trans hseq, hsame.driveControlPacket.trans hdrive,
          fun _ => ⟨hacc, rfl⟩, [], ?_, ?_⟩
        · rw [hsame.tx]
          exact hempty
        · rw [if_pos htaken, List.append_nil]
  · obtain ⟨status, p', hne, hsend⟩ := sendPacket_refused hacc
    have htimeout := sendPacket_ne_timeout cl p
    rw [hsend] at hcall htimeout
    simp only at hcall htimeout
    rw [if_pos (.inr hne)] at hcall
    cases hcall
    have hrefused : ¬Taken (⟨status, p', [], [], { cl with globalSeq := cl.globalSeq + 1 }, link⟩ : SendResult F) :=
      not_or.mpr ⟨hne, htimeout⟩
    refine ⟨h.congr cl.packetHandler.toTxFields _ _, rfl, rfl, fun htaken => absurd htaken hrefused, queued, hq, ?_⟩
    rw [if_neg hrefused, List.append_nil]
    rfl

/-! ### The control packets -/

/-- The packets that command the robot. -/
def controls : List ShellPacket :=
  [.paramControl, .jointControl, .driveControl]

/-- The control packets have the headers that they are declared with. -/
def ControlHeaders (g : ShellGlobals) : Prop :=
  ∀ p ∈ controls, (shellHeader p g).type = p.type ∧ (shellHeader p g).size = packetSizes p.type

lemma ControlHeaders.of_sameKind {g g' : ShellGlobals} (h : ControlHeaders g)
    (hsame : ∀ p ∈ controls, SameKind (shellHeader p g') (shellHeader p g)) : ControlHeaders g' := by
  intro p hp
  obtain ⟨htype, hsize⟩ := hsame p hp
  rw [htype, hsize]
  exact h p hp

lemma set_kind {v : VEntry} (hv : v ∈ variableEntries) (p : ShellPacket) (x : v.type.Value) (g : ShellGlobals) :
    SameKind (shellHeader p (v.ptr.set x g)) (shellHeader p g) := by
  obtain ⟨q, hq⟩ := exists_entriesOf hv
  by_cases hpq : p = q
  · subst hpq
    exact (fieldOf_entriesOf p v hq).kind x g
  · have hsame := (fieldOf_entriesOf q v hq).stores p hpq x g
    have hheader : shellHeader p (v.ptr.set x g) = shellHeader p g := by
      cases p <;> simp only [SamePacket] at hsame <;> simp only [shellHeader, hsame]
    rw [hheader]
    exact ⟨rfl, rfl⟩

lemma ControlHeaders.read {g : ShellGlobals} (h : ControlHeaders g) {v : VEntry} (hv : v ∈ variableEntries)
    (value : Text) : ControlHeaders (v.read value g).2 := by
  rw [read_eq]
  split
  · exact h
  · cases scanValue v.type value with
    | none => exact h
    | some x => exact h.of_sameKind fun p _ => set_kind hv p x g

lemma ControlHeaders.load (printPacket : String → ShellGlobals → Text) {ws : List Text} {r : Text}
    {g : ShellGlobals} (h : ControlHeaders g) {result : CommandResult}
    (hload : loadConfigLoop printPacket ws r g = .ok result) : ControlHeaders result.globals := by
  fun_induction loadConfigLoop printPacket ws r g with
  | case1 => cases hload
  | case2 =>
    cases hload
    exact h
  | case3 name value r g hshort var hvar g' r' =>
    cases hload
    exact h.read (findVar_some hvar).1 value
  | case4 name value rest r g hshort var hvar g' r' hrest ih => exact ih (h.read (findVar_some hvar).1 value) hload
  | case5 => cases hload

lemma ControlHeaders.setSeq {g : ShellGlobals} (h : ControlHeaders g) (q : ShellPacket) (seq : UInt16) :
    ControlHeaders (q.setSeq seq g) := by
  apply h.of_sameKind
  intro p hp
  cases q <;> cases p <;> exact ⟨rfl, rfl⟩

lemma ControlHeaders.ofMemory {g : ShellGlobals} (h : ControlHeaders g) {q : ShellPacket} (hq : q ∉ controls)
    (m : PacketBytes) : ControlHeaders (q.ofMemory m g) := by
  apply h.of_sameKind
  intro p hp
  cases q <;> cases p <;> first | exact ⟨rfl, rfl⟩ | exact absurd hp hq

/-- A control packet with a new sequence number, as it goes out. -/
lemma packetOf_control {g : ShellGlobals} (h : ControlHeaders g) {p : ShellPacket} (hp : p ∈ controls) (seq : UInt16) :
    packetOf (setPacketSeq (memoryOf (p.bytes g)) seq) = p.bytes (p.setSeq seq g) := by
  obtain ⟨-, hsize⟩ := h p hp
  simp only [controls, List.mem_cons, List.not_mem_nil, or_false] at hp
  obtain rfl | rfl | rfl := hp
  · have hbyte : setPacketSeq (memoryOf (ShellPacket.paramControl.bytes g)) seq 1 = 6 := hsize
    rw [packetOf, hbyte]
    rfl
  · have hbyte : setPacketSeq (memoryOf (ShellPacket.jointControl.bytes g)) seq 1 = 10 := hsize
    rw [packetOf, hbyte]
    rfl
  · have hbyte : setPacketSeq (memoryOf (ShellPacket.driveControl.bytes g)) seq 1 = 12 := hsize
    rw [packetOf, hbyte]
    rfl

/-! ### The calls of the client -/

/-- The frame of a packet, if it is sent. -/
def frameOf (r : SendResult F) : List UInt8 :=
  if Taken r then frame (packetOf r.packet) else []

/-- A packet of a type and size that the client sends, with this number. -/
structure Numbered (r : SendResult F) (n : ℕ) : Prop where
  known : packetSizes (r.packet 0) ≠ 0 ∧ r.packet 1 = packetSizes (r.packet 0)
  number : LittleEndian.getU16 r.packet 2 = UInt16.ofNat n

/-- The client has no packets of its own to send, and its output after these calls are the frames of the
packets that it was called with. -/
structure SenderOutput (results : List (SendResult F)) (written : List UInt8) (cl : OrazioClient F) : Prop where
  receiving : Receiving cl .hunt
  undriven : cl.driveControlPacket.header.seq = 0
  count : cl.globalSeq = UInt16.ofNat results.length
  numbered : ∀ x ∈ results.zipIdx, Taken x.1 → Numbered x.1 (x.2 + 1)
  output : ∃ queued, TxHolds cl.packetHandler.toTxFields queued ∧ written ++ queued = results.flatMap frameOf

lemma SenderOutput.keep {results : List (SendResult F)} {written : List UInt8} {cl cl' : OrazioClient F}
    (h : SenderOutput results written cl) (hreceiving : Receiving cl' .hunt) (hsame : SameSender cl cl') :
    SenderOutput results written cl' := by
  obtain ⟨queued, hq, hout⟩ := h.output
  refine ⟨hreceiving, ?_, ?_, h.numbered, queued, ?_, hout⟩
  · rw [hsame.driveControlPacket]
    exact h.undriven
  · rw [hsame.globalSeq]
    exact h.count
  · rw [hsame.tx]
    exact hq

lemma SenderOutput.callSpec {results : List (SendResult F)} {written : List UInt8} {cl : OrazioClient F}
    (h : SenderOutput results written cl) {p : PacketBytes} {timeout : Int} {link : List UInt8} {r : SendResult F}
    (hcall : OrazioClient_sendPacket p timeout link cl = .ok (some r)) : ∃ queued, CallSpec cl p queued r := by
  obtain ⟨queued, hq, -⟩ := h.output
  exact ⟨queued, call_callSpec h.receiving hq hcall⟩

/-- One more call. -/
lemma SenderOutput.call {results : List (SendResult F)} {written : List UInt8} {cl : OrazioClient F}
    (h : SenderOutput results written cl) {p : PacketBytes} {timeout : Int} {link : List UInt8} {r : SendResult F}
    (hcall : OrazioClient_sendPacket p timeout link cl = .ok (some r)) :
    SenderOutput (results ++ [r]) (written ++ r.written) r.client := by
  obtain ⟨queued, hq, hout⟩ := h.output
  have hspec := call_callSpec h.receiving hq hcall
  obtain ⟨queued', hq', hout'⟩ := hspec.output
  refine ⟨hspec.receiving, ?_, ?_, ?_, queued', hq', ?_⟩
  · rw [hspec.driveControlPacket]
    exact h.undriven
  · rw [hspec.globalSeq, h.count, List.length_append, UInt16.ofNat_add]
    rfl
  · rw [List.zipIdx_append]
    intro x hx htaken
    cases List.mem_append.mp hx with
    | inl hbefore => exact h.numbered x hbefore htaken
    | inr hlast =>
      rw [List.zipIdx_singleton, List.mem_singleton] at hlast
      subst hlast
      obtain ⟨⟨-, hsize, hexpected, -⟩, hpacket⟩ := hspec.accepted htaken
      refine ⟨?_, ?_⟩
      · simp only [hpacket, setPacketSeq_zero, setPacketSeq_one]
        exact ⟨hsize, hexpected⟩
      · simp only [hpacket, setPacketSeq_seq, h.count, Nat.zero_add, UInt16.ofNat_add]
        rfl
  · rw [List.flatMap_append, List.flatMap_singleton, ← hout, List.append_assoc, hout', List.append_assoc]
    rfl

/-- The ring is emptied, and a client without a drive command sends nothing. -/
lemma SenderOutput.syncSend {results : List (SendResult F)} {written : List UInt8} {cl : OrazioClient F}
    (h : SenderOutput results written cl) :
    ∃ queued cl', Orazio.syncSend cl = (queued, none, cl') ∧ SenderOutput results (written ++ queued) cl' := by
  obtain ⟨queued, hq, hout⟩ := h.output
  obtain ⟨tx, hflush, hempty⟩ := flushBuffer_holds hq
  refine ⟨queued, cl.flushBuffer.2, ?_, ?_⟩
  · unfold Orazio.syncSend
    rw [hflush]
    exact if_neg (not_not_intro h.undriven)
  · rw [hflush]
    refine ⟨h.receiving.congr _ _ _, h.undriven, h.count, h.numbered, [], hempty, ?_⟩
    rw [List.append_nil]
    exact hout

/-- The memory of a query: its parameters and its number are still to be filled in. -/
structure IsQuery (query : PacketBytes) : Prop where
  type : query 0 = PARAM_CONTROL_PACKET_ID
  size : query 1 = sizeofParamControlPacket
  action : query 4 = ParamRequest

/-- The packet asks for parameters. -/
def AsksForParams (r : SendResult F) : Prop :=
  ∃ seq paramType, packetOf r.packet =
    ParamControlPacket.bytes ⟨⟨PARAM_CONTROL_PACKET_ID, sizeofParamControlPacket, seq⟩, ParamRequest, paramType⟩

lemma packetOf_query {query : PacketBytes} (h : IsQuery query) (paramType : UInt8) (seq : UInt16) :
    packetOf (setPacketSeq (Function.update query 5 paramType) seq) =
      ParamControlPacket.bytes
        ⟨⟨PARAM_CONTROL_PACKET_ID, sizeofParamControlPacket, seq⟩, ParamRequest, paramType⟩ := by
  obtain ⟨m, hm⟩ : ∃ m, m = setPacketSeq (Function.update query 5 paramType) seq := ⟨_, rfl⟩
  have hbyte : m 1 = 6 := hm ▸ h.size
  have hbytes : [m 0, m 1, m 2, m 3, m 4, m 5] = ParamControlPacket.bytes
      ⟨⟨PARAM_CONTROL_PACKET_ID, sizeofParamControlPacket, seq⟩, ParamRequest, paramType⟩ := by
    have htype : m 0 = PARAM_CONTROL_PACKET_ID := hm ▸ h.type
    have haction : m 4 = ParamRequest := hm ▸ h.action
    rw [htype, hbyte, haction, hm]
    rfl
  rw [← hm, packetOf, hbyte]
  exact hbytes

/-- The queries at the start, by induction on their list. -/
lemma SenderOutput.sendQueries {timeout : Int} {queries : List (UInt8 × List UInt8)} {query : PacketBytes}
    {s s' : LinkState F} {results rs : List (SendResult F)} {written : List UInt8}
    (h : SenderOutput results written s.client) (hquery : IsQuery query)
    (hsend : Orazio.sendQueries timeout query queries s = .ok (rs, s')) :
    SenderOutput (results ++ rs) (written ++ rs.flatMap (·.written)) s'.client ∧
      ∀ r ∈ rs, Taken r → AsksForParams r := by
  induction queries generalizing query s results written rs with
  | nil =>
    cases hsend
    rw [List.flatMap_nil, List.append_nil, List.append_nil]
    exact ⟨h, fun r hr => absurd hr List.not_mem_nil⟩
  | cons q queries ih =>
    obtain ⟨paramType, emitted⟩ := q
    rw [Orazio.sendQueries] at hsend
    split at hsend
    · cases hsend
    · cases hsend
    · next r hcall =>
      have hnext := h.call hcall
      obtain ⟨queued, hspec⟩ := h.callSpec hcall
      have hasks : Taken r → AsksForParams r := by
        intro htaken
        refine ⟨s.client.globalSeq + 1, paramType, ?_⟩
        rw [(hspec.accepted htaken).2]
        exact packetOf_query hquery paramType _
      split at hsend
      · cases hsend
        rw [List.flatMap_singleton]
        exact ⟨hnext, List.forall_mem_singleton.mpr hasks⟩
      · next hsuccess =>
        split at hsend
        · cases hsend
        · next rs' s'' hrest =>
          cases hsend
          have hpacket := (hspec.accepted (.inl (not_not.mp hsuccess))).2
          have hquery' : IsQuery r.packet := by
            rw [hpacket]
            exact ⟨hquery.type, hquery.size, hquery.action⟩
          obtain ⟨houtput, hall⟩ := ih hnext hquery' hrest
          rw [List.append_assoc, List.append_assoc] at houtput
          exact ⟨houtput, List.forall_mem_cons.mpr ⟨hasks, hall⟩⟩

/-! ### Steps -/

/-- The calls of `OrazioClient_sendPacket` in a step. -/
def resultsOf : ShellEvent F → List (SendResult F)
  | .command _ _ outcome => outcome.sent.toList.map (·.result)
  | .readConfiguration results => results
  | .sendParam _ sent => [sent.result]
  | _ => []

/-- The call with a packet of the variables. -/
def sentOf : ShellEvent F → Option (ShellSend F)
  | .command _ _ outcome => outcome.sent
  | .sendParam _ sent => some sent
  | _ => none

/-- The bytes that a step writes to the serial line. -/
def writtenBy : ShellEvent F → List UInt8
  | .syncSend written => written
  | e => (resultsOf e).flatMap (·.written)

structure ShellOutput (events : List (ShellEvent F)) (s : Shell F) : Prop where
  sender : SenderOutput (events.flatMap resultsOf) (events.flatMap writtenBy) s.serial.client
  headers : ControlHeaders s.globals

lemma shellSendPacket_eq_ok {p : ShellPacket} {timeout : Int} {emitted : List UInt8} {s s' : Shell F}
    {sent : ShellSend F} (h : s.sendPacket p timeout emitted = .ok (sent, s')) :
    sent.packet = p ∧ sent.shown = s.globals ∧
      OrazioClient_sendPacket (memoryOf (p.bytes s.globals)) timeout (s.serial.link ++ emitted) s.serial.client =
        .ok (some sent.result) ∧
      s'.serial.client = sent.result.client ∧
      s'.globals = p.setSeq (LittleEndian.getU16 sent.result.packet 2) s.globals := by
  rw [Shell.sendPacket] at h
  split at h
  · cases h
  · cases h
  · next r hcall =>
    cases h
    exact ⟨rfl, rfl, hcall, rfl, rfl⟩

/-- A command that sends nothing leaves the client and the kinds of the control packets alone. -/
structure SendsNothing (s : Shell F) (outcome : CommandOutcome F) : Prop where
  sent : outcome.sent = none
  serial : outcome.shell.serial = s.serial
  headers : ControlHeaders outcome.shell.globals

section

variable {printPacket : String → ShellGlobals → Text} {s : Shell F} {outcome : CommandOutcome F}

omit [CFloat F] in
lemma paramFn_sendsNothing (hs : ControlHeaders s.globals) (cmdName varName : Text) (action : UInt8) :
    SendsNothing s (s.paramFn cmdName varName action) := by
  rw [Shell.paramFn]
  cases hquery : paramQuery cmdName varName action with
  | error response => exact ⟨rfl, rfl, hs⟩
  | ok query =>
    have hheader : query.header = ⟨PARAM_CONTROL_PACKET_ID, sizeofParamControlPacket, 0⟩ := by
      unfold paramQuery at hquery
      split_ifs at hquery <;> cases hquery <;> rfl
    refine ⟨rfl, rfl, hs.of_sameKind fun p hp => ?_⟩
    obtain ⟨htype, hsize⟩ := hs .paramControl (by decide)
    cases p with
    | paramControl =>
      exact ⟨(congrArg PacketHeader.type hheader).trans htype.symm,
        (congrArg PacketHeader.size hheader).trans hsize.symm⟩
    | _ => exact ⟨rfl, rfl⟩

omit [CFloat F] in
lemma setFn_sendsNothing (hs : ControlHeaders s.globals) (varName value : Text) :
    SendsNothing s (s.setFn printPacket varName value) := by
  rw [Shell.setFn]
  cases hvar : findVar varName with
  | none => exact ⟨rfl, rfl, hs⟩
  | some var => exact ⟨rfl, rfl, hs.read (findVar_some hvar).1 value⟩

omit [CFloat F] in
lemma loadConfig_sendsNothing (hs : ControlHeaders s.globals) {fileName : Text}
    (h : s.loadConfig printPacket fileName = .ok outcome) : SendsNothing s outcome := by
  rw [Shell.loadConfig] at h
  split at h
  · cases h
  · next r hload =>
    cases h
    refine ⟨rfl, rfl, ?_⟩
    cases hfile : s.files fileName with
    | none =>
      rw [hfile] at hload
      cases hload
      exact hs
    | some text =>
      rw [hfile] at hload
      exact hs.load printPacket hload

omit [CFloat F] in
lemma saveConfig_sendsNothing (hs : ControlHeaders s.globals) {fileName : Text} {opened : Bool}
    (h : s.saveConfig printPacket fileName opened = .ok outcome) : SendsNothing s outcome := by
  rw [Shell.saveConfig] at h
  split at h
  · cases h
  · cases h
    exact ⟨rfl, rfl, hs⟩

lemma sendFn_cases (hs : ControlHeaders s.globals) {varName : Text} (h : s.sendFn varName = .ok outcome) :
    SendsNothing s outcome ∨
      ∃ p sent, outcome.sent = some sent ∧ s.sendPacket p 0 [] = .ok (sent, outcome.shell) := by
  rw [Shell.sendFn] at h
  split at h
  · cases h
    exact .inl ⟨rfl, rfl, hs⟩
  · split at h
    · cases h
      exact .inl ⟨rfl, rfl, hs⟩
    · next p hp =>
      split at h
      · cases h
      · next sent s' hsend =>
        cases h
        exact .inr ⟨p, sent, rfl, hsend⟩

/-- What a line does. -/
lemma executeCommand_cases (hs : ControlHeaders s.globals) {line : Text} {opened : Bool}
    (h : executeCommand printPacket line opened s = .ok outcome) :
    SendsNothing s outcome ∨
      ∃ p sent, outcome.sent = some sent ∧ s.sendPacket p 0 [] = .ok (sent, outcome.shell) := by
  have hnothing : ∀ ret, SendsNothing s ⟨ret, [], none, s⟩ := fun _ => ⟨rfl, rfl, hs⟩
  rw [executeCommand] at h
  split at h
  · cases h
  · split at h
    · cases h
      exact .inl (hnothing _)
    · split at h
      · cases h
        exact .inl (hnothing _)
      · next cmd hcmd =>
        split at h
        · generalize cmd.cmdFn = fn at h
          cases fn with
          | quitFn =>
            cases h
            exact .inl ⟨rfl, rfl, hs⟩
          | printFn =>
            cases h
            rw [Shell.printFn]
            cases findVar _ <;> exact .inl ⟨rfl, rfl, hs⟩
          | dumpFn =>
            cases h
            rw [Shell.dumpFn]
            cases findVar _ <;> exact .inl ⟨rfl, rfl, hs⟩
          | setFn =>
            cases h
            exact .inl (setFn_sendsNothing hs _ _)
          | sendFn => exact sendFn_cases hs h
          | requestFn =>
            cases h
            exact .inl (paramFn_sendsNothing hs _ _ _)
          | fetchFn =>
            cases h
            exact .inl (paramFn_sendsNothing hs _ _ _)
          | storeFn =>
            cases h
            exact .inl (paramFn_sendsNothing hs _ _ _)
          | saveConfigFn => exact .inl (saveConfig_sendsNothing hs h)
          | loadConfigFn => exact .inl (loadConfig_sendsNothing hs h)
        · cases h
          exact .inl (hnothing _)

end

lemma refresh_serial {ps : List ShellPacket} (hps : ∀ p ∈ ps, p ∉ controls) {s s' : Shell F}
    {copied : List (ShellPacket × List UInt8)} (hs : ControlHeaders s.globals)
    (h : s.refresh ps = .ok (copied, s')) : s'.serial = s.serial ∧ ControlHeaders s'.globals := by
  induction ps generalizing s copied with
  | nil =>
    cases h
    exact ⟨rfl, hs⟩
  | cons q qs ih =>
    rw [Shell.refresh] at h
    split at h
    · cases h
    · next status bytes hget =>
      split at h
      · cases h
        exact ⟨rfl, hs⟩
      · split at h
        · cases h
        · next copied' s'' hrest =>
          cases h
          have hcopied := hs.ofMemory (hps q List.mem_cons_self) (memoryOf bytes)
          have hnext := ih (fun p hp => hps p (List.mem_cons_of_mem q hp)) hcopied hrest
          exact hnext

/-- One more step. -/
lemma ShellOutput.concat {events : List (ShellEvent F)} {s' : Shell F} {e : ShellEvent F}
    (hsender : SenderOutput (events.flatMap resultsOf ++ resultsOf e) (events.flatMap writtenBy ++ writtenBy e)
      s'.serial.client) (hheaders : ControlHeaders s'.globals) : ShellOutput (events ++ [e]) s' := by
  refine ⟨?_, hheaders⟩
  rw [List.flatMap_append, List.flatMap_append, List.flatMap_singleton, List.flatMap_singleton]
  exact hsender

/-- A step that sends no packet and leaves the sender of the client alone. -/
lemma ShellOutput.keep {events : List (ShellEvent F)} {s s' : Shell F} (h : ShellOutput events s) {e : ShellEvent F}
    (hresults : resultsOf e = []) (hwritten : writtenBy e = []) (hreceiving : Receiving s'.serial.client .hunt)
    (hsame : SameSender s.serial.client s'.serial.client) (hheaders : ControlHeaders s'.globals) :
    ShellOutput (events ++ [e]) s' := by
  refine .concat ?_ hheaders
  rw [hresults, hwritten, List.append_nil, List.append_nil]
  exact h.sender.keep hreceiving hsame

/-- A step that calls `OrazioClient_sendPacket`. -/
lemma ShellOutput.sendPacket {events : List (ShellEvent F)} {s s' : Shell F} (h : ShellOutput events s)
    {p : ShellPacket} {timeout : Int} {emitted : List UInt8} {sent : ShellSend F}
    (hsend : s.sendPacket p timeout emitted = .ok (sent, s')) {e : ShellEvent F} (he : resultsOf e = [sent.result])
    (hwritten : writtenBy e = sent.result.written) : ShellOutput (events ++ [e]) s' := by
  obtain ⟨-, -, hcall, hclient, hglobals⟩ := shellSendPacket_eq_ok hsend
  refine .concat ?_ ?_
  · rw [he, hwritten, hclient]
    exact h.sender.call hcall
  · rw [hglobals]
    exact h.headers.setSeq p _

lemma readConfiguration_output {timeout : Int} {emitted : UInt8 → List UInt8} {s s' : LinkState F}
    {results rs : List (SendResult F)} {written : List UInt8} (h : SenderOutput results written s.client)
    (hread : OrazioClient_readConfiguration timeout emitted s = .ok (rs, s')) :
    SenderOutput (results ++ rs) (written ++ rs.flatMap (·.written)) s'.client ∧
      ∀ r ∈ rs, Taken r → AsksForParams r :=
  h.sendQueries ⟨rfl, rfl, rfl⟩ hread

/-- A line sends the packet of a variable at most. -/
lemma command_output {printPacket : String → ShellGlobals → Text} {events : List (ShellEvent F)} {s : Shell F}
    (h : ShellOutput events s) {line : Text} {opened : Bool} {outcome : CommandOutcome F}
    (hexec : executeCommand printPacket line opened s = .ok outcome) :
    ShellOutput (events ++ [.command line s.files outcome]) outcome.shell := by
  obtain hnothing | ⟨p, sent, hsent, hsend⟩ := executeCommand_cases h.headers hexec
  · have hresults : resultsOf (.command line s.files outcome) = [] := by
      rw [resultsOf, hnothing.sent]
      rfl
    have hwritten : writtenBy (.command line s.files outcome) = [] := by
      change (resultsOf _).flatMap _ = []
      rw [hresults, List.flatMap_nil]
    refine h.keep hresults hwritten ?_ ?_ hnothing.headers
    · rw [hnothing.serial]
      exact h.sender.receiving
    · rw [hnothing.serial]
      exact ⟨rfl, rfl, rfl⟩
  · have hresults : resultsOf (.command line s.files outcome) = [sent.result] := by
      rw [resultsOf, hsent]
      rfl
    have hwritten : writtenBy (.command line s.files outcome) = sent.result.written := by
      change (resultsOf _).flatMap _ = _
      rw [hresults, List.flatMap_singleton]
    exact h.sendPacket hsend hresults hwritten

lemma shellStep_output {printPacket : String → ShellGlobals → Text} {events : List (ShellEvent F)}
    {s s' : Shell F} (h : ShellOutput events s) {i : ShellInput} {e : ShellEvent F}
    (hstep : shellStep printPacket s i = .ok (e, s')) : ShellOutput (events ++ [e]) s' := by
  cases i with
  | command line opened =>
    obtain ⟨outcome, hexec, rfl, rfl⟩ := shellStep_command_eq_ok _ hstep
    exact command_output h hexec
  | received bytes =>
    cases hstep
    exact h.keep rfl rfl h.sender.receiving ⟨rfl, rfl, rfl⟩ h.headers
  | syncSend =>
    obtain ⟨queued, cl, hsync, hsender⟩ := h.sender.syncSend
    rw [shellStep, hsync] at hstep
    cases hstep
    refine .concat ?_ h.headers
    change SenderOutput (_ ++ []) (_ ++ queued) cl
    rw [List.append_nil]
    exact hsender
  | syncRead =>
    rw [shellStep] at hstep
    split at hstep
    · cases hstep
    · cases hstep
    · next r client link hread =>
      cases hstep
      obtain ⟨result, hresult, -, hsome⟩ :=
        readPacket_stores h.sender.receiving [] s.serial.link (List.append_nil _).symm
      obtain rfl := Except.ok.inj (hresult.symm.trans hread)
      obtain ⟨d, read, -, -, -, -, -, -, -, hreceiving, hsame⟩ := hsome r client link rfl
      exact h.keep rfl rfl hreceiving hsame h.headers
  | readConfiguration emitted =>
    rw [shellStep] at hstep
    split at hstep
    · cases hstep
    · next results serial hread =>
      cases hstep
      exact .concat (readConfiguration_output h.sender hread).1 h.headers
  | refreshState =>
    rw [shellStep] at hstep
    split at hstep
    · cases hstep
    · next copied s'' hrefresh =>
      cases hstep
      obtain ⟨hserial, hheaders⟩ := refresh_serial (by decide) h.headers hrefresh
      exact h.keep rfl rfl (hserial ▸ h.sender.receiving) (hserial ▸ ⟨rfl, rfl, rfl⟩) hheaders
  | refreshParams type =>
    rw [shellStep] at hstep
    split at hstep
    · cases hstep
    · next copied s'' hrefresh =>
      cases hstep
      obtain ⟨ps, hps, heq⟩ := refreshParams_eq type s
      rw [heq] at hrefresh
      have hparams : ∀ p ∈ [ShellPacket.systemParams, .jointParams, .driveParams], p ∉ controls := by decide
      obtain ⟨hserial, hheaders⟩ := refresh_serial (fun p hp => hparams p (hps p hp)) h.headers hrefresh
      exact h.keep rfl rfl (hserial ▸ h.sender.receiving) (hserial ▸ ⟨rfl, rfl, rfl⟩) hheaders
  | sendParam emitted =>
    rw [shellStep] at hstep
    split at hstep
    · cases hstep
    · next sent s'' hsend =>
      cases hstep
      exact h.sendPacket hsend rfl (List.flatMap_singleton _ _)

lemma shellStep_sends {printPacket : String → ShellGlobals → Text} {s s' : Shell F} (hs : ControlHeaders s.globals)
    {i : ShellInput} {e : ShellEvent F} (hstep : shellStep printPacket s i = .ok (e, s')) {sent : ShellSend F}
    (he : sentOf e = some sent) : ∃ p timeout emitted, s.sendPacket p timeout emitted = .ok (sent, s') := by
  cases i with
  | command line opened =>
    obtain ⟨outcome, hexec, rfl, rfl⟩ := shellStep_command_eq_ok _ hstep
    have hsome : outcome.sent = some sent := he
    obtain hnothing | ⟨p, sent', hsent, hsend⟩ := executeCommand_cases hs hexec
    · rw [hnothing.sent] at hsome
      cases hsome
    · rw [hsent] at hsome
      cases hsome
      exact ⟨p, 0, [], hsend⟩
  | sendParam emitted =>
    rw [shellStep] at hstep
    split at hstep
    · cases hstep
    · next sent' s'' hsend =>
      cases hstep
      cases he
      exact ⟨.paramControl, 100, emitted, hsend⟩
  | received bytes =>
    cases hstep
    cases he
  | syncSend =>
    cases hstep
    cases he
  | syncRead =>
    rw [shellStep] at hstep
    split at hstep
    · cases hstep
    · cases hstep
    · cases hstep
      cases he
  | readConfiguration emitted =>
    rw [shellStep] at hstep
    split at hstep
    · cases hstep
    · cases hstep
      cases he
  | refreshState =>
    rw [shellStep] at hstep
    split at hstep
    · cases hstep
    · cases hstep
      cases he
  | refreshParams type =>
    rw [shellStep] at hstep
    split at hstep
    · cases hstep
    · cases hstep
      cases he

/-! ### Runs -/

lemma start_output (cl₀ : OrazioClient F) (files : Text → Option Text) :
    ShellOutput [] (Shell.start cl₀ files) := by
  refine ⟨⟨init_receiving cl₀, rfl, rfl, fun x hx => absurd hx List.not_mem_nil, [], ?_, rfl⟩, ?_⟩
  · exact initializeTx_holds cl₀.packetHandler.toTxFields
  · change ControlHeaders .static
    unfold ControlHeaders
    decide

/-- A packet that is sent in a run which begins with the events `before`. -/
structure SentAsSet (before : List (ShellEvent F)) (sent : ShellSend F) : Prop where
  /-- A control packet goes out under its own type, numbered, with the values shown. -/
  packet : sent.packet ∈ controls → (shellHeader sent.packet sent.shown).type = sent.packet.type ∧
    packetOf sent.result.packet = sent.packet.bytes
      (sent.packet.setSeq (UInt16.ofNat ((before.flatMap resultsOf).length + 1)) sent.shown)
  /-- The values shown are those written last. -/
  shown : ∀ v ∈ entriesOf sent.packet, v.ptr.get sent.shown =
    (before.flatMap eventWrites).foldl (valueAfter sent.packet v) (v.ptr.get .static)

lemma ShellOutput.sentAsSet {events : List (ShellEvent F)} {s s' : Shell F} (h : ShellOutput events s)
    (hshown : ∀ p, ∀ v ∈ entriesOf p,
      v.ptr.get s.globals = (events.flatMap eventWrites).foldl (valueAfter p v) (v.ptr.get .static))
    {p : ShellPacket} {timeout : Int} {emitted : List UInt8} {sent : ShellSend F}
    (hsend : s.sendPacket p timeout emitted = .ok (sent, s')) (htaken : Taken sent.result) :
    SentAsSet events sent := by
  obtain ⟨rfl, hglobals, hcall, -, -⟩ := shellSendPacket_eq_ok hsend
  obtain ⟨queued, hspec⟩ := h.sender.callSpec hcall
  refine ⟨?_, ?_⟩
  · intro hcontrol
    rw [(hspec.accepted htaken).2, packetOf_control h.headers hcontrol, h.sender.count, hglobals, UInt16.ofNat_add]
    exact ⟨(h.headers _ hcontrol).1, rfl⟩
  · rw [hglobals]
    exact hshown sent.packet

/-- `OrazioClient_readConfiguration` sends queries only. -/
lemma shellStep_queries {printPacket : String → ShellGlobals → Text} {events : List (ShellEvent F)} {s s' : Shell F}
    (h : ShellOutput events s) {i : ShellInput} {results : List (SendResult F)}
    (hstep : shellStep printPacket s i = .ok (.readConfiguration results, s')) :
    ∀ r ∈ results, Taken r → AsksForParams r := by
  cases i with
  | readConfiguration emitted =>
    rw [shellStep] at hstep
    split at hstep
    · cases hstep
    · next results' serial hread =>
      cases hstep
      exact (readConfiguration_output h.sender hread).2
  | command line opened =>
    obtain ⟨outcome, -, heq, -⟩ := shellStep_command_eq_ok _ hstep
    cases heq
  | received bytes => cases hstep
  | syncSend => cases hstep
  | syncRead =>
    rw [shellStep] at hstep
    split at hstep <;> cases hstep
  | refreshState =>
    rw [shellStep] at hstep
    split at hstep <;> cases hstep
  | refreshParams type =>
    rw [shellStep] at hstep
    split at hstep <;> cases hstep
  | sendParam emitted =>
    rw [shellStep] at hstep
    split at hstep <;> cases hstep

/-- In every run of the shell from `OrazioClient_init` on, whatever is typed, loaded and received: the bytes
written to the serial line and those still queued are the frames of the packets that were sent, in order and
with nothing between them. Each of them is of a type and size that the client sends and has the number of its
call, those of `OrazioClient_readConfiguration` ask for parameters, and a control packet has the values that
its variables were set to last. -/
theorem shell_sends_what_is_set {printPacket : String → ShellGlobals → Text} (cl₀ : OrazioClient F)
    (files : Text → Option Text) {inputs : List ShellInput} {events : List (ShellEvent F)} {s : Shell F}
    (h : StepMachine.run (shellStep printPacket) (Shell.start cl₀ files) inputs = .ok (events, s)) :
    (∃ queued, TxHolds s.serial.client.packetHandler.toTxFields queued ∧
      events.flatMap writtenBy ++ queued = (events.flatMap resultsOf).flatMap frameOf) ∧
    (∀ x ∈ (events.flatMap resultsOf).zipIdx, Taken x.1 → Numbered x.1 (x.2 + 1)) ∧
    (∀ results, .readConfiguration results ∈ events → ∀ r ∈ results, Taken r → AsksForParams r) ∧
    ∀ before e after sent, events = before ++ e :: after → sentOf e = some sent → Taken sent.result →
      SentAsSet before sent := by
  have hinv : ∀ {is events s}, StepMachine.run (shellStep printPacket) (Shell.start cl₀ files) is = .ok (events, s) →
      ShellOutput events s := fun hrun =>
    StepMachine.run_history (fun _ events s => ShellOutput events s) (start_output cl₀ files)
      (fun _ _ _ _ _ _ hs hstep => shellStep_output hs hstep) hrun
  refine ⟨(hinv h).sender.output, (hinv h).sender.numbered, ?_, ?_⟩
  · intro results hmem
    obtain ⟨before, after, rfl⟩ := List.append_of_mem hmem
    obtain ⟨is, i, -, s₁, s₂, -, hbefore, hstep, -⟩ := StepMachine.run_split h
    exact shellStep_queries (hinv hbefore) hstep
  · rintro before e after sent rfl he htaken
    obtain ⟨is, i, -, s₁, s₂, -, hbefore, hstep, -⟩ := StepMachine.run_split h
    obtain ⟨p, timeout, emitted, hsend⟩ := shellStep_sends (hinv hbefore).headers hstep he
    exact (hinv hbefore).sentAsSet (fun p v hv => run_writes printPacket hv hbefore) hsend htaken

/-- The firmware answers the query with this number. -/
def queryAnswer (seq : UInt16) : List UInt8 :=
  frame (ResponsePacket.bytes ⟨⟨RESPONSE_PACKET_ID, sizeofResponsePacket, 1⟩, PARAM_CONTROL_PACKET_ID, seq, 0⟩)

/-- The shell reads the configuration, then the user requests the parameters of the system. -/
def requestSession : List ShellInput :=
  [.readConfiguration fun paramType => queryAnswer (paramType.toUInt16 + 1),
    .command "request system_params".toList true, .sendParam (queryAnswer 4)]

/-- The queries of `requestSession`: the parameters and the number. -/
def sessionQueries : List (UInt8 × UInt16) :=
  [(ParamSystem, 1), (ParamJoints, 2), (ParamDrive, 3), (ParamSystem, 4)]

theorem shell_sends_what_is_set_request :
    ∃ events s queued, StepMachine.run (shellStep fun _ _ => []) (Shell.start blankClient fun _ => none)
          requestSession = .ok (events, s) ∧
      TxHolds s.serial.client.packetHandler.toTxFields queued ∧
      events.flatMap writtenBy ++ queued = sessionQueries.flatMap fun query =>
        frame (ParamControlPacket.bytes
          ⟨⟨PARAM_CONTROL_PACKET_ID, sizeofParamControlPacket, query.2⟩, ParamRequest, query.1⟩) := by
  obtain ⟨⟨events, s⟩, hrun, hframes⟩ : ∃ r, StepMachine.run (shellStep fun _ _ => [])
        (Shell.start blankClient fun _ => none) requestSession = .ok r ∧
      (r.1.flatMap resultsOf).flatMap frameOf = sessionQueries.flatMap fun query =>
        frame (ParamControlPacket.bytes
          ⟨⟨PARAM_CONTROL_PACKET_ID, sizeofParamControlPacket, query.2⟩, ParamRequest, query.1⟩) := by
    decide +kernel
  obtain ⟨⟨queued, hq, hout⟩, -⟩ := shell_sends_what_is_set blankClient (fun _ => none) hrun
  exact ⟨events, s, queued, hrun, hq, hout.trans hframes⟩

end Orazio.Proofs
