import Orazio.Model.DeferredPacketHandler
import Orazio.Model.OrazioParam

/-!
# The communication of the firmware

Model of `orazio_comm.c`. The UART is a source of received bytes and a sink of sent ones; a null
`uart` cannot be used. A deferred action is a function of this module with its argument pointer.
-/

namespace Orazio

variable {F π : Type} [CFloat F] [PinDriver π]

abbrev PBUFNO : Int := 2

inductive OrazioFn
  | copyToVar | copyToVarAndDisableDrive | copyToVarAndSend | handleParamControlPacket
  deriving DecidableEq, Repr

structure OrazioAction where
  fn : OrazioFn
  args : Option PacketVar
  deriving DecidableEq, Repr

/-- The firmware: the deferred handler, the memory of its buffers and the variables. -/
abbrev System (F π : Type) := DeferredState OrazioAction (Globals F π)

/-! ### Sending -/

/-- The counter of sent packets or the one of errors goes up. -/
def countSent (status : PacketStatus) (g : Globals F π) : Globals F π :=
  if status = .success then
    { g with systemStatus := { g.systemStatus with txPackets := g.systemStatus.txPackets + 1 } }
  else
    { g with systemStatus :=
      { g.systemStatus with txPacketErrors := g.systemStatus.txPacketErrors + 1 } }

def Orazio_sendPacket (p : PacketVar) (x : TxFields × Globals F π) :
    Except Fault (TxFields × Globals F π) :=
  let g := p.setSeq x.2.globalSeq x.2
  let (status, tx) := x.1.sendPacket (p.memory g)
  if status = .success ∧ p.sizeof < (p.header g).size then .error .outOfBounds
  else
    .ok (tx, { countSent status g with
      sent := g.sent ++ [⟨p, (p.bytes g).take (p.header g).size.toNat, status⟩] })

/-- The header of a received packet. -/
abbrev headerOf (p : PacketBytes) : PacketHeader :=
  .ofBytes p

def Orazio_sendResponse (p : PacketBytes) (result : PacketStatus) (x : TxFields × Globals F π) :
    Except Fault (TxFields × Globals F π) :=
  Orazio_sendPacket .response
    (x.1, { x.2 with response :=
      { x.2.response with
        pSeq := (headerOf p).seq
        pType := (headerOf p).type
        pResult := UInt8.ofInt result.code } })

/-! ### Deferred actions -/

def setRxSeq (seq : UInt16) (g : Globals F π) : Globals F π :=
  { g with systemStatus := { g.systemStatus with rxSeq := seq } }

/-- The assertion, the copy and the sequence number that three actions begin with. -/
def copyArgs (p : PacketBytes) (args : Option PacketVar) (g : Globals F π) :
    Except Fault (PacketVar × Globals F π) :=
  match args with
  | none => .error .assertFailed
  | some v =>
    match v.copy p (headerOf p).size g with
    | .error e => .error e
    | .ok g => .ok (v, setRxSeq (headerOf p).seq g)

def Orazio_copyToVar (p : PacketBytes) (args : Option PacketVar) (x : TxFields × Globals F π) :
    Except Fault (TxFields × Globals F π) :=
  match copyArgs p args x.2 with
  | .error e => .error e
  | .ok (_, g) => Orazio_sendResponse p .success (x.1, g)

def Orazio_copyToVarAndDisableDrive (p : PacketBytes) (args : Option PacketVar)
    (x : TxFields × Globals F π) : Except Fault (TxFields × Globals F π) :=
  match copyArgs p args (Orazio_driveDisable x.2) with
  | .error e => .error e
  | .ok (_, g) => Orazio_sendResponse p .success (x.1, g)

/-- The `switch` on the type of a packet of parameters. -/
def setReceived (type : UInt8) (g : Globals F π) : Except Fault (PacketStatus × Globals F π) :=
  if type = SYSTEM_PARAM_PACKET_ID then Orazio_paramSet ParamSystem g
  else if type = JOINT_PARAM_PACKET_ID then Orazio_paramSet ParamJoints g
  else if type = DIFFERENTIAL_DRIVE_PARAM_PACKET_ID then Orazio_paramSet ParamDrive g
  else .ok (.success, g)

def Orazio_copyToVarAndSend (p : PacketBytes) (args : Option PacketVar)
    (x : TxFields × Globals F π) : Except Fault (TxFields × Globals F π) :=
  match copyArgs p args x.2 with
  | .error e => .error e
  | .ok (v, g) =>
    match setReceived (headerOf p).type g with
    | .error e => .error e
    | .ok (_, g) =>
      match Orazio_sendPacket v (x.1, g) with
      | .error e => .error e
      | .ok x => Orazio_sendResponse p .success x

/-- The `switch` on the action of a `ParamControlPacket`. -/
def runParamAction (ctl : ParamControlPacket) (g : Globals F π) :
    Except Fault (PacketStatus × Globals F π) :=
  if ctl.action = ParamRequest then .ok (.success, g)
  else if ctl.action = ParamLoad then Orazio_paramLoad ctl.paramType g
  else if ctl.action = ParamSave then .ok (Orazio_paramSave ctl.paramType g)
  else .ok (.genericError, g)

def Orazio_handleParamControlPacket (p : PacketBytes) (x : TxFields × Globals F π) :
    Except Fault (TxFields × Globals F π) :=
  let ctl := ParamControlPacket.ofBytes p
  match runParamAction ctl (setRxSeq ctl.header.seq x.2) with
  | .error e => .error e
  | .ok (r, g) =>
    match paramBlock ctl.paramType with
    | none => Orazio_sendResponse p r (x.1, g)
    | some (target, _) =>
      match Orazio_sendPacket target (x.1, g) with
      | .error e => .error e
      | .ok x => Orazio_sendResponse p r x

/-- The call `(*info->deferred_action_fn)(p, info->deferred_action_args)`. -/
def deferredAction (action : OrazioAction) (p : PacketBytes) (x : TxFields × Globals F π) :
    Except Fault (TxFields × Globals F π) :=
  match action.fn with
  | .copyToVar => Orazio_copyToVar p action.args x
  | .copyToVarAndDisableDrive => Orazio_copyToVarAndDisableDrive p action.args x
  | .copyToVarAndSend => Orazio_copyToVarAndSend p action.args x
  | .handleParamControlPacket => Orazio_handleParamControlPacket p x

/-! ### Initialisation -/

/-- One call of `DeferredPacketHandler_installPacket`; its result is ignored. -/
def installIgnored (type size : UInt8) (buffer : Addr) (action : OrazioAction)
    (h : DeferredPacketHandler OrazioAction) : Except Fault (DeferredPacketHandler OrazioAction) :=
  match h.installPacket type size buffer PBUFNO (some action) with
  | .error e => .error e
  | .ok (_, h) => .ok h

/-- The six arrays of buffers lie behind one another. -/
def Orazio_initializePackets (h : DeferredPacketHandler OrazioAction) :
    Except Fault (DeferredPacketHandler OrazioAction) := do
  let h ← installIgnored PARAM_CONTROL_PACKET_ID sizeofParamControlPacket 0
    ⟨.handleParamControlPacket, none⟩ h
  let h ← installIgnored SYSTEM_PARAM_PACKET_ID sizeofSystemParamPacket 12
    ⟨.copyToVarAndSend, some .systemParams⟩ h
  let h ← installIgnored JOINT_CONTROL_PACKET_ID sizeofJointControlPacket 62
    ⟨.copyToVarAndDisableDrive, some .jointControl⟩ h
  let h ← installIgnored JOINT_PARAM_PACKET_ID sizeofJointParamPacket 82
    ⟨.copyToVarAndSend, some .jointParams⟩ h
  let h ← installIgnored DIFFERENTIAL_DRIVE_CONTROL_PACKET_ID sizeofDriveControlPacket 154
    ⟨.copyToVar, some .driveControl⟩ h
  installIgnored DIFFERENTIAL_DRIVE_PARAM_PACKET_ID sizeofDriveParamPacket 178
    ⟨.copyToVarAndSend, some .driveParams⟩ h

/-- Whether `UART_init` returns a UART. -/
def UART_init (baud : UInt32) : Bool :=
  baud = 57600 ∨ baud = 115200

def Orazio_commInit (s : System F π) : Except Fault (System F π) :=
  match Orazio_initializePackets s.handler.initializeDeferred with
  | .error e => .error e
  | .ok handler =>
    .ok { s with
      handler := handler
      env := { s.env with uart := UART_init s.env.systemParams.commSpeed, globalSeq := 0 } }

/-! ### An epoch -/

/-- What the UART does during a call of `Orazio_commHandle`: its fill levels when they are asked
for, and the bytes that `UART_getChar` returns. -/
structure UartIo where
  rxBufferFull : UInt16
  received : List UInt8
  txBufferFull : UInt16

/-- The counting of `Orazio_flushInputBuffers` for one received byte. -/
def countReceived (status : PacketStatus) (g : Globals F π) : Globals F π :=
  let st := g.systemStatus
  let st := if status.code < 0 then { st with rxPacketErrors := st.rxPacketErrors + 1 } else st
  let st := if status = .syncChecksum then { st with rxPackets := st.rxPackets + 1 } else st
  { g with systemStatus := st }

/-- The loop of `Orazio_flushInputBuffers`, with the answers of `PacketHandler_rxByte`. -/
def flushInputLoop (s : System F π) : List UInt8 → Except Fault (List PacketStatus × System F π)
  | [] => .ok ([], s)
  | c :: cs =>
    match s.rxByte c with
    | .error e => .error e
    | .ok (status, _, s) =>
      match flushInputLoop { s with env := countReceived status s.env } cs with
      | .error e => .error e
      | .ok (statuses, s) => .ok (status :: statuses, s)

def Orazio_flushInputBuffers (io : UartIo) (s : System F π) :
    Except Fault (List PacketStatus × System F π) :=
  if s.env.uart then
    flushInputLoop
      { s with env := { s.env with
        systemStatus := { s.env.systemStatus with rxBufferSize := io.rxBufferFull } } }
      io.received
  else .error .nullPointer

/-- The loop of `Orazio_flushOutputBuffers` with `n` bytes in the ring. -/
def flushOutputLoop (tx : TxFields) : Nat → List UInt8 × TxFields
  | 0 => ([], tx)
  | n + 1 =>
    let (c, tx) := tx.txByte
    let (cs, tx) := flushOutputLoop tx n
    (c :: cs, tx)

def Orazio_flushOutputBuffers (io : UartIo) (x : TxFields × Globals F π) :
    Except Fault (List UInt8 × TxFields × Globals F π) :=
  if x.2.uart then
    let (output, tx) := flushOutputLoop x.1 x.1.txSize.toNat
    .ok (output, tx, { x.2 with
      systemStatus := { x.2.systemStatus with txBufferSize := io.txBufferFull } })
  else .error .nullPointer

/-- A status packet is sent if its bit is set in the mask. -/
def sendPeriodic (flag : UInt8) (p : PacketVar) (x : TxFields × Globals F π) :
    Except Fault (TxFields × Globals F π) :=
  if x.2.systemParams.periodicPacketMask &&& flag ≠ 0 then Orazio_sendPacket p x else .ok x

/-- The packets that end an epoch. -/
def sendStatus (x : TxFields × Globals F π) : Except Fault (TxFields × Globals F π) := do
  let x ← sendPeriodic PSystemStatusFlag .systemStatus x
  let x ← sendPeriodic PJointStatusFlag .jointStatus x
  let x ← sendPeriodic PDriveStatusFlag .driveStatus x
  Orazio_sendPacket .endEpoch x

/-- What happens during a call of `Orazio_commHandle`: the answers of `PacketHandler_rxByte`, the
deferred actions, the calls of `Orazio_sendPacket` and the bytes given to the UART. -/
structure CommEvent where
  statuses : List PacketStatus
  executed : List (Executed OrazioAction)
  sent : List Sent
  output : List UInt8

/-- The packets received, as `rx_packets` counts them. -/
def CommEvent.received (e : CommEvent) : Nat :=
  e.statuses.count .syncChecksum

/-- `++global_seq` and the length of the queue. -/
def beginEpoch (s : System F π) : System F π :=
  { s with env := { s.env with
    globalSeq := s.env.globalSeq + 1
    systemStatus := { s.env.systemStatus with
      rxPacketQueue := UInt8.ofInt s.handler.pendingPacketsSize }
    sent := [] } }

/-- `Orazio_commHandle` once the input buffers are flushed. -/
def answerReceived (io : UartIo) (statuses : List PacketStatus) (s : System F π) :
    Except Fault (CommEvent × System F π) :=
  match (beginEpoch s).processPendingPackets deferredAction with
  | .error e => .error e
  | .ok (executed, s) =>
    match sendStatus (s.handler.baseHandler.toTxFields, s.env) with
    | .error e => .error e
    | .ok x =>
      match Orazio_flushOutputBuffers io x with
      | .error e => .error e
      | .ok (output, x) => .ok (⟨statuses, executed, x.2.sent, output⟩, s.setProgram x)

def Orazio_commHandle (io : UartIo) (s : System F π) : Except Fault (CommEvent × System F π) :=
  match Orazio_flushInputBuffers io s with
  | .error e => .error e
  | .ok (statuses, s) => answerReceived io statuses s

end Orazio
