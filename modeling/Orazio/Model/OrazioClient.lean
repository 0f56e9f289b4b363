import Orazio.Model.OrazioComm

/-!
# The client

Model of `orazio_client.c`. The bytes that the serial line delivers are a list, the link; a read
takes its first byte, and a call that needs more bytes than there are has not returned (`none`). The
two locks make calls and the critical sections of `OrazioClient_sync` atomic.
-/

namespace Orazio

open CFloat

/-- The variables that received packets are copied to. They also stand for the `PacketOperations`
that `_installPacketOp` allocates. -/
inductive ClientVar
  | response | systemParam | systemStatus | jointParam | jointStatus | driveParam | driveStatus
  | endEpoch
  deriving DecidableEq, Repr

structure ClientPackets (F : Type) where
  response : ResponsePacket
  endEpoch : PacketHeader
  systemParam : SystemParamPacket
  systemStatus : SystemStatusPacket
  jointParam : JointParamPacket
  jointStatus : JointStatusPacket
  driveParam : DifferentialDriveParamPacket F
  driveStatus : DifferentialDriveStatusPacket F

structure OrazioClient (F : Type) where
  packetHandler : PacketHandler ClientVar
  globalSeq : UInt16
  packets : ClientPackets F
  packetBuffer : Addr → UInt8
  driveControlPacket : DifferentialDriveControlPacket F

variable {F : Type} [CFloat F]

namespace ClientVar

def type : ClientVar → UInt8
  | response => RESPONSE_PACKET_ID
  | systemParam => SYSTEM_PARAM_PACKET_ID
  | systemStatus => SYSTEM_STATUS_PACKET_ID
  | jointParam => JOINT_PARAM_PACKET_ID
  | jointStatus => JOINT_STATUS_PACKET_ID
  | driveParam => DIFFERENTIAL_DRIVE_PARAM_PACKET_ID
  | driveStatus => DIFFERENTIAL_DRIVE_STATUS_PACKET_ID
  | endEpoch => END_EPOCH_PACKET_ID

def sizeof : ClientVar → UInt8
  | response => sizeofResponsePacket
  | systemParam => sizeofSystemParamPacket
  | systemStatus => sizeofSystemStatusPacket
  | jointParam => sizeofJointParamPacket
  | jointStatus => sizeofJointStatusPacket
  | driveParam => sizeofDriveParamPacket
  | driveStatus => sizeofDriveStatusPacket
  | endEpoch => sizeofEndEpochPacket

def bytes (v : ClientVar) (ps : ClientPackets F) : List UInt8 :=
  match v with
  | response => ps.response.bytes
  | systemParam => ps.systemParam.bytes
  | systemStatus => ps.systemStatus.bytes
  | jointParam => ps.jointParam.bytes
  | jointStatus => ps.jointStatus.bytes
  | driveParam => ps.driveParam.bytes
  | driveStatus => ps.driveStatus.bytes
  | endEpoch => ps.endEpoch.bytes

def ofMemory (v : ClientVar) (m : PacketBytes) (ps : ClientPackets F) : ClientPackets F :=
  match v with
  | response => { ps with response := .ofBytes m }
  | systemParam => { ps with systemParam := .ofBytes m }
  | systemStatus => { ps with systemStatus := .ofBytes m }
  | jointParam => { ps with jointParam := .ofBytes m }
  | jointStatus => { ps with jointStatus := .ofBytes m }
  | driveParam => { ps with driveParam := .ofBytes m }
  | driveStatus => { ps with driveStatus := .ofBytes m }
  | endEpoch => { ps with endEpoch := .ofBytes m }

/-- `_copyToBuffer`: `p->size` bytes go to the variable. -/
def copyToBuffer (v : ClientVar) (p : Addr) (w : World (ClientPackets F)) :
    Except Fault (World (ClientPackets F)) :=
  if v.sizeof < w.mem (p + 1) then .error .outOfBounds
  else
    let memory : PacketBytes := fun i =>
      if i < (w.mem (p + 1)).toNat then w.mem (p + i) else (v.bytes w.env).getD i 0
    .ok { w with env := v.ofMemory memory w.env }

/-- The address of `packet_buffer`. -/
abbrev packetBuffer : Addr := 0

def operations (v : ClientVar) : PacketOperations (ClientPackets F) where
  type := v.type
  size := v.sizeof
  initializeBufferFn := fun _ _ w => .ok (some packetBuffer, w)
  onReceiveFn := some v.copyToBuffer

end ClientVar

/-- `packet_sizes`. -/
def packetSizes (type : UInt8) : UInt8 :=
  if type = PARAM_CONTROL_PACKET_ID then sizeofParamControlPacket
  else if type = SYSTEM_PARAM_PACKET_ID then sizeofSystemParamPacket
  else if type = JOINT_PARAM_PACKET_ID then sizeofJointParamPacket
  else if type = JOINT_CONTROL_PACKET_ID then sizeofJointControlPacket
  else if type = DIFFERENTIAL_DRIVE_PARAM_PACKET_ID then sizeofDriveParamPacket
  else if type = DIFFERENTIAL_DRIVE_CONTROL_PACKET_ID then sizeofDriveControlPacket
  else 0

/-- `p->seq=seq` on the memory of a packet. -/
def setPacketSeq (p : PacketBytes) (seq : UInt16) : PacketBytes :=
  Function.update (Function.update p 2 ((LittleEndian.u16 seq).getD 0 0)) 3
    ((LittleEndian.u16 seq).getD 1 0)

/-- The end of a packet: how many bytes of the link have been read, and what was handed to
`on_receive_fn`. -/
structure Reception where
  stop : Nat
  received : Option (PacketHandler.Received ClientVar)

/-- The end of the loop that waits for a response. -/
structure Waited (F : Type) where
  status : PacketStatus
  receptions : List Reception
  client : OrazioClient F
  link : List UInt8

/-- A call of `OrazioClient_sendPacket`: its result, the packet and the bytes written, what was
received, and what is left. -/
structure SendResult (F : Type) where
  status : PacketStatus
  packet : PacketBytes
  written : List UInt8
  receptions : List Reception
  client : OrazioClient F
  link : List UInt8

namespace OrazioClient

/-- The order of the calls of `_installPacketOp`. -/
def installed : List ClientVar :=
  [.response, .systemParam, .systemStatus, .jointParam, .jointStatus, .driveParam, .driveStatus,
    .endEpoch]

/-- The calls of `_installPacketOp`; none of them fails. -/
def installPackets (h : PacketHandler ClientVar) : PacketHandler ClientVar :=
  installed.foldl (fun h v => (h.installPacket (ClientVar.operations (F := F)) v).2) h

/-- `OrazioClient_init` on the memory `cl` that `malloc` returns. -/
def init (cl : OrazioClient F) : OrazioClient F where
  packetHandler := installPackets (F := F) cl.packetHandler.initializeHandler
  globalSeq := 0
  packets :=
    { cl.packets with
      endEpoch := ⟨END_EPOCH_PACKET_ID, sizeofEndEpochPacket, 0⟩
      response :=
        { cl.packets.response with
          header := ⟨RESPONSE_PACKET_ID, sizeofResponsePacket, 0⟩
          pSeq := 0
          pType := UInt8.ofNat PACKET_TYPE_MAX } }
  packetBuffer := cl.packetBuffer
  driveControlPacket :=
    { header := ⟨DIFFERENTIAL_DRIVE_CONTROL_PACKET_ID, sizeofDriveControlPacket, 0⟩
      translationalVelocity := const 0
      rotationalVelocity := const 0 }

/-- `PacketHandler_rxByte(&cl->packet_handler, c)`. -/
def rxByte (cl : OrazioClient F) (c : UInt8) :
    Except Fault (PacketStatus × Option (PacketHandler.Received ClientVar) × OrazioClient F) :=
  match cl.packetHandler.rxByte ClientVar.operations ⟨cl.packetBuffer, cl.packets⟩ c with
  | .error e => .error e
  | .ok r =>
    .ok (r.status, r.received,
      { cl with packetHandler := r.handler, packetBuffer := r.world.mem, packets := r.world.env })

/-- `_flushBuffer`, with the bytes written. -/
def flushBuffer (cl : OrazioClient F) : List UInt8 × OrazioClient F :=
  let (written, tx) := flushOutputLoop cl.packetHandler.toTxFields cl.packetHandler.txSize.toNat
  (written, { cl with packetHandler := { cl.packetHandler with toTxFields := tx } })

/-- `_readPacket` when `n` bytes of the link have been read before. -/
def readPacket (n : Nat) (cl : OrazioClient F) :
    List UInt8 → Except Fault (Option (Reception × OrazioClient F × List UInt8))
  | [] => .ok none
  | c :: link =>
    match cl.rxByte c with
    | .error e => .error e
    | .ok (status, received, cl) =>
      if status = .syncChecksum then .ok (some (⟨n + 1, received⟩, cl, link))
      else readPacket (n + 1) cl link

/-- `_sendPacket`: the result, the packet afterwards and the client. -/
def sendPacket (p : PacketBytes) (cl : OrazioClient F) : PacketStatus × PacketBytes × OrazioClient F :=
  let cl := { cl with globalSeq := cl.globalSeq + 1 }
  let type := p 0
  if PACKET_TYPE_MAX ≤ type.toNat then (.unknownType, p, cl)
  else
    let expectedSize := packetSizes type
    if expectedSize = 0 then (.unknownType, p, cl)
    else if p 1 ≠ expectedSize then (.invalidSize, p, cl)
    else
      let p := setPacketSeq p cl.globalSeq
      let (status, handler) := cl.packetHandler.sendPacket p
      (status, p, { cl with packetHandler := handler })

/-- Whether the cached response answers a packet. -/
def Matches (type : UInt8) (seq : UInt16) (cl : OrazioClient F) : Prop :=
  cl.packets.response.pType = type ∧ cl.packets.response.pSeq = seq

instance (type : UInt8) (seq : UInt16) (cl : OrazioClient F) : Decidable (cl.Matches type seq) :=
  inferInstanceAs (Decidable (_ ∧ _))

/-- The loop of a blocking `OrazioClient_sendPacket`, with `timeout` rounds left. -/
def awaitResponse (type : UInt8) (seq : UInt16) (n : Nat) (cl : OrazioClient F) (link : List UInt8) :
    Nat → Except Fault (Option (Waited F))
  | 0 => .ok (some ⟨.timeout, [], cl, link⟩)
  | timeout + 1 =>
    match readPacket n cl link with
    | .error e => .error e
    | .ok none => .ok none
    | .ok (some (r, cl, link)) =>
      if cl.Matches type seq then .ok (some ⟨.success, [r], cl, link⟩)
      else
        match awaitResponse type seq r.stop cl link timeout with
        | .error e => .error e
        | .ok none => .ok none
        | .ok (some w) => .ok (some { w with receptions := r :: w.receptions })

end OrazioClient

open OrazioClient

def OrazioClient_sendPacket (p : PacketBytes) (timeout : Int) (link : List UInt8)
    (cl : OrazioClient F) : Except Fault (Option (SendResult F)) :=
  let (status, p, cl) := cl.sendPacket p
  if timeout = 0 ∨ status ≠ .success then .ok (some ⟨status, p, [], [], cl, link⟩)
  else
    let (written, cl) := cl.flushBuffer
    match awaitResponse (p 0) (LittleEndian.getU16 p 2) 0 cl link timeout.toNat with
    | .error e => .error e
    | .ok none => .ok none
    | .ok (some w) => .ok (some ⟨w.status, p, written, w.receptions, w.client, w.link⟩)

/-- The first critical section of a cycle of `OrazioClient_sync`: the bytes written, and the result
of `_sendPacket` if it is called. -/
def syncSend (cl : OrazioClient F) : List UInt8 × Option PacketStatus × OrazioClient F :=
  let (written, cl) := cl.flushBuffer
  if cl.driveControlPacket.header.seq ≠ 0 then
    let (status, p, cl) := cl.sendPacket fun i => cl.driveControlPacket.bytes.getD i 0
    (written, some status,
      { cl with driveControlPacket :=
        { cl.driveControlPacket with
          header := { cl.driveControlPacket.header with seq := LittleEndian.getU16 p 2 } } })
  else (written, none, cl)

/-- The reading loop of a cycle of `OrazioClient_sync`, with at most `n` packets on the link. -/
def syncRead (currentSeq : UInt16) (cl : OrazioClient F) (link : List UInt8) :
    Nat → Except Fault (Option (OrazioClient F × List UInt8))
  | 0 => .ok none
  | n + 1 =>
    match readPacket 0 cl link with
    | .error e => .error e
    | .ok none => .ok none
    | .ok (some (_, cl, link)) =>
      if currentSeq = cl.packets.endEpoch.seq then syncRead currentSeq cl link n
      else .ok (some (cl, link))

/-- `OrazioClient_sync`, with the bytes written. Its result is always `Success`. -/
def OrazioClient_sync (link : List UInt8) (cl : OrazioClient F) :
    Nat → Except Fault (Option (List UInt8 × OrazioClient F × List UInt8))
  | 0 => .ok (some ([], cl, link))
  | cycles + 1 =>
    let (written, _, cl) := syncSend cl
    match syncRead cl.packets.endEpoch.seq cl link link.length with
    | .error e => .error e
    | .ok none => .ok none
    | .ok (some (cl, link)) =>
      match OrazioClient_sync link cl cycles with
      | .error e => .error e
      | .ok none => .ok none
      | .ok (some (rest, cl, link)) => .ok (some (written ++ rest, cl, link))

/-- `OrazioClient_get`, with the bytes that it copies to `dest`. -/
def OrazioClient_get (type : UInt8) (cl : OrazioClient F) : Except Fault (PacketStatus × List UInt8) :=
  if h : type.toNat < PACKET_TYPE_MAX then
    match cl.packetHandler.operations ⟨type.toNat, h⟩ with
    | none => .ok (.unknownType, [])
    | some v =>
      if v.type = type then .ok (.success, (v.bytes cl.packets).take v.sizeof.toNat)
      else .error .assertFailed
  else .ok (.packetTypeOutOfBounds, [])

def OrazioClient_setBaseVelocity (tv rv : F) (cl : OrazioClient F) : OrazioClient F :=
  { cl with driveControlPacket :=
    { header := { cl.driveControlPacket.header with seq := 1 }
      translationalVelocity := tv
      rotationalVelocity := rv } }

/-! ### Runs -/

/-- The client and the bytes that the firmware has sent and the client has not read. -/
structure LinkState (F : Type) where
  client : OrazioClient F
  link : List UInt8

/-- Why a run ends: a fault, or a call that waits for bytes. -/
inductive Stop
  | fault (e : Fault)
  | waiting
  deriving DecidableEq

/-- The query of `OrazioClient_readConfiguration`, before it is sent. -/
def configurationQuery : PacketBytes :=
  fun i => [PARAM_CONTROL_PACKET_ID, sizeofParamControlPacket, 0, 0, ParamRequest, ParamSystem].getD i 0

/-- The calls of `OrazioClient_readConfiguration` that send the query for these parameters, up to the
first one that does not return `Success`. While a call waits, the firmware sends the bytes that stand with
the parameters. -/
def sendQueries (timeout : Int) (query : PacketBytes) :
    List (UInt8 × List UInt8) → LinkState F → Except Stop (List (SendResult F) × LinkState F)
  | [], s => .ok ([], s)
  | (paramType, emitted) :: rest, s =>
    match OrazioClient_sendPacket (Function.update query 5 paramType) timeout (s.link ++ emitted) s.client with
    | .error e => .error (.fault e)
    | .ok none => .error .waiting
    | .ok (some r) =>
      if r.status ≠ .success then .ok ([r], ⟨r.client, r.link⟩)
      else
        match sendQueries timeout r.packet rest ⟨r.client, r.link⟩ with
        | .error e => .error e
        | .ok (results, s) => .ok (r :: results, s)

/-- `OrazioClient_readConfiguration`, with its calls of `OrazioClient_sendPacket`. -/
def OrazioClient_readConfiguration (timeout : Int) (emitted : UInt8 → List UInt8) (s : LinkState F) :
    Except Stop (List (SendResult F) × LinkState F) :=
  sendQueries timeout configurationQuery
    ([ParamSystem, ParamJoints, ParamDrive].map fun paramType => (paramType, emitted paramType)) s

/-- A call of the client, or bytes that the firmware sends. While a blocking call waits, the firmware
sends `emitted`; what it sends earlier is a step of its own. -/
inductive LinkInput (F : Type)
  | emit (bytes : List UInt8)
  | sendPacket (p : PacketBytes) (timeout : Int) (emitted : List UInt8)
  | syncSend
  | syncRead
  | setBaseVelocity (tv rv : F)

/-- A call of `OrazioClient_sendPacket`: the client and the link before, the arguments, and what the
call does. -/
structure SendCall (F : Type) where
  before : LinkState F
  request : PacketBytes
  timeout : Int
  emitted : List UInt8
  result : SendResult F

inductive LinkEvent (F : Type)
  | emit (bytes : List UInt8)
  | sendPacket (call : SendCall F)
  | syncSend (before : OrazioClient F) (written : List UInt8) (status : Option PacketStatus)
      (after : OrazioClient F)
  | syncRead (r : Reception)
  | setBaseVelocity (tv rv : F)

def linkStep (s : LinkState F) : LinkInput F → Except Stop (LinkEvent F × LinkState F)
  | .emit bytes => .ok (.emit bytes, { s with link := s.link ++ bytes })
  | .sendPacket p timeout emitted =>
    match OrazioClient_sendPacket p timeout (s.link ++ emitted) s.client with
    | .error e => .error (.fault e)
    | .ok none => .error .waiting
    | .ok (some r) => .ok (.sendPacket ⟨s, p, timeout, emitted, r⟩, ⟨r.client, r.link⟩)
  | .syncSend =>
    let (written, status, client) := Orazio.syncSend s.client
    .ok (.syncSend s.client written status client, { s with client })
  | .syncRead =>
    match readPacket 0 s.client s.link with
    | .error e => .error (.fault e)
    | .ok none => .error .waiting
    | .ok (some (r, client, link)) => .ok (.syncRead r, ⟨client, link⟩)
  | .setBaseVelocity tv rv =>
    .ok (.setBaseVelocity tv rv, { s with client := OrazioClient_setBaseVelocity tv rv s.client })

end Orazio
