import Orazio.Model.PacketHandler

/-!
# The deferred packet handler

Model of `deferred_packet_handler.c`. The handler is a packet handler whose operations live in its
own `packet_infos`: a pointer to the operations of a type is the index of its entry, and the
world of the base handler holds the other fields. A deferred action is a value of an arbitrary
type `α`, interpreted by `act`; it may send packets and change the rest of the program `τ`, and it
only reads the packet it is given.
-/

namespace Orazio

abbrev PENDING_PACKETS_MAX : Int := 8
abbrev PACKETS_PER_TYPE_MAX : Int := 2

/-- The two callbacks in `ops` are set together; `callbacks` says whether they are. -/
structure DeferredPacketOps (α : Type) where
  type : UInt8
  size : UInt8
  callbacks : Bool
  packetBuffers : Int → Option Addr
  packetBuffersMax : Int
  packetBuffersSize : Int
  packetBuffersStart : Int
  packetBuffersEnd : Int
  deferredAction : Option α

structure DeferredFields (α : Type) where
  packetInfos : Fin PACKET_TYPE_MAX → DeferredPacketOps α
  pendingPackets : Int → Addr
  pendingPacketsSize : Int

namespace DeferredPacketOps

variable {α : Type}

/-- An entry after `memset`. -/
def zero : DeferredPacketOps α where
  type := 0
  size := 0
  callbacks := false
  packetBuffers := fun _ => none
  packetBuffersMax := 0
  packetBuffersSize := 0
  packetBuffersStart := 0
  packetBuffersEnd := 0
  deferredAction := none

/-- `src_info` before its buffers are filled in. -/
def fresh (type size : UInt8) (numBuffers : Int) (action : Option α) : DeferredPacketOps α :=
  { (zero : DeferredPacketOps α) with
    type := type
    size := size
    callbacks := true
    packetBuffersMax := numBuffers
    deferredAction := action }

/-- `packet_buffers[i]`. -/
def packetBuffer (info : DeferredPacketOps α) (i : Int) : Except Fault (Option Addr) :=
  if 0 ≤ i ∧ i < PACKETS_PER_TYPE_MAX then .ok (info.packetBuffers i) else .error .outOfBounds

/-- `BUFFER_PUT(info->packet_buffers, info->packet_buffers_max)`. -/
def put (info : DeferredPacketOps α) : DeferredPacketOps α :=
  { info with
    packetBuffersEnd := (bufferPut info.packetBuffersEnd info.packetBuffersSize
      info.packetBuffersMax).1
    packetBuffersSize := (bufferPut info.packetBuffersEnd info.packetBuffersSize
      info.packetBuffersMax).2 }

/-- `BUFFER_GET(info->packet_buffers, info->packet_buffers_max)`. -/
def get (info : DeferredPacketOps α) : DeferredPacketOps α :=
  { info with
    packetBuffersStart := (bufferGet info.packetBuffersStart info.packetBuffersSize
      info.packetBuffersMax).1
    packetBuffersSize := (bufferGet info.packetBuffersStart info.packetBuffersSize
      info.packetBuffersMax).2 }

end DeferredPacketOps

namespace DeferredFields

variable {α : Type}

/-- `packet_infos + type`. -/
def infoIndex (type : UInt8) : Except Fault (Fin PACKET_TYPE_MAX) :=
  if h : type.toNat < PACKET_TYPE_MAX then .ok ⟨type.toNat, h⟩ else .error .outOfBounds

def setInfo (d : DeferredFields α) (t : Fin PACKET_TYPE_MAX) (info : DeferredPacketOps α) :
    DeferredFields α :=
  { d with packetInfos := Function.update d.packetInfos t info }

lemma setInfo_self (d : DeferredFields α) (t : Fin PACKET_TYPE_MAX) (info : DeferredPacketOps α) :
    (d.setInfo t info).packetInfos t = info :=
  Function.update_self _ _ _

lemma setInfo_of_ne (d : DeferredFields α) {t t' : Fin PACKET_TYPE_MAX} (h : t' ≠ t)
    (info : DeferredPacketOps α) : (d.setInfo t info).packetInfos t' = d.packetInfos t' :=
  Function.update_of_ne h _ _

/-- The packet is entered as the last one pending, and its buffer is claimed. -/
def addPending (d : DeferredFields α) (t : Fin PACKET_TYPE_MAX) (packet : Addr) :
    DeferredFields α where
  packetInfos := Function.update d.packetInfos t (d.packetInfos t).put
  pendingPackets := Function.update d.pendingPackets d.pendingPacketsSize packet
  pendingPacketsSize := d.pendingPacketsSize + 1

lemma addPending_self (d : DeferredFields α) (t : Fin PACKET_TYPE_MAX) (packet : Addr) :
    (d.addPending t packet).packetInfos t = (d.packetInfos t).put :=
  Function.update_self _ _ _

lemma addPending_of_ne (d : DeferredFields α) {t t' : Fin PACKET_TYPE_MAX} (h : t' ≠ t) (packet : Addr) :
    (d.addPending t packet).packetInfos t' = d.packetInfos t' :=
  Function.update_of_ne h _ _

def initializeBuffer (type _size : UInt8) (w : World (DeferredFields α)) :
    Except Fault (Option Addr × World (DeferredFields α)) :=
  match infoIndex type with
  | .error e => .error e
  | .ok t =>
    let info := w.env.packetInfos t
    if info.packetBuffersSize ≥ info.packetBuffersMax then .ok (none, w)
    else
      match info.packetBuffer info.packetBuffersEnd with
      | .error e => .error e
      | .ok buffer => .ok (buffer, w)

def onReceive (packet : Addr) (w : World (DeferredFields α)) :
    Except Fault (World (DeferredFields α)) :=
  match infoIndex (w.mem packet) with
  | .error e => .error e
  | .ok t =>
    let info := w.env.packetInfos t
    match info.packetBuffer info.packetBuffersEnd with
    | .error e => .error e
    | .ok buffer =>
      if buffer ≠ some packet then .error .assertFailed
      else if w.env.pendingPacketsSize ≥ PENDING_PACKETS_MAX then .ok w
      else .ok { w with env := w.env.addPending t packet }

/-- The operations behind the pointers `&packet_infos[t].ops`. -/
def operations (infos : Fin PACKET_TYPE_MAX → DeferredPacketOps α) (t : Fin PACKET_TYPE_MAX) :
    PacketOperations (DeferredFields α) where
  type := (infos t).type
  size := (infos t).size
  initializeBufferFn :=
    if (infos t).callbacks then initializeBuffer else fun _ _ _ => .error .nullPointer
  onReceiveFn := if (infos t).callbacks then some onReceive else none

end DeferredFields

structure DeferredPacketHandler (α : Type) extends DeferredFields α where
  baseHandler : PacketHandler (Fin PACKET_TYPE_MAX)

namespace DeferredPacketHandler

variable {α τ : Type}

def initializeDeferred (h : DeferredPacketHandler α) : DeferredPacketHandler α :=
  { h with
    baseHandler := h.baseHandler.initializeHandler
    packetInfos := fun _ => .zero
    pendingPacketsSize := 0 }

/-- The loop that fills `src_info.packet_buffers` with `n` buffers from index `i` on. -/
def fillBuffers (info : DeferredPacketOps α) (size : UInt8) (b : Addr) (i : Int) :
    Nat → Except Fault (DeferredPacketOps α)
  | 0 => .ok info
  | n + 1 =>
    if i < PACKETS_PER_TYPE_MAX then
      fillBuffers { info with packetBuffers := Function.update info.packetBuffers i (some b) } size
        (b + size.toNat) (i + 1) n
    else .error .outOfBounds

def installPacket (h : DeferredPacketHandler α) (type size : UInt8) (buffer : Addr)
    (numBuffers : Int) (action : Option α) : Except Fault (PacketStatus × DeferredPacketHandler α) :=
  if ht : type.toNat < PACKET_TYPE_MAX then
    match fillBuffers (.fresh type size numBuffers action) size buffer 0 numBuffers.toNat with
    | .error e => .error e
    | .ok srcInfo =>
      let fields := h.toDeferredFields.setInfo ⟨type.toNat, ht⟩ srcInfo
      let result := h.baseHandler.installPacket (DeferredFields.operations fields.packetInfos)
        ⟨type.toNat, ht⟩
      .ok (result.1, { toDeferredFields := fields, baseHandler := result.2 })
  else .ok (.packetInstallError, h)

end DeferredPacketHandler

/-- A deferred packet handler, the memory of its packet buffers and the rest of the program. -/
structure DeferredState (α τ : Type) where
  handler : DeferredPacketHandler α
  mem : Addr → UInt8
  env : τ

/-- The call of a deferred action: the packet and the memory it finds. -/
structure Executed (α : Type) where
  action : α
  packet : Addr
  mem : Addr → UInt8

/-- The packet handed to the action. -/
def Executed.memory {α : Type} (e : Executed α) : PacketBytes :=
  fun i => e.mem (e.packet + i)

/-- The first `n` bytes of the packet handed to the action. -/
def Executed.bytes {α : Type} (e : Executed α) (n : Nat) : List UInt8 :=
  (List.range n).map fun i => e.mem (e.packet + i)

namespace DeferredState

variable {α τ : Type}

/-- `PacketHandler_rxByte(&h->base_handler, c)`. -/
def rxByte (s : DeferredState α τ) (c : UInt8) :
    Except Fault (PacketStatus × Option (PacketHandler.Received (Fin PACKET_TYPE_MAX)) ×
      DeferredState α τ) :=
  match s.handler.baseHandler.rxByte (DeferredFields.operations s.handler.packetInfos)
      ⟨s.mem, s.handler.toDeferredFields⟩ c with
  | .error e => .error e
  | .ok r =>
    .ok (r.status, r.received,
      { s with handler := { r.world.env with baseHandler := r.handler }, mem := r.world.mem })

/-- The state with other transmit fields and another rest of the program. -/
def setProgram (s : DeferredState α τ) (x : TxFields × τ) : DeferredState α τ :=
  { s with
    handler := { s.handler with baseHandler := { s.handler.baseHandler with toTxFields := x.1 } }
    env := x.2 }

/-- An interpreted action: it sends packets and changes the rest of the program. -/
abbrev Act (α τ : Type) := α → PacketBytes → TxFields × τ → Except Fault (TxFields × τ)

/-- The call of the action of `info`, if there is one. -/
def callAction (act : Act α τ) (info : DeferredPacketOps α) (p : Addr) (s : DeferredState α τ) :
    Except Fault (List (Executed α) × DeferredState α τ) :=
  match info.deferredAction with
  | none => .ok ([], s)
  | some action =>
    match act action (fun i => s.mem (p + i)) (s.handler.baseHandler.toTxFields, s.env) with
    | .error e => .error e
    | .ok x => .ok ([⟨action, p, s.mem⟩], s.setProgram x)

/-- The body of the loop of `DeferredPacketHandler_processPendingPackets`. -/
def processPacket (act : Act α τ) (pnum : Int) (s : DeferredState α τ) :
    Except Fault (List (Executed α) × DeferredState α τ) :=
  let p := s.handler.pendingPackets pnum
  match DeferredFields.infoIndex (s.mem p) with
  | .error e => .error e
  | .ok t =>
    let info := s.handler.packetInfos t
    match info.packetBuffer info.packetBuffersStart with
    | .error e => .error e
    | .ok buffer =>
      if buffer ≠ some p then .error .assertFailed
      else
        match callAction act info p s with
        | .error e => .error e
        | .ok (executed, s) =>
          .ok (executed,
            { s with handler :=
              { s.handler with
                packetInfos := Function.update s.handler.packetInfos t info.get } })

/-- The loop with `n` packets left from `pnum` on. -/
def processLoop (act : Act α τ) (s : DeferredState α τ) (pnum : Int) :
    Nat → Except Fault (List (Executed α) × DeferredState α τ)
  | 0 => .ok ([], s)
  | n + 1 =>
    match processPacket act pnum s with
    | .error e => .error e
    | .ok (executed, s) =>
      match processLoop act s (pnum + 1) n with
      | .error e => .error e
      | .ok (executed', s) => .ok (executed ++ executed', s)

def processPendingPackets (act : Act α τ) (s : DeferredState α τ) :
    Except Fault (List (Executed α) × DeferredState α τ) :=
  match processLoop act s 0 s.handler.pendingPacketsSize.toNat with
  | .error e => .error e
  | .ok (executed, s) =>
    .ok (executed, { s with handler := { s.handler with pendingPacketsSize := 0 } })

end DeferredState

end Orazio
