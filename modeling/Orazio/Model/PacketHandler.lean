import Mathlib.Logic.Function.Basic
import Mathlib.Tactic.Common

/-!
# The packet handler

Model of `packet_handler.c` with `packet_header.h`, `packet_operations.h` and
`buffer_utils.h`. A pointer to a `PacketOperations` record is a value of an arbitrary type
`ρ`; `ops : ρ → PacketOperations σ` gives the record behind it. Everything outside the
handler is a `World`: the memory its buffers live in and the state `σ` of the callbacks.
A dereferenced null pointer, an access outside an array and a failed assertion end the program
with a `Fault`.
-/

namespace Orazio

abbrev PACKET_SIZE_ANY : UInt8 := 0xFF
abbrev PACKET_TYPE_MAX : Nat := 16
abbrev BUFFER_SIZE_MAX : Int := 256

abbrev sizeofPacketHeader : UInt8 := 4
abbrev sizeofPacketSeq : UInt8 := 2

inductive PacketStatus
  | unknownType | rxBufferError | invalidSize | checksumError | unsync | packetTypeOutOfBounds
  | packetInstallError | packetUninstallError | txBufferFull | noHandler | timeout | genericError
  | success | syncAA | sync55 | syncType | syncSize | syncPayload | syncPayloadComplete
  | syncChecksum
  deriving DecidableEq, Repr

/-- The value of the C enumerator. -/
def PacketStatus.code : PacketStatus → Int
  | .unknownType => -1
  | .rxBufferError => -2
  | .invalidSize => -3
  | .checksumError => -4
  | .unsync => -5
  | .packetTypeOutOfBounds => -6
  | .packetInstallError => -7
  | .packetUninstallError => -8
  | .txBufferFull => -9
  | .noHandler => -10
  | .timeout => -11
  | .genericError => -127
  | .success => 0
  | .syncAA => 1
  | .sync55 => 2
  | .syncType => 3
  | .syncSize => 4
  | .syncPayload => 5
  | .syncPayloadComplete => 6
  | .syncChecksum => 7

inductive Fault
  | nullPointer | outOfBounds | assertFailed
  deriving DecidableEq, Repr

/-- `BUFFER_PUT` on `int` indices: the new end index and the new size. -/
def bufferPut (idxEnd idxSize bsizeMax : Int) : Int × Int :=
  let idxEnd := idxEnd + 1
  (if idxEnd ≥ bsizeMax then 0 else idxEnd, idxSize + 1)

/-- `BUFFER_GET` on `int` indices: the new start index and the new size. -/
def bufferGet (idxStart idxSize bsizeMax : Int) : Int × Int :=
  let idxStart := idxStart + 1
  (if idxStart ≥ bsizeMax then 0 else idxStart, idxSize - 1)

abbrev Addr := Nat

/-- What lies outside the handler. -/
structure World (σ : Type) where
  mem : Addr → UInt8
  env : σ

def World.store {σ : Type} (w : World σ) (a : Addr) (c : UInt8) : World σ :=
  { w with mem := Function.update w.mem a c }

/-- The argument pointers of the callbacks are part of the functions. The status returned by
`on_receive_fn` is ignored by its only caller. -/
structure PacketOperations (σ : Type) where
  type : UInt8
  size : UInt8
  initializeBufferFn : UInt8 → UInt8 → World σ → Except Fault (Option Addr × World σ)
  onReceiveFn : Option (Addr → World σ → Except Fault (World σ))

inductive RxFn
  | rxAA | rx55 | rxType | rxSize | rxPayload | rxChecksum
  deriving DecidableEq, Repr

/-- The `tx_` fields of a `PacketHandler`. -/
structure TxFields where
  txBuffer : Int → UInt8
  txStart : Int
  txEnd : Int
  txSize : Int
  txChecksum : UInt8

structure PacketHandler (ρ : Type) extends TxFields where
  operations : Fin PACKET_TYPE_MAX → Option ρ
  rxCurrentOp : Option ρ
  rxCurrentPacket : Option Addr
  rxChecksum : UInt8
  rxBuffer : Option Addr
  rxBufferEnd : Option Addr
  rxBytesToRead : UInt8
  rxFn : RxFn

/-! ### Sending -/

/-- The bytes of a packet from its header on, as the sender reads them. -/
abbrev PacketBytes := Nat → UInt8

namespace TxFields

def initializeTx (t : TxFields) : TxFields :=
  { t with txSize := 0, txStart := 0, txEnd := 0 }

def putTxByte (t : TxFields) (c : UInt8) : TxFields :=
  if t.txSize = BUFFER_SIZE_MAX then t
  else
    { t with
      txBuffer := Function.update t.txBuffer t.txEnd c
      txEnd := (bufferPut t.txEnd t.txSize BUFFER_SIZE_MAX).1
      txSize := (bufferPut t.txEnd t.txSize BUFFER_SIZE_MAX).2 }

def txByte (t : TxFields) : UInt8 × TxFields :=
  if t.txSize = 0 then (0, t)
  else
    (t.txBuffer t.txStart,
      { t with
        txStart := (bufferGet t.txStart t.txSize BUFFER_SIZE_MAX).1
        txSize := (bufferGet t.txStart t.txSize BUFFER_SIZE_MAX).2 })

/-- The loop of `PacketHandler_sendPacket` with `size` bytes left at `buf`. -/
def sendLoop (t : TxFields) (buf : PacketBytes) : Nat → TxFields
  | 0 => t
  | size + 1 =>
    sendLoop (putTxByte { t with txChecksum := t.txChecksum ^^^ buf 0 } (buf 0))
      (fun i => buf (i + 1)) size

def sendPacket (t : TxFields) (header : PacketBytes) : PacketStatus × TxFields :=
  let size := header 1
  let txFree := BUFFER_SIZE_MAX - t.txSize
  let realSize : Int := size.toNat + 3
  if txFree < realSize then (.txBufferFull, t)
  else
    let t := putTxByte t 0xAA
    let t := putTxByte t 0x55
    let t := sendLoop { t with txChecksum := 0 } header size.toNat
    (.success, putTxByte t t.txChecksum)

end TxFields

namespace PacketHandler

variable {ρ σ : Type}

def initializeHandler (h : PacketHandler ρ) : PacketHandler ρ where
  toTxFields := h.toTxFields.initializeTx
  operations := fun _ => none
  rxCurrentOp := none
  rxCurrentPacket := none
  rxChecksum := 0
  rxBuffer := none
  rxBufferEnd := none
  rxBytesToRead := 0
  rxFn := .rxAA

def installPacket (ops : ρ → PacketOperations σ) (h : PacketHandler ρ) (p : ρ) :
    PacketStatus × PacketHandler ρ :=
  if ht : (ops p).type.toNat < PACKET_TYPE_MAX then
    match h.operations ⟨(ops p).type.toNat, ht⟩ with
    | some _ => (.packetInstallError, h)
    | none =>
      (.success,
        { h with operations := Function.update h.operations ⟨(ops p).type.toNat, ht⟩ (some p) })
  else (.packetTypeOutOfBounds, h)

def uninstallPacket (h : PacketHandler ρ) (type : UInt8) : PacketStatus × PacketHandler ρ :=
  if ht : type.toNat < PACKET_TYPE_MAX then
    match h.operations ⟨type.toNat, ht⟩ with
    | none => (.packetUninstallError, h)
    | some _ =>
      (.success, { h with operations := Function.update h.operations ⟨type.toNat, ht⟩ none })
  else (.packetTypeOutOfBounds, h)

def sendPacket (h : PacketHandler ρ) (header : PacketBytes) : PacketStatus × PacketHandler ρ :=
  let (status, t) := h.toTxFields.sendPacket header
  (status, { h with toTxFields := t })

def txByte (h : PacketHandler ρ) : UInt8 × PacketHandler ρ :=
  let (c, t) := h.toTxFields.txByte
  (c, { h with toTxFields := t })

/-! ### Receiving -/

/-- A call of `on_receive_fn`: the operation, the packet and the memory it finds. -/
structure Received (ρ : Type) where
  op : ρ
  packet : Addr
  mem : Addr → UInt8

/-- The first `n` bytes of the packet handed to `on_receive_fn`. -/
def Received.bytes (r : Received ρ) (n : Nat) : List UInt8 :=
  (List.range n).map fun i => r.mem (r.packet + i)

structure RxResult (ρ σ : Type) where
  status : PacketStatus
  handler : PacketHandler ρ
  world : World σ
  received : Option (Received ρ)

def rxAA (h : PacketHandler ρ) (c : UInt8) : PacketStatus × PacketHandler ρ :=
  let h := { h with rxChecksum := 0 }
  if c = 0xAA then (.syncAA, { h with rxFn := .rx55 })
  else (.unsync, h)

def rx55 (h : PacketHandler ρ) (c : UInt8) : PacketStatus × PacketHandler ρ :=
  if c = 0x55 then (.sync55, { h with rxFn := .rxType, rxChecksum := 0 })
  else (.unsync, { h with rxFn := .rxAA })

def rxType (h : PacketHandler ρ) (c : UInt8) : PacketStatus × PacketHandler ρ :=
  let h := { h with rxChecksum := h.rxChecksum ^^^ c }
  if hc : c.toNat < PACKET_TYPE_MAX then
    match h.operations ⟨c.toNat, hc⟩ with
    | none => (.unknownType, { h with rxCurrentOp := none, rxFn := .rxAA })
    | some p => (.syncType, { h with rxCurrentOp := some p, rxFn := .rxSize })
  else (.unsync, { h with rxFn := .rxAA })

def rxSize (ops : ρ → PacketOperations σ) (h : PacketHandler ρ) (w : World σ) (c : UInt8) :
    Except Fault (RxResult ρ σ) :=
  match h.rxCurrentOp with
  | none => .error .nullPointer
  | some p =>
    let op := ops p
    if op.size ≠ PACKET_SIZE_ANY ∧ op.size ≠ c then
      .ok ⟨.invalidSize, { h with rxFn := .rxAA }, w, none⟩
    else
      match op.initializeBufferFn op.type op.size w with
      | .error e => .error e
      | .ok (none, w) =>
        .ok ⟨.rxBufferError, { h with rxCurrentPacket := none, rxFn := .rxAA }, w, none⟩
      | .ok (some buffer, w) =>
        .ok ⟨.syncSize,
          { h with
            rxCurrentPacket := some buffer
            rxChecksum := h.rxChecksum ^^^ c
            rxBytesToRead := c - sizeofPacketHeader + sizeofPacketSeq
            rxBuffer := some buffer
            rxBufferEnd := some (buffer + 2)
            rxFn := .rxPayload },
          (w.store buffer op.type).store (buffer + 1) op.size, none⟩

def rxPayload (h : PacketHandler ρ) (w : World σ) (c : UInt8) : Except Fault (RxResult ρ σ) :=
  match h.rxBufferEnd with
  | none => .error .nullPointer
  | some bufferEnd =>
    let h :=
      { h with
        rxChecksum := h.rxChecksum ^^^ c
        rxBufferEnd := some (bufferEnd + 1)
        rxBytesToRead := h.rxBytesToRead - 1 }
    let w := w.store bufferEnd c
    if h.rxBytesToRead = 0 then
      .ok ⟨.syncPayloadComplete, { h with rxFn := .rxChecksum }, w, none⟩
    else .ok ⟨.syncPayload, h, w, none⟩

/-- `_rxChecksum`; `rxChecksum` is the field. -/
def rxChecksumByte (ops : ρ → PacketOperations σ) (h : PacketHandler ρ) (w : World σ) (c : UInt8) :
    Except Fault (RxResult ρ σ) :=
  let h := { h with rxFn := .rxAA, rxBuffer := none, rxBufferEnd := none }
  if c = h.rxChecksum then
    match h.rxCurrentOp, h.rxCurrentPacket with
    | some p, some packet =>
      match (ops p).onReceiveFn with
      | none => .ok ⟨.syncChecksum, h, w, none⟩
      | some onReceive =>
        match onReceive packet w with
        | .error e => .error e
        | .ok w' => .ok ⟨.syncChecksum, h, w', some ⟨p, packet, w.mem⟩⟩
    | _, _ => .error .nullPointer
  else .ok ⟨.checksumError, h, w, none⟩

def rxByte (ops : ρ → PacketOperations σ) (h : PacketHandler ρ) (w : World σ) (c : UInt8) :
    Except Fault (RxResult ρ σ) :=
  match h.rxFn with
  | .rxAA => .ok ⟨(h.rxAA c).1, (h.rxAA c).2, w, none⟩
  | .rx55 => .ok ⟨(h.rx55 c).1, (h.rx55 c).2, w, none⟩
  | .rxType => .ok ⟨(h.rxType c).1, (h.rxType c).2, w, none⟩
  | .rxSize => h.rxSize ops w c
  | .rxPayload => h.rxPayload w c
  | .rxChecksum => h.rxChecksumByte ops w c

end PacketHandler

end Orazio
