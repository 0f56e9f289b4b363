import Orazio.Model.PacketHandler

/-!
# The packets of the host test

The operations that `packet_handler_test.c` installs. Their buffers are two static variables,
placed at addresses of their own; printing a packet changes nothing.
-/

namespace Orazio

inductive HostPacket
  | packet0 | packet1
  deriving DecidableEq, Repr

namespace HostPacket

def packetType : HostPacket → UInt8
  | packet0 => 0
  | packet1 => 1

/-- A header of 4 bytes with one float or with four. -/
def packetSize : HostPacket → UInt8
  | packet0 => 8
  | packet1 => 20

def buffer : HostPacket → Addr
  | packet0 => 0
  | packet1 => 8

def initializeBuffer (p : HostPacket) (type size : UInt8) (w : World Unit) :
    Except Fault (Option Addr × World Unit) :=
  if type ≠ p.packetType ∨ size ≠ p.packetSize then .ok (none, w) else .ok (some p.buffer, w)

def onReceive (_ : Addr) (w : World Unit) : Except Fault (World Unit) :=
  .ok w

def operations (p : HostPacket) : PacketOperations Unit where
  type := p.packetType
  size := p.packetSize
  initializeBufferFn := p.initializeBuffer
  onReceiveFn := some onReceive

/-- The static `packet_handler` before it is initialised. -/
def staticHandler : PacketHandler HostPacket where
  txBuffer := fun _ => 0
  txStart := 0
  txEnd := 0
  txSize := 0
  txChecksum := 0
  operations := fun _ => none
  rxCurrentOp := none
  rxCurrentPacket := none
  rxChecksum := 0
  rxBuffer := none
  rxBufferEnd := none
  rxBytesToRead := 0
  rxFn := .rxAA

def staticWorld : World Unit where
  mem := fun _ => 0
  env := ()

end HostPacket

end Orazio
