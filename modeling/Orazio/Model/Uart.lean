import Orazio.Model.PacketHandler

/-!
# The UART drivers

Model of `arch/dspic/uart.c` and `arch/atmega2560/uart.c`. The cells of the two buffers are `int`s
that only ever receive a byte. A handler and a section with interrupts disabled are one step; a
call whose wait loop does not let it through leaves without a result and is tried again.
-/

namespace Orazio

abbrev UART_BUFFER_SIZE : Int := 256

/-- `BUFFER_PUT` on `uint8_t` indices: the new end index and the new size. -/
def bufferPut8 (idxEnd idxSize : UInt8) (bsizeMax : Int) : UInt8 × UInt8 :=
  let idxEnd := idxEnd + 1
  (if (idxEnd.toNat : Int) ≥ bsizeMax then 0 else idxEnd, idxSize + 1)

/-- `BUFFER_GET` on `uint8_t` indices: the new start index and the new size. -/
def bufferGet8 (idxStart idxSize : UInt8) (bsizeMax : Int) : UInt8 × UInt8 :=
  let idxStart := idxStart + 1
  (if (idxStart.toNat : Int) ≥ bsizeMax then 0 else idxStart, idxSize - 1)

/-- The fields of a `UART` with the prefix `tx` or `rx`. -/
structure UartBuffer where
  buffer : Int → UInt8
  start : UInt8
  stop : UInt8
  size : UInt8

namespace UartBuffer

def reset (b : UartBuffer) : UartBuffer :=
  { b with start := 0, stop := 0, size := 0 }

def put (b : UartBuffer) (c : UInt8) : UartBuffer :=
  { b with
    buffer := Function.update b.buffer b.stop.toNat c
    stop := (bufferPut8 b.stop b.size UART_BUFFER_SIZE).1
    size := (bufferPut8 b.stop b.size UART_BUFFER_SIZE).2 }

def get (b : UartBuffer) : UInt8 × UartBuffer :=
  (b.buffer b.start.toNat,
    { b with
      start := (bufferGet8 b.start b.size UART_BUFFER_SIZE).1
      size := (bufferGet8 b.start b.size UART_BUFFER_SIZE).2 })

end UartBuffer

structure Uart where
  tx : UartBuffer
  rx : UartBuffer

/-- A driver with its registers: `uart_0`, `UART_putChar`, `UART_getChar` and the two interrupt
handlers; `overrun` is what the hardware does when its receive buffer overflows. -/
structure UartDriver (δ : Type) where
  uart : δ → Uart
  putChar : δ → UInt8 → Option δ
  getChar : δ → Option UInt8 × δ
  txInterrupt : δ → Option UInt8 × δ
  rxInterrupt : δ → UInt8 → δ
  overrun : δ → δ

/-- The state of the dsPIC driver: `IEC0bits.U1TXIE`, `IFS0bits.U1RXIF`, `U1STAbits.FERR` and
`U1STAbits.OERR`. -/
structure Dspic where
  uart : Uart
  u1txie : Bool
  u1rxif : Bool
  ferr : Bool
  oerr : Bool

namespace Dspic

def init (d : Dspic) (baud : Nat) : Option Dspic :=
  if baud = 57600 ∨ baud = 115200 then
    some
      { uart := ⟨d.uart.tx.reset, d.uart.rx.reset⟩
        u1txie := false
        u1rxif := false
        ferr := false
        oerr := false }
  else none

def putChar (d : Dspic) (c : UInt8) : Option Dspic :=
  if (d.uart.tx.size.toNat : Int) ≥ UART_BUFFER_SIZE then none
  else some { d with uart := { d.uart with tx := d.uart.tx.put c }, u1txie := true }

def getChar (d : Dspic) : Option UInt8 × Dspic :=
  let d := { d with u1rxif := true }
  if d.ferr then (some 1, d)
  else
    let d := { d with oerr := false }
    if d.uart.rx.size = 0 then (none, d)
    else (some d.uart.rx.get.1, { d with uart := { d.uart with rx := d.uart.rx.get.2 } })

/-- `_U1RXInterrupt` with the byte `c` in `U1RXREG`. -/
def rxInterrupt (d : Dspic) (c : UInt8) : Dspic :=
  let d :=
    if (d.uart.rx.size.toNat : Int) < UART_BUFFER_SIZE then
      { d with uart := { d.uart with rx := d.uart.rx.put c } }
    else d
  { d with u1rxif := false }

/-- `_U1TXInterrupt`: the byte written to `U1TXREG`. -/
def txInterrupt (d : Dspic) : Option UInt8 × Dspic :=
  if d.uart.tx.size = 0 then (none, { d with u1txie := false })
  else (some d.uart.tx.get.1, { d with uart := { d.uart with tx := d.uart.tx.get.2 } })

def driver : UartDriver Dspic :=
  { uart, putChar, getChar, txInterrupt, rxInterrupt, overrun := fun d => { d with oerr := true } }

end Dspic

/-- The state of the ATmega2560 driver with the bit `UDRIE0` of `UCSR0B`. -/
structure Atmega2560 where
  uart : Uart
  udrie0 : Bool

namespace Atmega2560

def init (d : Atmega2560) (baud : Nat) : Option Atmega2560 :=
  if baud = 57600 ∨ baud = 115200 then
    some { uart := ⟨d.uart.tx.reset, d.uart.rx.reset⟩, udrie0 := false }
  else none

def putChar (d : Atmega2560) (c : UInt8) : Option Atmega2560 :=
  if (d.uart.tx.size.toNat : Int) ≥ UART_BUFFER_SIZE then none
  else some { d with uart := { d.uart with tx := d.uart.tx.put c }, udrie0 := true }

def getChar (d : Atmega2560) : Option UInt8 × Atmega2560 :=
  if d.uart.rx.size = 0 then (none, d)
  else (some d.uart.rx.get.1, { d with uart := { d.uart with rx := d.uart.rx.get.2 } })

/-- `ISR(USART0_RX_vect)` with the byte `c` in `UDR0`. -/
def rxInterrupt (d : Atmega2560) (c : UInt8) : Atmega2560 :=
  if (d.uart.rx.size.toNat : Int) < UART_BUFFER_SIZE then
    { d with uart := { d.uart with rx := d.uart.rx.put c } }
  else d

/-- `ISR(USART0_UDRE_vect)`: the byte written to `UDR0`. -/
def txInterrupt (d : Atmega2560) : Option UInt8 × Atmega2560 :=
  if d.uart.tx.size = 0 then (none, { d with udrie0 := false })
  else (some d.uart.tx.get.1, { d with uart := { d.uart with tx := d.uart.tx.get.2 } })

def driver : UartDriver Atmega2560 :=
  { uart, putChar, getChar, txInterrupt, rxInterrupt, overrun := id }

end Atmega2560

end Orazio
