import Orazio.Lib.RingBuffer
import Orazio.Lib.StepMachine
import Orazio.Model.Uart

/-!
# The UART buffers as queues

The size of a buffer is an 8 bit number and its capacity is 256: the tests for a full buffer never
hold, and the 256th waiting byte makes the buffer look empty.
-/

namespace Orazio.Proofs

open RingBuffer

/-! ### One buffer -/

abbrev UartHolds (b : UartBuffer) (q : List UInt8) : Prop :=
  Holds UART_BUFFER_SIZE b.buffer b.start.toNat b.stop.toNat b.size.toNat q

/-- The waiting bytes of a buffer, oldest first. -/
def uartContents (b : UartBuffer) : List UInt8 :=
  contents UART_BUFFER_SIZE b.buffer b.start.toNat b.size.toNat

lemma index8_next (i : UInt8) :
    ((if ((i + 1).toNat : Int) ≥ UART_BUFFER_SIZE then 0 else i + 1 : UInt8).toNat : Int) =
      next UART_BUFFER_SIZE i.toNat := by
  have hi := i.toNat_lt
  have hsucc : (i + 1).toNat = (i.toNat + 1) % 256 := UInt8.toNat_add i 1
  have hsmall : ¬((i + 1).toNat : Int) ≥ UART_BUFFER_SIZE := by
    simp only [UART_BUFFER_SIZE]
    omega
  rw [if_neg hsmall, hsucc]
  unfold next
  simp only [UART_BUFFER_SIZE]
  split <;> omega

lemma size8_succ {n : UInt8} (h : n ≠ 255) : (n + 1).toNat = n.toNat + 1 := by
  have hn := n.toNat_lt
  have hne : n.toNat ≠ 255 := fun h' => h (UInt8.toNat_inj.mp h')
  simp only [UInt8.toNat_add, UInt8.reduceToNat]
  omega

lemma size8_pred {n : UInt8} (h : n ≠ 0) : (n - 1).toNat + 1 = n.toNat := by
  have hn := n.toNat_lt
  have hne : n.toNat ≠ 0 := fun h' => h (UInt8.toNat_inj.mp h')
  simp only [UInt8.toNat_sub, UInt8.reduceToNat]
  omega

lemma reset_holds (b : UartBuffer) : UartHolds b.reset [] :=
  Holds.empty b.buffer (by decide)

lemma put_holds {b : UartBuffer} {q : List UInt8} (h : UartHolds b q) (hsize : b.size ≠ 255)
    (c : UInt8) : UartHolds (b.put c) (q ++ [c]) := by
  have hlen := h.size_eq
  have hlt := size8_succ hsize
  have hbyte := (b.size + 1).toNat_lt
  have hput := h.put (by simp only [UART_BUFFER_SIZE]; omega) c
  rw [← index8_next] at hput
  have hcast : ((b.size.toNat : Int) + 1) = ((b.size + 1).toNat : Int) := by omega
  rw [hcast] at hput
  exact hput

lemma put_size_wrap {b : UartBuffer} (hsize : b.size = 255) (c : UInt8) : (b.put c).size = 0 := by
  change b.size + 1 = 0
  rw [hsize]
  decide

lemma put_size {b : UartBuffer} (hsize : b.size ≠ 255) (c : UInt8) :
    (b.put c).size.toNat = b.size.toNat + 1 :=
  size8_succ hsize

lemma get_size {b : UartBuffer} (hsize : b.size ≠ 0) : b.get.2.size.toNat + 1 = b.size.toNat :=
  size8_pred hsize

lemma get_holds {b : UartBuffer} {c : UInt8} {q : List UInt8} (h : UartHolds b (c :: q)) :
    b.get.1 = c ∧ UartHolds b.get.2 q := by
  have hsize : b.size ≠ 0 := by
    intro h0
    have := h.size_eq
    simp [h0] at this
    omega
  have hget := h.get rfl
  have hpred := size8_pred hsize
  rw [← index8_next] at hget
  have hcast : ((b.size.toNat : Int) - 1) = ((b.size - 1).toNat : Int) := by omega
  rw [hcast] at hget
  exact ⟨h.head rfl, hget⟩

lemma holds_nil_iff {b : UartBuffer} {q : List UInt8} (h : UartHolds b q) : q = [] ↔ b.size = 0 := by
  have hlen := h.size_eq
  have hzero : (0 : UInt8).toNat = 0 := rfl
  rw [← List.length_eq_zero_iff, ← UInt8.toNat_inj, hzero]
  omega

/-! ### Runs of a driver -/

inductive UartCall
  | putChar (c : UInt8)
  | getChar
  | txInterrupt
  | rxInterrupt (c : UInt8)
  | overrun

/-- What a call did; `found` is the size of its buffer before the call. -/
inductive UartEvent
  | putChar (c found : UInt8)
  | getChar (c : UInt8)
  | waits
  | txInterrupt (written : Option UInt8)
  | rxInterrupt (c found : UInt8)
  | overrun

variable {δ : Type}

def uartStep (driver : UartDriver δ) (d : δ) : UartCall → Except Fault (UartEvent × δ)
  | .putChar c =>
    match driver.putChar d c with
    | none => .ok (.waits, d)
    | some d' => .ok (.putChar c (driver.uart d).tx.size, d')
  | .getChar =>
    match driver.getChar d with
    | (none, d') => .ok (.waits, d')
    | (some c, d') => .ok (.getChar c, d')
  | .txInterrupt => .ok (.txInterrupt (driver.txInterrupt d).1, (driver.txInterrupt d).2)
  | .rxInterrupt c => .ok (.rxInterrupt c (driver.uart d).rx.size, driver.rxInterrupt d c)
  | .overrun => .ok (.overrun, driver.overrun d)

/-- The bytes passed to `UART_putChar` calls that have returned. -/
def uartPassed : List UartEvent → List UInt8
  | [] => []
  | .putChar c _ :: events => c :: uartPassed events
  | _ :: events => uartPassed events

/-- The bytes written to the transmit register. -/
def uartWritten : List UartEvent → List UInt8
  | [] => []
  | .txInterrupt (some c) :: events => c :: uartWritten events
  | _ :: events => uartWritten events

/-- A receive queue of the capacity of the buffer: a received byte is dropped only when the queue
is full, and `UART_getChar` returns the oldest byte. -/
def fifoStep (q : List UInt8) : UartEvent → Option (List UInt8)
  | .rxInterrupt c _ => some (if (q.length : Int) < UART_BUFFER_SIZE then q ++ [c] else q)
  | .getChar c =>
    match q with
    | [] => none
    | c' :: q' => if c' = c then some q' else none
  | _ => some q

/-- What is written followed by what waits is what was passed. -/
def TxFifo (u : Uart) (events : List UartEvent) : Prop :=
  uartWritten events ++ uartContents u.tx = uartPassed events

/-- The receive side has behaved as the queue, and the waiting bytes are its contents. -/
def RxFifo (u : Uart) (events : List UartEvent) : Prop :=
  events.foldlM fifoStep [] = some (uartContents u.rx)

/-- The buffer a byte is put into has at most 254 bytes waiting. -/
def UartEvent.Fits : UartEvent → Prop
  | .putChar _ found => found ≠ 255
  | .rxInterrupt _ found => found ≠ 255
  | _ => True

/-- What a driver can do to its two buffers. -/
inductive UartMove (u : Uart) : UartEvent → Uart → Prop
  | putChar (c : UInt8) : UartMove u (.putChar c u.tx.size) { u with tx := u.tx.put c }
  | getChar (h : u.rx.size ≠ 0) : UartMove u (.getChar u.rx.get.1) { u with rx := u.rx.get.2 }
  | waits : UartMove u .waits u
  | txIdle (h : u.tx.size = 0) : UartMove u (.txInterrupt none) u
  | txWrite (h : u.tx.size ≠ 0) :
      UartMove u (.txInterrupt (some u.tx.get.1)) { u with tx := u.tx.get.2 }
  | rxInterrupt (c : UInt8) : UartMove u (.rxInterrupt c u.rx.size) { u with rx := u.rx.put c }
  | overrun : UartMove u .overrun u

/-- The guards of both drivers compare an 8 bit size with 256. -/
lemma size8_lt (n : UInt8) : (n.toNat : Int) < UART_BUFFER_SIZE := by
  have := n.toNat_lt
  simp only [UART_BUFFER_SIZE]
  omega

lemma dspic_step {d d' : Dspic} {call : UartCall} {event : UartEvent} (hferr : d.ferr = false)
    (hstep : uartStep Dspic.driver d call = .ok (event, d')) :
    UartMove d.uart event d'.uart ∧ d'.ferr = false := by
  cases call with
  | putChar c =>
    have hroom : ¬(d.uart.tx.size.toNat : Int) ≥ UART_BUFFER_SIZE := by
      have := size8_lt d.uart.tx.size
      omega
    simp only [uartStep, Dspic.driver, Dspic.putChar, if_neg hroom] at hstep
    cases hstep
    exact ⟨.putChar c, hferr⟩
  | getChar =>
    by_cases hsize : d.uart.rx.size = 0
    · simp only [uartStep, Dspic.driver, Dspic.getChar, hferr, hsize, if_true] at hstep
      cases hstep
      exact ⟨.waits, rfl⟩
    · simp only [uartStep, Dspic.driver, Dspic.getChar, hferr, if_neg hsize] at hstep
      cases hstep
      exact ⟨.getChar hsize, rfl⟩
  | txInterrupt =>
    by_cases hsize : d.uart.tx.size = 0
    · simp only [uartStep, Dspic.driver, Dspic.txInterrupt, if_pos hsize] at hstep
      cases hstep
      exact ⟨.txIdle hsize, hferr⟩
    · simp only [uartStep, Dspic.driver, Dspic.txInterrupt, if_neg hsize] at hstep
      cases hstep
      exact ⟨.txWrite hsize, hferr⟩
  | rxInterrupt c =>
    have hcall : d.rxInterrupt c =
        { d with uart := { d.uart with rx := d.uart.rx.put c }, u1rxif := false } := by
      unfold Dspic.rxInterrupt
      simp only [size8_lt, if_true]
    simp only [uartStep, Dspic.driver, hcall] at hstep
    cases hstep
    exact ⟨.rxInterrupt c, hferr⟩
  | overrun =>
    cases hstep
    exact ⟨.overrun, hferr⟩

lemma atmega2560_step {d d' : Atmega2560} {call : UartCall} {event : UartEvent}
    (hstep : uartStep Atmega2560.driver d call = .ok (event, d')) :
    UartMove d.uart event d'.uart := by
  cases call with
  | putChar c =>
    have hroom : ¬(d.uart.tx.size.toNat : Int) ≥ UART_BUFFER_SIZE := by
      have := size8_lt d.uart.tx.size
      omega
    simp only [uartStep, Atmega2560.driver, Atmega2560.putChar, if_neg hroom] at hstep
    cases hstep
    exact .putChar c
  | getChar =>
    by_cases hsize : d.uart.rx.size = 0
    · simp only [uartStep, Atmega2560.driver, Atmega2560.getChar, if_pos hsize] at hstep
      cases hstep
      exact .waits
    · simp only [uartStep, Atmega2560.driver, Atmega2560.getChar, if_neg hsize] at hstep
      cases hstep
      exact .getChar hsize
  | txInterrupt =>
    by_cases hsize : d.uart.tx.size = 0
    · simp only [uartStep, Atmega2560.driver, Atmega2560.txInterrupt, if_pos hsize] at hstep
      cases hstep
      exact .txIdle hsize
    · simp only [uartStep, Atmega2560.driver, Atmega2560.txInterrupt, if_neg hsize] at hstep
      cases hstep
      exact .txWrite hsize
  | rxInterrupt c =>
    have hcall : d.rxInterrupt c = { d with uart := { d.uart with rx := d.uart.rx.put c } } := by
      unfold Atmega2560.rxInterrupt
      simp only [size8_lt, if_true]
    simp only [uartStep, Atmega2560.driver, hcall] at hstep
    cases hstep
    exact .rxInterrupt c
  | overrun =>
    cases hstep
    exact .overrun

/-! ### The transmit side -/

lemma uartPassed_append (e₁ e₂ : List UartEvent) :
    uartPassed (e₁ ++ e₂) = uartPassed e₁ ++ uartPassed e₂ := by
  induction e₁ with
  | nil => rfl
  | cons e events ih => cases e <;> simp [uartPassed, ih]

lemma uartWritten_append (e₁ e₂ : List UartEvent) :
    uartWritten (e₁ ++ e₂) = uartWritten e₁ ++ uartWritten e₂ := by
  induction e₁ with
  | nil => rfl
  | cons e events ih => cases e with
    | txInterrupt written => cases written <;> simp [uartWritten, ih]
    | _ => simp [uartWritten, ih]

def TxFits (events : List UartEvent) : Prop :=
  ∀ c found, .putChar c found ∈ events → found ≠ 255

def RxFits (events : List UartEvent) : Prop :=
  ∀ c found, .rxInterrupt c found ∈ events → found ≠ 255

lemma forall_fits_iff (events : List UartEvent) :
    (∀ e ∈ events, e.Fits) ↔ TxFits events ∧ RxFits events := by
  constructor
  · intro h
    exact ⟨fun c found he => h _ he, fun c found he => h _ he⟩
  · rintro ⟨htx, hrx⟩ e he
    cases e with
    | putChar c found => exact htx c found he
    | rxInterrupt c found => exact hrx c found he
    | _ => trivial

/-- The events that put a byte into one of the buffers. -/
lemma fits_concat (put : UInt8 → UInt8 → UartEvent) (events : List UartEvent) (e : UartEvent) :
    (∀ c found, put c found ∈ events ++ [e] → found ≠ 255) ↔
      (∀ c found, put c found ∈ events → found ≠ 255) ∧ ∀ c found, e = put c found → found ≠ 255 := by
  constructor
  · intro h
    refine ⟨fun c found he => h c found (List.mem_append_left _ he), fun c found he => ?_⟩
    apply h c found
    simp [he]
  · rintro ⟨h, hlast⟩ c found he
    rcases List.mem_append.mp he with he | he
    · exact h c found he
    · exact hlast c found (List.mem_singleton.mp he).symm

/-- Either every byte is accounted for, or a byte was put on 255 others and bytes are missing. -/
def TxAccount (events : List UartEvent) (u : Uart) : Prop :=
  (TxFits events ∧ ∃ q, UartHolds u.tx q ∧ uartWritten events ++ q = uartPassed events) ∨
  (¬TxFits events ∧ (uartWritten events).length + u.tx.size.toNat < (uartPassed events).length)

lemma txFits_concat (events : List UartEvent) (e : UartEvent) :
    TxFits (events ++ [e]) ↔ TxFits events ∧ ∀ c found, e = .putChar c found → found ≠ 255 :=
  fits_concat .putChar events e

lemma txAccount_quiet {events : List UartEvent} {u u' : Uart} {e : UartEvent}
    (hacc : TxAccount events u) (hput : ∀ c found, e ≠ .putChar c found)
    (hpassed : uartPassed [e] = []) (hwritten : uartWritten [e] = []) (htx : u'.tx = u.tx) :
    TxAccount (events ++ [e]) u' := by
  have hfits : TxFits (events ++ [e]) ↔ TxFits events := by
    rw [txFits_concat]
    exact and_iff_left fun c found he => absurd he (hput c found)
  unfold TxAccount
  rw [hfits, uartPassed_append, uartWritten_append, hpassed, hwritten, htx, List.append_nil,
    List.append_nil]
  exact hacc

lemma txAccount_putChar {events : List UartEvent} {u : Uart} (hacc : TxAccount events u)
    (c : UInt8) :
    TxAccount (events ++ [.putChar c u.tx.size]) { u with tx := u.tx.put c } := by
  unfold TxAccount
  rw [txFits_concat, uartPassed_append, uartWritten_append]
  simp only [uartPassed, uartWritten, List.append_nil, UartEvent.putChar.injEq, List.length_append,
    List.length_singleton]
  by_cases hsize : u.tx.size = 255
  · right
    have hnot : ¬(TxFits events ∧ ∀ c' found, c = c' ∧ u.tx.size = found → found ≠ 255) :=
      fun h => h.2 c 255 ⟨rfl, hsize⟩ rfl
    refine ⟨hnot, ?_⟩
    rw [put_size_wrap hsize, UInt8.toNat_zero]
    rcases hacc with ⟨-, q, hq, hall⟩ | ⟨-, hlt⟩
    · have hlen := congrArg List.length hall
      rw [List.length_append] at hlen
      omega
    · omega
  · have hfits : (TxFits events ∧ ∀ c' found, c = c' ∧ u.tx.size = found → found ≠ 255) ↔
        TxFits events := by
      apply and_iff_left
      rintro c' found ⟨-, rfl⟩
      exact hsize
    rw [hfits, put_size hsize]
    rcases hacc with ⟨hfit, q, hq, hall⟩ | ⟨hfit, hlt⟩
    · exact .inl ⟨hfit, q ++ [c], put_holds hq hsize c, by rw [← List.append_assoc, hall]⟩
    · exact .inr ⟨hfit, by omega⟩

lemma txAccount_txWrite {events : List UartEvent} {u : Uart} (hacc : TxAccount events u)
    (hsize : u.tx.size ≠ 0) :
    TxAccount (events ++ [.txInterrupt (some u.tx.get.1)]) { u with tx := u.tx.get.2 } := by
  have hfits : TxFits (events ++ [.txInterrupt (some u.tx.get.1)]) ↔ TxFits events := by
    rw [txFits_concat]
    simp
  unfold TxAccount
  rw [hfits, uartPassed_append, uartWritten_append]
  simp only [uartPassed, uartWritten, List.append_nil, List.length_append, List.length_singleton]
  rcases hacc with ⟨hfit, q, hq, hall⟩ | ⟨hfit, hlt⟩
  · left
    cases q with
    | nil => exact absurd ((holds_nil_iff hq).mp rfl) hsize
    | cons c q =>
      obtain ⟨hc, hq'⟩ := get_holds hq
      refine ⟨hfit, q, hq', ?_⟩
      rw [hc, List.append_assoc]
      exact hall
  · have := get_size hsize
    exact .inr ⟨hfit, by omega⟩

lemma txAccount_move {events : List UartEvent} {u u' : Uart} {e : UartEvent}
    (hacc : TxAccount events u) (hmove : UartMove u e u') : TxAccount (events ++ [e]) u' := by
  cases hmove with
  | putChar c => exact txAccount_putChar hacc c
  | txWrite hsize => exact txAccount_txWrite hacc hsize
  | getChar hsize => exact txAccount_quiet hacc (by simp) rfl rfl rfl
  | waits => exact txAccount_quiet hacc (by simp) rfl rfl rfl
  | txIdle hsize => exact txAccount_quiet hacc (by simp) rfl rfl rfl
  | rxInterrupt c => exact txAccount_quiet hacc (by simp) rfl rfl rfl
  | overrun => exact txAccount_quiet hacc (by simp) rfl rfl rfl

lemma txFifo_iff {events : List UartEvent} {u : Uart} (hacc : TxAccount events u) :
    TxFifo u events ↔ TxFits events := by
  rcases hacc with ⟨hfit, q, hq, hall⟩ | ⟨hfit, hlt⟩
  · refine iff_of_true ?_ hfit
    rw [TxFifo, uartContents, hq.contents_eq]
    exact hall
  · refine iff_of_false ?_ hfit
    intro hall
    have hlen := congrArg List.length hall
    simp only [List.length_append, uartContents, contents, List.length_map, List.length_range,
      Int.toNat_natCast] at hlen
    omega

/-! ### The receive side -/

/-- Either the buffer holds the queue, or a byte was put on 255 others and the queue is longer
than the buffer makes it look. -/
def RxAccount (events : List UartEvent) (u : Uart) : Prop :=
  (RxFits events ∧ ∃ q, UartHolds u.rx q ∧ events.foldlM fifoStep [] = some q) ∨
  (¬RxFits events ∧ ∀ q, events.foldlM fifoStep [] = some q → u.rx.size.toNat < q.length)

lemma rxFits_concat (events : List UartEvent) (e : UartEvent) :
    RxFits (events ++ [e]) ↔ RxFits events ∧ ∀ c found, e = .rxInterrupt c found → found ≠ 255 :=
  fits_concat .rxInterrupt events e

lemma foldlM_fifoStep_concat (events : List UartEvent) (e : UartEvent) :
    (events ++ [e]).foldlM fifoStep [] = (events.foldlM fifoStep []).bind fun q => fifoStep q e := by
  rw [List.foldlM_append]
  cases events.foldlM fifoStep [] <;> simp

lemma rxAccount_quiet {events : List UartEvent} {u u' : Uart} {e : UartEvent}
    (hacc : RxAccount events u) (hput : ∀ c found, e ≠ .rxInterrupt c found)
    (hstep : ∀ q, fifoStep q e = some q) (hrx : u'.rx = u.rx) : RxAccount (events ++ [e]) u' := by
  have hfits : RxFits (events ++ [e]) ↔ RxFits events := by
    rw [rxFits_concat]
    exact and_iff_left fun c found he => absurd he (hput c found)
  have hfold : (events ++ [e]).foldlM fifoStep [] = events.foldlM fifoStep [] := by
    rw [foldlM_fifoStep_concat]
    cases events.foldlM fifoStep [] with
    | none => rfl
    | some q => exact hstep q
  unfold RxAccount
  rw [hfits, hfold, hrx]
  exact hacc

lemma rxAccount_rxInterrupt {events : List UartEvent} {u : Uart} (hacc : RxAccount events u)
    (c : UInt8) :
    RxAccount (events ++ [.rxInterrupt c u.rx.size]) { u with rx := u.rx.put c } := by
  have hbyte := u.rx.size.toNat_lt
  unfold RxAccount
  rw [rxFits_concat, foldlM_fifoStep_concat]
  simp only [UartEvent.rxInterrupt.injEq]
  by_cases hsize : u.rx.size = 255
  · right
    have hnot : ¬(RxFits events ∧ ∀ c' found, c = c' ∧ u.rx.size = found → found ≠ 255) :=
      fun h => h.2 c 255 ⟨rfl, hsize⟩ rfl
    refine ⟨hnot, ?_⟩
    rw [put_size_wrap hsize, UInt8.toNat_zero]
    intro q' hq'
    obtain ⟨q, hfold, hq'⟩ := Option.bind_eq_some_iff.mp hq'
    rw [fifoStep, Option.some.injEq] at hq'
    subst hq'
    split
    · simp
    · simp only [UART_BUFFER_SIZE] at *
      omega
  · have hfits : (RxFits events ∧ ∀ c' found, c = c' ∧ u.rx.size = found → found ≠ 255) ↔
        RxFits events := by
      apply and_iff_left
      rintro c' found ⟨-, rfl⟩
      exact hsize
    have hsucc := put_size hsize c
    have hbyte' := (u.rx.put c).size.toNat_lt
    rw [hfits, hsucc]
    rcases hacc with ⟨hfit, q, hq, hfold⟩ | ⟨hfit, hlonger⟩
    · left
      refine ⟨hfit, q ++ [c], put_holds hq hsize c, ?_⟩
      have hlen := hq.size_eq
      have hroom : (q.length : Int) < UART_BUFFER_SIZE := by
        simp only [UART_BUFFER_SIZE]
        omega
      rw [hfold, Option.bind_some, fifoStep, if_pos hroom]
    · right
      refine ⟨hfit, ?_⟩
      intro q' hq'
      obtain ⟨q, hfold, hq'⟩ := Option.bind_eq_some_iff.mp hq'
      have hlt := hlonger q hfold
      rw [fifoStep, Option.some.injEq] at hq'
      subst hq'
      split
      · simpa using hlt
      · simp only [UART_BUFFER_SIZE] at *
        omega

lemma rxAccount_getChar {events : List UartEvent} {u : Uart} (hacc : RxAccount events u)
    (hsize : u.rx.size ≠ 0) :
    RxAccount (events ++ [.getChar u.rx.get.1]) { u with rx := u.rx.get.2 } := by
  have hfits : RxFits (events ++ [.getChar u.rx.get.1]) ↔ RxFits events := by
    rw [rxFits_concat]
    simp
  unfold RxAccount
  rw [hfits, foldlM_fifoStep_concat]
  rcases hacc with ⟨hfit, q, hq, hfold⟩ | ⟨hfit, hlonger⟩
  · left
    cases q with
    | nil => exact absurd ((holds_nil_iff hq).mp rfl) hsize
    | cons c q =>
      obtain ⟨hc, hq'⟩ := get_holds hq
      refine ⟨hfit, q, hq', ?_⟩
      rw [hfold, Option.bind_some, fifoStep, if_pos hc.symm]
  · right
    refine ⟨hfit, ?_⟩
    intro q' hq'
    obtain ⟨q, hfold, hq'⟩ := Option.bind_eq_some_iff.mp hq'
    have hlt := hlonger q hfold
    have hpred := get_size hsize
    cases q with
    | nil => simp [fifoStep] at hq'
    | cons c q =>
      by_cases hc : c = u.rx.get.1
      · rw [fifoStep, if_pos hc, Option.some.injEq] at hq'
        subst hq'
        rw [List.length_cons] at hlt
        change u.rx.get.2.size.toNat < q.length
        omega
      · rw [fifoStep, if_neg hc] at hq'
        cases hq'

lemma rxAccount_move {events : List UartEvent} {u u' : Uart} {e : UartEvent}
    (hacc : RxAccount events u) (hmove : UartMove u e u') : RxAccount (events ++ [e]) u' := by
  cases hmove with
  | rxInterrupt c => exact rxAccount_rxInterrupt hacc c
  | getChar hsize => exact rxAccount_getChar hacc hsize
  | putChar c => exact rxAccount_quiet hacc (by simp) (fun _ => rfl) rfl
  | txWrite hsize => exact rxAccount_quiet hacc (by simp) (fun _ => rfl) rfl
  | txIdle hsize => exact rxAccount_quiet hacc (by simp) (fun _ => rfl) rfl
  | waits => exact rxAccount_quiet hacc (by simp) (fun _ => rfl) rfl
  | overrun => exact rxAccount_quiet hacc (by simp) (fun _ => rfl) rfl

lemma rxFifo_iff {events : List UartEvent} {u : Uart} (hacc : RxAccount events u) :
    RxFifo u events ↔ RxFits events := by
  rcases hacc with ⟨hfit, q, hq, hfold⟩ | ⟨hfit, hlonger⟩
  · refine iff_of_true ?_ hfit
    rw [RxFifo, uartContents, hq.contents_eq]
    exact hfold
  · refine iff_of_false ?_ hfit
    intro hfold
    have hlt := hlonger _ hfold
    simp [uartContents, contents] at hlt

/-! ### Runs -/

lemma uartStep_ok (driver : UartDriver δ) (d : δ) (call : UartCall) :
    ∃ event d', uartStep driver d call = .ok (event, d') := by
  unfold uartStep
  split
  · split <;> exact ⟨_, _, rfl⟩
  · split <;> exact ⟨_, _, rfl⟩
  · exact ⟨_, _, rfl⟩
  · exact ⟨_, _, rfl⟩
  · exact ⟨_, _, rfl⟩

/-- A driver whose steps move its buffers as `UartMove` says, run from empty buffers. -/
lemma uart_run (driver : UartDriver δ) (I : δ → Prop) {d₀ : δ} (init : I d₀)
    (hmove : ∀ d call event d', I d → uartStep driver d call = .ok (event, d') →
      UartMove (driver.uart d) event (driver.uart d') ∧ I d')
    (htx : UartHolds (driver.uart d₀).tx []) (hrx : UartHolds (driver.uart d₀).rx [])
    (calls : List UartCall) :
    ∃ events d, StepMachine.run (uartStep driver) d₀ calls = .ok (events, d) ∧
      (TxFifo (driver.uart d) events ∧ RxFifo (driver.uart d) events ↔
        ∀ e ∈ events, e.Fits) := by
  obtain ⟨events, d, hrun, -⟩ := StepMachine.run_total (uartStep driver) (fun _ => True) d₀ trivial
    (fun d call _ => by
      obtain ⟨event, d', hstep⟩ := uartStep_ok driver d call
      exact ⟨event, d', hstep, trivial⟩) calls
  have hacc : I d ∧ TxAccount events (driver.uart d) ∧ RxAccount events (driver.uart d) := by
    refine StepMachine.run_history
      (fun _ events d => I d ∧ TxAccount events (driver.uart d) ∧ RxAccount events (driver.uart d))
      ⟨init, .inl ⟨by simp [TxFits], [], htx, rfl⟩, .inl ⟨by simp [RxFits], [], hrx, rfl⟩⟩ ?_ hrun
    rintro _ events d call event d' ⟨hI, hta, hra⟩ hstep
    obtain ⟨hm, hI'⟩ := hmove d call event d' hI hstep
    exact ⟨hI', txAccount_move hta hm, rxAccount_move hra hm⟩
  refine ⟨events, d, hrun, ?_⟩
  rw [forall_fits_iff, txFifo_iff hacc.2.1, rxFifo_iff hacc.2.2]

lemma dspic_init {d d₀ : Dspic} {baud : Nat} (hinit : d.init baud = some d₀) :
    d₀.ferr = false ∧ UartHolds d₀.uart.tx [] ∧ UartHolds d₀.uart.rx [] := by
  unfold Dspic.init at hinit
  split at hinit
  · cases hinit
    exact ⟨rfl, reset_holds d.uart.tx, reset_holds d.uart.rx⟩
  · cases hinit

lemma atmega2560_init {d d₀ : Atmega2560} {baud : Nat} (hinit : d.init baud = some d₀) :
    UartHolds d₀.uart.tx [] ∧ UartHolds d₀.uart.rx [] := by
  unfold Atmega2560.init at hinit
  split at hinit
  · cases hinit
    exact ⟨reset_holds d.uart.tx, reset_holds d.uart.rx⟩
  · cases hinit

/-- From an initialised driver on, both directions are lossless queues in exactly the runs in
which no byte is put into a buffer where 255 bytes are waiting. -/
theorem uart_fifo_iff_fits (baud : Nat) (calls : List UartCall) :
    (∀ d d₀ : Dspic, d.init baud = some d₀ →
      ∃ events d', StepMachine.run (uartStep Dspic.driver) d₀ calls = .ok (events, d') ∧
        (TxFifo d'.uart events ∧ RxFifo d'.uart events ↔ ∀ e ∈ events, e.Fits)) ∧
    (∀ d d₀ : Atmega2560, d.init baud = some d₀ →
      ∃ events d', StepMachine.run (uartStep Atmega2560.driver) d₀ calls = .ok (events, d') ∧
        (TxFifo d'.uart events ∧ RxFifo d'.uart events ↔ ∀ e ∈ events, e.Fits)) := by
  refine ⟨?_, ?_⟩
  · intro d d₀ hinit
    obtain ⟨hferr, htx, hrx⟩ := dspic_init hinit
    exact uart_run Dspic.driver (fun d => d.ferr = false) hferr
      (fun _ _ _ _ hferr hstep => dspic_step hferr hstep) htx hrx calls
  · intro d d₀ hinit
    obtain ⟨htx, hrx⟩ := atmega2560_init hinit
    exact uart_run Atmega2560.driver (fun _ => True) trivial
      (fun _ _ _ _ _ hstep => ⟨atmega2560_step hstep, trivial⟩) htx hrx calls

/-- The static `uart_0` of the dsPIC before it is initialised. -/
def staticDspic : Dspic :=
  { uart := ⟨⟨fun _ => 0, 0, 0, 0⟩, ⟨fun _ => 0, 0, 0, 0⟩⟩
    u1txie := false
    u1rxif := false
    ferr := false
    oerr := false }

def staticAtmega2560 : Atmega2560 :=
  { uart := staticDspic.uart, udrie0 := false }

theorem uart_fifo_iff_fits_echo :
    let calls : List UartCall := [.putChar 0x41, .rxInterrupt 0x42, .txInterrupt, .getChar]
    (∃ events d', StepMachine.run (uartStep Dspic.driver) staticDspic calls = .ok (events, d') ∧
      (TxFifo d'.uart events ∧ RxFifo d'.uart events ↔ ∀ e ∈ events, e.Fits)) ∧
    (∃ events d', StepMachine.run (uartStep Atmega2560.driver) staticAtmega2560 calls =
        .ok (events, d') ∧
      (TxFifo d'.uart events ∧ RxFifo d'.uart events ↔ ∀ e ∈ events, e.Fits)) :=
  ⟨(uart_fifo_iff_fits 57600 _).1 staticDspic _ rfl,
    (uart_fifo_iff_fits 115200 _).2 staticAtmega2560 _ rfl⟩

/-- `UART_putChar` never waits: without an interrupt in between it only counts, modulo 256. -/
lemma run_putChars (d : Dspic) (c : UInt8) (n : Nat) :
    ∃ events d', StepMachine.run (uartStep Dspic.driver) d (List.replicate n (.putChar c)) =
        .ok (events, d') ∧ uartPassed events = List.replicate n c ∧ uartWritten events = [] ∧
      d'.uart.tx.size = d.uart.tx.size + UInt8.ofNat n := by
  induction n generalizing d with
  | zero => exact ⟨[], d, rfl, rfl, rfl, by simp⟩
  | succ n ih =>
    obtain ⟨events, d', hrun, hpassed, hwritten, hsize⟩ :=
      ih { d with uart := { d.uart with tx := d.uart.tx.put c }, u1txie := true }
    have hroom : ¬(d.uart.tx.size.toNat : Int) ≥ UART_BUFFER_SIZE := by
      have := size8_lt d.uart.tx.size
      omega
    have hstep : uartStep Dspic.driver d (.putChar c) = .ok (.putChar c d.uart.tx.size,
        { d with uart := { d.uart with tx := d.uart.tx.put c }, u1txie := true }) := by
      simp only [uartStep, Dspic.driver, Dspic.putChar, if_neg hroom]
    refine ⟨_, d', StepMachine.run_cons_eq_ok.mpr ⟨_, _, events, hstep, hrun, rfl⟩, ?_, ?_, ?_⟩
    · rw [uartPassed, hpassed, List.replicate_succ]
    · simp only [uartWritten, hwritten]
    · have hput : (d.uart.tx.put c).size = d.uart.tx.size + 1 := rfl
      rw [hsize, hput, UInt8.ofNat_add, UInt8.add_assoc]
      congr 1
      exact UInt8.add_comm _ _

/-- 256 bytes are passed to `UART_putChar` and the buffer is empty, with nothing written. -/
theorem putChar_loses_bytes :
    ∃ d₀ events d', staticDspic.init 57600 = some d₀ ∧
      StepMachine.run (uartStep Dspic.driver) d₀ (List.replicate 256 (.putChar 0x41)) =
        .ok (events, d') ∧
      uartPassed events = List.replicate 256 0x41 ∧ uartWritten events = [] ∧
      uartContents d'.uart.tx = [] ∧ ¬TxFifo d'.uart events := by
  obtain ⟨events, d', hrun, hpassed, hwritten, hsize⟩ := run_putChars staticDspic 0x41 256
  have hempty : uartContents d'.uart.tx = [] := by
    have hzero : d'.uart.tx.size = 0 := by
      rw [hsize]
      decide
    rw [uartContents, hzero]
    rfl
  refine ⟨staticDspic, events, d', rfl, hrun, hpassed, hwritten, hempty, ?_⟩
  rw [TxFifo, hwritten, hempty, hpassed, List.append_nil]
  exact List.cons_ne_nil 0x41 (List.replicate 255 0x41) ∘ Eq.symm

end Orazio.Proofs
