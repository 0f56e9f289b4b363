import Orazio.Lib.Bytes
import Orazio.Lib.RingBuffer
import Orazio.Lib.StepMachine
import Orazio.Model.PacketHandler

/-!
# The transmit side of the packet handler

The `tx_` fields are a ring buffer of 256 bytes. `sendPacket` appends a whole frame to the queue
the ring holds or nothing, `txByte` takes its first byte.
-/

namespace Orazio.Proofs

open RingBuffer

/-- The bytes of a packet: as many as the size in its header says. -/
def packetOf (header : PacketBytes) : List UInt8 :=
  Bytes.read header 0 (header 1).toNat

/-- A packet as it is put on the wire. -/
def frame (packet : List UInt8) : List UInt8 :=
  0xAA :: 0x55 :: (packet ++ [Bytes.xorSum packet])

lemma length_packetOf (header : PacketBytes) : (packetOf header).length = (header 1).toNat :=
  Bytes.length_read _ _ _

lemma length_frame (packet : List UInt8) : (frame packet).length = packet.length + 3 := by
  simp [frame]

abbrev TxHolds (t : TxFields) (q : List UInt8) : Prop :=
  Holds BUFFER_SIZE_MAX t.txBuffer t.txStart t.txEnd t.txSize q

def txContents (t : TxFields) : List UInt8 :=
  contents BUFFER_SIZE_MAX t.txBuffer t.txStart t.txSize

lemma initializeTx_holds (t : TxFields) : TxHolds t.initializeTx [] :=
  Holds.empty _ (by decide)

lemma putTxByte_holds {t : TxFields} {q : List UInt8} (h : TxHolds t q) (hroom : q.length < 256)
    (c : UInt8) : TxHolds (t.putTxByte c) (q ++ [c]) := by
  have hsize : t.txSize ≠ BUFFER_SIZE_MAX := by
    have := h.size_eq
    simp only [BUFFER_SIZE_MAX]
    omega
  rw [TxFields.putTxByte, if_neg hsize]
  exact h.put (by simp only [BUFFER_SIZE_MAX]; omega) c

@[simp] lemma putTxByte_txChecksum (t : TxFields) (c : UInt8) :
    (t.putTxByte c).txChecksum = t.txChecksum := by
  unfold TxFields.putTxByte
  split <;> rfl

lemma sendLoop_holds {t : TxFields} {q : List UInt8} (buf : PacketBytes) (n : Nat)
    (h : TxHolds t q) (hroom : q.length + n ≤ 256) :
    TxHolds (t.sendLoop buf n) (q ++ Bytes.read buf 0 n) ∧
      (t.sendLoop buf n).txChecksum = (Bytes.read buf 0 n).foldl (· ^^^ ·) t.txChecksum := by
  induction n generalizing t q buf with
  | zero => simpa [TxFields.sendLoop] using h
  | succ n ih =>
    have hq : TxHolds { t with txChecksum := t.txChecksum ^^^ buf 0 } q := h
    have hput := putTxByte_holds hq (by omega) (buf 0)
    have hlen : (q ++ [buf 0]).length + n ≤ 256 := by
      simp only [List.length_append, List.length_singleton]
      omega
    obtain ⟨hs, hc⟩ := ih (fun i => buf (i + 1)) hput hlen
    have hread : Bytes.read buf 0 (n + 1) = buf 0 :: Bytes.read (fun i => buf (i + 1)) 0 n := by
      rw [Bytes.read_succ']
      congr 1
      apply List.map_congr_left
      intro i _
      congr 1
      omega
    rw [TxFields.sendLoop, hread]
    refine ⟨?_, ?_⟩
    · simpa using hs
    · simpa using hc

lemma sendPacket_full {t : TxFields} {q : List UInt8} (h : TxHolds t q) (header : PacketBytes)
    (hfull : 256 < q.length + (header 1).toNat + 3) :
    t.sendPacket header = (.txBufferFull, t) := by
  have hsize := h.size_eq
  rw [TxFields.sendPacket, if_pos]
  simp only [BUFFER_SIZE_MAX]
  omega

def sendFrameEnd (t : TxFields) (header : PacketBytes) : TxFields :=
  let t := TxFields.sendLoop { t with txChecksum := 0 } header (header 1).toNat
  t.putTxByte t.txChecksum

lemma sendFrameEnd_holds {t : TxFields} {q : List UInt8} (h : TxHolds t q) (header : PacketBytes)
    (hroom : q.length + (header 1).toNat < 256) :
    TxHolds (sendFrameEnd t header) (q ++ packetOf header ++ [Bytes.xorSum (packetOf header)]) := by
  have h₀ : TxHolds { t with txChecksum := 0 } q := h
  obtain ⟨h₁, hc⟩ := sendLoop_holds header (header 1).toNat h₀ (by omega)
  have h₂ := putTxByte_holds h₁ (by simp; omega) (Bytes.xorSum (packetOf header))
  rw [sendFrameEnd, hc]
  exact h₂

lemma sendPacket_room {t : TxFields} {q : List UInt8} (h : TxHolds t q) (header : PacketBytes)
    (hroom : q.length + (header 1).toNat + 3 ≤ 256) :
    ∃ t', t.sendPacket header = (.success, t') ∧ TxHolds t' (q ++ frame (packetOf header)) := by
  have hsize := h.size_eq
  have h₁ := putTxByte_holds h (by omega) 0xAA
  have h₂ := putTxByte_holds h₁ (by simp; omega) 0x55
  have hsend : t.sendPacket header =
      (.success, sendFrameEnd ((t.putTxByte 0xAA).putTxByte 0x55) header) := by
    rw [TxFields.sendPacket, if_neg]
    · rfl
    · simp only [BUFFER_SIZE_MAX]
      omega
  refine ⟨_, hsend, ?_⟩
  have h₃ := sendFrameEnd_holds h₂ header (by simp; omega)
  simpa [frame] using h₃

lemma sendPacket_cases {t : TxFields} {q : List UInt8} (h : TxHolds t q) (header : PacketBytes) :
    (256 < q.length + (header 1).toNat + 3 ∧ t.sendPacket header = (.txBufferFull, t)) ∨
    (q.length + (header 1).toNat + 3 ≤ 256 ∧ ∃ t', t.sendPacket header = (.success, t') ∧
      TxHolds t' (q ++ frame (packetOf header))) := by
  by_cases hfull : 256 < q.length + (header 1).toNat + 3
  · exact .inl ⟨hfull, sendPacket_full h header hfull⟩
  · exact .inr ⟨by omega, sendPacket_room h header (by omega)⟩

lemma txByte_nil {t : TxFields} (h : TxHolds t []) : t.txByte = (0, t) := by
  have hsize : t.txSize = 0 := by simpa using h.size_eq
  simp [TxFields.txByte, hsize]

lemma txByte_cons {t : TxFields} {c : UInt8} {q : List UInt8} (h : TxHolds t (c :: q)) :
    ∃ t', t.txByte = (c, t') ∧ TxHolds t' q := by
  have hsize : t.txSize ≠ 0 := by
    have := h.size_eq
    simp only [List.length_cons] at this
    omega
  have htx : t.txByte = (c, { t with
      txStart := next BUFFER_SIZE_MAX t.txStart
      txSize := t.txSize - 1 }) := by
    rw [TxFields.txByte, if_neg hsize, h.head rfl]
    rfl
  exact ⟨_, htx, h.get rfl⟩

/-! ### Runs of the transmit side -/

inductive TxCall
  | sendPacket (header : PacketBytes)
  | txByte

/-- A call that has returned; `waiting` says that `tx_size > 0` before `txByte`. -/
inductive TxEvent
  | sendPacket (header : PacketBytes) (status : PacketStatus)
  | txByte (waiting : Bool) (c : UInt8)

def txStep {ρ : Type} (h : PacketHandler ρ) : TxCall → Except Fault (TxEvent × PacketHandler ρ)
  | .sendPacket header => .ok (.sendPacket header (h.sendPacket header).1, (h.sendPacket header).2)
  | .txByte => .ok (.txByte (decide (0 < h.txSize)) h.txByte.1, h.txByte.2)

/-- The bytes returned by `txByte` calls made while `tx_size > 0`. -/
def txWire : List TxEvent → List UInt8
  | [] => []
  | .txByte true c :: events => c :: txWire events
  | _ :: events => txWire events

/-- The packets whose `sendPacket` returned `Success`. -/
def txAccepted : List TxEvent → List PacketBytes
  | [] => []
  | .sendPacket header .success :: events => header :: txAccepted events
  | _ :: events => txAccepted events

lemma txWire_append (e₁ e₂ : List TxEvent) : txWire (e₁ ++ e₂) = txWire e₁ ++ txWire e₂ := by
  induction e₁ using txWire.induct with
  | case1 => rfl
  | case2 c events ih => simp [txWire, ih]
  | case3 e events hne ih => cases e with
    | sendPacket header status => simpa [txWire] using ih
    | txByte waiting c => cases waiting with
      | true => exact absurd rfl (hne c)
      | false => simpa [txWire] using ih

lemma txAccepted_append (e₁ e₂ : List TxEvent) :
    txAccepted (e₁ ++ e₂) = txAccepted e₁ ++ txAccepted e₂ := by
  induction e₁ using txAccepted.induct with
  | case1 => rfl
  | case2 header events ih => simp [txAccepted, ih]
  | case3 e events hne ih => cases e with
    | txByte waiting c => simpa [txAccepted] using ih
    | sendPacket header status => cases status <;> first
      | exact absurd rfl (hne header)
      | simpa [txAccepted] using ih

/-- Along a run the wire followed by the ring is the concatenation of the accepted frames. -/
def TxInvariant {ρ : Type} (events : List TxEvent) (h : PacketHandler ρ) : Prop :=
  ∃ q, TxHolds h.toTxFields q ∧
    txWire events ++ q = (txAccepted events).flatMap fun p => frame (packetOf p)

lemma txStep_invariant {ρ : Type} {events : List TxEvent} {h h' : PacketHandler ρ} {call : TxCall}
    {event : TxEvent} (hinv : TxInvariant events h) (hstep : txStep h call = .ok (event, h')) :
    TxInvariant (events ++ [event]) h' := by
  obtain ⟨q, hq, hwire⟩ := hinv
  cases call with
  | sendPacket header =>
    cases hstep
    obtain ⟨-, hs⟩ | ⟨-, t', hs, hq'⟩ := sendPacket_cases hq header
    · refine ⟨q, ?_, ?_⟩
      · simpa [PacketHandler.sendPacket, hs] using hq
      · simpa [txWire_append, txAccepted_append, PacketHandler.sendPacket, hs, txWire, txAccepted]
          using hwire
    · refine ⟨q ++ frame (packetOf header), ?_, ?_⟩
      · simpa [PacketHandler.sendPacket, hs] using hq'
      · rw [txWire_append, txAccepted_append, List.flatMap_append, ← hwire]
        simp [PacketHandler.sendPacket, hs, txWire, txAccepted]
  | txByte =>
    cases hstep
    cases q with
    | nil =>
      have hsize : h.txSize = 0 := by simpa using hq.size_eq
      refine ⟨[], ?_, ?_⟩
      · simpa [PacketHandler.txByte, txByte_nil hq] using hq
      · simpa [txWire_append, txAccepted_append, hsize, txWire, txAccepted] using hwire
    | cons c q =>
      obtain ⟨t', ht, hq'⟩ := txByte_cons hq
      have hsize : 0 < h.txSize := by
        have := hq.size_eq
        simp only [List.length_cons] at this
        omega
      refine ⟨q, ?_, ?_⟩
      · simpa [PacketHandler.txByte, ht] using hq'
      · rw [txWire_append, txAccepted_append, List.flatMap_append, ← hwire]
        simp [PacketHandler.txByte, ht, hsize, txWire, txAccepted]

lemma initializeHandler_txInvariant {ρ : Type} (h₀ : PacketHandler ρ) :
    TxInvariant [] h₀.initializeHandler :=
  ⟨[], initializeTx_holds _, rfl⟩

lemma tx_run_invariant {ρ : Type} (h₀ : PacketHandler ρ) {calls : List TxCall}
    {events : List TxEvent} {h : PacketHandler ρ}
    (hrun : StepMachine.run txStep h₀.initializeHandler calls = .ok (events, h)) :
    TxInvariant events h :=
  StepMachine.run_history (fun _ events h => TxInvariant events h)
    (initializeHandler_txInvariant h₀) (fun _ _ _ _ _ _ hinv hs => txStep_invariant hinv hs) hrun

lemma tx_run_returns {ρ : Type} (h : PacketHandler ρ) (calls : List TxCall) :
    ∃ events h', StepMachine.run txStep h calls = .ok (events, h') := by
  obtain ⟨events, h', hrun, -⟩ := StepMachine.run_total txStep (fun _ => True) h trivial
    (fun h call _ => by cases call <;> exact ⟨_, _, rfl, trivial⟩) calls
  exact ⟨events, h', hrun⟩

/-- The index fields of a transmit ring that holds some queue. -/
lemma TxHolds.bounds {t : TxFields} {q : List UInt8} (h : TxHolds t q) :
    (0 ≤ t.txSize ∧ t.txSize ≤ 256) ∧ (0 ≤ t.txStart ∧ t.txStart ≤ 255) ∧
      (0 ≤ t.txEnd ∧ t.txEnd ≤ 255) ∧ t.txEnd = (t.txStart + t.txSize) % 256 := by
  have h₁ := h.size_eq
  have h₂ := h.fits
  have h₃ := h.start_nonneg
  have h₄ := h.start_lt
  have h₅ := h.stop_nonneg
  have h₆ := h.stop_lt
  have h₇ := h.stop_eq
  simp only [BUFFER_SIZE_MAX, slot] at h₂ h₄ h₆ h₇
  split at h₇ <;> omega

/-- Over every interleaving of `sendPacket` and `txByte` the transmit fields stay a ring, a
refused packet leaves them alone, and what has been taken from the ring followed by what is still
in it is exactly the frames of the accepted packets, in order. -/
theorem transmit_atomic_fifo {ρ : Type} (h₀ : PacketHandler ρ) (calls : List TxCall) :
    ∃ events h, StepMachine.run txStep h₀.initializeHandler calls = .ok (events, h) ∧
      (0 ≤ h.txSize ∧ h.txSize ≤ 256) ∧ (0 ≤ h.txStart ∧ h.txStart ≤ 255) ∧
      (0 ≤ h.txEnd ∧ h.txEnd ≤ 255) ∧ h.txEnd = (h.txStart + h.txSize) % 256 ∧
      (∀ header, (h.sendPacket header).1 = .txBufferFull →
        (h.sendPacket header).2.toTxFields = h.toTxFields) ∧
      txWire events ++ txContents h.toTxFields =
        (txAccepted events).flatMap fun p => frame (packetOf p) := by
  obtain ⟨events, h, hrun⟩ := tx_run_returns h₀.initializeHandler calls
  obtain ⟨q, hq, hwire⟩ := tx_run_invariant h₀ hrun
  obtain ⟨hsize, hstart, hend, hmod⟩ := TxHolds.bounds hq
  refine ⟨events, h, hrun, hsize, hstart, hend, hmod, ?_, ?_⟩
  · intro header hstatus
    obtain ⟨-, hs⟩ | ⟨-, t', hs, -⟩ := sendPacket_cases hq header
    · simp [PacketHandler.sendPacket, hs]
    · simp [PacketHandler.sendPacket, hs] at hstatus
  · rw [txContents, hq.contents_eq]
    exact hwire

end Orazio.Proofs
