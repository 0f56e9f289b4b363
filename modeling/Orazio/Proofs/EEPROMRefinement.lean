import Orazio.Lib.WriteLog
import Orazio.Model.OrazioParam
import Orazio.Proofs.JournalRuns

/-!
# The EEPROM as an array

The functions of `eeprom.c` on the dsPIC behave like an array of 255 bytes, which are 0xFF at first. The
parameters are kept in such an array.
-/

namespace Orazio.Proofs

open DataEE Journal

/-- `EEPROM_read` and `EEPROM_write` with their arguments. -/
inductive EEPROMCall
  | read (src size : UInt16)
  | write (dest : UInt16) (bytes : List UInt8)

/-- The addresses of a call are in the EEPROM. -/
def EEPROMCall.InRange : EEPROMCall → Prop
  | .read src size => src.toNat + size.toNat ≤ DATA_EE_TOTAL_SIZE
  | .write dest bytes => dest.toNat + bytes.length ≤ DATA_EE_TOTAL_SIZE

instance decidableInRange (call : EEPROMCall) : Decidable call.InRange :=
  match call with
  | .read _ _ => Nat.decLe _ _
  | .write _ _ => Nat.decLe _ _

/-- A call on the flash; the bytes are those that it reads. -/
def flashCall (s : DataEE) (call : {call : EEPROMCall // call.InRange}) : List UInt8 × DataEE :=
  match call.1 with
  | .read src size => s.EEPROM_read src size
  | .write dest bytes => ([], s.EEPROM_write dest bytes)

/-- The call on an array. -/
def arrayCall (array : Nat → UInt8) (call : {call : EEPROMCall // call.InRange}) :
    List UInt8 × (Nat → UInt8) :=
  match call.1 with
  | .read src size => ((List.range size.toNat).map (Orazio.EEPROM_read src.toNat array), array)
  | .write dest bytes => ([], Orazio.EEPROM_write dest.toNat bytes array)

/-- The byte that `EEPROM_read` finds. -/
def byteOf (v : Option UInt16) : UInt8 :=
  (v.getD 0xFFFF).toUInt8

/-- The flash can be appended to and holds these bytes. -/
def HoldsBytes (s : DataEE) (array : Nat → UInt8) : Prop :=
  ∃ c level, Image s.memory c .ready level ∧ ∀ a < 255, byteOf (c a) = array a

variable {s : DataEE} {c : Contents} {level : ℕ} {array : Nat → UInt8}

lemma dataEERead_memory (h : Image s.memory c .ready level) {addr : UInt16} (haddr : addr.toNat < 255) :
    (s.DataEERead addr).1.toUInt8 = byteOf (c addr.toNat) ∧ (s.DataEERead addr).2.memory = s.memory := by
  rw [read_image h (Or.inl rfl) haddr]
  cases c addr.toNat <;> exact ⟨rfl, rfl⟩

/-- A write that is done leaves the new contents. -/
lemma dataEEWrite_image (h : Image s.memory c .ready level) {addr : UInt16} (haddr : addr.toNat < 255)
    (data : UInt16) :
    ∃ level', Image (s.DataEEWrite data addr).2.memory (Function.update c addr.toNat (some data)) .ready level' := by
  obtain ⟨ops, hcall⟩ := write_callEffect (v := ⟨c, s.dataEEFlags.addrNotFound⟩) h (Or.inl rfl) rfl data addr
  have hresult : (DataEECall.perform (.write data addr) s).1 = 0 := by
    have hanswers := hcall.answers
    rw [Store.Answers, if_neg (Nat.not_le.mpr haddr)] at hanswers
    split at hanswers
    · exact hanswers.1
    · exact (hanswers.2 FlashPhase.noConfusion).1
  have hcontents := hcall.contents
  rw [hresult, Store.next, if_pos rfl] at hcontents
  obtain ⟨phase', level', himage⟩ := hcall.effect.image ops.length (Nat.le_refl _)
  have hafter := himage.image
  rw [← hcontents, List.take_length, ← hcall.performs.memory] at hafter
  obtain rfl | rfl := himage.finished rfl
  · exact ⟨level', hafter⟩
  · exact absurd (himage.full.mp rfl) (not_or.mpr ⟨FlashPhase.noConfusion, not_torn_all _⟩)

lemma toNat_succ {a : UInt16} (h : a.toNat < 255) : (a + 1).toNat = a.toNat + 1 := by
  rw [UInt16.toNat_add]
  exact Nat.mod_eq_of_lt (show a.toNat + 1 < 65536 by omega)

/-- The loop of `EEPROM_read`, by induction on the bytes that are left. -/
lemma readBytes_eq (h : Image s.memory c .ready level) {src : UInt16} {n : ℕ} (hn : src.toNat + n ≤ 255) :
    (s.readBytes src n).1 = (List.range n).map (fun i => byteOf (c (src.toNat + i))) ∧
      (s.readBytes src n).2.memory = s.memory := by
  induction n generalizing s src with
  | zero => exact ⟨rfl, rfl⟩
  | succ n ih =>
    obtain ⟨hbyte, hmemory⟩ := @dataEERead_memory _ _ _ h src (by omega)
    have hsucc : (src + 1).toNat = src.toNat + 1 := toNat_succ (by omega)
    rw [← hmemory] at h
    obtain ⟨hbytes, hmemory'⟩ := @ih _ h (src + 1) (by omega)
    rw [readBytes]
    refine ⟨?_, hmemory'.trans hmemory⟩
    rw [List.range_succ_eq_map, List.map_cons, List.map_map, Nat.add_zero, ← hbyte]
    change _ :: (readBytes (src + 1) (s.DataEERead src).2 n).1 = _
    rw [hbytes, hsucc]
    congr 1
    apply List.map_congr_left
    intro i _
    rw [Function.comp_apply, Nat.succ_eq_add_one, Nat.add_right_comm, Nat.add_assoc]

/-- `EEPROM_write`, by induction on the bytes. -/
lemma HoldsBytes.write (h : HoldsBytes s array) {dest : UInt16} {bytes : List UInt8}
    (hrange : dest.toNat + bytes.length ≤ 255) :
    HoldsBytes (s.EEPROM_write dest bytes) (Orazio.EEPROM_write dest.toNat bytes array) := by
  induction bytes generalizing s dest array with
  | nil => exact h
  | cons b bytes ih =>
    rw [List.length_cons] at hrange
    obtain ⟨c, level, himage, hbytes⟩ := h
    obtain ⟨level', hafter⟩ := @dataEEWrite_image _ _ _ himage dest (by omega) b.toUInt16
    have hupdate : ∀ a < 255, byteOf (Function.update c dest.toNat (some b.toUInt16) a) =
        Function.update array dest.toNat b a := by
      intro a ha
      rw [Function.update_apply, Function.update_apply]
      split
      · exact UInt8.toUInt8_toUInt16 b
      · exact hbytes a ha
    rw [DataEE.EEPROM_write, Orazio.EEPROM_write]
    cases bytes with
    | nil => exact ⟨_, level', hafter, hupdate⟩
    | cons b' bytes =>
      rw [List.length_cons] at hrange
      rw [← toNat_succ (a := dest) (by omega)]
      apply ih ⟨_, level', hafter, hupdate⟩
      rw [toNat_succ (by omega), List.length_cons]
      omega

lemma HoldsBytes.read (h : HoldsBytes s array) {src size : UInt16} (hrange : src.toNat + size.toNat ≤ 255) :
    (s.EEPROM_read src size).1 = (List.range size.toNat).map (Orazio.EEPROM_read src.toNat array) ∧
      HoldsBytes (s.EEPROM_read src size).2 array := by
  obtain ⟨c, level, himage, hbytes⟩ := h
  have hend : (src + size).toNat - src.toNat = size.toNat := by
    rw [UInt16.toNat_add, Nat.mod_eq_of_lt (show src.toNat + size.toNat < 65536 by omega)]
    omega
  obtain ⟨hread, hmemory⟩ := readBytes_eq himage hrange
  rw [DataEE.EEPROM_read, hend]
  refine ⟨?_, c, level, ?_, hbytes⟩
  · rw [hread]
    apply List.map_congr_left
    intro i hi
    have hlt := List.mem_range.mp hi
    exact hbytes _ (by omega)
  · rw [hmemory]
    exact himage

/-- The bytes that the events wrote, over an erased EEPROM. -/
def bytesAfter (events : List BoardEvent) : Nat → UInt8 :=
  WriteLog.apply ((events.filterMap BoardEvent.written).map fun w => (w.1, w.2.toUInt8)) fun _ => 0xFF

lemma byteOf_latest (entries : DataJournal) (a : ℕ) :
    byteOf (latest entries a) = WriteLog.apply (entries.map fun w => (w.1, w.2.toUInt8)) (fun _ => 0xFF) a := by
  induction entries using List.reverseRecOn with
  | nil => exact (by decide : (0xFFFF : UInt16).toUInt8 = 0xFF)
  | append_singleton entries w ih =>
    rw [latest_concat, List.map_append, WriteLog.apply_append]
    change _ = Function.update (WriteLog.apply _ _) w.1 w.2.toUInt8 a
    rw [Function.update_apply]
    split
    · rfl
    · exact ih

/-- After any run in which no interruption tore the EEPROM, every sequence of calls in its range reads what
it would read from an array: the bytes of the writes so far that count, and 0xFF where there is none. -/
theorem eeprom_refines_array {m : Nat → PMWord} (hblank : ∀ q < 16, BlankPage m q) {is : List BoardInput}
    {events : List BoardEvent} {b : Board} (h : StepMachine.run boardStep (newBoard m) is = .ok (events, b))
    (hinit : b.initialized = true) (htorn : ∀ e ∈ events, ¬e.Tears)
    (calls : List {call : EEPROMCall // call.InRange}) :
    StepMachine.outputs flashCall b.flash calls = StepMachine.outputs arrayCall (bytesAfter events) calls := by
  obtain ⟨phase, level, himage⟩ := board_image hblank h
  have hready : phase = .ready := by
    refine (himage.initialized hinit).resolve_right fun hfull => ?_
    obtain ⟨e, he, htears⟩ := himage.full.mp hfull
    exact htorn e he htears
  subst hready
  have hholds : HoldsBytes b.flash (bytesAfter events) := by
    refine ⟨_, level, himage.image, fun a _ => ?_⟩
    rw [storeAfter_contents]
    exact byteOf_latest _ a
  refine StepMachine.outputs_eq_of_related HoldsBytes ?_ hholds calls
  intro s array call hs
  obtain ⟨call, hrange⟩ := call
  cases call with
  | read src size => exact hs.read hrange
  | write dest bytes => exact ⟨rfl, hs.write hrange⟩

theorem eeprom_refines_array_read_back :
    ∃ b events, StepMachine.run boardStep (newBoard fun _ => erasedWord) interruptedWrite = .ok (events, b) ∧
      StepMachine.outputs flashCall b.flash
          [⟨.write 40 [1, 2], by decide⟩, ⟨.read 4 2, by decide⟩, ⟨.read 40 2, by decide⟩] =
        [[], [0xFF, 7], [1, 2]] := by
  obtain ⟨b, hrun⟩ := interruptedWrite_run
  have hinit : ∃ r, StepMachine.run boardStep (newBoard fun _ => erasedWord) interruptedWrite = .ok r ∧
      r.2.initialized = true := by
    decide +kernel
  obtain ⟨r, hrun', hinit⟩ := hinit
  obtain rfl : r = (_, b) := Except.ok.inj (hrun'.symm.trans hrun)
  exact ⟨b, _, hrun, (eeprom_refines_array (fun _ _ _ _ => rfl) hrun hinit (by decide) _).trans (by decide)⟩

end Orazio.Proofs
