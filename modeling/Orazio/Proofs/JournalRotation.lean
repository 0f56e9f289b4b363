import Orazio.Proofs.JournalRuns

/-!
# Wear levelling

As long as the power stays, the pages are erased one after the other, each once before any of them again, and
at least 256 writes lie between two of them.
-/

namespace Orazio.Proofs

open DataEE Journal

/-- The pages that a log erases, in this order. -/
def erasedPages (ops : List (Flash.Op PMWord)) : List ℕ :=
  ops.filterMap fun op => match op with
    | .program _ _ => none
    | .erase page => some page

/-- The first `n` pages in rotation. -/
def erasureOrder (n : ℕ) : List ℕ :=
  (List.range n).map (· % 16)

/-- A flash whose pages have been erased in rotation, with `n` pages packed by `writes` writes. -/
structure Rotated (s : DataEE) (n writes : ℕ) : Prop where
  erased : erasedPages s.operations = 0 :: erasureOrder n
  active : ∃ es, Active s.memory (n % 16) es ∧ Tidy s.memory (n % 16) ∧ es.length < 511 ∧
    256 * n + es.length ≤ writes

variable {s s' : DataEE} {n writes : ℕ}

lemma erasedPages_append (ops ops' : List (Flash.Op PMWord)) :
    erasedPages (ops ++ ops') = erasedPages ops ++ erasedPages ops' :=
  List.filterMap_append

lemma erasedPages_rows {q : ℕ} {ops : List (Flash.Op PMWord)} (h : ∀ op ∈ ops, RowOp q op) :
    erasedPages ops = [] := by
  rw [erasedPages, List.filterMap_eq_nil_iff]
  intro op hop
  obtain ⟨start, words, rfl, -, -⟩ := h op hop
  rfl

lemma erasureOrder_succ (n : ℕ) : erasureOrder (n + 1) = erasureOrder n ++ [n % 16] := by
  rw [erasureOrder, List.range_succ, List.map_append]
  rfl

/-- A call without operations. -/
lemma Rotated.keep (h : Rotated s n writes) (hkeep : Performs s s' []) {writes' : ℕ} (hle : writes ≤ writes') :
    Rotated s' n writes' := by
  obtain ⟨es, hactive, htidy, hroom, hwrites⟩ := h.active
  have hmemory : s'.memory = s.memory := hkeep.memory
  refine ⟨?_, es, ?_, ?_, hroom, by omega⟩
  · rw [hkeep.operations, List.append_nil, h.erased]
  · rw [hmemory]
    exact hactive
  · rw [hmemory]
    exact htidy

/-- A write that appends an entry, and packs the page if this was the last one. -/
lemma Rotated.write (h : Rotated s n writes) (data addr : UInt16) :
    ∃ n', Rotated (s.DataEEWrite data addr).2 n' (writes + 1) := by
  by_cases haddr : addr.toNat < 255
  · obtain ⟨es, hactive, htidy, hroom, hwrites⟩ := h.active
    by_cases hunchanged : latest es addr.toNat = some data ∧ s.dataEEFlags.addrNotFound = false
    · rw [dataEEWrite_eq hactive haddr, if_pos hunchanged]
      exact ⟨n, h.keep (.refl s) (Nat.le_succ writes)⟩
    · have hentry := hactive.append hroom (e := (addr.toNat, data)) haddr
      have hlen : (es ++ [(addr.toNat, data)]).length = es.length + 1 := List.length_append
      have htidy' := htidy.append hroom (addr.toNat, data)
      by_cases hlast : es.length = 510
      · obtain ⟨-, ops, status, hpack⟩ := dataEEWrite_packs hactive htidy hlast haddr hunchanged
        obtain ⟨hafter, htidyAfter⟩ := hpack.ready hentry htidy'
        rw [← hpack.performs.memory, pageAfter, Nat.mod_add_mod] at hafter htidyAfter
        have hpacked := length_packed (es ++ [(addr.toNat, data)])
        refine ⟨n + 1, ?_, _, hafter, htidyAfter, by omega, by omega⟩
        have hperforms := (performs_unlockWrite (appendOp (n % 16) es (addr.toNat, data)) s).trans hpack.performs
        rw [hperforms.operations, erasedPages_append, h.erased, erasureOrder_succ, erasedPages_append,
          erasedPages_append, erasedPages_rows hpack.rows]
        rfl
      · rw [dataEEWrite_appends hactive (by omega) haddr hunchanged]
        refine ⟨n, ?_, _, hentry, htidy', by omega, by omega⟩
        change erasedPages (s.operations ++ [_]) = _
        rw [erasedPages_append, h.erased]
        exact List.append_nil _
  · rw [dataEEWrite_illegal (Nat.le_of_not_lt haddr)]
    exact ⟨n, h.keep (performs_setFlags _ s) (Nat.le_succ writes)⟩

lemma Rotated.call (h : Rotated s n writes) (call : DataEECall) :
    ∃ n', Rotated (call.perform s).2 n' (writes + call.writes) := by
  cases call with
  | init =>
    obtain ⟨es, hactive, -⟩ := h.active
    rw [DataEECall.perform, (eepromInit_of_initBank (initBank_active hactive)).2]
    exact ⟨n, h.keep (performs_setFlags .zero s) (Nat.le_refl writes)⟩
  | read addr =>
    obtain ⟨es, hactive, -⟩ := h.active
    refine ⟨n, h.keep ?_ (Nat.le_refl writes)⟩
    by_cases haddr : addr.toNat < 255
    · rw [DataEECall.perform, dataEERead_eq hactive haddr]
      cases latest es addr.toNat with
      | none => exact performs_setFlags _ s
      | some v => exact .refl s
    · rw [DataEECall.perform, dataEERead_illegal (Nat.le_of_not_lt haddr)]
      exact performs_setFlags _ s
  | write data addr => exact h.write data addr

/-- A blank flash, or one whose pages have been erased in rotation. -/
def Rotates (m : Nat → PMWord) (b : Board) (writes : ℕ) : Prop :=
  b = newBoard m ∨ ∃ n, Rotated b.flash n writes

lemma boardStep_rotates {m : Nat → PMWord} (hblank : ∀ q < 16, BlankPage m q) {b b' : Board} {call : DataEECall}
    {e : BoardEvent} (h : Rotates m b writes) (hstep : boardStep b (.call call) = .ok (e, b')) :
    Rotates m b' (writes + e.writes) := by
  rw [boardStep] at hstep
  split at hstep
  · next hon =>
    cases hstep
    right
    obtain rfl | ⟨n, hrotated⟩ := h
    · obtain rfl : call = .init := hon.resolve_left Bool.noConfusion
      have hinit := eepromInit_of_initBank (s := (newBoard m).flash) (initBank_blank hblank)
      obtain ⟨hactive, htidy⟩ := firstOps_active hblank
      refine ⟨0, ?_, [], ?_, ?_, by decide, Nat.zero_le _⟩
      · change erasedPages (newBoard m).flash.EEPROM_init.operations = _
        rw [hinit.2]
        rfl
      · change Active (newBoard m).flash.EEPROM_init.memory _ _
        rw [hinit.2]
        exact hactive
      · change Tidy (newBoard m).flash.EEPROM_init.memory _
        rw [hinit.2]
        exact htidy
    · exact hrotated.call call
  · cases hstep
    exact h

/-- In every run in which the power stays, the first page is erased, and then the pages in rotation, each one
after 256 more writes at least. -/
theorem erased_in_rotation {m : Nat → PMWord} (hblank : ∀ q < 16, BlankPage m q) (calls : List DataEECall)
    {events : List BoardEvent} {b : Board}
    (h : StepMachine.run boardStep (newBoard m) (calls.map .call) = .ok (events, b)) :
    b.flash.operations = [] ∨ ∃ n, erasedPages b.flash.operations = 0 :: erasureOrder n ∧
      256 * n ≤ writesIn events := by
  have hrotates : (∀ i ∈ calls.map BoardInput.call, ∃ call, i = .call call) →
      Rotates m b (writesIn events) := by
    refine StepMachine.run_history
      (fun is events b => (∀ i ∈ is, ∃ call, i = .call call) → Rotates m b (writesIn events))
      (fun _ => Or.inl rfl) ?_ h
    intro is events b i e b' ih hstep his
    obtain ⟨call, rfl⟩ := his i (List.mem_append_right _ List.mem_cons_self)
    have hnext := boardStep_rotates hblank (ih fun j hj => his j (List.mem_append_left _ hj)) hstep
    rw [writesIn_concat]
    exact hnext
  obtain rfl | ⟨n, hrotated⟩ := hrotates fun i hi => by
    obtain ⟨call, -, rfl⟩ := List.mem_map.mp hi
    exact ⟨call, rfl⟩
  · exact Or.inl rfl
  · obtain ⟨es, -, -, -, hwrites⟩ := hrotated.active
    exact Or.inr ⟨n, hrotated.erased, Nat.le_of_add_right_le hwrites⟩

lemma length_erasedPages (ops : List (Flash.Op PMWord)) : (erasedPages ops).length = Flash.erasures ops := by
  induction ops with
  | nil => rfl
  | cons op ops ih =>
    rw [Flash.erasures_cons, ← ih]
    cases op with
    | program address words => exact (Nat.zero_add _).symm
    | erase page => exact Nat.add_comm _ 1

/-- The first page is filled up and packed. -/
theorem erased_in_rotation_pack :
    ∃ events b, StepMachine.run boardStep (newBoard fun _ => erasedWord) ((fillingCalls 511).map .call) =
      .ok (events, b) ∧ erasedPages b.flash.operations = [0, 0] ∧ 256 ≤ writesIn events := by
  obtain ⟨b, hfill, hfilled⟩ := filling_run (Nat.le_refl 510)
  obtain ⟨ops, status, -, hrows, hpack⟩ := hfilled.packs
  obtain ⟨e, b', hstep, hflash⟩ : ∃ e b', boardStep b (.call (.write 510 0)) = .ok (e, b') ∧
      b'.flash = (DataEECall.perform (.write 510 0) b.flash).2 :=
    ⟨_, _, if_pos (Or.inl hfilled.initialized), rfl⟩
  have hrun : StepMachine.run boardStep (newBoard fun _ => erasedWord) ((fillingCalls 511).map .call) =
      .ok (fillingEvents 510 ++ [e], b') := by
    rw [fillingCalls_succ]
    exact StepMachine.run_concat_eq_ok.mpr ⟨_, _, _, hfill, hstep, rfl⟩
  have herasures : Flash.erasures b'.flash.operations = 2 := by
    rw [hflash, hpack.operations, Flash.erasures_append, hfilled.erasures, Flash.erasures_cons, Flash.erasures_append,
      hrows]
    rfl
  obtain hnothing | ⟨n, herased, hwrites⟩ := erased_in_rotation (fun _ _ _ _ => rfl) (fillingCalls 511) hrun
  · rw [hnothing] at herasures
    cases herasures
  · have hlength := length_erasedPages b'.flash.operations
    rw [herasures, herased, List.length_cons, erasureOrder, List.length_map, List.length_range] at hlength
    obtain rfl : n = 1 := Nat.succ.inj hlength
    exact ⟨_, _, hrun, herased, hwrites⟩

end Orazio.Proofs
