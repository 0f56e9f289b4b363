import Orazio.Proofs.JournalImages

/-!
# The calls of the user

What a read and a write do to an image. A write that changes nothing, or finds the active page full, performs
no operation; any other appends an entry and packs the page when this was the last one.
-/

namespace Orazio.Proofs

open DataEE Journal

variable {s : DataEE} {p : ℕ} {es : DataJournal} {c : Contents} {phase : FlashPhase} {level : ℕ}
  {data addr : UInt16}

lemma dataEEWrite_illegal (haddr : 255 ≤ addr.toNat) :
    s.DataEEWrite data addr = (5, s.setFlags { s.dataEEFlags with illegalAddress := true }) := by
  rw [DataEEWrite, if_pos (show addr.toNat ≥ DATA_EE_TOTAL_SIZE from haddr)]

/-- A location is only written if its data change; reading it leaves no flag behind. -/
lemma dataEEWrite_eq (h : Active s.memory p es) (haddr : addr.toNat < 255) :
    s.DataEEWrite data addr =
      if latest es addr.toNat = some data ∧ s.dataEEFlags.addrNotFound = false then (0, s)
      else s.writeWord data addr 0 (512 * p) := by
  have hbank : addr.toNat / DATA_EE_SIZE = 0 := Nat.div_eq_of_lt haddr
  unfold DataEEWrite
  rw [if_neg (show ¬addr.toNat ≥ DATA_EE_TOTAL_SIZE from Nat.not_le.mpr haddr), hbank]
  dsimp only
  rw [activePage_eq h, if_neg (Nat.ne_of_lt h.page), dataEERead_eq h haddr, pageAddress_zero]
  cases latest es addr.toNat with
  | none =>
    rw [readResult, if_neg (fun hnotFound => Bool.noConfusion hnotFound.2),
      if_neg (fun hnone => Option.some_ne_none data hnone.1.symm)]
    rfl
  | some v =>
    rw [readResult]
    simp only [Option.some.injEq]
    rfl

/-- The operation that appends an entry. -/
abbrev appendOp (p : ℕ) (es : DataJournal) (e : ℕ × UInt16) : Flash.Op PMWord :=
  .program (512 * p + (es.length + 1)) [entryWord e]

lemma writeWord_full (h : Active s.memory p es) (hfull : es.length = 511) :
    s.writeWord data addr 0 (512 * p) = (4, s.setFlags { s.dataEEFlags with packSkipped := true }) := by
  have hnext := getNextAvailCount_eq h
  rw [if_neg (by omega)] at hnext
  rw [writeWord, hnext, if_pos rfl]

lemma writeWord_room (h : Active s.memory p es) (hroom : es.length < 511) (haddr : addr.toNat < 255) :
    s.writeWord data addr 0 (512 * p) =
      (0, if es.length = 510 then ((s.UnlockWrite (appendOp p es (addr.toNat, data))).PackEE 0).2
        else s.UnlockWrite (appendOp p es (addr.toNat, data))) := by
  have hnext := getNextAvailCount_eq h
  rw [if_pos hroom] at hnext
  have hhalf : 2 * (es.length + 1) / 2 = es.length + 1 := Nat.mul_div_cancel_left _ (by decide)
  have hmod : addr.toNat % DATA_EE_SIZE = addr.toNat := Nat.mod_eq_of_lt haddr
  have hlast : 2 * (es.length + 1) + 2 = NUMBER_OF_INSTRUCTIONS_IN_PAGE * 2 ↔ es.length = 510 := by
    change 2 * (es.length + 1) + 2 = 512 * 2 ↔ _
    omega
  have hinside : s.memory (512 * p + (es.length + 1) + 0) = erasedWord := by
    rw [Nat.add_zero, h.words _ hroom, journalWord_of_ge (Nat.le_refl _)]
  have hword : (s.UnlockWrite (appendOp p es (addr.toNat, data))).memory (512 * p + (es.length + 1)) =
      entryWord (addr.toNat, data) :=
    (Flash.program_inside hinside : (appendOp p es (addr.toNat, data)).apply 512 s.memory
      (512 * p + (es.length + 1) + 0) = entryWord (addr.toNat, data))
  unfold writeWord
  rw [hnext, if_neg (by omega)]
  dsimp only
  rw [hhalf, hmod]
  refine (if_neg ?_).trans ?_
  · change ¬((((s.UnlockWrite (appendOp p es (addr.toNat, data))).memory (512 * p + (es.length + 1))).low.toUInt8 ≠ _) ∨
      ((s.UnlockWrite (appendOp p es (addr.toNat, data))).memory (512 * p + (es.length + 1))).high.toNat ≠ _ ∨
      (((s.UnlockWrite (appendOp p es (addr.toNat, data))).memory (512 * p + (es.length + 1))).low >>> 8).toUInt8 ≠ _)
    rw [hword, toNat_entryWord haddr]
    simp [entryWord]
  · simp only [hlast]
    split <;> rfl

/-- A write that changes something appends an entry, as long as this is not the last one of the page. -/
lemma dataEEWrite_appends (h : Active s.memory p es) (hroom : es.length < 510) (haddr : addr.toNat < 255)
    (hchanged : ¬(latest es addr.toNat = some data ∧ s.dataEEFlags.addrNotFound = false)) :
    s.DataEEWrite data addr = (0, s.UnlockWrite (appendOp p es (addr.toNat, data))) := by
  rw [dataEEWrite_eq h haddr, if_neg hchanged, writeWord_room h (by omega) haddr, if_neg (Nat.ne_of_lt hroom)]

lemma Tidy.append {m : Nat → PMWord} (h : Tidy m p) (hroom : es.length < 511) (e : ℕ × UInt16) :
    Tidy ((appendOp p es e).apply 512 m) p := by
  intro q hq hne i hi
  rw [Flash.program_outside (by simp only [List.length_singleton]; omega)]
  exact h q hq hne i hi

/-- A write into the last entry of the page packs it. -/
lemma dataEEWrite_packs (h : Active s.memory p es) (htidy : Tidy s.memory p) (hlast : es.length = 510)
    (haddr : addr.toNat < 255)
    (hchanged : ¬(latest es addr.toNat = some data ∧ s.dataEEFlags.addrNotFound = false)) :
    (s.DataEEWrite data addr).1 = 0 ∧
      ∃ ops status, PackedBy (s.UnlockWrite (appendOp p es (addr.toNat, data))) (s.DataEEWrite data addr).2 p
        (es ++ [(addr.toNat, data)]) ops status := by
  have hroom : es.length < 511 := by omega
  rw [dataEEWrite_eq h haddr, if_neg hchanged, writeWord_room h hroom haddr, if_pos hlast]
  exact ⟨rfl, packEE_spec (h.append hroom haddr)
    (htidy.append hroom (addr.toNat, data) _ (pageAfter_lt p) (pageAfter_ne h))⟩

/-- A write that changes nothing. -/
def Unchanged (c : Contents) (notFound : Bool) (data addr : UInt16) : Prop :=
  c addr.toNat = some data ∧ notFound = false

instance decidableUnchanged (c : Contents) (notFound : Bool) (data addr : UInt16) :
    Decidable (Unchanged c notFound data addr) :=
  inferInstanceAs (Decidable (_ ∧ _))

/-- What `DataEEWrite` does to an image, in the states that a call begins in. -/
lemma write_effect (h : Image s.memory c phase level) (hphase : phase = .ready ∨ phase = .full)
    (haddr : addr.toNat < 255) :
    ∃ ops, Performs s (s.DataEEWrite data addr).2 ops ∧
      Effect s.memory ops c (Function.update c addr.toNat (some data)) phase level 1 ∧
      (s.DataEEWrite data addr).1 =
        (if phase = .full ∧ ¬Unchanged c s.dataEEFlags.addrNotFound data addr then 4 else 0) ∧
      (ops = [] ↔ phase = .full ∨ Unchanged c s.dataEEFlags.addrNotFound data addr) ∧
      (s.DataEEWrite data addr).2.dataEEFlags.addrNotFound = s.dataEEFlags.addrNotFound := by
  have hnothing := h.nothing hphase (Function.update c addr.toNat (some data)) 1
  have hread : ∀ p es, Active s.memory p es → HoldsData es c → s.DataEEWrite data addr =
      if Unchanged c s.dataEEFlags.addrNotFound data addr then (0, s) else s.writeWord data addr 0 (512 * p) := by
    intro p es hactive hc
    rw [dataEEWrite_eq hactive haddr, hc _ haddr]
    rfl
  by_cases hunchanged : Unchanged c s.dataEEFlags.addrNotFound data addr
  · have hskip : s.DataEEWrite data addr = (0, s) := by
      cases h with
      | blank => simp at hphase
      | doubled => simp at hphase
      | ready p es hactive _ _ hc => rw [hread p es hactive hc, if_pos hunchanged]
      | full p es hactive _ hc => rw [hread p es hactive hc, if_pos hunchanged]
    rw [hskip, if_neg fun hrefused => hrefused.2 hunchanged]
    exact ⟨[], .refl s, hnothing, rfl, iff_of_true rfl (Or.inr hunchanged), rfl⟩
  · cases h with
    | blank => simp at hphase
    | doubled => simp at hphase
    | full p es hactive hfull hc =>
      rw [hread p es hactive hc, if_neg hunchanged, writeWord_full hactive hfull, if_pos ⟨rfl, hunchanged⟩]
      exact ⟨[], performs_setFlags _ s, hnothing, rfl, iff_of_true rfl (Or.inl rfl), rfl⟩
    | ready p es hactive htidy hroom hc =>
      have hentry := hactive.append hroom (e := (addr.toNat, data)) haddr
      have hlen : (es ++ [(addr.toNat, data)]).length = es.length + 1 := List.length_append
      have htidyEntry := htidy.append hroom (addr.toNat, data)
      have hclean : (appendOp p es (addr.toNat, data)).Clean s.memory := by
        intro i hi
        obtain rfl : i = 0 := Nat.lt_one_iff.mp hi
        rw [Nat.add_zero, hactive.words _ hroom, journalWord_of_ge (Nat.le_refl _)]
      have hwithin : (appendOp p es (addr.toNat, data)).Within 512 16 := by
        have hp := hactive.page
        change 512 * p + (es.length + 1) + 1 ≤ 512 * 16
        omega
      have hbefore := Image.ready p es hactive htidy hroom hc
      have hchanged : ¬(latest es addr.toNat = some data ∧ s.dataEEFlags.addrNotFound = false) := by
        rw [hc _ haddr]
        exact hunchanged
      by_cases hlast : es.length = 510
      · obtain ⟨hresult, ops, status, hpack⟩ := dataEEWrite_packs hactive htidy hlast haddr hchanged
        refine ⟨_, (performs_unlockWrite _ s).trans hpack.performs, ?_,
          hresult.trans (if_neg fun hrefused => FlashPhase.noConfusion hrefused.1).symm,
          iff_of_false (List.cons_ne_nil _ _) (by simp [hunchanged]), hpack.flag⟩
        refine hpack.effect rfl hclean hwithin hentry htidyEntry (by omega) (hc.concat _ _) hbefore
          FlashPhase.noConfusion ?_
        rw [Flash.erasures_eq_zero (List.forall_mem_singleton.mpr rfl)]
        omega
      · rw [dataEEWrite_appends hactive (by omega) haddr hchanged]
        refine ⟨[appendOp p es (addr.toNat, data)], performs_unlockWrite _ s,
          ⟨(Flash.cleanLog_singleton _ _).mpr hclean, List.forall_mem_singleton.mpr hwithin, ?_⟩,
          (if_neg fun hrefused => FlashPhase.noConfusion hrefused.1).symm,
          iff_of_false (List.cons_ne_nil _ _) (by simp [hunchanged]), rfl⟩
        intro k hk
        obtain rfl | rfl : k = 0 ∨ k = 1 := by
          have hle : k ≤ 1 := hk
          omega
        · exact ⟨_, _, hbefore.before (List.cons_ne_nil _ _) 1⟩
        · refine ⟨.ready, es.length + 1, ?_, ?_, fun _ => Or.inl rfl, Nat.le_add_right _ _⟩
          · rw [← hlen]
            exact .ready p _ hentry htidyEntry (by omega) (hc.concat _ _)
          · exact iff_of_false FlashPhase.noConfusion fun htorn =>
              htorn.elim FlashPhase.noConfusion (not_torn_of_le (Nat.le_succ 1))

/-- What `DataEERead` finds in an image. -/
lemma read_image (h : Image s.memory c phase level) (hphase : phase = .ready ∨ phase = .full)
    (haddr : addr.toNat < 255) : s.DataEERead addr = readResult s (c addr.toNat) := by
  cases h with
  | blank => simp at hphase
  | doubled => simp at hphase
  | ready p es hactive _ _ hc => rw [dataEERead_eq hactive haddr, hc _ haddr]
  | full p es hactive _ hc => rw [dataEERead_eq hactive haddr, hc _ haddr]

end Orazio.Proofs
