import Orazio.Lib.Journal
import Orazio.Model.DataEEPROM

/-!
# The active page

Behind its status word the active page holds a journal of locations and data, and behind that erased words.
Reading finds the latest data of a location, writing appends an entry.
-/

namespace Orazio.Proofs

open DataEE Journal

/-- Locations and what was written there. -/
abbrev DataJournal := List (ℕ × UInt16)

/-- The erased word of program memory. -/
abbrev erasedWord : PMWord := Flash.Word.erased

/-- The word of an entry. -/
def entryWord (e : ℕ × UInt16) : PMWord :=
  ⟨UInt8.ofNat e.1, e.2⟩

/-- The words of a page behind its status word. -/
def journalWord (es : DataJournal) (i : ℕ) : PMWord :=
  (es.map entryWord).getD i erasedWord

/-- Page `p` is the active one of the first bank, and its journal is `es`. -/
structure Active (m : Nat → PMWord) (p : ℕ) (es : DataJournal) : Prop where
  page : p < 16
  current : (m (512 * p)).high &&& 8 = 0
  words : ∀ i < 511, m (512 * p + (i + 1)) = journalWord es i
  length : es.length ≤ 511
  locations : ∀ e ∈ es, e.1 < 255
  others : ∀ q < 16, q ≠ p → m (512 * q) = erasedWord

variable {s : DataEE} {m m' : Nat → PMWord} {p : ℕ} {es : DataJournal}

lemma journalWord_of_lt {i : ℕ} (hi : i < es.length) : journalWord es i = entryWord es[i] := by
  rw [journalWord, List.getD_eq_getElem _ _ (by rwa [List.length_map]), List.getElem_map]

lemma journalWord_of_ge {i : ℕ} (hi : es.length ≤ i) : journalWord es i = erasedWord :=
  List.getD_eq_default _ _ (by rwa [List.length_map])

lemma journalWord_concat (e : ℕ × UInt16) (i : ℕ) :
    journalWord (es ++ [e]) i = if i = es.length then entryWord e else journalWord es i := by
  have hlen : (es ++ [e]).length = es.length + 1 := List.length_append
  by_cases hi : i < es.length
  · rw [if_neg (by omega), journalWord_of_lt hi, journalWord_of_lt (by omega), List.getElem_append_left hi]
  · by_cases heq : i = es.length
    · subst heq
      rw [if_pos rfl, journalWord_of_lt (by omega), List.getElem_concat_length rfl]
    · rw [if_neg heq, journalWord_of_ge (by omega), journalWord_of_ge (by omega)]

lemma toNat_entryWord {e : ℕ × UInt16} (he : e.1 < 255) : (entryWord e).high.toNat = e.1 := by
  rw [entryWord, UInt8.toNat_ofNat']
  exact Nat.mod_eq_of_lt (by omega)

lemma entryWord_ne_erased {e : ℕ × UInt16} (he : e.1 < 255) : (entryWord e).high ≠ 0xFF := by
  intro heq
  have hnat := congrArg UInt8.toNat heq
  rw [toNat_entryWord he] at hnat
  change e.1 = 255 at hnat
  omega

lemma pageAddress_zero (p : ℕ) : pageAddress 0 p = 512 * p := by
  change (16 * 0 + p) * 512 = 512 * p
  omega

/-! ### Finding the active page -/

lemma status_of_current {q : ℕ} (h : (s.memory (512 * q)).high &&& 8 = 0) :
    s.GetPageStatus 0 q STATUS_CURRENT = PAGE_CURRENT := by
  rw [GetPageStatus, pageAddress_zero, if_neg (by decide), if_pos rfl, h]
  rfl

lemma status_of_erased {q : ℕ} (h : s.memory (512 * q) = erasedWord) :
    s.GetPageStatus 0 q STATUS_CURRENT = PAGE_NOT_CURRENT ∧
      s.GetPageStatus 0 q STATUS_EXPIRED ≠ PAGE_EXPIRED := by
  simp only [GetPageStatus, pageAddress_zero, h]
  decide

lemma firstPage_eq {f : ℕ → Bool} (hp : p < 16) (hf : f p = true) (hbefore : ∀ q < p, f q = false) :
    firstPage f = p := by
  have hfind : (List.range NUM_DATA_EE_PAGES).find? f = some p := by
    rw [List.find?_range_eq_some]
    exact ⟨hf, List.mem_range.mpr hp, fun q hq => by rw [hbefore q hq]; rfl⟩
  rw [firstPage, hfind]
  rfl

lemma activePage_eq (h : Active s.memory p es) : s.activePage 0 = p := by
  apply firstPage_eq h.page
  · rw [status_of_current h.current]
    rfl
  · intro q hq
    rw [(status_of_erased (h.others q (Nat.lt_trans hq h.page) (Nat.ne_of_lt hq))).1]
    rfl

/-! ### Reading -/

/-- The reverse search is the search in the journal, by induction on the words that are left. -/
lemma searchPage_eq (h : Active s.memory p es) {a : ℕ} (ha : a < 255) {n : ℕ} (hn : n ≤ 511) :
    (s.searchPage (512 * p) a n).map (fun i => (s.memory (512 * p + i)).low) = latest (es.take n) a := by
  induction n with
  | zero => rfl
  | succ n ih =>
    have hword := h.words n (by omega)
    rw [searchPage]
    by_cases hlen : n < es.length
    · rw [journalWord_of_lt hlen] at hword
      rw [List.take_succ_eq_append_getElem hlen, latest_concat, hword,
        toNat_entryWord (h.locations _ (List.getElem_mem hlen))]
      by_cases heq : es[n].1 = a
      · rw [if_pos heq, if_pos heq.symm, Option.map_some, hword]
        rfl
      · rw [if_neg heq, if_neg (Ne.symm heq)]
        exact ih (by omega)
    · rw [journalWord_of_ge (by omega)] at hword
      have herased : ¬(erasedWord.high.toNat = a) := by
        change ¬(255 = a)
        omega
      rw [hword, if_neg herased, ih (by omega), List.take_of_length_le (by omega), List.take_of_length_le (by omega)]

/-- What a read returns that finds these data, or none. -/
def readResult (s : DataEE) : Option UInt16 → UInt16 × DataEE
  | none => (0xFFFF, s.SetaddrNotFound true)
  | some v => (v, s)

/-- Reading finds the latest data of a location. -/
lemma dataEERead_eq (h : Active s.memory p es) {addr : UInt16} (haddr : addr.toNat < 255) :
    s.DataEERead addr = readResult s (latest es addr.toNat) := by
  have hsearch := searchPage_eq h haddr (Nat.le_refl 511)
  rw [List.take_of_length_le h.length] at hsearch
  have hbank : addr.toNat / DATA_EE_SIZE = 0 := Nat.div_eq_of_lt haddr
  have hmod : addr.toNat % DATA_EE_SIZE = addr.toNat := Nat.mod_eq_of_lt haddr
  have hlegal : ¬addr.toNat ≥ DATA_EE_TOTAL_SIZE := Nat.not_le.mpr haddr
  rw [DataEERead, if_neg hlegal, hbank, hmod]
  simp only [activePage_eq h, pageAddress_zero]
  rw [if_neg (Nat.ne_of_lt h.page)]
  rw [← hsearch]
  cases hfound : s.searchPage (512 * p) addr.toNat (NUMBER_OF_INSTRUCTIONS_IN_PAGE - 1) with
  | none => rfl
  | some i => rfl

lemma dataEERead_illegal {addr : UInt16} (haddr : 255 ≤ addr.toNat) :
    s.DataEERead addr = (0xFFFF, s.setFlags { s.dataEEFlags with illegalAddress := true }) := by
  rw [DataEERead, if_pos (show addr.toNat ≥ DATA_EE_TOTAL_SIZE from haddr)]

/-! ### Appending -/

/-- The next available location lies behind the journal. -/
lemma getNextAvailCount_eq (h : Active s.memory p es) :
    s.GetNextAvailCount 0 = if es.length < 511 then 2 * (es.length + 1) else 0 := by
  have hhigh : ∀ i, 1 ≤ i → i < 512 → ((s.memory (512 * p + i)).high = 0xFF ↔ es.length < i) := by
    intro i hi hlt
    have hword := h.words (i - 1) (by omega)
    rw [Nat.sub_add_cancel hi] at hword
    rw [hword]
    by_cases hlen : i - 1 < es.length
    · rw [journalWord_of_lt hlen]
      exact iff_of_false (entryWord_ne_erased (h.locations _ (List.getElem_mem hlen))) (by omega)
    · rw [journalWord_of_ge (by omega)]
      exact iff_of_true rfl (by omega)
  unfold GetNextAvailCount
  simp only [activePage_eq h, pageAddress_zero, show NUMBER_OF_INSTRUCTIONS_IN_PAGE - 1 = 511 from rfl]
  by_cases hroom : es.length < 511
  · have hfind : (List.range' 1 511).find?
        (fun i => decide ((s.memory (512 * p + i)).high = 0xFF)) = some (es.length + 1) := by
      rw [List.find?_range'_eq_some]
      refine ⟨?_, ?_, ?_⟩
      · rw [decide_eq_true_iff, hhigh _ (by omega) (by omega)]
        omega
      · rw [List.mem_range'_1]
        omega
      · intro j hj hlt
        rw [Bool.not_eq_true', decide_eq_false_iff_not, hhigh j hj (by omega)]
        omega
    rw [hfind, if_pos hroom]
  · have hfind : (List.range' 1 511).find?
        (fun i => decide ((s.memory (512 * p + i)).high = 0xFF)) = none := by
      rw [List.find?_range'_eq_none]
      intro j hj hlt
      rw [Bool.not_eq_true', decide_eq_false_iff_not, hhigh j hj (by omega)]
      omega
    rw [hfind, if_neg hroom]

/-- Programming the next available word appends an entry. -/
lemma Active.append (h : Active m p es) (hroom : es.length < 511) {e : ℕ × UInt16} (he : e.1 < 255) :
    Active ((Flash.Op.program (512 * p + (es.length + 1)) [entryWord e]).apply 512 m) p (es ++ [e]) := by
  have hinside : m (512 * p + (es.length + 1)) = erasedWord := by
    rw [h.words _ hroom, journalWord_of_ge (Nat.le_refl _)]
  refine ⟨h.page, ?_, ?_, ?_, ?_, ?_⟩
  · rw [Flash.program_outside (by omega)]
    exact h.current
  · intro i hi
    rw [journalWord_concat]
    by_cases heq : i = es.length
    · rw [heq, if_pos rfl]
      exact Flash.program_inside (i := 0) hinside
    · rw [if_neg heq, Flash.program_outside (by simp only [List.length_singleton]; omega)]
      exact h.words i hi
  · rw [List.length_append, List.length_singleton]
    exact hroom
  · intro e' he'
    obtain hmem | hmem := List.mem_append.mp he'
    · exact h.locations e' hmem
    · rw [List.mem_singleton.mp hmem]
      exact he
  · intro q hq hne
    rw [Flash.program_outside (by simp only [List.length_singleton]; omega)]
    exact h.others q hq hne

end Orazio.Proofs
