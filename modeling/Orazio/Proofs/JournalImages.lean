import Orazio.Proofs.JournalPacking

/-!
# What power losses leave in the flash

A call can lose the power after any of its operations. The flash is then blank, has one active page that can
still be appended to or a full one, or has two active pages, of which the second was packed from the first.
-/

namespace Orazio.Proofs

open DataEE Journal

/-- What was last written to each location. -/
abbrev Contents := ℕ → Option UInt16

def HoldsData (es : DataJournal) (c : Contents) : Prop := ∀ a < 255, latest es a = c a

/-- All other pages are blank. -/
def Tidy (m : Nat → PMWord) (p : ℕ) : Prop := ∀ q < 16, q ≠ p → BlankPage m q

/-- Page `p` has been packed and not been erased. -/
structure Doubled (m : Nat → PMWord) (p : ℕ) (es : DataJournal) : Prop where
  packed : (m (512 * pageAfter p)).high &&& 8 = 0
  active : Active ((Flash.Op.erase (pageAfter p)).apply 512 m) p es
  tidy : Tidy ((Flash.Op.erase (pageAfter p)).apply 512 m) p

inductive FlashPhase
  | blank | ready | full | doubled
  deriving DecidableEq

/-- The flash has these contents. The number is what 256 more writes for each further page erased pay for. -/
inductive Image (m : Nat → PMWord) (c : Contents) : FlashPhase → ℕ → Prop
  | blank (hblank : ∀ q < 16, BlankPage m q) (hc : ∀ a < 255, c a = none) : Image m c .blank 256
  | ready (p : ℕ) (es : DataJournal) (h : Active m p es) (htidy : Tidy m p) (hroom : es.length < 511)
      (hc : HoldsData es c) : Image m c .ready es.length
  | full (p : ℕ) (es : DataJournal) (h : Active m p es) (hfull : es.length = 511) (hc : HoldsData es c) :
      Image m c .full 511
  | doubled (p : ℕ) (es : DataJournal) (h : Doubled m p es) (hfull : es.length = 511) (hc : HoldsData es c) :
      Image m c .doubled 767

/-- The power went after the first operation of a call and before the last but one was done. -/
def Torn (done total : ℕ) : Prop := 0 < done ∧ done + 1 < total

instance decidableTorn (done total : ℕ) : Decidable (Torn done total) :=
  inferInstanceAs (Decidable (_ ∧ _))

/-- The image after the first `k` operations of a call. -/
structure ImageAfter (m : Nat → PMWord) (ops : List (Flash.Op PMWord)) (c : Contents) (phase : FlashPhase)
    (level n k : ℕ) (phase' : FlashPhase) (level' : ℕ) : Prop where
  image : Image (Flash.apply 512 (ops.take k) m) c phase' level'
  full : phase' = .full ↔ phase = .full ∨ Torn k ops.length
  finished : k = ops.length → phase' = .ready ∨ phase' = .full
  level : level' + 256 * Flash.erasures (ops.take k) ≤ level + n + if k < ops.length then 256 else 0

/-- What a call does that makes the contents `c'` of `c`, with `n` writes. -/
structure Effect (m : Nat → PMWord) (ops : List (Flash.Op PMWord)) (c c' : Contents) (phase : FlashPhase)
    (level n : ℕ) : Prop where
  clean : Flash.CleanLog 512 m ops
  within : ∀ op ∈ ops, op.Within 512 16
  image : ∀ k ≤ ops.length, ∃ phase' level',
    ImageAfter m ops (if k = 0 then c else c') phase level n k phase' level'

variable {s s' : DataEE} {m : Nat → PMWord} {p q : ℕ} {es : DataJournal} {ops : List (Flash.Op PMWord)}
  {c c' : Contents} {phase phase' : FlashPhase} {level n : ℕ} {status : PMWord}

lemma not_torn_of_le {done total : ℕ} (h : total ≤ 2) : ¬Torn done total := by
  unfold Torn
  omega

lemma HoldsData.concat (h : HoldsData es c) (a : ℕ) (v : UInt16) :
    HoldsData (es ++ [(a, v)]) (Function.update c a (some v)) := by
  intro a' ha'
  rw [latest_concat, Function.update_apply]
  split
  · rfl
  · exact h a' ha'

lemma HoldsData.packed (h : HoldsData es c) : HoldsData (packed es) c := by
  intro a ha
  rw [latest_packed, if_pos ha]
  exact h a ha

lemma RowOp.isErase {op : Flash.Op PMWord} (h : RowOp q op) : op.isErase = false := by
  obtain ⟨start, words, rfl, -, -⟩ := h
  rfl

/-! ### Packing that is interrupted -/

/-- Erasing the page after the active one, once it has been packed, leaves the flash as it was. -/
lemma erase_pageAfter (hblank : BlankPage m (pageAfter p)) (hrows : ∀ op ∈ ops, RowOp (pageAfter p) op) :
    (Flash.Op.erase (pageAfter p)).apply 512 (Flash.apply 512 (ops ++ [.program (512 * pageAfter p) [status]]) m) =
      m := by
  funext x
  by_cases hx : x / 512 = pageAfter p
  · have haddress : x = 512 * pageAfter p + x % 512 := by omega
    rw [Flash.erase_inside hx]
    rw [haddress, hblank _ (Nat.mod_lt x (by decide))]
  · rw [Flash.erase_outside hx, Flash.apply_concat,
      Flash.program_outside (by simp only [List.length_singleton]; omega), rows_outside hrows hx]

/-- Once a page has been packed, the next page is the active one and all others are blank. -/
lemma PackedBy.ready (h : PackedBy s s' p es ops status) (hactive : Active s.memory p es)
    (htidy : Tidy s.memory p) :
    Active (Flash.apply 512 (packOps p ops status) s.memory) (pageAfter p) (packed es) ∧
      Tidy (Flash.apply 512 (packOps p ops status) s.memory) (pageAfter p) := by
  rw [Flash.apply_append]
  refine ⟨active_packed (hactive.rows (pageAfter_ne hactive) h.rows) h.current h.page, ?_⟩
  intro q hq hqp i hi
  by_cases hp : q = p
  · exact Flash.erase_inside (by omega)
  · have hoff : (Flash.Op.program (512 * pageAfter p) [status]).apply 512 (Flash.apply 512 ops s.memory)
        (512 * q + i) = Flash.apply 512 ops s.memory (512 * q + i) :=
      Flash.program_outside (by simp only [List.length_singleton]; omega)
    rw [← htidy q hq hp i hi, ← rows_outside (m := s.memory) (x := 512 * q + i) h.rows (by omega),
      ← hoff]
    exact Flash.erase_outside (by omega)

/-- The images that packing a full page goes through. -/
lemma PackedBy.image (h : PackedBy s s' p es ops status) (hactive : Active s.memory p es)
    (htidy : Tidy s.memory p) (hfull : es.length = 511) (hc : HoldsData es c) {j : ℕ} (hj : j ≤ ops.length + 2) :
    ∃ phase level, Image (Flash.apply 512 ((packOps p ops status).take j) s.memory) c phase level ∧
      (phase = .full ↔ j ≤ ops.length) ∧ (j = ops.length + 2 → phase = .ready) ∧
      level + 256 * Flash.erasures ((packOps p ops status).take j) ≤ if j = ops.length + 1 then 767 else 511 := by
  have hne := pageAfter_ne hactive
  have hrows : ∀ i, Flash.erasures (ops.take i) = 0 := fun i =>
    Flash.erasures_eq_zero fun op hop => (h.rows op (List.mem_of_mem_take hop)).isErase
  obtain hrow | rfl | rfl : j ≤ ops.length ∨ j = ops.length + 1 ∨ j = ops.length + 2 := by omega
  · refine ⟨.full, 511, ?_, iff_of_true rfl hrow, by omega, ?_⟩
    · rw [List.take_append_of_le_length hrow]
      exact .full p es (hactive.rows hne fun op hop => h.rows op (List.mem_of_mem_take hop)) hfull hc
    · have hnone : Flash.erasures ((packOps p ops status).take j) = 0 := by
        rw [List.take_append_of_le_length hrow, hrows]
      rw [if_neg (by omega)]
      omega
  · have htake : (packOps p ops status).take (ops.length + 1) =
        ops ++ [.program (512 * pageAfter p) [status]] := List.take_length_add_append 1
    have hrestore : (Flash.Op.erase (pageAfter p)).apply 512
        (Flash.apply 512 (ops ++ [.program (512 * pageAfter p) [status]]) s.memory) = s.memory :=
      erase_pageAfter (htidy _ (pageAfter_lt p) hne) h.rows
    refine ⟨.doubled, 767, ?_, iff_of_false FlashPhase.noConfusion (by omega), by omega, ?_⟩
    · rw [htake]
      refine .doubled p es ⟨?_, ?_, ?_⟩ hfull hc
      · have hzero : (Flash.Op.program (512 * pageAfter p) [status]).apply 512 (Flash.apply 512 ops s.memory)
            (512 * pageAfter p + 0) = status := Flash.program_inside (h.page 0 (by decide))
        rw [Flash.apply_concat]
        exact (congrArg (fun w : PMWord => w.high &&& 8) hzero).trans h.current
      · rw [hrestore]
        exact hactive
      · rw [hrestore]
        exact htidy
    · have hops := hrows ops.length
      rw [List.take_length] at hops
      rw [htake, if_pos rfl, Flash.erasures_append, hops]
      exact Nat.le_refl 767
  · have hall : (packOps p ops status).take (ops.length + 2) =
        packOps p ops status := by
      rw [List.take_of_length_le]
      simp only [List.length_append, List.length_cons, List.length_nil, Nat.zero_add, Nat.le_refl]
    have hlen := length_packed es
    refine ⟨.ready, (packed es).length, ?_, iff_of_false FlashPhase.noConfusion (by omega), fun _ => rfl, ?_⟩
    · obtain ⟨hafter, htidy'⟩ := h.ready hactive htidy
      rw [hall]
      exact .ready (pageAfter p) (packed es) hafter htidy' (by omega) hc.packed
    · have hops := hrows ops.length
      rw [List.take_length] at hops
      rw [hall, Flash.erasures_append, hops, if_neg (by omega)]
      change (packed es).length + 256 * (0 + 1) ≤ 511
      omega

/-! ### Effects -/

/-- Before the first operation nothing has happened. -/
lemma Image.before (h : Image m c phase level) (hops : ops ≠ []) (n : ℕ) :
    ImageAfter m ops c phase level n 0 phase level where
  image := h
  full := (or_iff_left fun htorn => Nat.lt_irrefl 0 htorn.1).symm
  finished hlen := absurd (List.length_eq_zero_iff.mp hlen.symm) hops
  level := Nat.le_add_right_of_le (Nat.le_add_right level n)

/-- A call without operations. -/
lemma Image.nothing (h : Image m c phase level) (hphase : phase = .ready ∨ phase = .full) (c' : Contents) (n : ℕ) :
    Effect m [] c c' phase level n where
  clean := trivial
  within _ hop := absurd hop List.not_mem_nil
  image k hk := by
    obtain rfl : k = 0 := Nat.le_zero.mp hk
    exact ⟨phase, level, h, (or_iff_left fun htorn => Nat.lt_irrefl 0 htorn.1).symm, fun _ => hphase,
      Nat.le_add_right_of_le (Nat.le_add_right level n)⟩

/-- A call that packs after its first operation. -/
lemma PackedBy.effect (h : PackedBy s s' p es ops status) {op : Flash.Op PMWord}
    (hs : s.memory = op.apply 512 m) (hclean : op.Clean m) (hwithin : op.Within 512 16)
    (hactive : Active s.memory p es)
    (htidy : Tidy s.memory p) (hfull : es.length = 511) (hc : HoldsData es c') (himage : Image m c phase level)
    (hphase : phase ≠ .full) (hlevel : 511 + 256 * Flash.erasures [op] ≤ level + n) :
    Effect m (op :: packOps p ops status) c c' phase level n where
  clean := by
    refine ⟨hclean, ?_⟩
    rw [← hs]
    exact h.clean
  within := by
    have hlt := pageAfter_lt p
    refine List.forall_mem_cons.mpr ⟨hwithin, List.forall_mem_append.mpr ⟨?_, ?_⟩⟩
    · intro op hop
      obtain ⟨start, words, rfl, hfits, -⟩ := h.rows op hop
      change 512 * pageAfter p + start + words.length ≤ 512 * 16
      omega
    · refine List.forall_mem_cons.mpr ⟨?_, List.forall_mem_singleton.mpr hactive.page⟩
      change 512 * pageAfter p + 1 ≤ 512 * 16
      omega
  image k hk := by
    have htotal : (op :: packOps p ops status).length = ops.length + 3 := by
      rw [List.length_cons, List.length_append]
      rfl
    cases k with
    | zero => exact ⟨phase, level, himage.before (List.cons_ne_nil _ _) n⟩
    | succ j =>
      rw [htotal] at hk
      obtain ⟨phase', level', himage', hfull', hfinished, hlevel'⟩ :=
        h.image hactive htidy hfull hc (j := j) (by omega)
      rw [hs] at himage'
      refine ⟨phase', level', himage', ?_, ?_, ?_⟩
      · rw [hfull', or_iff_right hphase, htotal]
        unfold Torn
        omega
      · intro hlen
        exact Or.inl (hfinished (by omega))
      · rw [List.take_succ_cons, Flash.erasures_cons, htotal]
        split at hlevel' <;> split <;> omega

/-! ### Initializing -/

lemma erasePage_eq (q : ℕ) (s : DataEE) : s.ErasePage 0 q = s.UnlockWrite (.erase q) := by
  rw [ErasePage, Nat.mul_zero, Nat.zero_add]

lemma firstPage_ne {f : ℕ → Bool} (hq : q < 16) (hf : f q = true) : firstPage f ≠ NUM_DATA_EE_PAGES := by
  unfold firstPage
  cases hfind : (List.range NUM_DATA_EE_PAGES).find? f with
  | none => exact absurd hf (List.find?_eq_none.mp hfind q (List.mem_range.mpr hq))
  | some r => exact Nat.ne_of_lt (List.mem_range.mp (List.mem_of_find?_eq_some hfind))

/-- A page with an erased status word is available, so the pages have not all expired. -/
lemma initBank_unexpired (hq : q < 16) (h : s.memory (512 * q) = erasedWord) :
    firstPage (fun page => s.GetPageStatus 0 page STATUS_EXPIRED ≠ PAGE_EXPIRED) ≠ NUM_DATA_EE_PAGES :=
  firstPage_ne hq (decide_eq_true (status_of_erased h).2)

lemma countP_current {f : ℕ → Bool} (h : ∀ q < 16, s.GetPageStatus 0 q STATUS_CURRENT = PAGE_CURRENT ↔ f q = true) :
    ((List.range NUM_DATA_EE_PAGES).countP fun page => s.GetPageStatus 0 page STATUS_CURRENT = PAGE_CURRENT) =
      (List.range 16).countP f := by
  apply List.countP_congr
  intro q hq
  rw [decide_eq_true_iff]
  exact h q (List.mem_range.mp hq)

lemma not_current_of_erased (h : s.memory (512 * q) = erasedWord) :
    s.GetPageStatus 0 q STATUS_CURRENT ≠ PAGE_CURRENT := by
  rw [(status_of_erased h).1]
  decide

lemma initBank_blank (h : ∀ q < 16, BlankPage s.memory q) :
    s.initBank 0 = (none, (s.UnlockWrite (.erase 0)).UnlockWrite (.program 0 [⟨0xF3, 0⟩])) := by
  have hcount := countP_current (s := s) (f := fun _ => false) fun q hq =>
    iff_of_false (not_current_of_erased (h q hq 0 (by decide))) Bool.false_ne_true
  unfold initBank
  dsimp only
  rw [if_neg (initBank_unexpired (q := 0) (by decide) (h 0 (by decide) 0 (by decide))), hcount, if_pos (by decide)]
  rfl

lemma initBank_active (h : Active s.memory p es) : s.initBank 0 = (none, s) := by
  have hcount := countP_current (s := s) (f := fun q => decide (q = p)) fun q hq => by
    rw [decide_eq_true_iff]
    constructor
    · intro hcurrent
      by_contra hne
      exact not_current_of_erased (h.others q hq hne) hcurrent
    · rintro rfl
      exact status_of_current h.current
  have hone : ∀ p < 16, (List.range 16).countP (fun q => decide (q = p)) = 1 := by decide
  rw [hone p h.page] at hcount
  unfold initBank
  dsimp only
  rw [if_neg (initBank_unexpired (pageAfter_lt p) (h.others _ (pageAfter_lt p) (pageAfter_ne h))), hcount,
    if_neg (by decide), if_pos rfl]

/-- Of two active pages the second one was packed from the first, also when these are the last and the first
page. -/
lemma initBank_doubled (h : Doubled s.memory p es) (hfull : es.length = 511) :
    s.initBank 0 = (none, ((s.UnlockWrite (.erase (pageAfter p))).PackEE 0).2) := by
  have hp := h.active.page
  have hother : ∀ q < 16, q ≠ p → q ≠ pageAfter p → s.memory (512 * q) = erasedWord := by
    intro q hq hne hnext
    have herased := h.active.others q hq hne
    rw [Flash.erase_outside (by omega)] at herased
    exact herased
  have hcurrent : ∀ q < 16, s.GetPageStatus 0 q STATUS_CURRENT = PAGE_CURRENT ↔
      decide (q = p ∨ q = pageAfter p) = true := by
    intro q hq
    rw [decide_eq_true_iff]
    constructor
    · intro hcurrent
      by_contra hne
      push Not at hne
      exact not_current_of_erased (hother q hq hne.1 hne.2) hcurrent
    · rintro (rfl | rfl)
      · have hfirst := h.active.current
        rw [Flash.erase_outside (by have := pageAfter_ne h.active; omega)] at hfirst
        exact status_of_current hfirst
      · exact status_of_current h.packed
  have hcount := countP_current hcurrent
  have htwo : ∀ p < 16, (List.range 16).countP (fun q => decide (q = p ∨ q = (p + 1) % 16)) = 2 := by decide
  rw [htwo p hp] at hcount
  -- a page that is neither of the two
  have hthird := hother (pageAfter (pageAfter p)) (pageAfter_lt _) (by unfold pageAfter; omega)
    (by unfold pageAfter; omega)
  have herase : (if s.GetPageStatus 0 (NUM_DATA_EE_PAGES - 1) STATUS_CURRENT = PAGE_CURRENT ∧
      s.GetPageStatus 0 0 STATUS_CURRENT = PAGE_CURRENT then 0
    else if s.activePage 0 + 1 = NUM_DATA_EE_PAGES then 0 else s.activePage 0 + 1) = pageAfter p := by
    have hlast : s.GetPageStatus 0 (NUM_DATA_EE_PAGES - 1) STATUS_CURRENT = PAGE_CURRENT ∧
        s.GetPageStatus 0 0 STATUS_CURRENT = PAGE_CURRENT ↔ p = 15 := by
      rw [hcurrent 0 (by decide), hcurrent (NUM_DATA_EE_PAGES - 1) (by decide), decide_eq_true_iff,
        decide_eq_true_iff]
      change (15 = p ∨ 15 = pageAfter p) ∧ (0 = p ∨ 0 = pageAfter p) ↔ p = 15
      unfold pageAfter
      omega
    by_cases hp15 : p = 15
    · rw [if_pos (hlast.mpr hp15), hp15]
    · have hactive : s.activePage 0 = p := by
        apply firstPage_eq hp
        · rw [(hcurrent p hp).mpr (by rw [decide_eq_true_iff]; exact Or.inl rfl)]
          rfl
        · intro q hq
          rw [decide_eq_false_iff_not, not_not]
          exact (status_of_erased (hother q (by omega) (by omega) (by unfold pageAfter; omega))).1
      rw [if_neg (hlast.not.mpr hp15), hactive, if_neg (by change ¬(p + 1 = 16); omega)]
      unfold pageAfter
      omega
  have hroom : (s.UnlockWrite (.erase (pageAfter p))).GetNextAvailCount 0 = 0 := by
    rw [getNextAvailCount_eq (s := s.UnlockWrite (.erase (pageAfter p))) h.active, if_neg (by omega)]
  unfold initBank
  dsimp only
  rw [if_neg (initBank_unexpired (pageAfter_lt _) hthird), hcount, if_neg (by decide), if_neg (by decide),
    if_pos rfl, herase, erasePage_eq, if_pos hroom]

lemma eepromInit_of_initBank (h : s.initBank 0 = (none, s')) :
    s.DataEEInit.1 = 0 ∧ s.EEPROM_init = s'.setFlags .zero := by
  have hinit : s.DataEEInit = (0, s') := by
    unfold DataEEInit
    rw [show List.range DATA_EE_BANKS = [0] from rfl, initBanks, h]
    rfl
  rw [EEPROM_init, hinit]
  exact ⟨rfl, rfl⟩

/-- The operations of `initBank` on a blank flash. -/
abbrev firstOps : List (Flash.Op PMWord) := [.erase 0, .program 0 [⟨0xF3, 0⟩]]

lemma erase_blank (hblank : ∀ q < 16, BlankPage m q) :
    ∀ q < 16, BlankPage ((Flash.Op.erase 0).apply 512 m) q := by
  intro q hq i hi
  by_cases hpage : (512 * q + i) / 512 = 0
  · exact Flash.erase_inside hpage
  · rw [Flash.erase_outside hpage]
    exact hblank q hq i hi

/-- The first page is made the active one of a blank flash. -/
lemma firstOps_active (hblank : ∀ q < 16, BlankPage m q) :
    Active (Flash.apply 512 firstOps m) 0 [] ∧ Tidy (Flash.apply 512 firstOps m) 0 := by
  have hoff : ∀ q < 16, ∀ i < 512, 512 * q + i ≠ 0 →
      Flash.apply 512 firstOps m (512 * q + i) = erasedWord := by
    intro q hq i hi hne
    rw [← erase_blank hblank q hq i hi]
    change (Flash.Op.program 0 [⟨0xF3, 0⟩]).apply 512 ((Flash.Op.erase 0).apply 512 m) (512 * q + i) = _
    rw [Flash.program_outside (by simp only [List.length_singleton]; omega)]
  refine ⟨⟨by decide, ?_, ?_, by decide, by simp, ?_⟩, ?_⟩
  · have hzero : (Flash.Op.program 0 [⟨0xF3, 0⟩]).apply 512 ((Flash.Op.erase 0).apply 512 m) (0 + 0) =
        (⟨0xF3, 0⟩ : PMWord) := Flash.program_inside (erase_blank hblank 0 (by decide) 0 (by decide))
    exact (congrArg (fun w : PMWord => w.high &&& 8) hzero).trans (by decide)
  · intro i hi
    exact hoff 0 (by decide) (i + 1) (by omega) (by omega)
  · intro q hq hne
    exact hoff q hq 0 (by decide) (by omega)
  · intro q hq hne i hi
    exact hoff q hq i hi (by omega)

lemma blank_effect (hblank : ∀ q < 16, BlankPage m q) (hc : ∀ a < 255, c a = none) :
    Effect m firstOps c c .blank 256 0 := by
  refine ⟨?_, List.forall_mem_cons.mpr ⟨Nat.zero_lt_succ 15, List.forall_mem_singleton.mpr ?_⟩, ?_⟩
  · refine ⟨trivial, ?_, trivial⟩
    intro i hi
    obtain rfl : i = 0 := Nat.lt_one_iff.mp hi
    exact erase_blank hblank 0 (by decide) 0 (by decide)
  · change 0 + 1 ≤ 512 * 16
    decide
  · intro k hk
    rw [ite_self]
    obtain rfl | rfl | rfl : k = 0 ∨ k = 1 ∨ k = 2 := by
      have hlen : k ≤ 2 := hk
      omega
    · exact ⟨.blank, 256, (Image.blank hblank hc).before (List.cons_ne_nil _ _) 0⟩
    · exact ⟨.blank, 256, .blank (erase_blank hblank) hc, by decide, by decide, by decide⟩
    · obtain ⟨hactive, htidy⟩ := firstOps_active hblank
      exact ⟨.ready, 0, .ready 0 [] hactive htidy (by decide) fun a ha => (hc a ha).symm, by decide, by decide,
        by decide⟩

/-- What `EEPROM_init` does to an image. -/
lemma init_effect (h : Image s.memory c phase level) :
    ∃ ops, Performs s s.EEPROM_init ops ∧ s.DataEEInit.1 = 0 ∧ Effect s.memory ops c c phase level 0 := by
  cases h with
  | blank hblank hc =>
    have hinit := eepromInit_of_initBank (initBank_blank hblank)
    refine ⟨_, ?_, hinit.1, blank_effect hblank hc⟩
    rw [hinit.2]
    exact (((performs_unlockWrite _ s).trans (performs_unlockWrite _ _)).trans (performs_setFlags _ _))
  | ready p es hactive htidy hroom hc =>
    have hinit := eepromInit_of_initBank (initBank_active hactive)
    refine ⟨[], ?_, hinit.1, (Image.ready p es hactive htidy hroom hc).nothing (Or.inl rfl) c 0⟩
    rw [hinit.2]
    exact performs_setFlags _ s
  | full p es hactive hfull hc =>
    have hinit := eepromInit_of_initBank (initBank_active hactive)
    refine ⟨[], ?_, hinit.1, (Image.full p es hactive hfull hc).nothing (Or.inr rfl) c 0⟩
    rw [hinit.2]
    exact performs_setFlags _ s
  | doubled p es hdoubled hfull hc =>
    have hinit := eepromInit_of_initBank (initBank_doubled hdoubled hfull)
    obtain ⟨ops, status, hpack⟩ := packEE_spec (s := s.UnlockWrite (.erase (pageAfter p))) hdoubled.active
      (hdoubled.tidy _ (pageAfter_lt p) (pageAfter_ne hdoubled.active))
    have hclean : (Flash.Op.erase (pageAfter p)).Clean s.memory := trivial
    refine ⟨_, ?_, hinit.1, hpack.effect rfl hclean (pageAfter_lt p) hdoubled.active hdoubled.tidy hfull hc
      (.doubled p es hdoubled hfull hc) FlashPhase.noConfusion (Nat.le_refl 767)⟩
    rw [hinit.2]
    have hall := ((performs_unlockWrite _ s).trans hpack.performs).trans (performs_setFlags .zero _)
    rw [List.append_nil] at hall
    exact hall

end Orazio.Proofs
