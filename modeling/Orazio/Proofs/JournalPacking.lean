import Orazio.Proofs.JournalPages

/-!
# Packing a page

`PackEE` copies the latest data of every location to the next page, makes it the active one and erases the
page it was packed from. Until the status word of the packed page is programmed nothing of the active page
changes.
-/

namespace Orazio.Proofs

open DataEE Journal

/-- What a call does to the flash. -/
structure Performs (s s' : DataEE) (ops : List (Flash.Op PMWord)) : Prop where
  operations : s'.operations = s.operations ++ ops
  memory : s'.memory = Flash.apply 512 ops s.memory

/-- The words of a page are erased. -/
def BlankPage (m : Nat → PMWord) (q : ℕ) : Prop :=
  ∀ i < 512, m (512 * q + i) = erasedWord

/-- The page after the active one. -/
abbrev pageAfter (p : ℕ) : ℕ := (p + 1) % 16

/-- The operation programs a row of a page and no status word. -/
def RowOp (q : ℕ) (op : Flash.Op PMWord) : Prop :=
  ∃ start words, op = .program (512 * q + start) words ∧ start + words.length ≤ 512 ∧
    (start = 0 → words.head? = some erasedWord)

/-- The operations of `PackEE`, with these rows and this status word. -/
abbrev packOps (p : ℕ) (rows : List (Flash.Op PMWord)) (status : PMWord) : List (Flash.Op PMWord) :=
  rows ++ [.program (512 * pageAfter p) [status], .erase p]

/-- The journal of the packed page. -/
abbrev packed (es : DataJournal) : DataJournal := compact (List.range 255) es

variable {s s' s'' : DataEE} {m : Nat → PMWord} {p q : ℕ} {es : DataJournal} {ops ops' : List (Flash.Op PMWord)}

/-! ### Operations -/

lemma Performs.refl (s : DataEE) : Performs s s [] :=
  ⟨(List.append_nil _).symm, rfl⟩

lemma Performs.trans (h : Performs s s' ops) (h' : Performs s' s'' ops') : Performs s s'' (ops ++ ops') where
  operations := by rw [h'.operations, h.operations, List.append_assoc]
  memory := by rw [h'.memory, h.memory, Flash.apply_append]

lemma performs_unlockWrite (op : Flash.Op PMWord) (s : DataEE) : Performs s (s.UnlockWrite op) [op] :=
  ⟨rfl, rfl⟩

lemma performs_setFlags (flags : DataEEFlags) (s : DataEE) : Performs s (s.setFlags flags) [] :=
  ⟨(List.append_nil _).symm, rfl⟩

/-- A row of another page leaves the active page as it is. -/
lemma Active.row (h : Active m p es) (hne : q ≠ p) {op : Flash.Op PMWord} (hop : RowOp q op) :
    Active (op.apply 512 m) p es := by
  obtain ⟨start, words, rfl, hfits, hstatus⟩ := hop
  refine ⟨h.page, ?_, ?_, h.length, h.locations, ?_⟩
  · rw [Flash.program_outside (by omega)]
    exact h.current
  · intro i hi
    rw [Flash.program_outside (by omega)]
    exact h.words i hi
  · intro r hr hrp
    by_cases hinside : start = 0 ∧ r = q
    · obtain ⟨rfl, rfl⟩ := hinside
      have herased : (Flash.Op.program (512 * r) words).apply 512 m (512 * r + 0) = words.getD 0 erasedWord :=
        Flash.program_inside (h.others r hr hrp)
      rw [List.getD_eq_getElem?_getD, ← List.head?_eq_getElem?, hstatus rfl] at herased
      exact herased
    · rw [Flash.program_outside (by omega)]
      exact h.others r hr hrp

lemma Active.rows (h : Active m p es) (hne : q ≠ p) (hops : ∀ op ∈ ops, RowOp q op) :
    Active (Flash.apply 512 ops m) p es := by
  induction ops using List.reverseRecOn with
  | nil => exact h
  | append_singleton ops op ih =>
    rw [Flash.apply_concat]
    exact (ih fun op' hop' => hops op' (List.mem_append_left _ hop')).row hne
      (hops op (List.mem_append_right _ List.mem_cons_self))

/-- Rows of a page change nothing outside of it. -/
lemma rows_outside (hops : ∀ op ∈ ops, RowOp q op) {x : ℕ} (hx : x / 512 ≠ q) :
    Flash.apply 512 ops m x = m x := by
  induction ops using List.reverseRecOn with
  | nil => rfl
  | append_singleton ops op ih =>
    obtain ⟨start, words, rfl, hfits, -⟩ := hops op (List.mem_append_right _ List.mem_cons_self)
    rw [Flash.apply_concat, Flash.program_outside (by omega)]
    exact ih fun op' hop' => hops op' (List.mem_append_left _ hop')

/-! ### The rows -/

/-- The words of the packed page from its beginning on, when the locations below `a` have been read. -/
def packedWords (es : DataJournal) (a : ℕ) : List PMWord :=
  erasedWord :: (compact (List.range a) es).map entryWord

/-- The packed page while it is programmed: the words before `start` are, and the next ones are in `row`. -/
structure Packing (m : Nat → PMWord) (q : ℕ) (words : List PMWord) (start : ℕ) (row : List PMWord) : Prop where
  row : row = words.drop start
  start_le : start ≤ words.length
  le : words.length ≤ start + 64
  page : ∀ i < 512, m (512 * q + i) = (words.take start).getD i erasedWord

lemma length_packedWords (es : DataJournal) (a : ℕ) : (packedWords es a).length ≤ a + 1 := by
  have hlen := length_compact_le (List.range a) es
  rw [List.length_range] at hlen
  rw [packedWords, List.length_cons, List.length_map]
  omega

lemma packedWords_succ (es : DataJournal) (a : ℕ) :
    packedWords es (a + 1) = packedWords es a ++ ((latest es a).map fun v => entryWord (a, v)).toList := by
  rw [packedWords, List.range_succ, compact_concat, List.map_append, packedWords, List.cons_append]
  cases latest es a <;> rfl

lemma getD_padRow (row : List PMWord) (i : ℕ) : (padRow row).getD i erasedWord = row.getD i erasedWord := by
  unfold padRow
  by_cases hi : i < row.length
  · rw [List.getD_append _ _ _ _ hi]
  · rw [List.getD_append_right _ _ _ _ (Nat.le_of_not_lt hi), List.getD_eq_default row _ (Nat.le_of_not_lt hi)]
    change (List.replicate _ erasedWord).getD _ erasedWord = erasedWord
    rw [List.getD_eq_getElem?_getD, List.getElem?_getD_replicate_default_eq]

lemma length_padRow {row : List PMWord} (h : row.length ≤ 64) : (padRow row).length = 64 := by
  rw [padRow, List.length_append, List.length_replicate]
  change row.length + (64 - row.length) = 64
  omega

/-- Programming the padded row programs all words so far. -/
lemma Packing.program {words row : List PMWord} {start : ℕ} (h : Packing m q words start row)
    (hstart : start + 64 ≤ 512) :
    let op := Flash.Op.program (512 * q + start) (padRow row)
    (∀ i < 512, op.apply 512 m (512 * q + i) = words.getD i erasedWord) ∧ op.Clean m := by
  have hrow : row.length ≤ 64 := by
    rw [h.row, List.length_drop]
    have := h.le
    omega
  have hlen := length_padRow hrow
  have hblank : ∀ i, start ≤ i → i < 512 → m (512 * q + i) = erasedWord := by
    intro i hi hlt
    rw [h.page i hlt, List.getD_eq_default]
    rw [List.length_take]
    omega
  refine ⟨?_, ?_⟩
  · intro i hi
    by_cases hbefore : i < start
    · rw [Flash.program_outside (by omega), h.page i hi, List.getD_eq_getElem?_getD,
        List.getElem?_take_of_lt hbefore, List.getD_eq_getElem?_getD]
    · have haddress : 512 * q + i = 512 * q + start + (i - start) := by omega
      have herased := hblank i (by omega) hi
      rw [haddress] at herased ⊢
      have hindex : start + (i - start) = i := by omega
      rw [Flash.program_inside herased, getD_padRow, h.row, List.getD_eq_getElem?_getD, List.getElem?_drop,
        hindex, List.getD_eq_getElem?_getD]
  · intro i hi
    rw [hlen] at hi
    rw [Nat.add_assoc]
    exact hblank _ (by omega) (by omega)

lemma Packing.rowOp {row : List PMWord} {start a : ℕ} (h : Packing m q (packedWords es a) start row)
    (hstart : start + 64 ≤ 512) : RowOp q (.program (512 * q + start) (padRow row)) := by
  have hrow : row.length ≤ 64 := by
    rw [h.row, List.length_drop]
    have := h.le
    omega
  refine ⟨start, padRow row, rfl, ?_, ?_⟩
  · rw [length_padRow hrow]
    exact hstart
  · rintro rfl
    rw [h.row]
    rfl

lemma padRow_full {row : List PMWord} (h : row.length = 64) : padRow row = row := by
  rw [padRow, h]
  exact List.append_nil row

lemma readLocation_eq (h : Active s.memory p es) {a : ℕ} (ha : a < 255) :
    s.readLocation 0 a = readResult s (latest es a) := by
  have haddr : (UInt16.ofNat (DATA_EE_SIZE * 0 + a)).toNat = a := by
    rw [UInt16.toNat_ofNat']
    change (255 * 0 + a) % 65536 = a
    omega
  rw [readLocation, dataEERead_eq h (by rw [haddr]; exact ha), haddr]

/-- What the programming loops do. -/
structure PacksRows (s s' : DataEE) (q : ℕ) (es : DataJournal) (ops : List (Flash.Op PMWord)) : Prop where
  performs : Performs s s' ops
  nonempty : ops ≠ []
  rows : ∀ op ∈ ops, RowOp q op
  clean : Flash.CleanLog 512 s.memory ops
  flags : s'.dataEEFlags = s.dataEEFlags
  page : ∀ i < 512, s'.memory (512 * q + i) = (packedWords es 255).getD i erasedWord

/-- A row that is programmed before the others. -/
lemma PacksRows.cons {op : Flash.Op PMWord} (hop : RowOp q op) (hclean : op.Clean s.memory)
    (h : PacksRows (s.UnlockWrite op) s' q es ops) : PacksRows s s' q es (op :: ops) where
  performs := (performs_unlockWrite op s).trans h.performs
  nonempty := List.cons_ne_nil op ops
  rows := List.forall_mem_cons.mpr ⟨hop, h.rows⟩
  clean := ⟨hclean, h.clean⟩
  flags := h.flags
  page := h.page

lemma setAddrNotFound_restore (h : s.dataEEFlags.addrNotFound = false) :
    (s.SetaddrNotFound true).SetaddrNotFound false = s := by
  obtain ⟨memory, flags, operations⟩ := s
  obtain ⟨notFound⟩ := flags
  subst h
  rfl

/-- An entry is put into a row that is not full. -/
lemma Packing.put {words row : List PMWord} {start : ℕ} (h : Packing m q words start row)
    (hrow : row.length < 64) (word : PMWord) : Packing m q (words ++ [word]) start (row ++ [word]) := by
  have hlen : row.length = words.length - start := by rw [h.row, List.length_drop]
  have hstart := h.start_le
  refine ⟨?_, ?_, ?_, ?_⟩
  · rw [List.drop_append_of_le_length hstart, h.row]
  · rw [List.length_append]
    omega
  · rw [List.length_append, List.length_singleton]
    omega
  · intro i hi
    rw [List.take_append_of_le_length hstart]
    exact h.page i hi

/-- A row that is full is programmed, and the next one begins. -/
lemma Packing.flush {words row : List PMWord} {start : ℕ} (h : Packing m q words start row)
    (hstart : start + 64 ≤ 512) (hfull : row.length = 64) :
    Packing ((Flash.Op.program (512 * q + start) row).apply 512 m) q words (start + 64) [] := by
  have hlen : row.length = words.length - start := by rw [h.row, List.length_drop]
  have hle := h.le
  have hall : words.length = start + 64 := by omega
  refine ⟨?_, ?_, ?_, ?_⟩
  · rw [List.drop_of_length_le (by omega)]
  · omega
  · omega
  · intro i hi
    rw [List.take_of_length_le (by omega), ← (h.program hstart).1 i hi, padRow_full hfull]

/-- The step of the loops for a location, with a row that is not full. -/
lemma packRows_next {bank address n : ℕ} {row : List PMWord} (hrow : row.length < 64) :
    s.packRows bank address row (n + 1) =
      let r := s.readLocation bank (DATA_EE_SIZE - (n + 1))
      if r.2.dataEEFlags.addrNotFound = true then (r.2.SetaddrNotFound false).packRows bank address row n
      else r.2.packRows bank address (row ++ [⟨UInt8.ofNat (DATA_EE_SIZE - (n + 1)), r.1⟩]) n := by
  rw [packRows, if_pos hrow]

/-- The loops program the words of all locations, by induction on the locations that are left. -/
lemma packRows_spec (hne : q ≠ p) {n : ℕ} (hn : n ≤ 255) {start : ℕ} {row : List PMWord}
    (h : Active s.memory p es) (hflag : s.dataEEFlags.addrNotFound = false)
    (hpacking : Packing s.memory q (packedWords es (255 - n)) start row) :
    ∃ ops, PacksRows s (s.packRows 0 (512 * q + start) row n) q es ops := by
  induction n generalizing s start row with
  | zero =>
    rw [Nat.sub_zero] at hpacking
    have hlen := length_packedWords es 255
    have hstart := hpacking.start_le
    have hprogram := hpacking.program (by omega)
    exact ⟨_, performs_unlockWrite _ s, List.cons_ne_nil _ _,
      List.forall_mem_singleton.mpr (hpacking.rowOp (by omega)),
      (Flash.cleanLog_singleton _ _).mpr hprogram.2, rfl, hprogram.1⟩
  | succ n ih =>
    have ha : 255 - (n + 1) < 255 := by omega
    have hnext : 255 - n = 255 - (n + 1) + 1 := by omega
    -- a location is read into a row that is not full
    have hread : ∀ (s : DataEE) (start : ℕ) (row : List PMWord), Active s.memory p es →
        s.dataEEFlags.addrNotFound = false → Packing s.memory q (packedWords es (255 - (n + 1))) start row →
        row.length < 64 → ∃ ops, PacksRows s (s.packRows 0 (512 * q + start) row (n + 1)) q es ops := by
      intro s start row h hflag hpacking hrow
      have hwords := packedWords_succ es (255 - (n + 1))
      rw [← hnext] at hwords
      cases hlatest : latest es (255 - (n + 1)) with
      | none =>
        rw [hlatest, Option.map_none, Option.toList_none, List.append_nil] at hwords
        rw [packRows_next hrow, readLocation_eq h ha, hlatest]
        change ∃ ops, PacksRows s (((s.SetaddrNotFound true).SetaddrNotFound false).packRows 0
          (512 * q + start) row n) q es ops
        rw [setAddrNotFound_restore hflag]
        apply ih (by omega) h hflag
        rw [hwords]
        exact hpacking
      | some v =>
        rw [hlatest, Option.map_some, Option.toList_some] at hwords
        rw [packRows_next hrow, readLocation_eq h ha, hlatest, readResult]
        dsimp only
        rw [hflag, if_neg Bool.false_ne_true]
        apply ih (by omega) h hflag
        rw [hwords]
        exact hpacking.put hrow _
    by_cases hrow : row.length < 64
    · exact hread s start row h hflag hpacking hrow
    · have hlen := length_packedWords es (255 - (n + 1))
      have hstart := hpacking.start_le
      have hle := hpacking.le
      have hdrop : row.length = (packedWords es (255 - (n + 1))).length - start := by
        rw [hpacking.row, List.length_drop]
      have hfull : row.length = 64 := by omega
      have hop := hpacking.rowOp (by omega)
      have hclean := (hpacking.program (by omega)).2
      rw [padRow_full hfull] at hop hclean
      obtain ⟨ops, hops⟩ := hread (s.UnlockWrite (.program (512 * q + start) row)) (start + 64) []
        (h.row hne hop) hflag (hpacking.flush (by omega) hfull) (by decide)
      refine ⟨.program (512 * q + start) row :: ops, PacksRows.cons hop hclean ?_⟩
      have hskip : s.packRows 0 (512 * q + start) row (n + 1) =
          (s.UnlockWrite (.program (512 * q + start) row)).packRows 0 (512 * q + (start + 64)) [] (n + 1) := by
        rw [packRows, if_neg hrow, packRows_next (by decide)]
        rfl
      rw [hskip]
      exact hops

/-! ### The rest of `PackEE` -/

lemma journalWord_packed (es : DataJournal) (i : ℕ) :
    (packedWords es 255).getD (i + 1) erasedWord = journalWord (packed es) i := rfl

lemma latest_packed (es : DataJournal) (a : ℕ) :
    latest (packed es) a = if a < 255 then latest es a else none := by
  rw [latest_compact List.nodup_range]
  simp only [List.mem_range]

lemma length_packed (es : DataJournal) : (packed es).length ≤ 255 := by
  have hlen := length_compact_le (List.range 255) es
  rw [List.length_range] at hlen
  exact hlen

/-- The verification succeeds, by induction on the words that are left. -/
lemma verifyPage_eq (h : Active s.memory p es)
    (hpage : ∀ i < 511, s.memory (512 * q + (i + 1)) = journalWord (packed es) i) {j n : ℕ}
    (hj : j ≤ (packed es).length) (hn : (packed es).length < j + n) (hle : j + n ≤ 511) :
    s.verifyPage 0 (512 * q + (j + 1)) n = (true, s) := by
  induction n generalizing j with
  | zero => omega
  | succ n ih =>
    rw [verifyPage]
    simp only [hpage j (by omega)]
    by_cases hend : j = (packed es).length
    · rw [journalWord_of_ge (by omega)]
      exact if_pos rfl
    · have hlt : j < (packed es).length := by omega
      have hmem := List.getElem_mem hlt
      have hlocation : (packed es)[j].1 < 255 := List.mem_range.mp (mem_keys_of_mem_compact hmem)
      have hlatest : latest es (packed es)[j].1 = some (packed es)[j].2 := latest_of_mem_compact hmem
      rw [journalWord_of_lt hlt, if_neg (entryWord_ne_erased hlocation), toNat_entryWord hlocation,
        readLocation_eq h hlocation, hlatest, readResult]
      dsimp only
      rw [if_neg (by rw [ne_eq, not_not]; rfl)]
      exact ih (by omega) (by omega) (by omega)

lemma pageAfter_lt (p : ℕ) : pageAfter p < 16 :=
  Nat.mod_lt _ (by decide)

lemma pageAfter_ne (h : Active m p es) : pageAfter p ≠ p := by
  have hp := h.page
  unfold pageAfter
  omega

lemma nextUnexpired_eq (h : Active s.memory p es) : s.nextUnexpired 0 p = some (pageAfter p) := by
  have herased := status_of_erased (h.others _ (pageAfter_lt p) (pageAfter_ne h))
  change ((1 :: List.range' 2 14).map fun i => (p + i) % 16).find? _ = _
  rw [List.map_cons, List.find?_cons_of_pos]
  exact decide_eq_true herased.2

lemma packedStatus_current {word : PMWord} (h : word.high &&& 8 = 0) (q : ℕ) :
    (packedStatus word q).high &&& 8 = 0 := by
  unfold packedStatus
  generalize (if q = 0 then word.low + 1 else word.low) = latchData
  dsimp only
  split
  · rw [UInt8.and_assoc, UInt8.and_comm 0b11101111, ← UInt8.and_assoc, h]
    rfl
  · exact h

/-- Programming the status word makes the packed page active, once the page it was packed from is erased. -/
lemma active_packed (h : Active m p es) {status : PMWord} (hstatus : status.high &&& 8 = 0)
    (hpage : ∀ i < 512, m (512 * pageAfter p + i) = (packedWords es 255).getD i erasedWord) :
    Active (Flash.apply 512 [.program (512 * pageAfter p) [status], .erase p] m) (pageAfter p) (packed es) := by
  have hne := pageAfter_ne h
  have hoff : ∀ x, x / 512 ≠ p → Flash.apply 512 [.program (512 * pageAfter p) [status], .erase p] m x =
      (Flash.Op.program (512 * pageAfter p) [status]).apply 512 m x := fun x hx => Flash.erase_outside hx
  refine ⟨pageAfter_lt p, ?_, ?_, ?_, ?_, ?_⟩
  · have hzero : (Flash.Op.program (512 * pageAfter p) [status]).apply 512 m (512 * pageAfter p + 0) = status :=
      Flash.program_inside (hpage 0 (by decide))
    rw [Nat.add_zero] at hzero
    rw [hoff _ (by omega), hzero]
    exact hstatus
  · intro i hi
    rw [hoff _ (by omega), Flash.program_outside (by simp only [List.length_singleton]; omega),
      hpage _ (by omega), journalWord_packed]
  · exact Nat.le_trans (length_packed es) (by decide)
  · exact fun e he => List.mem_range.mp (mem_keys_of_mem_compact he)
  · intro r hr hne'
    by_cases hrp : r = p
    · exact Flash.erase_inside (by omega)
    · rw [hoff _ (by omega), Flash.program_outside (by simp only [List.length_singleton]; omega)]
      exact h.others r hr hrp

/-- What `PackEE` does: the rows of the next page, its status word, and the active page is erased. -/
structure PackedBy (s s' : DataEE) (p : ℕ) (es : DataJournal) (ops : List (Flash.Op PMWord))
    (status : PMWord) : Prop where
  performs : Performs s s' (packOps p ops status)
  nonempty : ops ≠ []
  rows : ∀ op ∈ ops, RowOp (pageAfter p) op
  clean : Flash.CleanLog 512 s.memory (packOps p ops status)
  page : ∀ i < 512, Flash.apply 512 ops s.memory (512 * pageAfter p + i) =
    (packedWords es 255).getD i erasedWord
  current : status.high &&& 8 = 0
  flag : s'.dataEEFlags.addrNotFound = s.dataEEFlags.addrNotFound

/-- `activatePage` with the journal of the active page behind the status word of the next one. -/
lemma activatePage_spec (h : Active s.memory p es)
    (hpage : ∀ i < 512, s.memory (512 * pageAfter p + i) = (packedWords es 255).getD i erasedWord) :
    ∃ status : PMWord, status.high &&& 8 = 0 ∧
      Performs s (s.activatePage 0 p (pageAfter p)).2 [.program (512 * pageAfter p) [status], .erase p] ∧
      (s.activatePage 0 p (pageAfter p)).2.dataEEFlags.addrNotFound = s.dataEEFlags.addrNotFound := by
  have hzero : (Flash.Op.program (512 * pageAfter p) [packedStatus (s.memory (512 * p)) (pageAfter p)]).apply 512
      s.memory (512 * pageAfter p + 0) = packedStatus (s.memory (512 * p)) (pageAfter p) :=
    Flash.program_inside (hpage 0 (by decide))
  rw [Nat.add_zero] at hzero
  refine ⟨packedStatus (s.memory (512 * p)) (pageAfter p), packedStatus_current h.current _, ?_⟩
  unfold activatePage
  simp only [pageAddress_zero]
  generalize hflags : (if (packedStatus (s.memory (512 * p)) (pageAfter p)).low.toNat ≥ ERASE_WRITE_CYCLE_MAX - 1 then
    s.setFlags { s.dataEEFlags with expiredPage := true } else s) = s₁
  have hmemory : s₁.memory = s.memory ∧ s₁.operations = s.operations ∧
      s₁.dataEEFlags.addrNotFound = s.dataEEFlags.addrNotFound := by
    rw [← hflags]
    split <;> exact ⟨rfl, rfl, rfl⟩
  have hread : (s₁.UnlockWrite (.program (512 * pageAfter p)
      [packedStatus (s.memory (512 * p)) (pageAfter p)])).memory (512 * pageAfter p) =
      packedStatus (s.memory (512 * p)) (pageAfter p) := by
    change (Flash.Op.program _ _).apply 512 s₁.memory _ = _
    rw [hmemory.1]
    exact hzero
  rw [if_neg (not_not.mpr hread)]
  refine ⟨⟨?_, ?_⟩, hmemory.2.2⟩
  · change s₁.operations ++ [_] ++ [.erase (16 * 0 + p)] = _
    rw [hmemory.2.1, Nat.mul_zero, Nat.zero_add, List.append_assoc, List.singleton_append]
  · change (Flash.Op.erase (16 * 0 + p)).apply 512 ((Flash.Op.program _ _).apply 512 s₁.memory) = _
    rw [hmemory.1, Nat.mul_zero, Nat.zero_add]
    rfl

/-- Before the first row nothing is programmed. -/
lemma packing_start (hblank : BlankPage m q) (es : DataJournal) :
    Packing m q (packedWords es 0) 0 [⟨0xFF, 0xFFFF⟩] :=
  ⟨rfl, Nat.zero_le _, Nat.le_add_left 1 63, hblank⟩

/-- `PackEE`, when the next page is blank. -/
lemma packEE_spec (h : Active s.memory p es) (hblank : BlankPage s.memory (pageAfter p)) :
    ∃ ops status, PackedBy s (s.PackEE 0).2 p es ops status := by
  have hne : pageAfter p ≠ p := pageAfter_ne h
  unfold PackEE
  simp only [activePage_eq h, nextUnexpired_eq h, pageAddress_zero]
  rw [if_neg (Nat.ne_of_lt h.page)]
  generalize hearly : (if s.GetNextAvailCount 0 ≠ 0 then s.setFlags { s.dataEEFlags with packBeforePageFull := true }
    else s) = s₁
  have hstart : s₁.memory = s.memory ∧ s₁.operations = s.operations ∧
      s₁.dataEEFlags.addrNotFound = s.dataEEFlags.addrNotFound := by
    rw [← hearly]
    split <;> exact ⟨rfl, rfl, rfl⟩
  rw [← hstart.1] at h hblank
  obtain ⟨ops, hpack⟩ := packRows_spec hne (Nat.le_refl 255) (s := s₁.SetaddrNotFound false) h rfl
    (packing_start hblank es)
  rw [Nat.add_zero] at hpack
  generalize hpacked : (s₁.SetaddrNotFound false).packRows 0 (512 * pageAfter p) [⟨0xFF, 0xFFFF⟩] DATA_EE_SIZE = s₂
  have hpack₂ : PacksRows (s₁.SetaddrNotFound false) s₂ (pageAfter p) es ops := by
    rw [← hpacked]
    exact hpack
  have hactive : Active s₂.memory p es := by
    rw [hpack₂.performs.memory]
    exact h.rows hne hpack₂.rows
  have hverify := verifyPage_eq (s := s₂.setFlags s₁.dataEEFlags) (q := pageAfter p) hactive
    (fun i hi => hpack₂.page (i + 1) (by omega)) (j := 0) (n := 511) (Nat.zero_le _)
    (by have := length_packed es; omega) (Nat.le_refl 511)
  obtain ⟨status, hcurrent, hperforms, hflag⟩ := activatePage_spec (s := s₂.setFlags s₁.dataEEFlags) hactive hpack₂.page
  have hrows : Performs s s₂ ops := by
    refine ⟨?_, ?_⟩
    · rw [hpack₂.performs.operations, ← hstart.2.1]
      rfl
    · rw [hpack₂.performs.memory, ← hstart.1]
      rfl
  have hall := (hrows.trans (performs_setFlags s₁.dataEEFlags s₂)).trans hperforms
  rw [List.append_nil] at hall
  refine ⟨ops, status, ?_⟩
  rw [show NUMBER_OF_INSTRUCTIONS_IN_PAGE - 1 = 511 from rfl]
  rw [Nat.zero_add] at hverify
  rw [hverify]
  refine ⟨hall, hpack₂.nonempty, hpack₂.rows, ?_, ?_, hcurrent, hflag.trans hstart.2.2⟩
  · rw [Flash.cleanLog_append]
    refine ⟨?_, ?_, trivial, trivial⟩
    · rw [← hstart.1]
      exact hpack₂.clean
    · rw [← hrows.memory]
      intro i hi
      obtain rfl : i = 0 := Nat.lt_one_iff.mp hi
      exact hpack₂.page 0 (by decide)
  · rw [← hrows.memory]
    exact hpack₂.page

end Orazio.Proofs
