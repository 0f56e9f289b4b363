import Orazio.Lib.StepMachine
import Orazio.Proofs.JournalCalls

/-!
# The EEPROM over whole runs

The program calls the EEPROM and the power can go during any call, after any of its operations. Then the flags
are lost, and the program begins with `EEPROM_init` again. What reads return and which writes are refused
depends on the events so far only.
-/

namespace Orazio.Proofs

open DataEE Journal

inductive DataEECall
  | init
  | read (addr : UInt16)
  | write (data addr : UInt16)
  deriving DecidableEq

/-- A call, and a call during which the power goes after `k` operations. -/
inductive BoardInput
  | call (call : DataEECall)
  | powerLoss (call : DataEECall) (k : ℕ)

/-- A call returned after so many operations, it was interrupted after `done` of its `total` operations, or it
was not made because the EEPROM had not been initialized since the last power loss. -/
inductive BoardEvent
  | returned (call : DataEECall) (result : UInt16) (operations : ℕ)
  | lost (call : DataEECall) (done total : ℕ)
  | uninitialized
  deriving DecidableEq

structure Board where
  flash : DataEE
  initialized : Bool

/-- What a call returns, for `EEPROM_init` the error that it drops. -/
def DataEECall.perform : DataEECall → DataEE → UInt16 × DataEE
  | .init, s => (s.DataEEInit.1.toUInt16, s.EEPROM_init)
  | .read addr, s => s.DataEERead addr
  | .write data addr, s => ((s.DataEEWrite data addr).1.toUInt16, (s.DataEEWrite data addr).2)

/-- The operations of a call. -/
def DataEECall.operations (call : DataEECall) (s : DataEE) : List (Flash.Op PMWord) :=
  (call.perform s).2.operations.drop s.operations.length

def boardStep (b : Board) : BoardInput → Except Empty (BoardEvent × Board)
  | .call call =>
    if b.initialized = true ∨ call = .init then
      .ok (.returned call (call.perform b.flash).1 (call.operations b.flash).length,
        ⟨(call.perform b.flash).2, true⟩)
    else .ok (.uninitialized, b)
  | .powerLoss call k =>
    if b.initialized = true ∨ call = .init then
      let ops := (call.operations b.flash).take k
      .ok (.lost call ops.length (call.operations b.flash).length,
        ⟨⟨Flash.apply 512 ops b.flash.memory, .zero, b.flash.operations ++ ops⟩, false⟩)
    else .ok (.uninitialized, b)

/-- The board when it gets power for the first time. -/
def newBoard (m : Nat → PMWord) : Board :=
  ⟨⟨m, .zero, []⟩, false⟩

/-! ### The store that the events describe -/

/-- What was last written, and whether a read has found nothing since the last initialization. -/
structure Store where
  contents : Contents
  notFound : Bool

/-- The contents once a call has been done. -/
def DataEECall.effect : DataEECall → Contents → Contents
  | .write data addr, c => Function.update c addr.toNat (some data)
  | _, c => c

/-- A write counts if it returned no error, or was interrupted after its first operation. -/
def Store.next (v : Store) : BoardEvent → Store
  | .returned .init _ _ => { v with notFound := false }
  | .returned (.read addr) _ _ =>
    { v with notFound := v.notFound || (decide (addr.toNat < 255) && (v.contents addr.toNat).isNone) }
  | .returned (.write data addr) result _ =>
    if result = 0 then { v with contents := DataEECall.effect (.write data addr) v.contents } else v
  | .lost call done _ => ⟨if done = 0 then v.contents else call.effect v.contents, false⟩
  | .uninitialized => v

def storeAfter (events : List BoardEvent) : Store :=
  events.foldl Store.next ⟨fun _ => none, false⟩

/-- The event is a call that was interrupted between its first operation and its last but one. -/
def BoardEvent.Tears : BoardEvent → Prop
  | .lost _ done total => Torn done total
  | _ => False

instance decidableTears (e : BoardEvent) : Decidable e.Tears :=
  match e with
  | .lost _ done total => decidableTorn done total
  | .returned _ _ _ => .isFalse id
  | .uninitialized => .isFalse id

/-- What a call returns from a store, after how many operations. -/
def Store.Answers (v : Store) (torn : Prop) : DataEECall → UInt16 → ℕ → Prop
  | .init, result, _ => result = 0
  | .read addr, result, n =>
    result = (if addr.toNat < 255 then (v.contents addr.toNat).getD 0xFFFF else 0xFFFF) ∧ n = 0
  | .write data addr, result, n =>
    if 255 ≤ addr.toNat then result = 5 ∧ n = 0
    else if Unchanged v.contents v.notFound data addr then result = 0 ∧ n = 0
    else (torn → result = 4 ∧ n = 0) ∧ (¬torn → result = 0 ∧ 0 < n)

/-- The number of writes that an event stands for. -/
def DataEECall.writes : DataEECall → ℕ
  | .write _ _ => 1
  | _ => 0

def BoardEvent.writes : BoardEvent → ℕ
  | .returned call _ _ => call.writes
  | .lost call _ _ => call.writes
  | .uninitialized => 0

/-- The number of writes among some events. -/
def writesIn : List BoardEvent → ℕ
  | [] => 0
  | e :: events => e.writes + writesIn events

lemma writesIn_concat (events : List BoardEvent) (e : BoardEvent) :
    writesIn (events ++ [e]) = writesIn events + e.writes := by
  induction events with
  | nil => exact Nat.add_comm _ _
  | cons e' events ih => rw [List.cons_append, writesIn, ih, writesIn, Nat.add_assoc]

def BoardEvent.isLost : BoardEvent → Bool
  | .lost _ _ _ => true
  | _ => false

/-! ### A call -/

variable {s : DataEE} {call : DataEECall} {v : Store} {phase : FlashPhase} {level : ℕ}

/-- What a call does to an image of the contents of a store. -/
structure CallEffect (s : DataEE) (call : DataEECall) (v : Store) (phase : FlashPhase) (level : ℕ)
    (ops : List (Flash.Op PMWord)) : Prop where
  performs : Performs s (call.perform s).2 ops
  effect : Effect s.memory ops v.contents (call.effect v.contents) phase level call.writes
  answers : v.Answers (phase = .full) call (call.perform s).1 ops.length
  contents : (v.next (.returned call (call.perform s).1 ops.length)).contents =
    if ops.length = 0 then v.contents else call.effect v.contents
  flag : (call.perform s).2.dataEEFlags.addrNotFound =
    (v.next (.returned call (call.perform s).1 ops.length)).notFound

lemma Performs.operations_eq {s s' : DataEE} {ops : List (Flash.Op PMWord)} (h : Performs s s' ops) :
    s'.operations.drop s.operations.length = ops := by
  rw [h.operations, List.drop_left]

lemma init_callEffect (h : Image s.memory v.contents phase level) :
    ∃ ops, CallEffect s .init v phase level ops := by
  obtain ⟨ops, hperforms, herror, heffect⟩ := init_effect h
  exact ⟨ops, hperforms, heffect, congrArg UInt8.toUInt16 herror, (ite_self _).symm, rfl⟩

lemma read_callEffect (h : Image s.memory v.contents phase level) (hphase : phase = .ready ∨ phase = .full)
    (hflag : s.dataEEFlags.addrNotFound = v.notFound) (addr : UInt16) :
    ∃ ops, CallEffect s (.read addr) v phase level ops := by
  refine ⟨[], ?_, h.nothing hphase _ _, ⟨?_, rfl⟩, rfl, ?_⟩
  · by_cases haddr : addr.toNat < 255
    · rw [DataEECall.perform, read_image h hphase haddr]
      cases v.contents addr.toNat with
      | none => exact performs_setFlags _ s
      | some data => exact .refl s
    · rw [DataEECall.perform, dataEERead_illegal (Nat.le_of_not_lt haddr)]
      exact performs_setFlags _ s
  · by_cases haddr : addr.toNat < 255
    · rw [DataEECall.perform, read_image h hphase haddr, if_pos haddr]
      cases v.contents addr.toNat <;> rfl
    · rw [DataEECall.perform, dataEERead_illegal (Nat.le_of_not_lt haddr), if_neg haddr]
  · by_cases haddr : addr.toNat < 255
    · rw [DataEECall.perform, read_image h hphase haddr, Store.next]
      cases hc : v.contents addr.toNat with
      | none => simp [readResult, haddr, SetaddrNotFound, setFlags]
      | some data => simp [readResult, hflag]
    · rw [DataEECall.perform, dataEERead_illegal (Nat.le_of_not_lt haddr), Store.next]
      simp [haddr, setFlags, hflag]

lemma write_callEffect (h : Image s.memory v.contents phase level) (hphase : phase = .ready ∨ phase = .full)
    (hflag : s.dataEEFlags.addrNotFound = v.notFound) (data addr : UInt16) :
    ∃ ops, CallEffect s (.write data addr) v phase level ops := by
  by_cases haddr : addr.toNat < 255
  · obtain ⟨ops, hperforms, heffect, herror, hops, hkeep⟩ := write_effect h hphase haddr
    rw [hflag] at herror hops
    rw [← List.length_eq_zero_iff] at hops
    have hresult : (DataEECall.perform (.write data addr) s).1 =
        if phase = .full ∧ ¬Unchanged v.contents v.notFound data addr then 4 else 0 := by
      rw [DataEECall.perform, herror]
      split <;> rfl
    have hnext : (v.next (.returned (.write data addr) (DataEECall.perform (.write data addr) s).1 ops.length)) =
        if phase = .full ∧ ¬Unchanged v.contents v.notFound data addr then v
        else { v with contents := DataEECall.effect (.write data addr) v.contents } := by
      rw [hresult, Store.next]
      split <;> rfl
    refine ⟨ops, hperforms, heffect, ?_, ?_, ?_⟩
    · rw [hresult, Store.Answers, if_neg (Nat.not_le.mpr haddr)]
      by_cases hunchanged : Unchanged v.contents v.notFound data addr
      · rw [if_pos hunchanged, if_neg fun hrefused => hrefused.2 hunchanged, hops.mpr (Or.inr hunchanged)]
        exact ⟨rfl, rfl⟩
      · rw [if_neg hunchanged]
        refine ⟨fun hfull => ?_, fun hfull => ?_⟩
        · rw [if_pos ⟨hfull, hunchanged⟩, hops.mpr (Or.inl hfull)]
          exact ⟨rfl, rfl⟩
        · rw [if_neg fun hrefused => hfull hrefused.1, Nat.pos_iff_ne_zero, ne_eq, hops]
          exact ⟨rfl, not_or.mpr ⟨hfull, hunchanged⟩⟩
    · rw [hnext]
      by_cases hunchanged : Unchanged v.contents v.notFound data addr
      · rw [if_neg fun hrefused => hrefused.2 hunchanged, if_pos (hops.mpr (Or.inr hunchanged))]
        exact Function.update_eq_self_iff.mpr hunchanged.1.symm
      · by_cases hfull : phase = .full
        · rw [if_pos ⟨hfull, hunchanged⟩, if_pos (hops.mpr (Or.inl hfull))]
        · rw [if_neg fun hrefused => hfull hrefused.1, if_neg fun hnil => (hops.mp hnil).elim hfull hunchanged]
    · rw [hnext]
      have hflag' := hkeep.trans hflag
      split <;> exact hflag'
  · have hle := Nat.le_of_not_lt haddr
    have hperform : DataEECall.perform (.write data addr) s =
        (5, s.setFlags { s.dataEEFlags with illegalAddress := true }) := by
      rw [DataEECall.perform, dataEEWrite_illegal hle]
      rfl
    refine ⟨[], ?_, h.nothing hphase _ _, ?_, ?_, ?_⟩
    · rw [hperform]
      exact performs_setFlags _ s
    · rw [hperform, Store.Answers, if_pos hle]
      exact ⟨rfl, rfl⟩
    · rw [hperform]
      rfl
    · rw [hperform]
      exact hflag

/-- What a call does that may be made. -/
lemma call_effect (h : Image s.memory v.contents phase level)
    (hphase : (phase = .ready ∨ phase = .full) ∨ call = .init) (hflag : s.dataEEFlags.addrNotFound = v.notFound) :
    ∃ ops, CallEffect s call v phase level ops := by
  cases call with
  | init => exact init_callEffect h
  | read addr => exact read_callEffect h (hphase.resolve_right DataEECall.noConfusion) hflag addr
  | write data addr => exact write_callEffect h (hphase.resolve_right DataEECall.noConfusion) hflag data addr

/-! ### Runs -/

/-- The image of a board after these events, and the operations of the flash that led to it. -/
structure BoardImage (m : Nat → PMWord) (events : List BoardEvent) (b : Board) (phase : FlashPhase) (level : ℕ) :
    Prop where
  image : Image b.flash.memory (storeAfter events).contents phase level
  initialized : b.initialized = true → phase = .ready ∨ phase = .full
  full : phase = .full ↔ ∃ e ∈ events, e.Tears
  flag : b.flash.dataEEFlags.addrNotFound = (storeAfter events).notFound
  memory : b.flash.memory = Flash.apply 512 b.flash.operations m
  clean : Flash.CleanLog 512 m b.flash.operations
  within : ∀ op ∈ b.flash.operations, op.Within 512 16
  wear : level + 256 * Flash.erasures b.flash.operations ≤
    writesIn events + 256 * (events.countP BoardEvent.isLost + 1)

lemma storeAfter_concat (events : List BoardEvent) (e : BoardEvent) :
    storeAfter (events ++ [e]) = (storeAfter events).next e :=
  List.foldl_concat _ _ _ _

lemma not_torn_all (n : ℕ) : ¬Torn n n := by
  unfold Torn
  omega

/-- The first `k` operations of a call and the event that tells about them. -/
lemma BoardImage.next {m : Nat → PMWord} {events : List BoardEvent} {b b' : Board} {e : BoardEvent}
    {ops : List (Flash.Op PMWord)} {k : ℕ} (h : BoardImage m events b phase level)
    (hcall : CallEffect b.flash call (storeAfter events) phase level ops) (hk : k ≤ ops.length)
    (hperforms : Performs b.flash b'.flash (ops.take k))
    (hcontents : ((storeAfter events).next e).contents =
      if k = 0 then (storeAfter events).contents else call.effect (storeAfter events).contents)
    (hflag : b'.flash.dataEEFlags.addrNotFound = ((storeAfter events).next e).notFound)
    (hinit : b'.initialized = true → k = ops.length) (htears : e.Tears ↔ Torn k ops.length)
    (hwrites : e.writes = call.writes) (hlost : e.isLost = false → k = ops.length) :
    ∃ phase' level', BoardImage m (events ++ [e]) b' phase' level' := by
  obtain ⟨phase', level', himage⟩ := hcall.effect.image k hk
  refine ⟨phase', level', ?_, fun hon => himage.finished (hinit hon), ?_, ?_, ?_, ?_, ?_, ?_⟩
  · rw [storeAfter_concat, hcontents, hperforms.memory]
    exact himage.image
  · rw [himage.full, h.full, ← htears]
    simp only [List.mem_append, List.mem_singleton, or_and_right, exists_or, exists_eq_left]
  · rw [storeAfter_concat]
    exact hflag
  · rw [hperforms.memory, hperforms.operations, h.memory, Flash.apply_append]
  · rw [hperforms.operations, Flash.cleanLog_append, ← h.memory]
    have hclean := hcall.effect.clean
    rw [← List.take_append_drop k ops, Flash.cleanLog_append] at hclean
    exact ⟨h.clean, hclean.1⟩
  · rw [hperforms.operations]
    intro op hop
    obtain hop | hop := List.mem_append.mp hop
    · exact h.within op hop
    · exact hcall.effect.within op (List.mem_of_mem_take hop)
  · have hwear := h.wear
    have hlevel := himage.level
    rw [hperforms.operations, Flash.erasures_append, writesIn_concat, hwrites, List.countP_append,
      List.countP_singleton]
    cases hislost : e.isLost with
    | false =>
      rw [if_neg (by rw [hlost hislost]; exact Nat.lt_irrefl _)] at hlevel
      rw [if_neg Bool.false_ne_true]
      omega
    | true =>
      rw [if_pos rfl]
      split at hlevel <;> omega

/-- A call that is not made changes nothing. -/
lemma BoardImage.uninitialized {m : Nat → PMWord} {events : List BoardEvent} {b : Board}
    (h : BoardImage m events b phase level) : BoardImage m (events ++ [.uninitialized]) b phase level := by
  have hstore : storeAfter (events ++ [.uninitialized]) = storeAfter events := storeAfter_concat events _
  refine ⟨?_, h.initialized, ?_, ?_, h.memory, h.clean, h.within, ?_⟩
  · rw [hstore]
    exact h.image
  · rw [h.full]
    simp only [List.mem_append, List.mem_singleton, or_and_right, exists_or, exists_eq_left]
    exact (or_iff_left id).symm
  · rw [hstore]
    exact h.flag
  · rw [writesIn_concat, List.countP_append]
    exact h.wear

/-- A step of the board. -/
lemma boardStep_image {m : Nat → PMWord} {events : List BoardEvent} {b b' : Board} {i : BoardInput}
    {e : BoardEvent} (h : BoardImage m events b phase level) (hstep : boardStep b i = .ok (e, b')) :
    ∃ phase' level', BoardImage m (events ++ [e]) b' phase' level' := by
  cases i with
  | call call =>
    rw [boardStep] at hstep
    split at hstep
    · next hon =>
      obtain ⟨ops, hcall⟩ := call_effect h.image (hon.imp_left h.initialized) h.flag
      have hops : call.operations b.flash = ops := hcall.performs.operations_eq
      rw [hops] at hstep
      cases hstep
      refine h.next hcall (Nat.le_refl _) ?_ ?_ hcall.flag (fun _ => rfl) ?_ rfl fun _ => rfl
      · rw [List.take_length]
        exact hcall.performs
      · exact hcall.contents
      · exact iff_of_false id (not_torn_all _)
    · cases hstep
      exact ⟨phase, level, h.uninitialized⟩
  | powerLoss call k =>
    rw [boardStep] at hstep
    split at hstep
    · next hon =>
      obtain ⟨ops, hcall⟩ := call_effect h.image (hon.imp_left h.initialized) h.flag
      have hops : call.operations b.flash = ops := hcall.performs.operations_eq
      rw [hops] at hstep
      cases hstep
      have htake : ops.take (ops.take k).length = ops.take k :=
        (List.prefix_iff_eq_take.mp (List.take_prefix k ops)).symm
      refine h.next (k := (ops.take k).length) hcall (List.length_take_le' _ _) ?_ rfl rfl Bool.noConfusion Iff.rfl
        rfl Bool.noConfusion
      rw [htake]
      exact ⟨rfl, rfl⟩
    · cases hstep
      exact ⟨phase, level, h.uninitialized⟩

/-- A new board has a blank flash. -/
lemma newBoard_image {m : Nat → PMWord} (hblank : ∀ q < 16, BlankPage m q) :
    BoardImage m [] (newBoard m) .blank 256 :=
  ⟨.blank hblank fun _ _ => rfl, Bool.noConfusion, by simp, rfl, rfl, trivial,
    fun _ hop => absurd hop List.not_mem_nil, Nat.le_refl 256⟩

/-- Every run of a board. -/
lemma board_image {m : Nat → PMWord} (hblank : ∀ q < 16, BlankPage m q) {is : List BoardInput}
    {events : List BoardEvent} {b : Board} (h : StepMachine.run boardStep (newBoard m) is = .ok (events, b)) :
    ∃ phase level, BoardImage m events b phase level :=
  StepMachine.run_history (fun _ events b => ∃ phase level, BoardImage m events b phase level)
    ⟨.blank, 256, newBoard_image hblank⟩
    (fun _ _ _ _ _ _ hinv hstep => hinv.elim fun _ h => h.elim fun _ h => boardStep_image h hstep) h

/-- What is returned in a run is what the events before determine. -/
lemma board_answers {m : Nat → PMWord} (hblank : ∀ q < 16, BlankPage m q) {is : List BoardInput}
    {before after : List BoardEvent} {result : UInt16} {n : ℕ} {b : Board}
    (h : StepMachine.run boardStep (newBoard m) is = .ok (before ++ .returned call result n :: after, b)) :
    (storeAfter before).Answers (∃ e ∈ before, e.Tears) call result n := by
  obtain ⟨_, i, _, b₁, b₂, -, hrun, hstep, -⟩ := StepMachine.run_split h
  obtain ⟨phase, level, himage⟩ := board_image hblank hrun
  cases i with
  | powerLoss call' k =>
    rw [boardStep] at hstep
    split at hstep <;> cases hstep
  | call call' =>
    rw [boardStep] at hstep
    split at hstep
    · next hon =>
      obtain ⟨ops, hcall⟩ := call_effect himage.image (hon.imp_left himage.initialized) himage.flag
      have hops : call'.operations b₁.flash = ops := hcall.performs.operations_eq
      rw [hops] at hstep
      cases hstep
      have hanswers := hcall.answers
      simp only [himage.full] at hanswers
      exact hanswers
    · cases hstep

/-- The entry of a write that counts. -/
def BoardEvent.written : BoardEvent → Option (ℕ × UInt16)
  | .returned (.write data addr) result _ => if result = 0 then some (addr.toNat, data) else none
  | .lost (.write data addr) done _ => if done = 0 then none else some (addr.toNat, data)
  | _ => none

lemma Store.next_contents (v : Store) (e : BoardEvent) :
    (v.next e).contents = e.written.elim v.contents fun w => Function.update v.contents w.1 (some w.2) := by
  cases e with
  | uninitialized => rfl
  | lost call done total =>
    cases call with
    | init => exact ite_self _
    | read addr => exact ite_self _
    | write data addr =>
      rw [BoardEvent.written, Store.next]
      split <;> rfl
  | returned call result n =>
    cases call with
    | init => rfl
    | read addr => rfl
    | write data addr =>
      rw [BoardEvent.written, Store.next]
      split <;> rfl

/-- The contents are a journal of the writes that count. -/
lemma storeAfter_contents (events : List BoardEvent) :
    (storeAfter events).contents = latest (events.filterMap BoardEvent.written) := by
  induction events using List.reverseRecOn with
  | nil => rfl
  | append_singleton events e ih =>
    rw [storeAfter_concat, Store.next_contents, ih, List.filterMap_append]
    cases hwritten : e.written with
    | none =>
      rw [List.filterMap_cons_none hwritten, List.filterMap_nil, List.append_nil]
      rfl
    | some w =>
      funext a
      rw [List.filterMap_cons_some hwritten, List.filterMap_nil, latest_concat]
      exact Function.update_apply _ _ _ _

/-- In every run, with the power lost after any operation of any call, a read returns the data of the last
write to its address that counts, and performs no operation. -/
theorem dataEERead_returns_last_write {m : Nat → PMWord} (hblank : ∀ q < 16, BlankPage m q) {is : List BoardInput}
    {before after : List BoardEvent} {addr result : UInt16} {n : ℕ} {b : Board}
    (h : StepMachine.run boardStep (newBoard m) is = .ok (before ++ .returned (.read addr) result n :: after, b))
    (haddr : addr.toNat < 255) :
    result = (latest (before.filterMap BoardEvent.written) addr.toNat).getD 0xFFFF ∧ n = 0 := by
  have hanswers := board_answers hblank h
  rw [Store.Answers, if_pos haddr, storeAfter_contents] at hanswers
  exact hanswers

/-- A program that is interrupted while it writes. -/
def interruptedWrite : List BoardInput :=
  [.call .init, .powerLoss (.write 7 5) 1, .call .init, .call (.read 5)]

lemma interruptedWrite_run :
    ∃ b, StepMachine.run boardStep (newBoard fun _ => erasedWord) interruptedWrite =
      .ok ([.returned .init 0 2, .lost (.write 7 5) 1 1, .returned .init 0 0, .returned (.read 5) 7 0], b) := by
  have hrun : ∃ r, StepMachine.run boardStep (newBoard fun _ => erasedWord) interruptedWrite = .ok r ∧
      r.1 = [.returned .init 0 2, .lost (.write 7 5) 1 1, .returned .init 0 0, .returned (.read 5) 7 0] := by
    decide +kernel
  obtain ⟨⟨events, b⟩, hrun, rfl⟩ := hrun
  exact ⟨b, hrun⟩

theorem dataEERead_returns_last_write_interrupted :
    (7 : UInt16) = (latest ([BoardEvent.returned .init 0 2, .lost (.write 7 5) 1 1, .returned .init 0 0].filterMap
      BoardEvent.written) 5).getD 0xFFFF ∧ 0 = 0 := by
  obtain ⟨b, hrun⟩ := interruptedWrite_run
  exact @dataEERead_returns_last_write _ (fun _ _ _ _ => rfl) interruptedWrite
    [.returned .init 0 2, .lost (.write 7 5) 1 1, .returned .init 0 0] [] 5 7 0 b hrun (by decide)

/-! ### A page that is filled up -/

/-- One location is written with other data every time. -/
def fillingCalls (n : ℕ) : List DataEECall :=
  .init :: (List.range n).map fun i => .write (UInt16.ofNat i) 0

def fillingEvents (n : ℕ) : List BoardEvent :=
  .returned .init 0 2 :: (List.range n).map fun i => .returned (.write (UInt16.ofNat i) 0) 0 1

def fillingEntries (n : ℕ) : DataJournal :=
  (List.range n).map fun i => (0, UInt16.ofNat i)

/-- The board with `n` entries in its first page. -/
structure Filled (b : Board) (n : ℕ) : Prop where
  initialized : b.initialized = true
  active : Active b.flash.memory 0 (fillingEntries n)
  tidy : Tidy b.flash.memory 0
  erasures : Flash.erasures b.flash.operations = 1

lemma fillingCalls_succ (n : ℕ) : (fillingCalls (n + 1)).map BoardInput.call =
    (fillingCalls n).map .call ++ [.call (.write (UInt16.ofNat n) 0)] := by
  rw [fillingCalls, List.range_succ, List.map_append, ← List.cons_append, List.map_append]
  rfl

lemma fillingEntries_succ (n : ℕ) : fillingEntries (n + 1) = fillingEntries n ++ [(0, UInt16.ofNat n)] := by
  rw [fillingEntries, List.range_succ, List.map_append]
  rfl

lemma length_fillingEntries (n : ℕ) : (fillingEntries n).length = n := by
  rw [fillingEntries, List.length_map, List.length_range]

lemma latest_fillingEntries {n : ℕ} (hn : n ≤ 510) : latest (fillingEntries n) 0 ≠ some (UInt16.ofNat n) := by
  cases n with
  | zero => exact (Option.some_ne_none _).symm
  | succ n =>
    rw [fillingEntries_succ, latest_concat, if_pos rfl]
    intro heq
    have hvalue := congrArg UInt16.toNat (Option.some.inj heq)
    rw [UInt16.toNat_ofNat', UInt16.toNat_ofNat'] at hvalue
    omega

lemma written_fillingEvents (n : ℕ) : (fillingEvents n).filterMap BoardEvent.written = fillingEntries n := by
  rw [fillingEvents, List.filterMap_cons_none rfl, List.filterMap_map]
  exact congrFun (List.filterMap_eq_map (f := fun i => (0, UInt16.ofNat i))) (List.range n)

/-- The writes before the last entry of the page, by induction on their number. -/
lemma filling_run {n : ℕ} (hn : n ≤ 510) :
    ∃ b, StepMachine.run boardStep (newBoard fun _ => erasedWord) ((fillingCalls n).map .call) =
      .ok (fillingEvents n, b) ∧ Filled b n := by
  induction n with
  | zero =>
    have hblank : ∀ q < 16, BlankPage (fun _ => erasedWord) q := fun _ _ _ _ => rfl
    have hinit := eepromInit_of_initBank (s := (newBoard fun _ => erasedWord).flash) (initBank_blank hblank)
    obtain ⟨hactive, htidy⟩ := firstOps_active hblank
    have hstep : boardStep (newBoard fun _ => erasedWord) (.call .init) =
        .ok (.returned .init 0 2, ⟨(newBoard fun _ => erasedWord).flash.EEPROM_init, true⟩) := by
      rw [boardStep, if_pos (Or.inr rfl), DataEECall.operations, DataEECall.perform, hinit.1, hinit.2]
      rfl
    refine ⟨_, StepMachine.run_cons_eq_ok.mpr ⟨_, _, _, hstep, StepMachine.run_nil _, rfl⟩, ?_⟩
    rw [hinit.2]
    exact ⟨rfl, hactive, htidy, rfl⟩
  | succ n ih =>
    obtain ⟨b, hrun, hfilled⟩ := ih (by omega)
    have hlength := length_fillingEntries n
    have hwrite : b.flash.DataEEWrite (UInt16.ofNat n) 0 =
        (0, b.flash.UnlockWrite (appendOp 0 (fillingEntries n) (0, UInt16.ofNat n))) :=
      dataEEWrite_appends hfilled.active (by omega) (by decide) fun hsame => latest_fillingEntries (by omega) hsame.1
    have hstep : boardStep b (.call (.write (UInt16.ofNat n) 0)) =
        .ok (.returned (.write (UInt16.ofNat n) 0) 0 1,
          ⟨b.flash.UnlockWrite (appendOp 0 (fillingEntries n) (0, UInt16.ofNat n)), true⟩) := by
      rw [boardStep, if_pos (Or.inl hfilled.initialized), DataEECall.operations, DataEECall.perform, hwrite]
      dsimp only
      rw [(performs_unlockWrite _ _).operations_eq]
      rfl
    have hnext : Filled ⟨b.flash.UnlockWrite (appendOp 0 (fillingEntries n) (0, UInt16.ofNat n)), true⟩ (n + 1) := by
      refine ⟨rfl, ?_, hfilled.tidy.append (by omega) _, ?_⟩
      · rw [fillingEntries_succ]
        exact hfilled.active.append (by omega) (Nat.zero_lt_succ 254)
      · change Flash.erasures (b.flash.operations ++ [_]) = 1
        rw [Flash.erasures_append, hfilled.erasures]
        rfl
    have hevents : fillingEvents (n + 1) = fillingEvents n ++ [.returned (.write (UInt16.ofNat n) 0) 0 1] := by
      rw [fillingEvents, List.range_succ, List.map_append]
      rfl
    rw [fillingCalls_succ, hevents]
    exact ⟨_, StepMachine.run_concat_eq_ok.mpr ⟨_, _, _, hrun, hstep, rfl⟩, hnext⟩

/-- The write of the last entry packs the page. -/
lemma Filled.packs {b : Board} (h : Filled b 510) :
    ∃ ops status, ops ≠ [] ∧ Flash.erasures ops = 0 ∧
      Performs b.flash (DataEECall.perform (.write 510 0) b.flash).2
        (appendOp 0 (fillingEntries 510) (0, 510) :: packOps 0 ops status) := by
  have hchanged : latest (fillingEntries 510) (0 : UInt16).toNat ≠ some 510 := latest_fillingEntries (Nat.le_refl 510)
  obtain ⟨-, ops, status, hpack⟩ := dataEEWrite_packs h.active h.tidy (length_fillingEntries 510) (by decide)
    fun hsame => hchanged hsame.1
  exact ⟨ops, status, hpack.nonempty, Flash.erasures_eq_zero fun op hop => (hpack.rows op hop).isErase,
    (performs_unlockWrite _ _).trans hpack.performs⟩

/-! ### Refused writes and wear -/

/-- In every run, a write that changes something is refused if and only if a call was interrupted before,
after its first operation and before its last but one. A write costs an operation if it is not refused and
the data have changed, or a read since the last initialization has found nothing. -/
theorem dataEEWrite_refused_iff_torn {m : Nat → PMWord} (hblank : ∀ q < 16, BlankPage m q) {is : List BoardInput}
    {before after : List BoardEvent} {data addr result : UInt16} {n : ℕ} {b : Board}
    (h : StepMachine.run boardStep (newBoard m) is =
      .ok (before ++ .returned (.write data addr) result n :: after, b)) (haddr : addr.toNat < 255) :
    let unchanged := latest (before.filterMap BoardEvent.written) addr.toNat = some data ∧
      (storeAfter before).notFound = false
    (result = 4 ↔ (∃ e ∈ before, e.Tears) ∧ ¬unchanged) ∧ (result = 0 ∨ result = 4) ∧
      (0 < n ↔ result = 0 ∧ ¬unchanged) := by
  have hanswers := board_answers hblank h
  rw [Store.Answers, if_neg (Nat.not_le.mpr haddr), storeAfter_contents] at hanswers
  dsimp only
  split at hanswers
  · next hunchanged =>
    obtain ⟨rfl, rfl⟩ := hanswers
    refine ⟨iff_of_false (by decide) fun hrefused => hrefused.2 hunchanged, Or.inl rfl, ?_⟩
    exact iff_of_false (Nat.lt_irrefl 0) fun hchanged => hchanged.2 hunchanged
  · next hchanged =>
    by_cases htorn : ∃ e ∈ before, e.Tears
    · obtain ⟨rfl, rfl⟩ := hanswers.1 htorn
      exact ⟨iff_of_true rfl ⟨htorn, hchanged⟩, Or.inr rfl,
        iff_of_false (Nat.lt_irrefl 0) fun hdone => absurd hdone.1 (by decide)⟩
    · obtain ⟨rfl, hpos⟩ := hanswers.2 htorn
      exact ⟨iff_of_false (by decide) fun hrefused => htorn hrefused.1, Or.inl rfl,
        iff_of_true hpos ⟨rfl, hchanged⟩⟩

/-- The power goes while the page is packed. -/
def tornPack : List BoardInput :=
  (fillingCalls 510).map .call ++ [.powerLoss (.write 510 0) 2, .call .init, .call (.write 7 0)]

theorem dataEEWrite_refused_iff_torn_pack :
    ∃ before b, StepMachine.run boardStep (newBoard fun _ => erasedWord) tornPack =
      .ok (before ++ [.returned (.write 7 0) 4 0], b) := by
  obtain ⟨b, hfill, hfilled⟩ := filling_run (Nat.le_refl 510)
  obtain ⟨ops, status, hops, -, hpack⟩ := hfilled.packs
  have hlength : 4 ≤ (DataEECall.operations (.write 510 0) b.flash).length := by
    have hpos := List.length_pos_iff.mpr hops
    rw [DataEECall.operations, hpack.operations_eq, List.length_cons, List.length_append]
    change 4 ≤ ops.length + 2 + 1
    omega
  have htake : ((DataEECall.operations (.write 510 0) b.flash).take 2).length = 2 := by
    rw [List.length_take, Nat.min_eq_left (by omega)]
  obtain ⟨done, total, rfl, htotal, b₁, hlost⟩ : ∃ done total, done = 2 ∧ 4 ≤ total ∧ ∃ b₁,
      boardStep b (.powerLoss (.write 510 0) 2) = .ok (.lost (.write 510 0) done total, b₁) :=
    ⟨_, _, htake, hlength, _, if_pos (Or.inl hfilled.initialized)⟩
  obtain ⟨r, k, b₂, hinit, hon⟩ : ∃ r k b₂, boardStep b₁ (.call .init) = .ok (.returned .init r k, b₂) ∧
      b₂.initialized = true := ⟨_, _, _, if_pos (Or.inr rfl), rfl⟩
  obtain ⟨result, n, b₃, hwrite⟩ : ∃ result n b₃, boardStep b₂ (.call (.write 7 0)) =
      .ok (.returned (.write 7 0) result n, b₃) := ⟨_, _, _, if_pos (Or.inl hon)⟩
  have hrun : StepMachine.run boardStep (newBoard fun _ => erasedWord) tornPack =
      .ok (fillingEvents 510 ++ [.lost (.write 510 0) 2 total, .returned .init r k] ++
        .returned (.write 7 0) result n :: [], b₃) := by
    rw [tornPack, List.append_assoc]
    exact StepMachine.run_append_eq_ok.mpr ⟨_, _, _, hfill, StepMachine.run_cons_eq_ok.mpr ⟨_, _, _, hlost,
      StepMachine.run_cons_eq_ok.mpr ⟨_, _, _, hinit, StepMachine.run_cons_eq_ok.mpr ⟨_, _, _, hwrite,
        StepMachine.run_nil _, rfl⟩, rfl⟩, rfl⟩, rfl⟩
  obtain ⟨hrefused, -, hcost⟩ := dataEEWrite_refused_iff_torn (fun _ _ _ _ => rfl) hrun (by decide)
  have htorn : Torn 2 total := ⟨by decide, by omega⟩
  have hentries : (fillingEvents 510 ++ [BoardEvent.lost (.write 510 0) 2 total, .returned .init r k]).filterMap
      BoardEvent.written = fillingEntries 510 ++ [(0, 510)] := by
    rw [List.filterMap_append, written_fillingEvents]
    rfl
  have hfour : result = 4 := by
    refine hrefused.mpr ⟨⟨_, List.mem_append_right _ List.mem_cons_self, htorn⟩, fun hunchanged => ?_⟩
    rw [hentries, latest_concat, if_pos (show (0 : UInt16).toNat = 0 from rfl)] at hunchanged
    exact absurd hunchanged.1 (by decide)
  obtain rfl : n = 0 := Nat.eq_zero_of_not_pos fun hpos => by
    rw [hfour] at hcost
    exact absurd (hcost.mp hpos).1 (by decide)
  rw [hfour] at hrun
  exact ⟨_, _, hrun⟩

/-- Every 256 writes, every power loss and the first start erase a page at most. -/
theorem erasures_le {m : Nat → PMWord} (hblank : ∀ q < 16, BlankPage m q) {is : List BoardInput}
    {events : List BoardEvent} {b : Board} (h : StepMachine.run boardStep (newBoard m) is = .ok (events, b)) :
    256 * Flash.erasures b.flash.operations ≤
      writesIn events + 256 * (events.countP BoardEvent.isLost + 1) := by
  obtain ⟨phase, level, himage⟩ := board_image hblank h
  exact Nat.le_trans (Nat.le_add_left _ level) himage.wear

theorem erasures_le_interrupted :
    ∃ b events, StepMachine.run boardStep (newBoard fun _ => erasedWord) interruptedWrite = .ok (events, b) ∧
      256 * Flash.erasures b.flash.operations ≤
        writesIn events + 256 * (events.countP BoardEvent.isLost + 1) := by
  obtain ⟨b, hrun⟩ := interruptedWrite_run
  exact ⟨b, _, hrun, erasures_le (fun _ _ _ _ => rfl) hrun⟩

/-- In every run only erased words are programmed, and program memory behind the sixteen pages stays as it
is. -/
theorem programs_only_erased_words {m : Nat → PMWord} (hblank : ∀ q < 16, BlankPage m q) {is : List BoardInput}
    {events : List BoardEvent} {b : Board} (h : StepMachine.run boardStep (newBoard m) is = .ok (events, b)) :
    Flash.CleanLog 512 m b.flash.operations ∧ ∀ x, 512 * 16 ≤ x → b.flash.memory x = m x := by
  obtain ⟨phase, level, himage⟩ := board_image hblank h
  refine ⟨himage.clean, fun x hx => ?_⟩
  rw [himage.memory]
  exact Flash.apply_eq_of_within himage.within (by decide) hx

theorem programs_only_erased_words_interrupted :
    ∃ b events, StepMachine.run boardStep (newBoard fun _ => erasedWord) interruptedWrite = .ok (events, b) ∧
      Flash.CleanLog 512 (fun _ => erasedWord) b.flash.operations ∧
      ∀ x, 512 * 16 ≤ x → b.flash.memory x = erasedWord := by
  obtain ⟨b, hrun⟩ := interruptedWrite_run
  exact ⟨b, _, hrun, programs_only_erased_words (fun _ _ _ _ => rfl) hrun⟩

end Orazio.Proofs
