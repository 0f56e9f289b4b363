import Mathlib.Data.List.Pairwise
import Orazio.Lib.StepMachine
import Orazio.Model.ShellProgram
import Orazio.Proofs.ClientMirror
import Orazio.Proofs.ConfigFile

/-!
# The variables of the shell

In every run of the shell each variable holds what was last written to it: by a `set`, by a line of a
configuration file, by a packet that was copied from the client, or by the client, which numbers the packets
that it sends.
-/

namespace Orazio.Proofs

open Stdio

/-- The entries of a packet and of its fields. -/
def entriesOf : ShellPacket → List VEntry
  | .systemStatus => systemStatusEntries
  | .systemParams => systemParamEntries
  | .jointStatus => jointStatusEntries
  | .jointParams => jointParamEntries
  | .driveStatus => driveStatusEntries
  | .driveParams => driveParamEntries
  | .paramControl => controlEntries.take 4
  | .jointControl => (controlEntries.drop 4).take 6
  | .driveControl => controlEntries.drop 10

lemma flatMap_entriesOf : ShellPacket.all.flatMap entriesOf = variableEntries := rfl

/-- The packet is the same in two states. -/
def SamePacket (p : ShellPacket) (g g' : ShellGlobals) : Prop :=
  match p with
  | .systemStatus => g.systemStatus = g'.systemStatus
  | .systemParams => g.systemParams = g'.systemParams
  | .jointStatus => g.jointStatus = g'.jointStatus
  | .jointParams => g.jointParams = g'.jointParams
  | .driveStatus => g.driveStatus = g'.driveStatus
  | .driveParams => g.driveParams = g'.driveParams
  | .paramControl => g.paramControl = g'.paramControl
  | .jointControl => g.jointControl = g'.jointControl
  | .driveControl => g.driveControl = g'.driveControl

def shellHeader (p : ShellPacket) (g : ShellGlobals) : PacketHeader :=
  match p with
  | .systemStatus => g.systemStatus.header
  | .systemParams => g.systemParams.header
  | .jointStatus => g.jointStatus.header
  | .jointParams => g.jointParams.header
  | .driveStatus => g.driveStatus.header
  | .driveParams => g.driveParams.header
  | .paramControl => g.paramControl.header
  | .jointControl => g.jointControl.header
  | .driveControl => g.driveControl.header

/-- The header is the same but for the sequence number. -/
def SameKind (h h' : PacketHeader) : Prop :=
  h.type = h'.type ∧ h.size = h'.size

def seqName (p : ShellPacket) : String :=
  p.name ++ ".header.seq"

/-- The entry of the sequence number of a packet. -/
def seqEntry (p : ShellPacket) : VEntry :=
  (entriesOf p).getD 1 (packetEntry p.name)

lemma seqEntry_mem (p : ShellPacket) : seqEntry p ∈ entriesOf p := by
  cases p <;> exact .tail _ (.head _)

/-- A pointer reads and stores one field of a packet. -/
structure FieldOf (p : ShellPacket) (v : VEntry) : Prop where
  reads : ∀ g g', SamePacket p g g' → v.ptr.get g = v.ptr.get g'
  stores : ∀ q ≠ p, ∀ x g, SamePacket q (v.ptr.set x g) g
  own : ∀ x g, v.ptr.get (v.ptr.set x g) = x
  kind : ∀ x g, SameKind (shellHeader p (v.ptr.set x g)) (shellHeader p g)
  seq : v.name ≠ seqName p → ∀ seq g, v.ptr.get (p.setSeq seq g) = v.ptr.get g

/-- What is stored in one variable is not read from the other. -/
structure Apart (v w : VEntry) : Prop where
  left : ∀ x g, w.ptr.get (v.ptr.set x g) = w.ptr.get g
  right : ∀ x g, v.ptr.get (w.ptr.set x g) = v.ptr.get g

lemma fieldOf_entriesOf (p : ShellPacket) : ∀ v ∈ entriesOf p, FieldOf p v := by
  cases p <;>
    simp only [entriesOf, systemStatusEntries, systemParamEntries, jointStatusEntries, jointParamEntries,
      driveStatusEntries, driveParamEntries, controlEntries, packetEntry, List.take_succ_cons, List.drop_succ_cons,
      List.take_zero, List.drop_zero, List.forall_mem_cons] <;>
    repeat' apply And.intro
  -- One goal for each entry, and one for the empty list at the end.
  all_goals first
    | exact fun _ h => absurd h List.not_mem_nil
    | refine ⟨?_, ?_, fun _ _ => rfl, fun _ _ => ⟨rfl, rfl⟩, ?_⟩
      · rintro ⟨⟩ ⟨⟩ h
        cases h
        rfl
      · intro q hq x g
        cases q <;> first | rfl | exact absurd rfl hq
      · first | exact fun _ _ _ => rfl | exact fun h => absurd rfl h

lemma pairwise_entriesOf (p : ShellPacket) : (entriesOf p).Pairwise Apart := by
  cases p <;>
    simp only [entriesOf, systemStatusEntries, systemParamEntries, jointStatusEntries, jointParamEntries,
      driveStatusEntries, driveParamEntries, controlEntries, packetEntry, List.take_succ_cons, List.drop_succ_cons,
      List.take_zero, List.drop_zero, List.pairwise_cons, List.forall_mem_cons] <;>
    repeat' apply And.intro
  all_goals first
    | exact fun _ h => absurd h List.not_mem_nil
    | exact List.Pairwise.nil
    | exact ⟨fun _ _ => rfl, fun _ _ => rfl⟩

instance : Std.Symm Apart :=
  ⟨fun _ _ h => ⟨h.right, h.left⟩⟩

lemma mem_variableEntries {p : ShellPacket} {v : VEntry} (hv : v ∈ entriesOf p) : v ∈ variableEntries := by
  rw [← flatMap_entriesOf]
  refine List.mem_flatMap_of_mem ?_ hv
  cases p <;> decide

lemma exists_entriesOf {v : VEntry} (hv : v ∈ variableEntries) : ∃ p, v ∈ entriesOf p := by
  rw [← flatMap_entriesOf] at hv
  obtain ⟨p, -, hp⟩ := List.mem_flatMap.mp hv
  exact ⟨p, hp⟩

/-- Two variables with different names. -/
lemma get_set_of_ne {v w : VEntry} (hv : v ∈ variableEntries) {p : ShellPacket} (hw : w ∈ entriesOf p)
    (hne : v ≠ w) (x : v.type.Value) (g : ShellGlobals) : w.ptr.get (v.ptr.set x g) = w.ptr.get g := by
  obtain ⟨q, hq⟩ := exists_entriesOf hv
  by_cases hpq : p = q
  · subst hpq
    exact ((pairwise_entriesOf p).forall hq hw hne).left x g
  · exact (fieldOf_entriesOf p w hw).reads _ _ ((fieldOf_entriesOf q v hq).stores p hpq x g)

/-! ### Writes -/

/-- A write to the variables: a value for the variable of some name, a packet, or the number under which a
packet is sent. -/
inductive ShellWrite
  | assign (name value : Text)
  | copy (p : ShellPacket) (bytes : List UInt8)
  | number (p : ShellPacket) (seq : UInt16)
  deriving DecidableEq

/-- What `sscanf` makes of a text. -/
def scanValue : (t : VariableType) → Text → Option t.Value
  | .typePacket, _ => none
  | .typeUInt8, s => (scanInt s).map .ofInt
  | .typeInt8, s => (scanInt s).map .ofInt
  | .typeUInt16, s => (scanInt s).map .ofInt
  | .typeInt16, s => (scanInt s).map .ofInt
  | .typeUInt32, s => (scanInt s).map .ofInt
  | .typeInt32, s => (scanInt s).map .ofInt
  | .typeInt32Hex, s => (scanHex s).map .ofInt
  | .typeFloat, s => scanFloat s

/-- The value of a variable of the packet `p` after a write, from its value before. -/
def valueAfter (p : ShellPacket) (v : VEntry) (x : v.type.Value) : ShellWrite → v.type.Value
  | .assign name value =>
    if name = v.name.toList ∧ v.accessFlags &&& VarWrite ≠ 0 then (scanValue v.type value).getD x else x
  | .copy q bytes => if q = p then v.ptr.get (p.ofMemory (memoryOf bytes) .static) else x
  | .number q seq => if q = p ∧ v.name = seqName p then v.ptr.get (p.setSeq seq .static) else x

/-- The writes of a configuration file, up to the first name that is unknown. -/
def configWrites : List Text → List ShellWrite
  | name :: value :: rest =>
    if (findVar name).isSome then .assign name value :: configWrites rest else []
  | _ => []

/-- The query that `paramFn` puts into `param_control`. -/
def queryWrites (cmd name : Text) (action : UInt8) : List ShellWrite :=
  match paramQuery cmd name action with
  | .ok query => [.copy .paramControl query.bytes]
  | .error _ => []

/-- The writes of a command with its arguments. -/
def callWrites (files : Text → Option Text) : CommandFn → List Text → List ShellWrite
  | .setFn, [name, value] => [.assign name value]
  | .loadConfigFn, [fileName] => (files fileName).elim [] fun text => configWrites (words text)
  | .requestFn, [name] => queryWrites "request".toList name ParamRequest
  | .fetchFn, [name] => queryWrites "fetch".toList name ParamLoad
  | .storeFn, [name] => queryWrites "store".toList name ParamSave
  | _, _ => []

/-- The writes of a line, which has a command and as many arguments as it takes. -/
def lineWrites (files : Text → Option Text) (line : Text) : List ShellWrite :=
  match tokens line with
  | [] => []
  | name :: args =>
    match findCommand name with
    | none => []
    | some cmd => if args.length = cmd.nArgs then callWrites files cmd.cmdFn args else []

/-- The client writes the number of the packet that it is called with. -/
def numberWrite {F : Type} (sent : ShellSend F) : ShellWrite :=
  .number sent.packet (LittleEndian.getU16 sent.result.packet 2)

/-- The writes of a line with its outcome. -/
def commandWrites {F : Type} (files : Text → Option Text) (line : Text) (outcome : CommandOutcome F) :
    List ShellWrite :=
  lineWrites files line ++ outcome.sent.toList.map numberWrite

def eventWrites {F : Type} : ShellEvent F → List ShellWrite
  | .command line files outcome => commandWrites files line outcome
  | .refreshed copied => copied.map fun c => .copy c.1 c.2
  | .sendParam _ sent => [numberWrite sent]
  | _ => []

/-! ### What the functions write -/

lemma read_eq (v : VEntry) (s : Text) (g : ShellGlobals) :
    (v.read s g).2 =
      if v.accessFlags &&& VarWrite = 0 then g else (scanValue v.type s).elim g fun x => v.ptr.set x g := by
  obtain ⟨name, type, ptr, flags⟩ := v
  unfold VEntry.read
  by_cases hw : flags &&& VarWrite = 0
  · rw [if_pos hw, if_pos hw]
  · rw [if_neg hw, if_neg hw]
    cases type with
    | typePacket => rfl
    | typeInt32Hex => cases hs : scanHex s <;> simp [scanValue, hs]
    | typeFloat => cases hs : scanFloat s <;> simp [scanValue, hs]
    | _ => cases hs : scanInt s <;> simp [scanValue, hs]

variable {p : ShellPacket} {w : VEntry}

lemma get_read (hw : w ∈ entriesOf p) {v : VEntry} (hv : v ∈ variableEntries) (value : Text) (g : ShellGlobals) :
    w.ptr.get (v.read value g).2 = valueAfter p w (w.ptr.get g) (.assign v.name.toList value) := by
  rw [read_eq, valueAfter]
  by_cases hvw : v = w
  · subst hvw
    by_cases hflags : v.accessFlags &&& VarWrite = 0
    · rw [if_pos hflags, if_neg fun h => h.2 hflags]
    · rw [if_neg hflags, if_pos ⟨rfl, hflags⟩]
      cases scanValue v.type value with
      | none => rfl
      | some x => exact (fieldOf_entriesOf p v hw).own x g
  · have hname : v.name.toList ≠ w.name.toList := fun h =>
      hvw (List.inj_on_of_nodup_map names_nodup hv (mem_variableEntries hw) h)
    have hother : ¬(v.name.toList = w.name.toList ∧ w.accessFlags &&& VarWrite ≠ 0) := fun h => hname h.1
    rw [if_neg hother]
    split
    · rfl
    · cases scanValue v.type value with
      | none => rfl
      | some x => exact get_set_of_ne hv hw hvw x g

lemma get_ofMemory (hw : w ∈ entriesOf p) (q : ShellPacket) (bytes : List UInt8) (g : ShellGlobals) :
    w.ptr.get (q.ofMemory (memoryOf bytes) g) = valueAfter p w (w.ptr.get g) (.copy q bytes) := by
  rw [valueAfter]
  apply Eq.trans ((fieldOf_entriesOf p w hw).reads _ (if q = p then p.ofMemory (memoryOf bytes) .static else g) ?_)
  · split <;> rfl
  · by_cases hq : q = p
    · subst hq
      rw [if_pos rfl]
      cases q <;> rfl
    · rw [if_neg hq]
      cases p <;> cases q <;> first | rfl | exact absurd rfl hq

lemma eq_seqEntry (hw : w ∈ entriesOf p) (hname : w.name = seqName p) : w = seqEntry p := by
  have hseq : (seqEntry p).name = seqName p := by
    cases p <;> rfl
  exact List.inj_on_of_nodup_map names_nodup (mem_variableEntries hw) (mem_variableEntries (seqEntry_mem p))
    (congrArg String.toList (hname.trans hseq.symm))

lemma get_setSeq (hw : w ∈ entriesOf p) (q : ShellPacket) (seq : UInt16) (g : ShellGlobals) :
    w.ptr.get (q.setSeq seq g) = valueAfter p w (w.ptr.get g) (.number q seq) := by
  rw [valueAfter]
  by_cases hq : q = p
  · subst hq
    by_cases hname : w.name = seqName q
    · rw [if_pos ⟨rfl, hname⟩]
      rw [eq_seqEntry hw hname]
      cases q <;> rfl
    · rw [if_neg fun h => hname h.2]
      exact (fieldOf_entriesOf q w hw).seq hname seq g
  · rw [if_neg fun h => hq h.1]
    apply (fieldOf_entriesOf p w hw).reads
    cases p <;> cases q <;> first | rfl | exact absurd rfl hq

lemma paramControl_ofBytes_bytes (query : ParamControlPacket) :
    ParamControlPacket.ofBytes (memoryOf query.bytes) = query := by
  obtain ⟨⟨type, size, seq⟩, action, paramType⟩ := query
  have hseq : LittleEndian.getU16 (memoryOf (ParamControlPacket.bytes ⟨⟨type, size, seq⟩, action, paramType⟩)) 2 =
      seq := LittleEndian.getU16_eq rfl rfl
  rw [ParamControlPacket.ofBytes, PacketHeader.ofBytes, hseq]
  rfl

lemma findVar_some {name : Text} {v : VEntry} (h : findVar name = some v) :
    v ∈ variableEntries ∧ v.name.toList = name :=
  ⟨List.mem_of_find?_eq_some h, eq_of_beq (List.find?_some (p := fun v : VEntry => v.name.toList == name) h)⟩

/-- A line of a configuration file with a known name. -/
lemma foldl_configWrites (hw : w ∈ entriesOf p) {name : Text} {v : VEntry} (hv : findVar name = some v)
    (value : Text) (rest : List Text) (g : ShellGlobals) :
    (configWrites (name :: value :: rest)).foldl (valueAfter p w) (w.ptr.get g) =
      (configWrites rest).foldl (valueAfter p w) (w.ptr.get (v.read value g).2) := by
  obtain ⟨hmem, rfl⟩ := findVar_some hv
  rw [configWrites, hv, Option.isSome_some, if_pos rfl, List.foldl_cons, get_read hw hmem]

lemma loadConfigLoop_writes (printPacket : String → ShellGlobals → Text) (hw : w ∈ entriesOf p) {ws : List Text}
    {r : Text} {g : ShellGlobals} {result : CommandResult}
    (h : loadConfigLoop printPacket ws r g = .ok result) :
    w.ptr.get result.globals = (configWrites ws).foldl (valueAfter p w) (w.ptr.get g) := by
  fun_induction loadConfigLoop printPacket ws r g with
  | case1 name value rest r g hlong => cases h
  | case2 name value rest r g hshort hvar =>
    cases h
    rw [configWrites, hvar]
    rfl
  | case3 name value r g hshort var hvar g' r' =>
    cases h
    rw [foldl_configWrites hw hvar]
    rfl
  | case4 name value rest r g hshort var hvar g' r' hrest ih =>
    rw [ih h, foldl_configWrites hw hvar]
  | case5 => cases h

lemma refresh_writes {F : Type} [CFloat F] (hw : w ∈ entriesOf p) {ps : List ShellPacket} {s s' : Shell F}
    {copied : List (ShellPacket × List UInt8)} (h : s.refresh ps = .ok (copied, s')) :
    w.ptr.get s'.globals =
      (copied.map fun c => ShellWrite.copy c.1 c.2).foldl (valueAfter p w) (w.ptr.get s.globals) := by
  induction ps generalizing s copied with
  | nil =>
    cases h
    rfl
  | cons q qs ih =>
    rw [Shell.refresh] at h
    split at h
    · cases h
    · next status bytes hget =>
      split at h
      · cases h
        rfl
      · split at h
        · cases h
        · next copied' s'' hrest =>
          cases h
          rw [ih hrest, List.map_cons, List.foldl_cons, get_ofMemory hw]

lemma refreshParams_eq {F : Type} [CFloat F] (type : UInt8) (s : Shell F) :
    ∃ ps, (∀ p ∈ ps, p ∈ [ShellPacket.systemParams, .jointParams, .driveParams]) ∧
      s.refreshParams type = s.refresh ps := by
  unfold Shell.refreshParams
  split_ifs
  · exact ⟨[.systemParams], by decide, rfl⟩
  · exact ⟨[.jointParams], by decide, rfl⟩
  · exact ⟨[.driveParams], by decide, rfl⟩
  · exact ⟨[], by decide, rfl⟩

lemma sendPacket_writes {F : Type} [CFloat F] (hw : w ∈ entriesOf p) {q : ShellPacket} {timeout : Int}
    {emitted : List UInt8} {s s' : Shell F} {sent : ShellSend F}
    (h : s.sendPacket q timeout emitted = .ok (sent, s')) :
    w.ptr.get s'.globals = valueAfter p w (w.ptr.get s.globals) (numberWrite sent) := by
  rw [Shell.sendPacket] at h
  split at h
  · cases h
  · cases h
  · cases h
    exact get_setSeq hw q _ _

/-! ### Lines -/

variable {F : Type} (printPacket : String → ShellGlobals → Text)

/-- After a command the variable has the value that these writes give it, and the client if it is called. -/
def WrittenAs (p : ShellPacket) (w : VEntry) (s : Shell F) (writes : List ShellWrite) (outcome : CommandOutcome F) :
    Prop :=
  w.ptr.get outcome.shell.globals =
    (writes ++ outcome.sent.toList.map numberWrite).foldl (valueAfter p w) (w.ptr.get s.globals)

/-- A command that does not call the client. -/
lemma WrittenAs.of_silent {s : Shell F} {writes : List ShellWrite} {outcome : CommandOutcome F}
    (hsent : outcome.sent = none)
    (h : w.ptr.get outcome.shell.globals = writes.foldl (valueAfter p w) (w.ptr.get s.globals)) :
    WrittenAs p w s writes outcome := by
  rw [WrittenAs, hsent, h, Option.toList_none, List.map_nil, List.append_nil]

lemma paramFn_writes (hw : w ∈ entriesOf p) (cmd name : Text) (action : UInt8) (s : Shell F) :
    WrittenAs p w s (queryWrites cmd name action) (s.paramFn cmd name action) := by
  rw [Shell.paramFn, queryWrites]
  cases paramQuery cmd name action with
  | error response => exact .of_silent rfl rfl
  | ok query =>
    have hcopy := get_ofMemory hw .paramControl query.bytes s.globals
    rw [ShellPacket.ofMemory, paramControl_ofBytes_bytes] at hcopy
    exact .of_silent rfl hcopy

lemma setFn_writes (hw : w ∈ entriesOf p) (name value : Text) (s : Shell F) :
    WrittenAs p w s [.assign name value] (s.setFn printPacket name value) := by
  rw [Shell.setFn]
  cases hvar : findVar name with
  | none =>
    have hne : name ≠ w.name.toList := by
      rintro rfl
      rw [findVar_name (mem_variableEntries hw)] at hvar
      cases hvar
    have hother : ¬(name = w.name.toList ∧ w.accessFlags &&& VarWrite ≠ 0) := fun h => hne h.1
    refine .of_silent rfl ?_
    rw [List.foldl_cons, valueAfter, if_neg hother]
    rfl
  | some var =>
    obtain ⟨hmem, rfl⟩ := findVar_some hvar
    exact .of_silent rfl (get_read hw hmem value s.globals)

lemma loadConfig_writes (hw : w ∈ entriesOf p) {fileName : Text} {s : Shell F} {outcome : CommandOutcome F}
    (h : s.loadConfig printPacket fileName = .ok outcome) :
    WrittenAs p w s ((s.files fileName).elim [] fun text => configWrites (words text)) outcome := by
  rw [Shell.loadConfig] at h
  split at h
  · cases h
  · next r hload =>
    cases h
    cases hfile : s.files fileName with
    | none =>
      rw [hfile] at hload
      cases hload
      exact .of_silent rfl rfl
    | some text =>
      rw [hfile] at hload
      exact .of_silent rfl (loadConfigLoop_writes printPacket hw hload)

lemma saveConfig_writes {fileName : Text} {opened : Bool} {s : Shell F} {outcome : CommandOutcome F}
    (h : s.saveConfig printPacket fileName opened = .ok outcome) : WrittenAs p w s [] outcome := by
  rw [Shell.saveConfig] at h
  split at h
  · cases h
  · cases h
    exact .of_silent rfl rfl

variable [CFloat F]

lemma sendFn_writes (hw : w ∈ entriesOf p) {name : Text} {s : Shell F} {outcome : CommandOutcome F}
    (h : s.sendFn name = .ok outcome) : WrittenAs p w s [] outcome := by
  rw [Shell.sendFn] at h
  split at h
  · cases h
    exact .of_silent rfl rfl
  · split at h
    · cases h
      exact .of_silent rfl rfl
    · split at h
      · cases h
      · next sent s' hsend =>
        cases h
        exact sendPacket_writes hw hsend

/-- The call of a command with as many arguments as it takes. -/
lemma call_writes (hw : w ∈ entriesOf p) {cmd : Command} (hcmd : cmd ∈ commands)
    {args : List Text} (hargs : args.length = cmd.nArgs) {opened : Bool} {s : Shell F}
    {outcome : CommandOutcome F} (h : cmd.cmdFn.call printPacket args opened s = .ok outcome) :
    WrittenAs p w s (callWrites s.files cmd.cmdFn args) outcome := by
  simp only [commands, List.mem_cons, List.not_mem_nil, or_false] at hcmd
  rcases hcmd with rfl | rfl | rfl | rfl | rfl | rfl | rfl | rfl | rfl | rfl
  · cases h
    exact .of_silent rfl rfl
  · obtain ⟨name, rfl⟩ := List.length_eq_one_iff.mp hargs
    cases h
    rw [Shell.printFn]
    cases findVar _ <;> exact .of_silent rfl rfl
  · obtain ⟨name, value, rfl⟩ := List.length_eq_two.mp hargs
    cases h
    exact setFn_writes printPacket hw name value s
  · cases h
    rw [Shell.dumpFn]
    cases findVar _ <;> exact .of_silent rfl rfl
  · obtain ⟨name, rfl⟩ := List.length_eq_one_iff.mp hargs
    exact sendFn_writes hw h
  · obtain ⟨name, rfl⟩ := List.length_eq_one_iff.mp hargs
    cases h
    exact paramFn_writes hw _ name _ s
  · obtain ⟨name, rfl⟩ := List.length_eq_one_iff.mp hargs
    cases h
    exact paramFn_writes hw _ name _ s
  · obtain ⟨name, rfl⟩ := List.length_eq_one_iff.mp hargs
    cases h
    exact paramFn_writes hw _ name _ s
  · exact saveConfig_writes printPacket h
  · obtain ⟨name, rfl⟩ := List.length_eq_one_iff.mp hargs
    exact loadConfig_writes printPacket hw h

lemma executeCommand_writes (hw : w ∈ entriesOf p) {line : Text} {opened : Bool}
    {s : Shell F} {outcome : CommandOutcome F}
    (h : executeCommand printPacket line opened s = .ok outcome) :
    WrittenAs p w s (lineWrites s.files line) outcome := by
  rw [executeCommand] at h
  split at h
  · cases h
  · rw [lineWrites]
    cases htokens : tokens line with
    | nil =>
      simp only [htokens] at h
      cases h
      exact .of_silent rfl rfl
    | cons name args =>
      simp only [htokens] at h ⊢
      cases hfound : findCommand name with
      | none =>
        simp only [hfound] at h ⊢
        cases h
        exact .of_silent rfl rfl
      | some cmd =>
        have hmem : cmd ∈ commands := List.mem_of_find?_eq_some hfound
        have hfew : cmd.nArgs ≤ 2 := (by decide : ∀ c ∈ commands, c.nArgs ≤ 2) cmd hmem
        simp only [hfound] at h ⊢
        rw [List.length_take] at h
        by_cases hargs : args.length = cmd.nArgs
        · rw [if_pos (by omega), List.take_of_length_le (by omega)] at h
          rw [if_pos hargs]
          exact call_writes printPacket hw hmem hargs h
        · rw [if_neg (by omega)] at h
          cases h
          rw [if_neg hargs]
          exact .of_silent rfl rfl

lemma shellStep_command_eq_ok {s s' : Shell F} {line : Text} {opened : Bool} {e : ShellEvent F}
    (h : shellStep printPacket s (.command line opened) = .ok (e, s')) :
    ∃ outcome, executeCommand printPacket line opened s = .ok outcome ∧ e = .command line s.files outcome ∧
      s' = outcome.shell := by
  rw [shellStep] at h
  split at h
  · split at h
    · cases h
    · next outcome hexec =>
      split at h
      · cases h
        exact ⟨outcome, hexec, rfl, rfl⟩
      · cases h
  · cases h

lemma shellStep_writes (hw : w ∈ entriesOf p) {s s' : Shell F} {i : ShellInput}
    {e : ShellEvent F} (h : shellStep printPacket s i = .ok (e, s')) :
    w.ptr.get s'.globals = (eventWrites e).foldl (valueAfter p w) (w.ptr.get s.globals) := by
  cases i with
  | command line opened =>
    obtain ⟨outcome, hexec, rfl, rfl⟩ := shellStep_command_eq_ok printPacket h
    exact executeCommand_writes printPacket hw hexec
  | received bytes =>
    cases h
    rfl
  | syncSend =>
    cases h
    rfl
  | syncRead =>
    rw [shellStep] at h
    split at h
    · cases h
    · cases h
    · cases h
      rfl
  | readConfiguration emitted =>
    rw [shellStep] at h
    split at h
    · cases h
    · cases h
      rfl
  | refreshState =>
    rw [shellStep] at h
    split at h
    · cases h
    · next copied s'' hrefresh =>
      cases h
      exact refresh_writes hw hrefresh
  | refreshParams type =>
    rw [shellStep] at h
    split at h
    · cases h
    · next copied s'' hrefresh =>
      cases h
      obtain ⟨ps, -, heq⟩ := refreshParams_eq type s
      rw [heq] at hrefresh
      exact refresh_writes hw hrefresh
  | sendParam emitted =>
    rw [shellStep] at h
    split at h
    · cases h
    · next sent s'' hsend =>
      cases h
      exact sendPacket_writes hw hsend

lemma run_writes (hw : w ∈ entriesOf p) {s₀ s : Shell F} {inputs : List ShellInput}
    {events : List (ShellEvent F)} (h : StepMachine.run (shellStep printPacket) s₀ inputs = .ok (events, s)) :
    w.ptr.get s.globals = (events.flatMap eventWrites).foldl (valueAfter p w) (w.ptr.get s₀.globals) := by
  refine StepMachine.run_history (fun _ events s => w.ptr.get s.globals =
    (events.flatMap eventWrites).foldl (valueAfter p w) (w.ptr.get s₀.globals)) rfl ?_ h
  intro is events s i e s' hs hstep
  rw [List.flatMap_append, List.foldl_append, ← hs, List.flatMap_singleton]
  exact shellStep_writes printPacket hw hstep

/-- What is printed of a field depends on its value only. -/
lemma write_congr {v : VEntry} (htype : v.type ≠ .typePacket) {g g' : ShellGlobals} (h : v.ptr.get g = v.ptr.get g') :
    v.write printPacket g = v.write printPacket g' := by
  obtain ⟨name, type, ptr, flags⟩ := v
  replace h : ptr.get g = ptr.get g' := h
  unfold VEntry.write
  split
  · rfl
  · cases type with
    | typePacket => exact absurd rfl htype
    | _ => simp only [h]

lemma print_response (hw : w ∈ entriesOf p) {line : Text} (hline : tokens line = ["print".toList, w.name.toList])
    {opened : Bool} {s : Shell F} {outcome : CommandOutcome F}
    (h : executeCommand printPacket line opened s = .ok outcome) :
    outcome.response = w.write printPacket s.globals := by
  have hfound : findCommand "print".toList = some ⟨"print", 1, .printFn⟩ := by decide
  rw [executeCommand] at h
  split at h
  · cases h
  · rw [hline] at h
    simp only [hfound] at h
    cases h
    change (s.printFn printPacket w.name.toList).response = _
    rw [Shell.printFn, findVar_name (mem_variableEntries hw)]

lemma shellStep_command {s s' : Shell F} {i : ShellInput} {line : Text} {files : Text → Option Text}
    {outcome : CommandOutcome F} (h : shellStep printPacket s i = .ok (.command line files outcome, s')) :
    ∃ opened, executeCommand printPacket line opened s = .ok outcome := by
  cases i with
  | command line opened =>
    obtain ⟨outcome', hexec, heq, -⟩ := shellStep_command_eq_ok printPacket h
    cases heq
    exact ⟨opened, hexec⟩
  | received bytes => cases h
  | syncSend => cases h
  | syncRead =>
    rw [shellStep] at h
    split at h <;> cases h
  | readConfiguration emitted =>
    rw [shellStep] at h
    split at h <;> cases h
  | refreshState =>
    rw [shellStep] at h
    split at h <;> cases h
  | refreshParams type =>
    rw [shellStep] at h
    split at h <;> cases h
  | sendParam emitted =>
    rw [shellStep] at h
    split at h <;> cases h

/-- In every run of the shell, whatever the lines of the user and the files contain, each variable holds what
was last written to it, and `print` shows it. -/
theorem variables_hold_last_write (hw : w ∈ entriesOf p) {s₀ s : Shell F}
    {inputs : List ShellInput} {events : List (ShellEvent F)}
    (h : StepMachine.run (shellStep printPacket) s₀ inputs = .ok (events, s)) :
    w.ptr.get s.globals = (events.flatMap eventWrites).foldl (valueAfter p w) (w.ptr.get s₀.globals) ∧
      ∀ before line files outcome after, events = before ++ .command line files outcome :: after →
        tokens line = ["print".toList, w.name.toList] → w.type ≠ .typePacket →
        ∀ g, w.ptr.get g = (before.flatMap eventWrites).foldl (valueAfter p w) (w.ptr.get s₀.globals) →
          outcome.response = w.write printPacket g := by
  refine ⟨run_writes printPacket hw h, ?_⟩
  rintro before line files outcome after rfl hline htype g hg
  obtain ⟨is, i, -, s₁, s₂, -, hbefore, hstep, -⟩ := StepMachine.run_split h
  rw [← run_writes printPacket hw hbefore] at hg
  rw [write_congr printPacket htype hg]
  obtain ⟨opened, hexec⟩ := shellStep_command printPacket hstep
  exact print_response printPacket hw hline hexec

/-! ### A session -/

/-- A line `set` with the name of a field and a value. -/
lemma executeCommand_set (hw : w ∈ entriesOf p) {line value : Text} (hlen : line.length < 1024)
    (hline : tokens line = ["set".toList, w.name.toList, value]) (opened : Bool) (s : Shell F) :
    executeCommand printPacket line opened s =
      .ok ⟨some 0, w.name.toList ++ ' ' :: (w.write printPacket (w.read value s.globals).2 ++ ['\n']), none,
        { s with globals := (w.read value s.globals).2 }⟩ := by
  have hfound : findCommand "set".toList = some ⟨"set", 2, .setFn⟩ := by decide
  rw [executeCommand, if_neg (Nat.not_le.mpr hlen), hline]
  simp only [hfound]
  change Except.ok (s.setFn printPacket w.name.toList value) = _
  rw [Shell.setFn, findVar_name (mem_variableEntries hw)]

lemma lineWrites_set {line name value : Text} (hline : tokens line = ["set".toList, name, value])
    (files : Text → Option Text) : lineWrites files line = [.assign name value] := by
  have hfound : findCommand "set".toList = some ⟨"set", 2, .setFn⟩ := by decide
  rw [lineWrites, hline]
  simp only [hfound]
  rfl

/-- A line `load_config` with a file that has one name and one value. -/
lemma executeCommand_loadConfig (hw : w ∈ entriesOf p) {line fileName text value : Text} (hlen : line.length < 1024)
    (hline : tokens line = ["load_config".toList, fileName]) (hwords : words text = [w.name.toList, value])
    (hshort : w.name.toList.length < 1024 ∧ value.length < 1024) (opened : Bool) {s : Shell F}
    (hfile : s.files fileName = some text) :
    executeCommand printPacket line opened s =
      .ok ⟨some 0, w.name.toList ++ ' ' :: (w.write printPacket (w.read value s.globals).2 ++ ['\n']), none,
        { s with globals := (w.read value s.globals).2 }⟩ := by
  have hfound : findCommand "load_config".toList = some ⟨"load_config", 1, .loadConfigFn⟩ := by decide
  have hnotlong : ¬(1024 ≤ w.name.toList.length ∨ 1024 ≤ value.length) := by omega
  rw [executeCommand, if_neg (Nat.not_le.mpr hlen), hline]
  simp only [hfound]
  change s.loadConfig printPacket fileName = _
  rw [Shell.loadConfig, hfile, loadConfigFn, hwords, loadConfigLoop, if_neg hnotlong,
    findVar_name (mem_variableEntries hw)]
  rfl

lemma lineWrites_loadConfig (hw : w ∈ entriesOf p) {line fileName text value : Text}
    (hline : tokens line = ["load_config".toList, fileName]) (hwords : words text = [w.name.toList, value])
    {files : Text → Option Text} (hfile : files fileName = some text) :
    lineWrites files line = [.assign w.name.toList value] := by
  have hfound : findCommand "load_config".toList = some ⟨"load_config", 1, .loadConfigFn⟩ := by decide
  rw [lineWrites, hline]
  simp only [hfound]
  change ((files fileName).elim [] fun text => configWrites (words text)) = _
  rw [hfile, Option.elim_some, hwords, configWrites, findVar_name (mem_variableEntries hw)]
  rfl

lemma shellStep_of_executeCommand {s : Shell F} (hgo : s.run = true) {line : Text} {opened : Bool}
    {outcome : CommandOutcome F} (h : executeCommand printPacket line opened s = .ok outcome)
    (hshort : outcome.response.length < 10000) :
    shellStep printPacket s (.command line opened) = .ok (.command line s.files outcome, outcome.shell) := by
  rw [shellStep, if_pos hgo, h]
  exact if_pos hshort

lemma length_setResponse_lt {v : VEntry} (hv : GoodEntry v) (g : ShellGlobals) :
    (v.name.toList ++ ' ' :: (v.write printPacket g ++ ['\n'])).length < 1024 := by
  have hname := hv.short
  have hvalue := length_write printPacket hv g
  rw [List.length_append, List.length_cons, List.length_append, List.length_singleton]
  omega

abbrev commCyclesEntry : VEntry :=
  ⟨"system_params.comm_cycles", .typeUInt16, ⟨(·.systemParams.commCycles),
    fun x g => { g with systemParams.commCycles := x }⟩, VarRead ||| VarWrite⟩

lemma commCyclesEntry_mem : commCyclesEntry ∈ entriesOf .systemParams :=
  .tail _ (.tail _ (.tail _ (.tail _ (.tail _ (.tail _ (.head _))))))

lemma commCyclesEntry_good : GoodEntry commCyclesEntry := by
  refine goodEntry ?_
  rw [configEntries]
  exact List.mem_append_left _ (List.mem_append_left _ (.tail _ (.tail _ (.tail _ (.tail _ (.tail _ (.head _)))))))

lemma tokens_setCycles :
    tokens "set system_params.comm_cycles 4".toList = ["set".toList, commCyclesEntry.name.toList, "4".toList] := by
  decide +kernel

/-- The user sets the length of an epoch, and loads a file that sets it again. -/
def cyclesSession : List ShellInput :=
  [.command "set system_params.comm_cycles 4".toList true, .command "load_config  fast".toList true]

/-- The file of that session. -/
def fastFiles : Text → Option Text :=
  fun name => if name = "fast".toList then some "system_params.comm_cycles 2\n".toList else none

theorem variables_hold_last_write_cycles :
    ∃ events s, StepMachine.run (shellStep fun _ _ => []) (Shell.start blankClient fastFiles) cyclesSession =
        .ok (events, s) ∧ s.globals.systemParams.commCycles = 2 := by
  have hfile : fastFiles "fast".toList = some "system_params.comm_cycles 2\n".toList := if_pos rfl
  have htokens : tokens "load_config  fast".toList = ["load_config".toList, "fast".toList] := by decide +kernel
  have hwords : words "system_params.comm_cycles 2\n".toList = [commCyclesEntry.name.toList, "2".toList] := by
    decide +kernel
  obtain ⟨⟨events, s⟩, hrun, hwrites⟩ : ∃ r, StepMachine.run (shellStep fun _ _ => [])
        (Shell.start blankClient fastFiles) cyclesSession = .ok r ∧
      r.1.flatMap eventWrites = [.assign "system_params.comm_cycles".toList "4".toList,
        .assign "system_params.comm_cycles".toList "2".toList] := by
    have hset := executeCommand_set (fun _ _ => []) commCyclesEntry_mem (by decide) tokens_setCycles true
      (Shell.start blankClient fastFiles)
    have hshort : ∀ g : ShellGlobals, (commCyclesEntry.name.toList ++ ' ' ::
        (commCyclesEntry.write (fun _ _ => []) g ++ ['\n'])).length < 10000 := fun g =>
      (length_setResponse_lt _ commCyclesEntry_good g).trans (by decide)
    refine ⟨(_, _), StepMachine.run_cons_eq_ok.mpr ⟨_, _, _, shellStep_of_executeCommand _ rfl hset (hshort _),
      StepMachine.run_cons_eq_ok.mpr ⟨_, _, _, shellStep_of_executeCommand _ rfl
        (executeCommand_loadConfig _ commCyclesEntry_mem (by decide) htokens hwords (by decide) true hfile)
        (hshort _), StepMachine.run_nil _, rfl⟩, rfl⟩, ?_⟩
    simp only [Shell.start, List.flatMap_cons, List.flatMap_nil, eventWrites, commandWrites,
      lineWrites_set tokens_setCycles, lineWrites_loadConfig commCyclesEntry_mem htokens hwords hfile]
    rfl
  have hlast := variables_hold_last_write _ commCyclesEntry_mem hrun
  rw [hwrites] at hlast
  exact ⟨events, s, hrun, hlast.1.trans (by decide +kernel)⟩

end Orazio.Proofs
