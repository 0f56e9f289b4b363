import Mathlib.Algebra.Group.Action.Defs
import Mathlib.Algebra.Order.BigOperators.Group.List
import Mathlib.Data.List.Nodup
import Orazio.Model.OrazioGlobals
import Orazio.Model.OrazioShell

/-!
# The configuration file of the shell

What `loadConfigFn` makes of the file that `saveConfigFn` wrote. Floats are written with five
decimals: the variables are restored exactly if each of them is nearest to a number of that kind.
-/

namespace Orazio.Proofs

open Stdio

/-- The writable variables of the three parameter packets. -/
def configVariables : List VEntry :=
  (systemParamEntries ++ jointParamEntries ++ driveParamEntries).filter fun v =>
    v.accessFlags &&& VarWrite ≠ 0

/-- The floats among them. -/
def driveFloats (p : DifferentialDriveParamPacket Binary32) : List Binary32 :=
  [p.kr, p.kl, p.baseline, p.maxTranslationalVelocity, p.maxTranslationalAcceleration,
    p.maxTranslationalBrake, p.maxRotationalVelocity, p.maxRotationalAcceleration]

/-- The float is the one nearest to a number with five decimals. -/
def FiveDecimals (x : Binary32) : Prop :=
  ∃ k, Binary32.nearest x.negative k (10 ^ 5) = x

/-- What a float written with five decimals is read as. -/
def rounded (x : Binary32) : Binary32 :=
  .nearest x.negative (x.inUnits (10 ^ 5)) (10 ^ 5)

/-- What a value written into the file is read as. -/
def reread : (t : VariableType) → t.Value → t.Value
  | .typeFloat, x => rounded x
  | .typePacket, x => x
  | .typeUInt8, x => x
  | .typeInt8, x => x
  | .typeUInt16, x => x
  | .typeInt16, x => x
  | .typeUInt32, x => x
  | .typeInt32, x => x
  | .typeInt32Hex, x => x

/-- The variables behind a line of the file written in the state `g`. -/
def settle (g h : ShellGlobals) (v : VEntry) : ShellGlobals :=
  if v.accessFlags &&& VarWrite = 0 then h else v.ptr.set (reread v.type (v.ptr.get g)) h

/-- The state `h` after the file written in the state `g`. -/
def restored (g h : ShellGlobals) : ShellGlobals :=
  { h with
    systemParams := { h.systemParams with
      timerPeriodMs := g.systemParams.timerPeriodMs
      commCycles := g.systemParams.commCycles
      periodicPacketMask := g.systemParams.periodicPacketMask
      watchdogCycles := g.systemParams.watchdogCycles
      hBridgeType := g.systemParams.hBridgeType }
    jointParams.joints := g.jointParams.joints
    driveParams := { g.driveParams with
      header := h.driveParams.header
      kr := rounded g.driveParams.kr
      kl := rounded g.driveParams.kl
      baseline := rounded g.driveParams.baseline
      maxTranslationalVelocity := rounded g.driveParams.maxTranslationalVelocity
      maxTranslationalAcceleration := rounded g.driveParams.maxTranslationalAcceleration
      maxTranslationalBrake := rounded g.driveParams.maxTranslationalBrake
      maxRotationalVelocity := rounded g.driveParams.maxRotationalVelocity
      maxRotationalAcceleration := rounded g.driveParams.maxRotationalAcceleration } }

/-- The entries written to the file. -/
def configEntries : List VEntry :=
  systemParamEntries.tail ++ jointParamEntries.tail ++ driveParamEntries.tail

/-! ### The table -/

-- A literal is `String.ofList` of its characters, which is faster than decoding it again.
lemma configEntries_names : ∀ t ∈ configEntries.map (·.name.toList),
    IsWord t ∧ t.length < 50 ∧ "params".toList <:+: t := by
  simp only [configEntries, systemParamEntries, jointParamEntries, driveParamEntries, List.tail_cons,
    List.cons_append, List.nil_append, List.map_cons, List.map_nil]
  repeat rw [String.toList_ofList]
  decide +kernel

lemma other_names : ∀ t ∈ (systemStatusEntries ++ jointStatusEntries ++ driveStatusEntries ++
    controlEntries).map (·.name.toList), ¬"params".toList <:+: t := by
  simp only [systemStatusEntries, jointStatusEntries, driveStatusEntries, controlEntries, packetEntry,
    List.cons_append, List.nil_append, List.map_cons, List.map_nil]
  repeat rw [String.toList_ofList]
  decide +kernel

lemma names_nodup : (variableEntries.map (·.name.toList)).Nodup := by
  -- The kernel compares the names faster as numbers, because they have long prefixes in common.
  apply List.Nodup.of_map (List.foldl (fun n c => 256 * n + c.toNat) 0)
  simp only [variableEntries, systemStatusEntries, systemParamEntries, jointStatusEntries,
    jointParamEntries, driveStatusEntries, driveParamEntries, controlEntries, packetEntry,
    List.cons_append, List.nil_append, List.map_cons, List.map_nil]
  repeat rw [String.toList_ofList]
  decide +kernel

lemma filter_packetEntry {name : String} {rest : List VEntry} (h : ∀ v ∈ rest, inConfig v = true) :
    (packetEntry name :: rest).filter inConfig = rest :=
  (List.filter_cons_of_neg Bool.false_ne_true).trans (List.filter_eq_self.mpr h)

lemma filter_inConfig : variableEntries.filter inConfig = configEntries := by
  have hother : ∀ v ∈ systemStatusEntries ++ jointStatusEntries ++ driveStatusEntries ++ controlEntries,
      ¬inConfig v = true := by
    intro v hv hin
    simp only [inConfig, Bool.and_eq_true, decide_eq_true_eq] at hin
    exact other_names _ (List.mem_map_of_mem hv) hin.2
  have htype : ∀ v ∈ configEntries, v.type ≠ .typePacket := by decide +kernel
  have hconfig : ∀ v ∈ configEntries, inConfig v = true := by
    intro v hv
    simp only [inConfig, Bool.and_eq_true, decide_eq_true_eq]
    exact ⟨htype v hv, (configEntries_names _ (List.mem_map_of_mem hv)).2.2⟩
  simp only [List.forall_mem_append] at hother
  simp only [configEntries, List.forall_mem_append] at hconfig
  have hsystem : systemParamEntries.filter inConfig = systemParamEntries.tail :=
    filter_packetEntry hconfig.1.1
  have hjoint : jointParamEntries.filter inConfig = jointParamEntries.tail :=
    filter_packetEntry hconfig.1.2
  have hdrive : driveParamEntries.filter inConfig = driveParamEntries.tail :=
    filter_packetEntry hconfig.2
  simp only [variableEntries, List.filter_append, hsystem, hjoint, hdrive,
    List.filter_eq_nil_iff.mpr hother.1.1.1, List.filter_eq_nil_iff.mpr hother.1.1.2,
    List.filter_eq_nil_iff.mpr hother.1.2, List.filter_eq_nil_iff.mpr hother.2, List.nil_append,
    List.append_nil, configEntries]

lemma findVar_name {v : VEntry} (hv : v ∈ variableEntries) : findVar v.name.toList = some v := by
  have hfound := List.find?_isSome (p := fun w : VEntry => w.name.toList == v.name.toList).mpr
    ⟨v, hv, beq_self_eq_true v.name.toList⟩
  obtain ⟨w, hw⟩ := Option.isSome_iff_exists.mp hfound
  have hname : w.name.toList = v.name.toList :=
    eq_of_beq (List.find?_some (p := fun w : VEntry => w.name.toList == v.name.toList) hw)
  have hsame := List.inj_on_of_nodup_map names_nodup (List.mem_of_find?_eq_some hw) hv hname
  rw [findVar, hw, hsame]

/-- What the lines of the file need from the entries of the table. -/
structure GoodEntry (v : VEntry) : Prop where
  word : IsWord v.name.toList
  short : v.name.toList.length < 50
  found : findVar v.name.toList = some v
  readable : v.accessFlags &&& VarRead ≠ 0
  type : v.type ≠ .typePacket
  writable : v.accessFlags &&& VarWrite ≠ 0 → v.type ≠ .typeInt32Hex

lemma goodEntry {v : VEntry} (hv : v ∈ configEntries) : GoodEntry v := by
  have hnames := configEntries_names _ (List.mem_map_of_mem hv)
  have hall : ∀ v ∈ configEntries, v.accessFlags &&& VarRead ≠ 0 ∧ v.type ≠ .typePacket ∧
      (v.accessFlags &&& VarWrite ≠ 0 → v.type ≠ .typeInt32Hex) := by
    decide +kernel
  obtain ⟨hread, htype, hhex⟩ := hall v hv
  have hmem : v ∈ variableEntries := by
    rw [← filter_inConfig] at hv
    exact (List.mem_filter.mp hv).1
  exact ⟨hnames.1, hnames.2.1, findVar_name hmem, hread, htype, hhex⟩

/-! ### One line of the file -/

section

variable (printPacket : String → ShellGlobals → Text)

lemma isWord_write {v : VEntry} (hv : GoodEntry v) (g : ShellGlobals) :
    IsWord (v.write printPacket g) := by
  obtain ⟨name, type, ptr, flags⟩ := v
  unfold VEntry.write
  rw [if_neg hv.readable]
  cases type with
  | typePacket => exact absurd rfl hv.type
  | typeUInt8 => exact isWord_printNat _
  | typeInt8 => exact isWord_printInt _
  | typeUInt16 => exact isWord_printNat _
  | typeInt16 => exact isWord_printInt _
  | typeUInt32 => exact isWord_printNat _
  | typeInt32 => exact isWord_printInt _
  | typeInt32Hex => exact isWord_printHex _
  | typeFloat => exact isWord_printFixed 5 _

lemma length_write {v : VEntry} (hv : GoodEntry v) (g : ShellGlobals) :
    (v.write printPacket g).length ≤ 46 := by
  obtain ⟨name, type, ptr, flags⟩ := v
  unfold VEntry.write
  rw [if_neg hv.readable]
  cases type with
  | typePacket => exact absurd rfl hv.type
  | typeUInt8 =>
    have hlt := (ptr.get g).toNat_lt
    exact length_printNat_le (by decide) (by omega)
  | typeInt8 =>
    have hlt := (ptr.get g).toInt_lt
    have hle := (ptr.get g).le_toInt
    exact length_printInt_le (by decide : 0 < 45) (by omega)
  | typeUInt16 =>
    have hlt := (ptr.get g).toNat_lt
    exact length_printNat_le (by decide) (by omega)
  | typeInt16 =>
    have hlt := (ptr.get g).toInt_lt
    have hle := (ptr.get g).le_toInt
    exact length_printInt_le (by decide : 0 < 45) (by omega)
  | typeUInt32 =>
    have hlt := (ptr.get g).toNat_lt
    exact length_printNat_le (by decide) (by omega)
  | typeInt32 =>
    have hlt := (ptr.get g).toInt_lt
    have hle := (ptr.get g).le_toInt
    exact length_printInt_le (by decide : 0 < 45) (by omega)
  | typeInt32Hex =>
    have hlt := (ptr.get g).toNat_lt
    exact (length_printHex_le (by omega)).trans (by decide)
  | typeFloat => exact length_printFixed_le (by decide) _

/-- The value can be written as a decimal number. -/
def Decimal : (t : VariableType) → t.Value → Prop
  | .typeFloat, x => x.Finite
  | .typePacket, _ => True
  | .typeUInt8, _ => True
  | .typeInt8, _ => True
  | .typeUInt16, _ => True
  | .typeInt16, _ => True
  | .typeUInt32, _ => True
  | .typeInt32, _ => True
  | .typeInt32Hex, _ => True

lemma uint8_ofInt_toNat (x : UInt8) : UInt8.ofInt x.toNat = x := by
  have hlt := x.toNat_lt
  apply UInt8.toNat_inj.mp
  rw [UInt8.ofInt, UInt8.toNat_ofNat']
  omega

lemma uint16_ofInt_toNat (x : UInt16) : UInt16.ofInt x.toNat = x := by
  have hlt := x.toNat_lt
  apply UInt16.toNat_inj.mp
  rw [UInt16.ofInt, UInt16.toNat_ofNat']
  omega

lemma uint32_ofInt_toNat (x : UInt32) : UInt32.ofInt x.toNat = x := by
  have hlt := x.toNat_lt
  apply UInt32.toNat_inj.mp
  rw [UInt32.ofInt, UInt32.toNat_ofNat']
  omega

lemma read_write {v : VEntry} (hv : GoodEntry v) {g : ShellGlobals} (h : ShellGlobals)
    (hg : v.accessFlags &&& VarWrite ≠ 0 → Decimal v.type (v.ptr.get g)) :
    (v.read (v.write printPacket g) h).2 = settle g h v := by
  obtain ⟨name, type, ptr, flags⟩ := v
  unfold VEntry.read VEntry.write settle
  rw [if_neg hv.readable]
  by_cases hw : flags &&& VarWrite = 0
  · rw [if_pos hw, if_pos hw]
  · rw [if_neg hw, if_neg hw]
    cases type with
    | typePacket => exact absurd rfl hv.type
    | typeUInt8 => simp [scanInt_printNat, uint8_ofInt_toNat, reread]
    | typeInt8 => simp [scanInt_printInt, reread]
    | typeUInt16 => simp [scanInt_printNat, uint16_ofInt_toNat, reread]
    | typeInt16 => simp [scanInt_printInt, reread]
    | typeUInt32 => simp [scanInt_printNat, uint32_ofInt_toNat, reread]
    | typeInt32 => simp [scanInt_printInt, reread]
    | typeInt32Hex => exact absurd rfl (hv.writable hw)
    | typeFloat =>
      have hscan := scanFloat_printFixed (by decide : 0 < 5) (hg hw)
      dsimp only
      rw [hscan]
      rfl

/-! ### The file -/

lemma words_lines {g : ShellGlobals} {entries : List VEntry} (hgood : ∀ v ∈ entries, GoodEntry v) :
    words (entries.flatMap (configLine printPacket g)) =
      entries.flatMap fun v => [v.name.toList, v.write printPacket g] := by
  induction entries with
  | nil => exact words_nil
  | cons v rest ih =>
    have hv := hgood v List.mem_cons_self
    have hline : configLine printPacket g v ++ rest.flatMap (configLine printPacket g) =
        v.name.toList ++ ' ' :: (v.write printPacket g ++
          '\n' :: rest.flatMap (configLine printPacket g)) := by
      simp [configLine]
    rw [List.flatMap_cons, hline, words_cons hv.word rfl, words_cons (isWord_write printPacket hv g) rfl,
      ih fun w hw => hgood w (List.mem_cons_of_mem v hw)]
    rfl

lemma loadConfigLoop_lines {g : ShellGlobals} {entries : List VEntry} (hne : entries ≠ [])
    (hgood : ∀ v ∈ entries, GoodEntry v)
    (hdecimal : ∀ v ∈ entries, v.accessFlags &&& VarWrite ≠ 0 → Decimal v.type (v.ptr.get g))
    (r : Text) (h : ShellGlobals) :
    ∃ response,
      loadConfigLoop printPacket (entries.flatMap fun v => [v.name.toList, v.write printPacket g]) r h =
        .ok ⟨0, response, entries.foldl (settle g) h⟩ := by
  induction entries generalizing r h with
  | nil => exact absurd rfl hne
  | cons v rest ih =>
    have hv := hgood v List.mem_cons_self
    have hshort := hv.short
    have hvalue := length_write printPacket hv g
    have hread := read_write printPacket hv h (hdecimal v List.mem_cons_self)
    rw [List.flatMap_cons, List.cons_append, List.cons_append, List.nil_append, loadConfigLoop,
      if_neg (by omega), hv.found, List.foldl_cons]
    dsimp only
    rw [hread]
    by_cases hrest : rest = []
    · rw [hrest, List.flatMap_nil, if_pos rfl, List.foldl_nil]
      exact ⟨_, rfl⟩
    · have hwords : rest.flatMap (fun v => [v.name.toList, v.write printPacket g]) ≠ [] := by
        simpa [List.flatMap_eq_nil_iff] using List.exists_mem_of_ne_nil rest hrest
      rw [if_neg hwords]
      exact ih hrest (fun w hw => hgood w (List.mem_cons_of_mem v hw))
        (fun w hw => hdecimal w (List.mem_cons_of_mem v hw)) _ _

lemma length_configText (g : ShellGlobals) : (configText printPacket g).length < 1024 * 10 := by
  have hline : ∀ v ∈ configEntries, (configLine printPacket g v).length ≤ 100 := by
    intro v hv
    have hshort := (goodEntry hv).short
    have hvalue := length_write printPacket (goodEntry hv) g
    simp only [configLine, List.length_append, List.length_cons, List.length_nil]
    omega
  have hsum := List.sum_le_card_nsmul
    (configEntries.map fun v => (configLine printPacket g v).length) 100 (by simpa using hline)
  have hcount : configEntries.length = 38 := rfl
  rw [configText, filter_inConfig, List.length_flatMap]
  rw [List.length_map, hcount, smul_eq_mul] at hsum
  omega

end

/-! ### The variables -/

section

variable {t : VariableType} (name : String) (ptr : Pointer t.Value) (g h : ShellGlobals)

lemma settle_read : settle g h ⟨name, t, ptr, VarRead⟩ = h := by
  unfold settle
  exact if_pos (by decide : VarRead &&& VarWrite = 0)

lemma settle_write :
    settle g h ⟨name, t, ptr, VarRead ||| VarWrite⟩ = ptr.set (reread t (ptr.get g)) h := by
  unfold settle
  exact if_neg (by decide : ¬(VarRead ||| VarWrite) &&& VarWrite = 0)

lemma foldl_settle : configEntries.foldl (settle g) h = restored g h := by
  have hjoints : ∀ joints : Fin NUM_MOTORS → JointParams,
      Function.update (Function.update joints 0 (g.jointParams.joints 0)) 1 (g.jointParams.joints 1) =
        g.jointParams.joints := by
    intro joints
    funext i
    match i with
    | 0 => rfl
    | 1 => rfl
  simp only [configEntries, systemParamEntries, jointParamEntries, driveParamEntries, List.tail_cons,
    List.foldl_append, List.foldl_cons, List.foldl_nil, settle_read, settle_write, reread,
    Int16.toInt16_toUInt16, jointParamPtr, Function.update_self, Function.update_idem, hjoints]
  rfl

/-- Only floats can be different from what they were when the file was written. -/
lemma restored_iff : (∀ v ∈ configVariables, v.ptr.get (restored g h) = v.ptr.get g) ↔
    ∀ x ∈ driveFloats g.driveParams, rounded x = x := by
  have hread : VarRead &&& VarWrite = 0 := rfl
  have hwrite : (VarRead ||| VarWrite) &&& VarWrite = 2 := rfl
  simp only [configVariables, List.mem_filter, decide_eq_true_eq, and_imp]
  simp only [systemParamEntries, jointParamEntries, driveParamEntries, packetEntry, List.forall_mem_append,
    List.forall_mem_cons, hread, hwrite, restored, jointParamPtr, driveFloats]
  simp

lemma decimal_configEntries {g : ShellGlobals} (hg : ∀ x ∈ driveFloats g.driveParams, x.Finite) :
    ∀ v ∈ configEntries, v.accessFlags &&& VarWrite ≠ 0 → Decimal v.type (v.ptr.get g) := by
  have hread : VarRead &&& VarWrite = 0 := rfl
  have hwrite : (VarRead ||| VarWrite) &&& VarWrite = 2 := rfl
  simp only [driveFloats, List.forall_mem_cons] at hg
  simp only [configEntries, systemParamEntries, jointParamEntries, driveParamEntries, List.tail_cons,
    List.forall_mem_append, List.forall_mem_cons, hread, hwrite, Decimal]
  simp [hg]

end

/-! ### Saving and loading -/

variable (printPacket : String → ShellGlobals → Text)

lemma loadConfig_saveConfig {g : ShellGlobals} (hg : ∀ x ∈ driveFloats g.driveParams, x.Finite)
    (fileName : Text) (h : ShellGlobals) :
    ∃ file response,
      saveConfigFn printPacket fileName true g = .ok (⟨0, [], g⟩, some file) ∧
      loadConfigFn printPacket fileName (some file) h = .ok ⟨0, response, restored g h⟩ := by
  have hgood : ∀ v ∈ configEntries, GoodEntry v := fun v hv => goodEntry hv
  have hne : configEntries ≠ [] := List.cons_ne_nil _ _
  obtain ⟨response, hload⟩ := loadConfigLoop_lines printPacket hne hgood (decimal_configEntries hg) [] h
  refine ⟨configText printPacket g, response, ?_, ?_⟩
  · rw [saveConfigFn, if_pos rfl, if_pos (length_configText printPacket g)]
  · rw [foldl_settle] at hload
    rw [loadConfigFn, configText, filter_inConfig, words_lines printPacket hgood, hload]

lemma rounded_eq_iff {x : Binary32} (hx : x.Finite) : rounded x = x ↔ FiveDecimals x :=
  Binary32.nearest_inUnits_iff hx

/-- The file of a state is loaded without an error from any other, and restores every variable
exactly if all floats are nearest to numbers with five decimals. -/
theorem loadConfig_restores_iff {g : ShellGlobals} (hg : ∀ x ∈ driveFloats g.driveParams, x.Finite)
    (fileName : Text) (h : ShellGlobals) :
    ∃ file result,
      saveConfigFn printPacket fileName true g = .ok (⟨0, [], g⟩, some file) ∧
      loadConfigFn printPacket fileName (some file) h = .ok result ∧ result.ret = 0 ∧
      ((∀ v ∈ configVariables, v.ptr.get result.globals = v.ptr.get g) ↔
        ∀ x ∈ driveFloats g.driveParams, FiveDecimals x) := by
  obtain ⟨file, response, hsave, hload⟩ := loadConfig_saveConfig printPacket hg fileName h
  refine ⟨file, _, hsave, hload, rfl, (restored_iff g h).trans ?_⟩
  exact forall₂_congr fun x hx => rounded_eq_iff (hg x hx)

/-- The firmware's initial parameters with other odometry constants. -/
def calibrated (kr kl : Binary32) : ShellGlobals where
  systemStatus := initSystemStatus
  systemParams := initSystemParams
  jointStatus := initJointStatus
  jointParams := initJointParams
  driveStatus := ⟨⟨0, 0, 0⟩, ⟨0⟩, ⟨0⟩, ⟨0⟩, ⟨0⟩, ⟨0⟩, ⟨0⟩, ⟨0⟩, ⟨0⟩, ⟨0⟩⟩
  driveParams :=
    { header := ⟨DIFFERENTIAL_DRIVE_PARAM_PACKET_ID, sizeofDriveParamPacket, 0⟩
      kr := kr
      kl := kl
      baseline := ⟨0x3ECCCCCD⟩
      rightJointIndex := 0
      leftJointIndex := 1
      maxTranslationalVelocity := ⟨0x40000000⟩
      maxTranslationalAcceleration := ⟨0x40000000⟩
      maxTranslationalBrake := ⟨0x40800000⟩
      maxRotationalVelocity := ⟨0x40000000⟩
      maxRotationalAcceleration := ⟨0x41A00000⟩ }
  paramControl := ⟨⟨0, 0, 0⟩, 0, 0⟩
  jointControl := initJointControl
  driveControl := ⟨⟨0, 0, 0⟩, ⟨0⟩, ⟨0⟩⟩

/-- The initial constants of 0.001 are restored. -/
theorem loadConfig_restores_iff_initial :
    ∃ file result,
      saveConfigFn (fun _ _ => []) [] true (calibrated ⟨0x3A83126F⟩ ⟨0x3A83126F⟩) =
        .ok (⟨0, [], calibrated ⟨0x3A83126F⟩ ⟨0x3A83126F⟩⟩, some file) ∧
      loadConfigFn (fun _ _ => []) [] (some file) (calibrated ⟨0⟩ ⟨0⟩) = .ok result ∧
      result.ret = 0 ∧ ∀ v ∈ configVariables,
        v.ptr.get result.globals = v.ptr.get (calibrated ⟨0x3A83126F⟩ ⟨0x3A83126F⟩) := by
  have hg : ∀ x ∈ driveFloats (calibrated ⟨0x3A83126F⟩ ⟨0x3A83126F⟩).driveParams, x.Finite := by
    decide
  have hrounded : ∀ x ∈ driveFloats (calibrated ⟨0x3A83126F⟩ ⟨0x3A83126F⟩).driveParams,
      rounded x = x := by
    decide +kernel
  obtain ⟨file, result, hsave, hload, hret, hiff⟩ :=
    loadConfig_restores_iff (fun _ _ => []) hg [] (calibrated ⟨0⟩ ⟨0⟩)
  exact ⟨file, result, hsave, hload, hret,
    hiff.mpr fun x hx => (rounded_eq_iff (hg x hx)).mp (hrounded x hx)⟩

/-- The constants 1/30000 and -1/30000 come back as 0.00003 and -0.00003. -/
theorem calibration_lost :
    ∃ file result,
      saveConfigFn (fun _ _ => []) [] true (calibrated ⟨0x380BCF65⟩ ⟨0xB80BCF65⟩) =
        .ok (⟨0, [], calibrated ⟨0x380BCF65⟩ ⟨0xB80BCF65⟩⟩, some file) ∧
      loadConfigFn (fun _ _ => []) [] (some file) (calibrated ⟨0⟩ ⟨0⟩) = .ok result ∧
      result.globals.driveParams.kr = ⟨0x37FBA882⟩ ∧ result.globals.driveParams.kl = ⟨0xB7FBA882⟩ ∧
      ¬∀ v ∈ configVariables,
        v.ptr.get result.globals = v.ptr.get (calibrated ⟨0x380BCF65⟩ ⟨0xB80BCF65⟩) := by
  have hg : ∀ x ∈ driveFloats (calibrated ⟨0x380BCF65⟩ ⟨0xB80BCF65⟩).driveParams, x.Finite := by
    decide
  have hkr : rounded ⟨0x380BCF65⟩ = ⟨0x37FBA882⟩ := by decide +kernel
  have hkl : rounded ⟨0xB80BCF65⟩ = ⟨0xB7FBA882⟩ := by decide +kernel
  obtain ⟨file, response, hsave, hload⟩ :=
    loadConfig_saveConfig (fun _ _ => []) hg [] (calibrated ⟨0⟩ ⟨0⟩)
  refine ⟨file, _, hsave, hload, hkr, hkl, ?_⟩
  intro hall
  have hsame := (restored_iff _ _).mp hall ⟨0x380BCF65⟩ List.mem_cons_self
  rw [hkr] at hsame
  exact absurd hsame (by decide)

end Orazio.Proofs
