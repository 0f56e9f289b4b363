import Orazio.Lib.SlotTable
import Orazio.Model.WebsocketServer
import Orazio.Proofs.ShellVariables

/-!
# The pages of the websocket server

In every run the pages go to connections that are open, to each one once, and they show the values that were
last written to the variables of the window. No buffer overflows, whatever these values are.
-/

namespace Orazio.Proofs

open Stdio

/-! ### The size of a page -/

section

variable (printPacket : String → ShellGlobals → Text)

lemma variable_names : ∀ t ∈ variableEntries.map (·.name.toList), IsWord t ∧ t.length < 50 := by
  simp only [variableEntries, systemStatusEntries, systemParamEntries, jointStatusEntries, jointParamEntries,
    driveStatusEntries, driveParamEntries, controlEntries, packetEntry, List.cons_append, List.nil_append,
    List.map_cons, List.map_nil]
  repeat rw [String.toList_ofList]
  decide +kernel

lemma goodEntry_of_type {v : VEntry} (hv : v ∈ variableEntries) (htype : v.type ≠ .typePacket) : GoodEntry v := by
  have hall : ∀ v ∈ variableEntries, v.accessFlags &&& VarRead ≠ 0 ∧
      (v.accessFlags &&& VarWrite ≠ 0 → v.type ≠ .typeInt32Hex) := by
    decide +kernel
  obtain ⟨hword, hshort⟩ := variable_names _ (List.mem_map_of_mem hv)
  exact ⟨hword, hshort, findVar_name hv, (hall v hv).1, htype, (hall v hv).2⟩

lemma length_varRow {v : VEntry} (hv : GoodEntry v) (g : ShellGlobals) :
    (varRow printPacket g v).length = v.name.toList.length + (v.write printPacket g).length + 68 := by
  have h₁ : "<tr><td valign=\"top\"> ".toList.length = 22 := by decide
  have h₂ : " </td>\n".toList.length = 7 := by decide
  have h₃ : "<td style=\"min-width:120px\">".toList.length = 28 := by decide
  have h₄ : "</td>".toList.length = 5 := by decide
  have h₅ : "</tr>\n".toList.length = 6 := by decide
  unfold varRow
  rw [if_pos hv.readable, List.length_append, List.length_append, List.length_append, List.length_append,
    List.length_append, List.length_append, h₁, h₂, h₃, h₄, h₅]
  omega

lemma length_flatMap_le {α β : Type} {f : α → List β} {n : ℕ} {l : List α} (h : ∀ a ∈ l, (f a).length ≤ n) :
    (l.flatMap f).length ≤ l.length * n := by
  induction l with
  | nil => exact Nat.zero_le _
  | cons a l ih =>
    have hhead := h a List.mem_cons_self
    have htail := ih fun b hb => h b (List.mem_cons_of_mem a hb)
    rw [List.flatMap_cons, List.length_append, List.length_cons, Nat.succ_mul]
    omega

/-- The prefixes of the lists that a round prints. -/
def listPrefixes : List String :=
  ["response_vars.", "system_status.", "system_params.", "joint_status.", "joint_params.", "drive_status.",
    "drive_params."]

lemma prefix_names : ∀ start ∈ listPrefixes.map (·.toList), '.' ∈ start ∧
    ((variableEntries.map (·.name.toList)).filter start.isPrefixOf).length ≤ 17 := by
  simp only [listPrefixes, variableEntries, systemStatusEntries, systemParamEntries, jointStatusEntries,
    jointParamEntries, driveStatusEntries, driveParamEntries, controlEntries, packetEntry, List.cons_append,
    List.nil_append, List.map_cons, List.map_nil]
  repeat rw [String.toList_ofList]
  decide +kernel

lemma packet_names : ∀ v ∈ variableEntries, v.type = .typePacket → '.' ∉ v.name.toList := by
  decide +kernel

lemma length_getVarsByPrefix_le {start : String} (h : start ∈ listPrefixes) :
    (getVarsByPrefix start).length ≤ 17 := by
  have hcount := (prefix_names _ (List.mem_map_of_mem h)).2
  rwa [List.filter_map, List.length_map] at hcount

/-- All these prefixes have a point, so that no full packet is printed. -/
lemma goodEntry_getVarsByPrefix {start : String} (h : start ∈ listPrefixes) {v : VEntry}
    (hv : v ∈ getVarsByPrefix start) : GoodEntry v := by
  obtain ⟨hmem, hprefix⟩ := List.mem_filter.mp hv
  have hpoint := (prefix_names _ (List.mem_map_of_mem h)).1
  exact goodEntry_of_type hmem fun htype =>
    packet_names v hmem htype ((List.isPrefixOf_iff_prefix.mp hprefix).subset hpoint)

lemma length_printVarList_le {start : String} (h : start ∈ listPrefixes) (g : ShellGlobals) :
    (printVarList printPacket g (getVarsByPrefix start)).length ≤ 2824 := by
  have hcount := length_getVarsByPrefix_le h
  have hrow : ∀ v ∈ getVarsByPrefix start, (varRow printPacket g v).length ≤ 164 := by
    intro v hv
    have hgood := goodEntry_getVarsByPrefix h hv
    have hname := hgood.short
    have hvalue := length_write printPacket hgood g
    rw [length_varRow printPacket hgood]
    omega
  have hrows := length_flatMap_le hrow
  have hlength : (printVarList printPacket g (getVarsByPrefix start)).length =
      ((getVarsByPrefix start).flatMap (varRow printPacket g)).length + 36 := by
    have h₁ : "<p> <table border=\"1\">\n".toList.length = 23 := by decide
    have h₂ : "</table> </p>".toList.length = 13 := by decide
    unfold printVarList
    rw [List.length_append, List.length_append, h₁, h₂]
    omega
  rw [hlength]
  omega

lemma names_mem_listPrefixes (mode : WindowMode) :
    mode.names.1.toList.length ≤ 6 ∧ mode.names.2.1 ∈ listPrefixes ∧ mode.names.2.2 ∈ listPrefixes := by
  cases mode <;> decide

lemma length_page_le (g : ShellGlobals) (mode : WindowMode) : (page printPacket g mode).length ≤ 5808 := by
  obtain ⟨hname, hstatus, hparams⟩ := names_mem_listPrefixes mode
  have hs := length_printVarList_le printPacket hstatus g
  have hp := length_printVarList_le printPacket hparams g
  have hlength : (page printPacket g mode).length = 148 + 2 * mode.names.1.toList.length +
      (printVarList printPacket g (getVarsByPrefix mode.names.2.1)).length +
      (printVarList printPacket g (getVarsByPrefix mode.names.2.2)).length := by
    unfold page
    generalize mode.names = names
    obtain ⟨name, status, params⟩ := names
    dsimp only
    have h₁ : "<p> <table border=\"0\">".toList.length = 22 := by decide
    have h₂ : "<tr>\n".toList.length = 5 := by decide
    have h₃ : "<th> ".toList.length = 5 := by decide
    have h₄ : " Status  </th>\n".toList.length = 15 := by decide
    have h₅ : " Params  </th>\n".toList.length = 15 := by decide
    have h₆ : "</tr>\n".toList.length = 6 := by decide
    have h₇ : "<td valign=\"top\"> ".toList.length = 18 := by decide
    have h₈ : " </td>\n".toList.length = 7 := by decide
    have h₉ : "</table> </p>\n".toList.length = 14 := by decide
    rw [List.length_append, List.length_append, List.length_append, List.length_append, List.length_append,
      List.length_append, List.length_append, List.length_append, List.length_append, List.length_append,
      List.length_append, List.length_append, List.length_append, List.length_append, List.length_append,
      List.length_append, List.length_append, h₁, h₂, h₃, h₄, h₅, h₆, h₇, h₈, h₉]
    omega
  rw [hlength]
  omega

lemma varListsFit_all (g : ShellGlobals) : varListsFit printPacket g = true := by
  refine List.all_eq_true.mpr fun start hstart => decide_eq_true ?_
  have hlength := length_printVarList_le printPacket hstart g
  have hsize : BUF_SIZE = 10240 := rfl
  omega

/-- The variables that the page of a window shows. -/
def windowVars (mode : WindowMode) : List VEntry :=
  getVarsByPrefix mode.names.2.1 ++ getVarsByPrefix mode.names.2.2

lemma varRow_infix_printVarList {v : VEntry} {list : List VEntry} (hv : v ∈ list) (g : ShellGlobals) :
    varRow printPacket g v <:+: printVarList printPacket g list := by
  obtain ⟨before, after, rfl⟩ := List.append_of_mem hv
  unfold printVarList
  rw [List.flatMap_append, List.flatMap_cons]
  exact (List.infix_append' _ _ _).trans (List.infix_append _ _ _)

lemma type_of_mem_windowVars {mode : WindowMode} {v : VEntry} (hv : v ∈ windowVars mode) :
    v.type ≠ .typePacket := by
  obtain ⟨-, hstatus, hparams⟩ := names_mem_listPrefixes mode
  cases List.mem_append.mp hv with
  | inl h => exact (goodEntry_getVarsByPrefix hstatus h).type
  | inr h => exact (goodEntry_getVarsByPrefix hparams h).type

/-- A row depends on the value of its variable only. -/
lemma varRow_congr {v : VEntry} (htype : v.type ≠ .typePacket) {g g' : ShellGlobals}
    (h : v.ptr.get g = v.ptr.get g') : varRow printPacket g v = varRow printPacket g' v := by
  unfold varRow
  rw [write_congr printPacket htype h]

lemma varRow_infix_page {mode : WindowMode} {v : VEntry} (hv : v ∈ windowVars mode) (g : ShellGlobals) :
    varRow printPacket g v <:+: page printPacket g mode := by
  rw [windowVars, List.mem_append] at hv
  unfold page
  generalize mode.names = names at hv ⊢
  obtain ⟨name, status, params⟩ := names
  -- Behind the list of the parameters there are three more texts, and between the lists two.
  have hend : ∀ t, varRow printPacket g v <:+: t → ∀ t₁ t₂ t₃, varRow printPacket g v <:+: t ++ t₁ ++ t₂ ++ t₃ :=
    fun t h t₁ t₂ t₃ => List.infix_append_of_infix_left
      (List.infix_append_of_infix_left (List.infix_append_of_infix_left h))
  dsimp only
  apply hend
  cases hv with
  | inl hstatus =>
    refine List.infix_append_of_infix_left (List.infix_append_of_infix_left (List.infix_append_of_infix_left ?_))
    exact List.infix_append_of_infix_right (varRow_infix_printVarList printPacket hstatus g)
  | inr hparams => exact List.infix_append_of_infix_right (varRow_infix_printVarList printPacket hparams g)

lemma writePage_eq {F κ : Type} {pre : ℕ} (hpre : pre ≤ 4096) (s : WebServer F κ) :
    s.writePage printPacket pre =
      .ok (s.connections.reduceOption.map fun wsi => (wsi, page printPacket s.shell.globals s.mode)) := by
  have hlength := length_page_le printPacket s.shell.globals s.mode
  rw [WebServer.writePage, if_pos ⟨varListsFit_all printPacket _, by omega, by omega⟩]

end

/-! ### Runs of the server -/

section

variable {F κ : Type} [CFloat F] [DecidableEq κ]

/-- The connections that are open after a callback. -/
def nextOpen (conns : List κ) : WebInput κ → List κ
  | .established conn => conn :: conns
  | .closed conn => conns.erase conn
  | _ => conns

/-- `libwebsockets` does not establish a connection that is open. -/
def NewConnection (conns : List κ) : WebInput κ → Prop
  | .established conn => conn ∉ conns
  | _ => True

instance (conns : List κ) (i : WebInput κ) : Decidable (NewConnection conns i) := by
  unfold NewConnection
  split <;> infer_instance

/-- There are entries for all open connections. -/
def FewOpen (conns : List κ) (i : WebInput κ) : Prop :=
  (nextOpen conns i).length ≤ MAX_CONNECTIONS

instance (conns : List κ) (i : WebInput κ) : Decidable (FewOpen conns i) :=
  Nat.decLe _ _

def nextTable (connections : List (Option κ)) : WebInput κ → List (Option κ)
  | .established conn => SlotTable.insert conn connections
  | .closed conn => SlotTable.remove conn connections
  | _ => connections

/-- The window that was last requested. -/
def nextMode (mode : WindowMode) : WebInput κ → WindowMode
  | .http uri => requestMode uri mode
  | _ => mode

/-- What a step writes to the variables. -/
def webWrites : WebEvent F κ → List ShellWrite
  | .received line files outcome => commandWrites files line outcome
  | .runner e => eventWrites e
  | _ => []

/-- What a step does to each part of the server. -/
structure WebStepEffect (s : WebServer F κ) (i : WebInput κ) (e : WebEvent F κ) (s' : WebServer F κ) : Prop where
  connections : s'.connections = nextTable s.connections i
  mode : s'.mode = nextMode s.mode i
  writes : ∀ p w, w ∈ entriesOf p →
    w.ptr.get s'.shell.globals = (webWrites e).foldl (valueAfter p w) (w.ptr.get s.shell.globals)

variable {printPacket : String → ShellGlobals → Text} {pre : ℕ}

lemma webStep_effect {s s' : WebServer F κ} {i : WebInput κ} {e : WebEvent F κ}
    (h : s.step printPacket pre i = .ok (e, s')) : WebStepEffect s i e s' := by
  cases i with
  | established conn =>
    cases h
    exact ⟨rfl, rfl, fun _ _ _ => rfl⟩
  | closed conn =>
    cases h
    exact ⟨rfl, rfl, fun _ _ _ => rfl⟩
  | received line opened =>
    rw [WebServer.step, WebServer.receive] at h
    cases hexec : executeCommand printPacket line opened s.shell with
    | error e => simp only [hexec, reduceCtorEq] at h
    | ok outcome =>
      simp only [hexec] at h
      split at h
      · cases h
      · next outcome' s'' heq =>
        cases h
        split at heq
        · cases heq
          exact ⟨rfl, rfl, fun p w hw => executeCommand_writes printPacket hw hexec⟩
        · cases heq
  | http uri =>
    rw [WebServer.step] at h
    split at h
    · cases h
      exact ⟨rfl, rfl, fun _ _ _ => rfl⟩
    · cases h
  | service =>
    rw [WebServer.step] at h
    split at h
    · split at h
      · cases h
      · cases h
        exact ⟨rfl, rfl, fun _ _ _ => rfl⟩
    · cases h
  | runner i =>
    rw [WebServer.step] at h
    split at h
    · cases h
    · next e shell hstep =>
      cases h
      exact ⟨rfl, rfl, fun p w hw => shellStep_writes printPacket hw hstep⟩

lemma length_nextTable (connections : List (Option κ)) (i : WebInput κ) :
    (nextTable connections i).length = connections.length := by
  unfold nextTable
  split
  · exact SlotTable.length_insert _ _
  · exact SlotTable.length_remove _ _
  · rfl

lemma tracks_nextTable {connections : List (Option κ)} {conns : List κ} {few few' : Prop}
    (hlength : connections.length = MAX_CONNECTIONS) (h : SlotTable.Tracks connections conns few) {i : WebInput κ}
    (hnew : NewConnection conns i) (hfew : few' → few ∧ FewOpen conns i) :
    SlotTable.Tracks (nextTable connections i) (nextOpen conns i) few' := by
  cases i with
  | established conn =>
    refine h.insert hnew fun hf => ⟨(hfew hf).1, ?_⟩
    rw [hlength]
    exact (hfew hf).2
  | closed conn => exact h.remove conn fun hf => (hfew hf).1
  | received line opened => exact ⟨h.nodup, h.subset, fun hf => h.perm (hfew hf).1⟩
  | http uri => exact ⟨h.nodup, h.subset, fun hf => h.perm (hfew hf).1⟩
  | service => exact ⟨h.nodup, h.subset, fun hf => h.perm (hfew hf).1⟩
  | runner i => exact ⟨h.nodup, h.subset, fun hf => h.perm (hfew hf).1⟩

/-- The table follows the open connections, by induction on the run. -/
lemma connections_track {resourcePath : Text} {shell : Shell F} {inputs : List (WebInput κ)}
    {events : List (WebEvent F κ)} {s : WebServer F κ}
    (h : StepMachine.run (WebServer.step printPacket pre) (WebServer.start resourcePath shell) inputs = .ok (events, s))
    (hnew : StepMachine.SafeInputs nextOpen NewConnection [] inputs) :
    s.connections.length = MAX_CONNECTIONS ∧
      SlotTable.Tracks s.connections (inputs.foldl nextOpen [])
        (StepMachine.SafeInputs nextOpen FewOpen [] inputs) := by
  refine StepMachine.run_history (fun is _ s => StepMachine.SafeInputs nextOpen NewConnection [] is →
    s.connections.length = MAX_CONNECTIONS ∧ SlotTable.Tracks s.connections (is.foldl nextOpen [])
      (StepMachine.SafeInputs nextOpen FewOpen [] is)) ?_ ?_ h hnew
  · exact fun _ => ⟨List.length_replicate, SlotTable.tracks_empty _ _⟩
  · intro is events s i e s' hs hstep hsafe
    obtain ⟨hbefore, hi⟩ := (StepMachine.safeInputs_concat nextOpen NewConnection [] is i).mp hsafe
    obtain ⟨hlength, htracks⟩ := hs hbefore
    rw [(webStep_effect hstep).connections, List.foldl_concat, length_nextTable]
    exact ⟨hlength, tracks_nextTable hlength htracks hi
      (StepMachine.safeInputs_concat nextOpen FewOpen [] is i).mp⟩

lemma mode_run {s₀ s : WebServer F κ} {inputs : List (WebInput κ)} {events : List (WebEvent F κ)}
    (h : StepMachine.run (WebServer.step printPacket pre) s₀ inputs = .ok (events, s)) :
    s.mode = inputs.foldl nextMode s₀.mode := by
  refine StepMachine.run_history (fun is _ s => s.mode = is.foldl nextMode s₀.mode) rfl ?_ h
  intro is events s i e s' hs hstep
  rw [(webStep_effect hstep).mode, hs, List.foldl_concat]

lemma web_run_writes {p : ShellPacket} {w : VEntry} (hw : w ∈ entriesOf p)
    {s₀ s : WebServer F κ} {inputs : List (WebInput κ)} {events : List (WebEvent F κ)}
    (h : StepMachine.run (WebServer.step printPacket pre) s₀ inputs = .ok (events, s)) :
    w.ptr.get s.shell.globals = (events.flatMap webWrites).foldl (valueAfter p w) (w.ptr.get s₀.shell.globals) := by
  refine StepMachine.run_history (fun _ events s => w.ptr.get s.shell.globals =
    (events.flatMap webWrites).foldl (valueAfter p w) (w.ptr.get s₀.shell.globals)) rfl ?_ h
  intro is events s i e s' hs hstep
  rw [List.flatMap_append, List.foldl_append, ← hs, List.flatMap_singleton]
  exact (webStep_effect hstep).writes p w hw

/-- After every run of the server, the next round sends the page of the window that was last requested to
connections that are open, to none of them twice, and to all of them if never more than 1024 were open. The
page shows for each variable of the window the value that was last written to it. No buffer overflows in the
round. -/
theorem pages_reach_open_connections {resourcePath : Text} {shell : Shell F} {inputs : List (WebInput κ)}
    {events : List (WebEvent F κ)} {s : WebServer F κ} (hpre : pre ≤ 4096)
    (hnew : StepMachine.SafeInputs nextOpen NewConnection [] inputs)
    (h : StepMachine.run (WebServer.step printPacket pre) (WebServer.start resourcePath shell) inputs = .ok (events, s))
    (hgo : s.shell.run = true) :
    ∃ writes, s.step printPacket pre .service = .ok (.written writes, s) ∧ (writes.map (·.1)).Nodup ∧
      (∀ write ∈ writes, write.1 ∈ inputs.foldl nextOpen []) ∧
      (StepMachine.SafeInputs nextOpen FewOpen [] inputs →
        (writes.map (·.1)).Perm (inputs.foldl nextOpen [])) ∧
      ∀ write ∈ writes, ∀ p, ∀ w ∈ entriesOf p, w ∈ windowVars (inputs.foldl nextMode .system) →
        ∀ g, w.ptr.get g = (events.flatMap webWrites).foldl (valueAfter p w) (w.ptr.get shell.globals) →
          varRow printPacket g w <:+: write.2 := by
  obtain ⟨-, htracks⟩ := connections_track h hnew
  have hfst : (s.connections.reduceOption.map fun wsi => (wsi, page printPacket s.shell.globals s.mode)).map
      (·.1) = s.connections.reduceOption := by
    rw [List.map_map]
    exact List.map_id _
  refine ⟨s.connections.reduceOption.map fun wsi => (wsi, page printPacket s.shell.globals s.mode),
    ?_, ?_, ?_, ?_, ?_⟩
  · rw [WebServer.step, if_pos hgo, writePage_eq printPacket hpre]
  · rw [hfst]
    exact htracks.nodup
  · intro write hwrite
    obtain ⟨wsi, hwsi, rfl⟩ := List.mem_map.mp hwrite
    exact htracks.subset wsi hwsi
  · rw [hfst]
    exact htracks.perm
  · intro write hwrite p w hw hwindow g hg
    obtain ⟨wsi, -, rfl⟩ := List.mem_map.mp hwrite
    have hmode : s.mode = inputs.foldl nextMode .system := mode_run h
    have hvalue : w.ptr.get g = w.ptr.get s.shell.globals := hg.trans (web_run_writes hw h).symm
    rw [← hmode] at hwindow
    rw [varRow_congr printPacket (type_of_mem_windowVars hwindow) hvalue]
    exact varRow_infix_page printPacket hwindow s.shell.globals

lemma step_of_executeCommand {s : WebServer F κ} {line : Text} {opened : Bool} {outcome : CommandOutcome F}
    (h : executeCommand printPacket line opened s.shell = .ok outcome) (hshort : outcome.response.length < 1024) :
    s.step printPacket pre (.received line opened) =
      .ok (.received line s.shell.files outcome, { s with shell := outcome.shell }) := by
  rw [WebServer.step, WebServer.receive, h]
  simp only [if_pos hshort]

/-- Two clients connect, one of them sets a parameter and requests its window, and the other one leaves. -/
def webSession : List (WebInput Nat) :=
  [.established 1, .established 2, .http "/joints.html".toList,
    .received "set system_params.comm_cycles 4".toList true, .http "/system.html".toList, .closed 1]

theorem pages_reach_open_connections_session :
    ∃ (s : WebServer BitFloat Nat) (text : Text),
      s.step (fun _ _ => []) 16 .service = .ok (.written [(2, text)], s) ∧
      ("<tr><td valign=\"top\"> system_params.comm_cycles </td>\n" ++
        "<td style=\"min-width:120px\">4</td></tr>\n").toList <:+: text := by
  obtain ⟨⟨events, s⟩, hrun, hgo, hwrites⟩ : ∃ r, StepMachine.run (WebServer.step (fun _ _ => []) 16)
        (WebServer.start "html".toList (Shell.start blankClient fun _ => none)) webSession = .ok r ∧
      r.2.shell.run = true ∧ r.1.flatMap webWrites = [.assign "system_params.comm_cycles".toList "4".toList] := by
    have hset := executeCommand_set (fun _ _ => []) commCyclesEntry_mem (by decide) tokens_setCycles true
      (Shell.start blankClient fun _ => none)
    have hshort := fun g => length_setResponse_lt (fun _ _ => []) commCyclesEntry_good g
    refine ⟨(_, _), StepMachine.run_cons_eq_ok.mpr ⟨_, _, _, rfl, StepMachine.run_cons_eq_ok.mpr ⟨_, _, _, rfl,
      StepMachine.run_cons_eq_ok.mpr ⟨_, _, _, rfl, StepMachine.run_cons_eq_ok.mpr ⟨_, _, _,
        step_of_executeCommand hset (hshort _), StepMachine.run_cons_eq_ok.mpr ⟨_, _, _, rfl,
          StepMachine.run_cons_eq_ok.mpr ⟨_, _, _, rfl, StepMachine.run_nil _, rfl⟩, rfl⟩, rfl⟩, rfl⟩, rfl⟩, rfl⟩,
      rfl, ?_⟩
    simp only [List.flatMap_cons, List.flatMap_nil, webWrites, commandWrites, lineWrites_set tokens_setCycles]
    rfl
  obtain ⟨writes, hstep, -, -, hall, hrows⟩ :=
    @pages_reach_open_connections _ _ _ _ _ _ _ _ _ _ _ (by decide) (by decide +kernel) hrun hgo
  have hopen : webSession.foldl nextOpen [] = [2] := by decide
  have hwindow : webSession.foldl nextMode .system = .system := by decide
  rw [hopen] at hall
  have hone := List.perm_singleton.mp (hall (by decide +kernel))
  obtain ⟨write, rfl, hconn⟩ := List.map_eq_singleton_iff.mp hone
  obtain ⟨conn, text⟩ := write
  cases hconn
  have hrow := hrows (2, text) List.mem_cons_self .systemParams commCyclesEntry commCyclesEntry_mem
    (by
      rw [hwindow]
      exact List.mem_append_right _ (List.mem_filter.mpr ⟨mem_variableEntries commCyclesEntry_mem, by decide⟩))
    { ShellGlobals.static with systemParams.commCycles := 4 }
    (by
      rw [hwrites]
      decide +kernel)
  refine ⟨s, text, hstep, ?_⟩
  have htext : varRow (fun _ _ => []) { ShellGlobals.static with systemParams.commCycles := 4 } commCyclesEntry =
      ("<tr><td valign=\"top\"> system_params.comm_cycles </td>\n" ++
        "<td style=\"min-width:120px\">4</td></tr>\n").toList := by
    refine Eq.trans ?_ String.toList_append.symm
    unfold varRow
    repeat rewrite [String.toList_ofList]
    decide +kernel
  rw [htext] at hrow
  exact hrow

end

end Orazio.Proofs
