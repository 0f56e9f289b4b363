import Orazio.Lib.CString
import Orazio.Model.OrazioClient
import Orazio.Model.OrazioShell
import Orazio.Model.PrintPacket
import Orazio.Model.ShellThreads

/-!
# The shell

Model of the commands in `orazio_shell_commands.c` and of the functions in `orazio_shell_globals.c` and
`orazio_shell.c` that move packets between the client and the variables of the shell. A line of the user is
one step, and so is each call of the runner thread; these calls come in any order. What is printed on the
terminal is left out, and of the commands that wait for the runner the part behind the wait.
-/

namespace Orazio

open Stdio

/-! ### The packets behind the variables -/

def ParamControlPacket.bytes (p : ParamControlPacket) : List UInt8 :=
  p.header.bytes ++ [p.action, p.paramType]

/-- The packets that the entries with `TypePacket` point to. -/
inductive ShellPacket
  | systemStatus | systemParams | jointStatus | jointParams | driveStatus | driveParams | paramControl
  | jointControl | driveControl
  deriving DecidableEq, Repr

namespace ShellPacket

def name : ShellPacket → String
  | systemStatus => "system_status"
  | systemParams => "system_params"
  | jointStatus => "joint_status"
  | jointParams => "joint_params"
  | driveStatus => "drive_status"
  | driveParams => "drive_params"
  | paramControl => "param_control"
  | jointControl => "joint_control"
  | driveControl => "drive_control"

def all : List ShellPacket :=
  [systemStatus, systemParams, jointStatus, jointParams, driveStatus, driveParams, paramControl,
    jointControl, driveControl]

/-- The packet behind an entry, `none` for the entries of single fields. -/
def ofEntry (v : VEntry) : Option ShellPacket :=
  if v.type = .typePacket then all.find? fun p => p.name = v.name else none

def type : ShellPacket → UInt8
  | systemStatus => SYSTEM_STATUS_PACKET_ID
  | systemParams => SYSTEM_PARAM_PACKET_ID
  | jointStatus => JOINT_STATUS_PACKET_ID
  | jointParams => JOINT_PARAM_PACKET_ID
  | driveStatus => DIFFERENTIAL_DRIVE_STATUS_PACKET_ID
  | driveParams => DIFFERENTIAL_DRIVE_PARAM_PACKET_ID
  | paramControl => PARAM_CONTROL_PACKET_ID
  | jointControl => JOINT_CONTROL_PACKET_ID
  | driveControl => DIFFERENTIAL_DRIVE_CONTROL_PACKET_ID

def bytes (p : ShellPacket) (g : ShellGlobals) : List UInt8 :=
  match p with
  | systemStatus => g.systemStatus.bytes
  | systemParams => g.systemParams.bytes
  | jointStatus => g.jointStatus.bytes
  | jointParams => g.jointParams.bytes
  | driveStatus => g.driveStatus.bytes
  | driveParams => g.driveParams.bytes
  | paramControl => g.paramControl.bytes
  | jointControl => g.jointControl.bytes
  | driveControl => g.driveControl.bytes

def ofMemory (p : ShellPacket) (m : PacketBytes) (g : ShellGlobals) : ShellGlobals :=
  match p with
  | systemStatus => { g with systemStatus := .ofBytes m }
  | systemParams => { g with systemParams := .ofBytes m }
  | jointStatus => { g with jointStatus := .ofBytes m }
  | jointParams => { g with jointParams := .ofBytes m }
  | driveStatus => { g with driveStatus := .ofBytes m }
  | driveParams => { g with driveParams := .ofBytes m }
  | paramControl => { g with paramControl := .ofBytes m }
  | jointControl => { g with jointControl := .ofBytes m }
  | driveControl => { g with driveControl := .ofBytes m }

def setSeq (p : ShellPacket) (seq : UInt16) (g : ShellGlobals) : ShellGlobals :=
  match p with
  | systemStatus => { g with systemStatus.header.seq := seq }
  | systemParams => { g with systemParams.header.seq := seq }
  | jointStatus => { g with jointStatus.header.seq := seq }
  | jointParams => { g with jointParams.header.seq := seq }
  | driveStatus => { g with driveStatus.header.seq := seq }
  | driveParams => { g with driveParams.header.seq := seq }
  | paramControl => { g with paramControl.header.seq := seq }
  | jointControl => { g with jointControl.header.seq := seq }
  | driveControl => { g with driveControl.header.seq := seq }

end ShellPacket

/-- A packet as memory. -/
def memoryOf (bytes : List UInt8) : PacketBytes :=
  fun i => bytes.getD i 0

/-- The variables when the shell is started: the control packets have initial values, all others are
zero. -/
def ShellGlobals.static : ShellGlobals where
  systemStatus := .ofBytes fun _ => 0
  systemParams := .ofBytes fun _ => 0
  jointStatus := .ofBytes fun _ => 0
  jointParams := .ofBytes fun _ => 0
  driveStatus := .ofBytes fun _ => 0
  driveParams := .ofBytes fun _ => 0
  paramControl := ⟨⟨PARAM_CONTROL_PACKET_ID, sizeofParamControlPacket, 0⟩, ParamRequest, ParamSystem⟩
  jointControl := ⟨⟨JOINT_CONTROL_PACKET_ID, sizeofJointControlPacket, 0⟩, fun _ => ⟨0, 0⟩⟩
  driveControl := ⟨⟨DIFFERENTIAL_DRIVE_CONTROL_PACKET_ID, sizeofDriveControlPacket, 0⟩, ⟨0⟩, ⟨0⟩⟩

/-! ### The program -/

/-- The variables, the client with the serial line, the flag of the loop in `main`, and the files with
their contents. -/
structure Shell (F : Type) where
  globals : ShellGlobals
  serial : LinkState F
  run : Bool
  files : Text → Option Text

/-- Why a step is not made: a buffer or the client fails, or the loop in `main` has ended. -/
inductive ShellStop
  | lineOverflow | responseOverflow
  | file (e : FileFault)
  | client (e : Stop)
  | exited
  deriving DecidableEq

/-- A call of `OrazioClient_sendPacket` with a packet of the shell, and the variables before. -/
structure ShellSend (F : Type) where
  packet : ShellPacket
  shown : ShellGlobals
  result : SendResult F

/-- What a command returns (`none` as long as it waits for the runner), its response, the packet that it
sends, and the shell behind it. -/
structure CommandOutcome (F : Type) where
  ret : Option Int
  response : Text
  sent : Option (ShellSend F)
  shell : Shell F

variable {F : Type} [CFloat F]

namespace Shell

/-- `OrazioClient_sendPacket` with a packet of the shell; its sequence number is written back. -/
def sendPacket (p : ShellPacket) (timeout : Int) (emitted : List UInt8) (s : Shell F) :
    Except ShellStop (ShellSend F × Shell F) :=
  match OrazioClient_sendPacket (memoryOf (p.bytes s.globals)) timeout (s.serial.link ++ emitted)
      s.serial.client with
  | .error e => .error (.client (.fault e))
  | .ok none => .error (.client .waiting)
  | .ok (some r) =>
    .ok (⟨p, s.globals, r⟩, { s with
      globals := p.setSeq (LittleEndian.getU16 r.packet 2) s.globals
      serial := ⟨r.client, r.link⟩ })

/-! ### Commands -/

section

variable (printPacket : String → ShellGlobals → Text)

def quitFn (s : Shell F) : CommandOutcome F :=
  ⟨some 0, [], none, { s with run := false }⟩

def printFn (varName : Text) (s : Shell F) : CommandOutcome F :=
  match findVar varName with
  | none => ⟨some (-1), "print: unknown variable name [".toList ++ varName ++ "]\n".toList, none, s⟩
  | some var => ⟨some 0, var.write printPacket s.globals, none, s⟩

def setFn (varName value : Text) (s : Shell F) : CommandOutcome F :=
  match findVar varName with
  | none => ⟨some (-1), "set: unknown variable [".toList ++ varName ++ "]\n".toList, none, s⟩
  | some var =>
    let globals := (var.read value s.globals).2
    ⟨some 0, varName ++ ' ' :: (var.write printPacket globals ++ ['\n']), none, { s with globals }⟩

/-- `sendFn`; a packet that is neither a parameter nor a control packet is sent after a warning. -/
def sendFn (varName : Text) (s : Shell F) : Except ShellStop (CommandOutcome F) :=
  match findVar varName with
  | none =>
    .ok ⟨some (-1), "send: unknown variable [".toList ++ varName ++ "]\n".toList, none, s⟩
  | some var =>
    match ShellPacket.ofEntry var with
    | none => .ok ⟨some (-1), [], none, s⟩
    | some p =>
      match s.sendPacket p 0 [] with
      | .error e => .error e
      | .ok (sent, s) => .ok ⟨some sent.result.status.code, [], some sent, s⟩

/-- `paramFn` up to the wait for the runner. -/
def paramFn (cmdName varName : Text) (action : UInt8) (s : Shell F) : CommandOutcome F :=
  match paramQuery cmdName varName action with
  | .error response => ⟨some (-1), response, none, s⟩
  | .ok query => ⟨none, [], none, { s with globals := { s.globals with paramControl := query } }⟩

/-- `dumpFn` only prints; it waits for the runner between two lines. -/
def dumpFn (varName : Text) (s : Shell F) : CommandOutcome F :=
  match findVar varName with
  | none => ⟨some (-1), [], none, s⟩
  | some _ => ⟨none, [], none, s⟩

def saveConfig (fileName : Text) (opened : Bool) (s : Shell F) : Except ShellStop (CommandOutcome F) :=
  match saveConfigFn printPacket fileName opened s.globals with
  | .error e => .error (.file e)
  | .ok (r, file) =>
    .ok ⟨some r.ret, r.response, none, { s with
      files := if file.isSome then Function.update s.files fileName file else s.files }⟩

def loadConfig (fileName : Text) (s : Shell F) : Except ShellStop (CommandOutcome F) :=
  match loadConfigFn printPacket fileName (s.files fileName) s.globals with
  | .error e => .error (.file e)
  | .ok r => .ok ⟨some r.ret, r.response, none, { s with globals := r.globals }⟩

end

end Shell

inductive CommandFn
  | quitFn | printFn | setFn | dumpFn | sendFn | requestFn | fetchFn | storeFn | saveConfigFn
  | loadConfigFn
  deriving DecidableEq, Repr

/-- `Command`, without its help text. -/
structure Command where
  name : String
  nArgs : Nat
  cmdFn : CommandFn
  deriving DecidableEq

def commands : List Command :=
  [⟨"quit", 0, .quitFn⟩, ⟨"print", 1, .printFn⟩, ⟨"set", 2, .setFn⟩, ⟨"dump", 2, .dumpFn⟩,
    ⟨"send", 1, .sendFn⟩, ⟨"request", 1, .requestFn⟩, ⟨"fetch", 1, .fetchFn⟩, ⟨"store", 1, .storeFn⟩,
    ⟨"save_config", 1, .saveConfigFn⟩, ⟨"load_config", 1, .loadConfigFn⟩]

def findCommand (name : Text) : Option Command :=
  commands.find? fun c => c.name.toList == name

/-- The call of `cmd_fn` with the arguments of a line. -/
def CommandFn.call (printPacket : String → ShellGlobals → Text) (fn : CommandFn) (args : List Text)
    (opened : Bool) (s : Shell F) : Except ShellStop (CommandOutcome F) :=
  let arg := fun i => args.getD i []
  match fn with
  | quitFn => .ok s.quitFn
  | printFn => .ok (s.printFn printPacket (arg 0))
  | setFn => .ok (s.setFn printPacket (arg 0) (arg 1))
  | dumpFn => .ok (s.dumpFn (arg 0))
  | sendFn => s.sendFn (arg 0)
  | requestFn => .ok (s.paramFn "request".toList (arg 0) ParamRequest)
  | fetchFn => .ok (s.paramFn "fetch".toList (arg 0) ParamLoad)
  | storeFn => .ok (s.paramFn "store".toList (arg 0) ParamSave)
  | saveConfigFn => s.saveConfig printPacket (arg 0) opened
  | loadConfigFn => s.loadConfig printPacket (arg 0)

/-- The tokens that `strtok` finds between blanks. -/
def tokens (line : Text) : List Text :=
  (line.splitOnP (· == ' ')).filter (· ≠ [])

/-- `executeCommand`. At most ten arguments are counted, and a command that does not take that many is
not called. -/
def executeCommand (printPacket : String → ShellGlobals → Text) (line : Text) (opened : Bool)
    (s : Shell F) : Except ShellStop (CommandOutcome F) :=
  if 1024 ≤ line.length then .error .lineOverflow
  else
    match tokens line with
    | [] => .ok ⟨some (-1), [], none, s⟩
    | name :: args =>
      match findCommand name with
      | none => .ok ⟨some (-1), [], none, s⟩
      | some cmd =>
        if (args.take 10).length = cmd.nArgs then cmd.cmdFn.call printPacket (args.take 10) opened s
        else .ok ⟨some 0, [], none, s⟩

/-! ### The calls of the runner -/

namespace Shell

/-- Packets are copied from the client, up to the first one that the client does not have. -/
def refresh : List ShellPacket → Shell F → Except ShellStop (List (ShellPacket × List UInt8) × Shell F)
  | [], s => .ok ([], s)
  | p :: ps, s =>
    match OrazioClient_get p.type s.serial.client with
    | .error e => .error (.client (.fault e))
    | .ok (status, bytes) =>
      if status ≠ .success then .ok ([], s)
      else
        match refresh ps { s with globals := p.ofMemory (memoryOf bytes) s.globals } with
        | .error e => .error e
        | .ok (copied, s) => .ok ((p, bytes) :: copied, s)

/-- `refreshState`; the end of the epoch and the response are not shown anywhere. -/
def refreshState (s : Shell F) : Except ShellStop (List (ShellPacket × List UInt8) × Shell F) :=
  s.refresh [.systemStatus, .driveStatus, .jointStatus]

def refreshParams (type : UInt8) (s : Shell F) : Except ShellStop (List (ShellPacket × List UInt8) × Shell F) :=
  if type = ParamSystem then s.refresh [.systemParams]
  else if type = ParamJoints then s.refresh [.jointParams]
  else if type = ParamDrive then s.refresh [.driveParams]
  else .ok ([], s)

/-- `OrazioClient_init` on the memory that `malloc` returns, and the variables of a shell that has not
done anything yet. Before its loop `main` calls `OrazioClient_sync`, `OrazioClient_readConfiguration` and
`refreshParams`; these are steps like those of the runner. -/
def start (cl : OrazioClient F) (files : Text → Option Text) : Shell F :=
  ⟨.static, ⟨cl.init, []⟩, true, files⟩

end Shell

/-! ### Completion -/

/-- `commonSubstring`, which cuts `dest`. -/
def commonSubstring : Text → Text → Text
  | c :: dest, d :: src => if c = d then c :: commonSubstring dest src else []
  | _, _ => []

/-- An iteration of the loop of `completeCommand` and `completeVar`: `completions[0]`, once it is set, and
the matches behind it. -/
def completeName (line : Text) (n : Nat) (completions : Option Text × List Text) (name : Text) :
    Option Text × List Text :=
  -- `strncmp`
  if line.take n = name.take n then
    (some (completions.1.elim name fun common => commonSubstring common name), completions.2 ++ [name])
  else completions

def completeFrom (names : List Text) (line : Text) (n : Nat) : Option (List Text) :=
  let completions := names.foldl (completeName line n) (none, [])
  completions.1.map fun common => common :: completions.2

def completeCommand (line : Text) (start stop : Nat) : Option (List Text) :=
  completeFrom (commands.map fun c => c.name.toList) line (stop - start)

def completeVar (line : Text) (start stop : Nat) : Option (List Text) :=
  completeFrom (variableEntries.map fun v => v.name.toList) line (stop - start)

/-- `completeLine` with the word to complete and its place in the line: the first word of a line is a
command. -/
def completeLine (line : Text) (start stop : Nat) : Option (List Text) :=
  if start = 0 then completeCommand line start stop else completeVar line start stop

/-! ### Steps -/

/-- A line of the user, with the success of `fopen` if it opens a file to write; bytes on the serial line;
a call of the runner, or one that `main` makes before it. While `readConfiguration` and `sendParam` wait
for a response the firmware sends `emitted`. -/
inductive ShellInput
  | command (line : Text) (opened : Bool)
  | received (bytes : List UInt8)
  | syncSend
  | syncRead
  | refreshState
  | readConfiguration (emitted : UInt8 → List UInt8)
  | refreshParams (type : UInt8)
  | sendParam (emitted : List UInt8)

/-- What a step does: a line with the files before it, bytes on the serial line, packets copied or sent. -/
inductive ShellEvent (F : Type)
  | command (line : Text) (files : Text → Option Text) (outcome : CommandOutcome F)
  | received (bytes : List UInt8)
  | syncSend (written : List UInt8)
  | syncRead
  | readConfiguration (results : List (SendResult F))
  | refreshed (copied : List (ShellPacket × List UInt8))
  | sendParam (emitted : List UInt8) (sent : ShellSend F)

def shellStep (printPacket : String → ShellGlobals → Text) (s : Shell F) :
    ShellInput → Except ShellStop (ShellEvent F × Shell F)
  | .command line opened =>
    if s.run then
      match executeCommand printPacket line opened s with
      | .error e => .error e
      | .ok outcome =>
        -- `main` has 10000 bytes for the response.
        if outcome.response.length < 10000 then .ok (.command line s.files outcome, outcome.shell)
        else .error .responseOverflow
    else .error .exited
  | .received bytes =>
    .ok (.received bytes, { s with serial := { s.serial with link := s.serial.link ++ bytes } })
  | .syncSend =>
    let (written, _, client) := Orazio.syncSend s.serial.client
    .ok (.syncSend written, { s with serial := { s.serial with client } })
  | .syncRead =>
    match OrazioClient.readPacket 0 s.serial.client s.serial.link with
    | .error e => .error (.client (.fault e))
    | .ok none => .error (.client .waiting)
    | .ok (some (_, client, link)) => .ok (.syncRead, { s with serial := ⟨client, link⟩ })
  | .readConfiguration emitted =>
    match OrazioClient_readConfiguration 100 emitted s.serial with
    | .error e => .error (.client e)
    | .ok (results, serial) => .ok (.readConfiguration results, { s with serial })
  | .refreshState =>
    match s.refreshState with
    | .error e => .error e
    | .ok (copied, s) => .ok (.refreshed copied, s)
  | .refreshParams type =>
    match s.refreshParams type with
    | .error e => .error e
    | .ok (copied, s) => .ok (.refreshed copied, s)
  | .sendParam emitted =>
    match s.sendPacket .paramControl 100 emitted with
    | .error e => .error e
    | .ok (sent, s) => .ok (.sendParam emitted sent, s)

end Orazio
