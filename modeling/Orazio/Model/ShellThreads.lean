import Orazio.Lib.Stdio
import Orazio.Model.OrazioPackets
import Orazio.Model.PacketHandler

/-!
# The two threads of the shell

Model of `paramFn` and its three commands in `orazio_shell_commands.c`, of `_runnerFn` in
`orazio_shell.c` and of `refreshState` in `orazio_shell_globals.c`. A step of a thread is one access to
a shared variable or to a semaphore, or one call of the client; what the client does is an input of the
step. A test of `op_result` belongs to the assignment before it: no other thread assigns it.
-/

namespace Orazio

open Stdio

/-- The value of a `sem_t` while it is initialised. -/
abbrev Semaphore := Option Nat

/-- The next step of the shell thread; between two commands it is `idle`. -/
inductive ShellPc
  | idle | semInit | setFlag | semWait | clearFlag | semDestroy | returnResult
  deriving DecidableEq, Repr

/-- The next step of the runner thread. `refreshState i` is the assignment of `op_result` with the
number `i` in that function. -/
inductive RunnerPc
  | whileRun | sync | refreshState (i : Fin 4) | getResponse | testStateSem | postStateSem
  | testParamSem | sendPacket | sendResult | refreshParams | postParamSem | exited
  deriving DecidableEq, Repr

/-- The shared variables and the positions of the threads. -/
structure Threads where
  run : Bool
  opResult : PacketStatus
  stateSem : Semaphore
  stateSemInit : Bool
  paramSem : Semaphore
  paramSemInit : Bool
  paramControl : ParamControlPacket
  shell : ShellPc
  runner : RunnerPc

inductive ShellCommand
  | fetch (varName : Text)
  | store (varName : Text)
  | request (varName : Text)
  | quit

/-- What a call of the client gives the runner: the status it returns, and the sequence number that it
puts into a packet to be sent. -/
structure ClientAnswer where
  status : PacketStatus
  seq : UInt16

inductive ThreadInput
  | shell (command : ShellCommand)
  | runner (answer : ClientAnswer)

inductive ThreadEvent
  /-- `paramFn` assigns `param_control`. -/
  | call (query : ParamControlPacket)
  /-- `paramFn` returns -1 with this response. -/
  | rejected (response : Text)
  | returned (status : PacketStatus)
  /-- The runner finds `param_sem_init` set. -/
  | requested
  /-- `OrazioClient_sendPacket` is called with this packet. -/
  | sent (packet : ParamControlPacket)
  /-- Its status is assigned to `op_result`. -/
  | result (status : PacketStatus)
  | internal

/-- Why a thread cannot take a step. -/
inductive ThreadStop
  | blocked | semaphoreNotInitialised | exited
  deriving DecidableEq, Repr

/-! ### Semaphores -/

def sem_wait : Semaphore → Except ThreadStop Semaphore
  | none => .error .semaphoreNotInitialised
  | some 0 => .error .blocked
  | some (n + 1) => .ok (some n)

def sem_post : Semaphore → Except ThreadStop Semaphore
  | none => .error .semaphoreNotInitialised
  | some n => .ok (some (n + 1))

/-! ### The shell thread -/

def paramNames : List Text :=
  ["system_params".toList, "joint_params".toList, "drive_params".toList]

def isParamPacket (name : Text) : Bool :=
  decide (name ∈ paramNames)

/-- What `paramFn` assigns to `param_control`, or its response. -/
def paramQuery (cmdName varName : Text) (action : UInt8) : Except Text ParamControlPacket :=
  if isParamPacket varName then
    let query := ParamControlPacket.mk ⟨PARAM_CONTROL_PACKET_ID, sizeofParamControlPacket, 0⟩ action
    if varName = "system_params".toList then .ok (query ParamSystem)
    else if varName = "joint_params".toList then .ok (query ParamJoints)
    else if varName = "drive_params".toList then .ok (query ParamDrive)
    else .error (cmdName ++ ": cannot handle params of type [".toList ++ varName ++ "]\n".toList)
  else .error (cmdName ++ ": only parameters can be loaded\n".toList)

namespace Threads

/-- `paramFn` up to the assignment of `param_control`. -/
def paramFn (cmdName varName : Text) (action : UInt8) (s : Threads) : ThreadEvent × Threads :=
  match paramQuery cmdName varName action with
  | .error response => (.rejected response, s)
  | .ok query => (.call query, { s with paramControl := query, shell := .semInit })

def fetchFn (varName : Text) : Threads → ThreadEvent × Threads :=
  paramFn "fetch".toList varName ParamLoad

def storeFn (varName : Text) : Threads → ThreadEvent × Threads :=
  paramFn "store".toList varName ParamSave

def requestFn (varName : Text) : Threads → ThreadEvent × Threads :=
  paramFn "request".toList varName ParamRequest

def quitFn (s : Threads) : ThreadEvent × Threads :=
  (.internal, { s with run := false })

/-- The next step of the shell thread. The loop of `main` takes a command as long as `run` is set. -/
def shellStep (command : ShellCommand) (s : Threads) : Except ThreadStop (ThreadEvent × Threads) :=
  match s.shell with
  | .idle =>
    if s.run then
      match command with
      | .fetch varName => .ok (s.fetchFn varName)
      | .store varName => .ok (s.storeFn varName)
      | .request varName => .ok (s.requestFn varName)
      | .quit => .ok s.quitFn
    else .error .exited
  | .semInit => .ok (.internal, { s with paramSem := some 0, shell := .setFlag })
  | .setFlag => .ok (.internal, { s with paramSemInit := true, shell := .semWait })
  | .semWait =>
    match sem_wait s.paramSem with
    | .error e => .error e
    | .ok paramSem => .ok (.internal, { s with paramSem, shell := .clearFlag })
  | .clearFlag => .ok (.internal, { s with paramSemInit := false, shell := .semDestroy })
  | .semDestroy => .ok (.internal, { s with paramSem := none, shell := .returnResult })
  | .returnResult => .ok (.returned s.opResult, { s with shell := .idle })

/-! ### The runner thread -/

/-- The position after an assignment of `op_result` in `refreshState`. -/
def refreshNext (i : Fin 4) (status : PacketStatus) : RunnerPc :=
  if h : i.val + 1 < 4 then
    if status ≠ .success then .testStateSem else .refreshState ⟨i.val + 1, h⟩
  else .getResponse

/-- The next step of the runner thread. -/
def runnerStep (answer : ClientAnswer) (s : Threads) : Except ThreadStop (ThreadEvent × Threads) :=
  match s.runner with
  | .whileRun => .ok (.internal, { s with runner := if s.run then .sync else .exited })
  | .sync => .ok (.internal, { s with runner := .refreshState 0 })
  | .refreshState i =>
    .ok (.internal, { s with opResult := answer.status, runner := refreshNext i answer.status })
  | .getResponse => .ok (.internal, { s with runner := .testStateSem })
  | .testStateSem =>
    .ok (.internal, { s with runner := if s.stateSemInit then .postStateSem else .testParamSem })
  | .postStateSem =>
    match sem_post s.stateSem with
    | .error e => .error e
    | .ok stateSem => .ok (.internal, { s with stateSem, runner := .testParamSem })
  | .testParamSem =>
    if s.paramSemInit then .ok (.requested, { s with runner := .sendPacket })
    else .ok (.internal, { s with runner := .whileRun })
  | .sendPacket =>
    .ok (.sent s.paramControl, { s with
      paramControl := { s.paramControl with header := { s.paramControl.header with seq := answer.seq } }
      runner := .sendResult })
  | .sendResult =>
    .ok (.result answer.status, { s with
      opResult := answer.status
      runner := if answer.status = .success then .refreshParams else .postParamSem })
  | .refreshParams => .ok (.internal, { s with runner := .postParamSem })
  | .postParamSem =>
    match sem_post s.paramSem with
    | .error e => .error e
    | .ok paramSem => .ok (.internal, { s with paramSem, runner := .whileRun })
  | .exited => .error .exited

def step (s : Threads) : ThreadInput → Except ThreadStop (ThreadEvent × Threads)
  | .shell command => s.shellStep command
  | .runner answer => s.runnerStep answer

/-- The variables when the runner thread is created. -/
def start : Threads where
  run := true
  opResult := .success
  stateSem := none
  stateSemInit := false
  paramSem := none
  paramSemInit := false
  paramControl := ⟨⟨PARAM_CONTROL_PACKET_ID, sizeofParamControlPacket, 0⟩, ParamRequest, ParamSystem⟩
  shell := .idle
  runner := .whileRun

end Threads

end Orazio
