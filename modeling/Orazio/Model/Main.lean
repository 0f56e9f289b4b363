import Orazio.Model.OrazioComm

/-!
# The main loop of the firmware

Model of `orazio.c`. From the start of the timer on `main` is cut into steps, between which the
timer may tick any number of times; `Pc` is the next step. A tick reads the sampled encoders, a call
of `Orazio_commHandle` the UART.
-/

namespace Orazio

variable {F π : Type} [CFloat F] [PinDriver π]

inductive Pc
  | setTickCounter | setWatchdogCount | head | driveUpdate | driveControl | commHandle | watchdog
  | rxPacketsBefore | clearCommHandle | clearIdleCycles
  deriving DecidableEq, Repr

structure MainState (F π : Type) where
  system : System F π
  tickCounter : UInt8
  commHandle : UInt8
  rxPacketsBefore : UInt16
  timerDurationMs : UInt16
  pc : Pc

inductive MainInput
  | tick (encoders : Fin NUM_MOTORS → UInt16)
  | step (io : UartIo)

/-- What a step does. `Orazio_driveControl` either runs the controller or not, and leaves some joint
controls. -/
inductive MainEvent
  | tick
  | head
  | driveUpdate
  | driveControl (ran : Bool) (joints : Fin NUM_MOTORS → JointControl)
  | commHandle (e : CommEvent)
  | watchdog (disabled : Bool)
  | assign

namespace MainState

/-- The variables of the firmware. -/
abbrev env (s : MainState F π) : Globals F π :=
  s.system.env

def setEnv (s : MainState F π) (g : Globals F π) : MainState F π :=
  { s with system := { s.system with env := g } }

def onTimerTick (encoders : Fin NUM_MOTORS → UInt16) (s : MainState F π) :
    Except Fault (MainState F π) :=
  match Orazio_hBridgeApplyControl (Orazio_jointsHandle encoders s.env) with
  | .error e => .error e
  | .ok g =>
    let s := { s.setEnv g with tickCounter := s.tickCounter - 1 }
    if s.tickCounter = 0 then
      .ok { s with tickCounter := g.systemParams.commCycles.toUInt8, commHandle := 1 }
    else .ok s

def setWatchdogCount (count : Int16) (g : Globals F π) : Globals F π :=
  { g with systemStatus := { g.systemStatus with watchdogCount := count } }

/-- The watchdog count that the first `if` of the watchdog block leaves. -/
def nextWatchdogCount (s : MainState F π) : Int16 :=
  if s.rxPacketsBefore = s.env.systemStatus.rxPackets then s.env.systemStatus.watchdogCount - 1
  else s.env.systemParams.watchdogCycles.toInt16

/-- The watchdog block, and whether it disables joints and drive. -/
def watchdogBlock (s : MainState F π) : Bool × Globals F π :=
  if s.env.systemParams.watchdogCycles ≠ 0 then
    let g := setWatchdogCount s.nextWatchdogCount s.env
    if g.systemStatus.watchdogCount = 0 ∧ g.systemParams.watchdogCycles ≠ 0 then
      (true, Orazio_driveDisable (Orazio_jointsDisable g))
    else (false, g)
  else (false, s.env)

def setIdleCycles (idle : UInt32) (g : Globals F π) : Globals F π :=
  { g with systemStatus := { g.systemStatus with idleCycles := idle } }

/-- The next step of the loop. -/
def loopStep (io : UartIo) (s : MainState F π) : Except Fault (MainEvent × MainState F π) :=
  match s.pc with
  | .setTickCounter =>
    .ok (.assign,
      { s with tickCounter := s.env.systemParams.commCycles.toUInt8, pc := .setWatchdogCount })
  | .setWatchdogCount =>
    .ok (.assign,
      { s.setEnv (setWatchdogCount s.env.systemParams.watchdogCycles.toInt16 s.env) with
        pc := .head })
  | .head =>
    let s := s.setEnv (setIdleCycles (s.env.systemStatus.idleCycles + 1) s.env)
    .ok (.head, if s.commHandle ≠ 0 then { s with pc := .driveUpdate } else s)
  | .driveUpdate =>
    match Orazio_driveUpdate s.env with
    | .error e => .error e
    | .ok g => .ok (.driveUpdate, { s.setEnv g with pc := .driveControl })
  | .driveControl =>
    match Orazio_driveControl s.env with
    | .error e => .error e
    | .ok (ran, g) =>
      .ok (.driveControl ran g.jointControl.joints, { s.setEnv g with pc := .commHandle })
  | .commHandle =>
    match Orazio_commHandle io s.system with
    | .error e => .error e
    | .ok (event, system) => .ok (.commHandle event, { s with system, pc := .watchdog })
  | .watchdog =>
    .ok (.watchdog s.watchdogBlock.1,
      { s.setEnv s.watchdogBlock.2 with pc := .rxPacketsBefore })
  | .rxPacketsBefore =>
    .ok (.assign,
      { s with rxPacketsBefore := s.env.systemStatus.rxPackets, pc := .clearCommHandle })
  | .clearCommHandle => .ok (.assign, { s with commHandle := 0, pc := .clearIdleCycles })
  | .clearIdleCycles =>
    .ok (.assign, { s.setEnv (setIdleCycles 0 s.env) with pc := .head })

def mainStep (s : MainState F π) : MainInput → Except Fault (MainEvent × MainState F π)
  | .tick encoders =>
    match s.onTimerTick encoders with
    | .error e => .error e
    | .ok s => .ok (.tick, s)
  | .step io => s.loopStep io

end MainState

/-- The static handler of the firmware. -/
def staticHandler : DeferredPacketHandler OrazioAction where
  packetInfos := fun _ => .zero
  pendingPackets := fun _ => 0
  pendingPacketsSize := 0
  baseHandler :=
    { txBuffer := fun _ => 0, txStart := 0, txEnd := 0, txSize := 0, txChecksum := 0
      operations := fun _ => none, rxCurrentOp := none, rxCurrentPacket := none, rxChecksum := 0
      rxBuffer := none, rxBufferEnd := none, rxBytesToRead := 0, rxFn := .rxAA }

/-- The initialisation of the subsystems. -/
def initSubsystems (g : Globals F π) : Except Fault (Globals F π) :=
  match Orazio_paramInit g with
  | .error e => .error e
  | .ok g => Orazio_driveInit (Orazio_hBridgeInit (Orazio_jointsInit g))

/-- `main` up to the start of the timer, from the variables `g`. -/
def startMain (g : Globals F π) : Except Fault (MainState F π) :=
  match initSubsystems g with
  | .error e => .error e
  | .ok g =>
    match Orazio_commInit ⟨staticHandler, fun _ => 0, g⟩ with
    | .error e => .error e
    | .ok system =>
      .ok
        { system := system
          tickCounter := 0
          commHandle := 0
          rxPacketsBefore := 0
          timerDurationMs := system.env.systemParams.timerPeriodMs.toUInt16
          pc := .setTickCounter }

/-- A microcontroller with this EEPROM and these pins is switched on. -/
def boot (eeprom : Nat → UInt8) (pins : π) : Except Fault (MainState F π) :=
  startMain (Globals.static eeprom pins)

end Orazio
