import Orazio.Model.ShellProgram

/-!
# The websocket server

Model of `orazio_websocket_server.c`: the table of connections, the page that is sent to all of them in
each round of the loop in `main`, and the commands that come back. A connection is what `libwebsockets`
hands to the callbacks; `pre` is its `LWS_SEND_BUFFER_PRE_PADDING`. The contents of the files that it serves
and the stubs of the page are not modelled.
-/

namespace Orazio

open Stdio

abbrev MAX_CONNECTIONS : Nat := 1024
abbrev BUF_SIZE : Nat := 10240
abbrev PATH_SIZE : Nat := 1024

inductive WindowMode
  | system | joints | drive
  deriving DecidableEq, Repr

variable {κ : Type} [DecidableEq κ]

/-! ### Connections -/

def findConnection (conn : κ) (connections : List (Option κ)) : Option Nat :=
  connections.findIdx? (· = some conn)

def getFreeConnectionIdx (connections : List (Option κ)) : Option Nat :=
  connections.findIdx? (· = none)

def freeConnection (conn : κ) (connections : List (Option κ)) : List (Option κ) :=
  match findConnection conn connections with
  | none => connections
  | some idx => connections.set idx none

/-- The callback for a new connection; there may be no entry for it. -/
def addConnection (conn : κ) (connections : List (Option κ)) : List (Option κ) :=
  match getFreeConnectionIdx connections with
  | none => connections
  | some idx => connections.set idx (some conn)

def initConnections : List (Option κ) :=
  List.replicate MAX_CONNECTIONS none

/-! ### The page -/

def getVarsByPrefix (start : String) : List VEntry :=
  variableEntries.filter fun v => start.toList.isPrefixOf v.name.toList

section

variable (printPacket : String → ShellGlobals → Text) (g : ShellGlobals)

/-- A row of `printVarList`. -/
def varRow (v : VEntry) : Text :=
  "<tr><td valign=\"top\"> ".toList ++ v.name.toList ++ " </td>\n".toList ++
    (if v.accessFlags &&& VarRead ≠ 0 then
      "<td style=\"min-width:120px\">".toList ++ v.write printPacket g ++ "</td>".toList
    else []) ++ "</tr>\n".toList

def printVarList (list : List VEntry) : Text :=
  "<p> <table border=\"1\">\n".toList ++ list.flatMap (varRow printPacket g) ++ "</table> </p>".toList

/-- The names of the status and the parameters of a window, with its own. -/
def WindowMode.names : WindowMode → String × String × String
  | system => ("System", "system_status.", "system_params.")
  | joints => ("Joint", "joint_status.", "joint_params.")
  | drive => ("Drive", "drive_status.", "drive_params.")

/-- The text that a round of the loop collects in `buffer`. -/
def page (mode : WindowMode) : Text :=
  let (name, status, params) := mode.names
  "<p> <table border=\"0\">".toList ++ "<tr>\n".toList ++
    "<th> ".toList ++ name.toList ++ " Status  </th>\n".toList ++
    "<th> ".toList ++ name.toList ++ " Params  </th>\n".toList ++ "</tr>\n".toList ++ "<tr>\n".toList ++
    "<td valign=\"top\"> ".toList ++ printVarList printPacket g (getVarsByPrefix status) ++ " </td>\n".toList ++
    "<td valign=\"top\"> ".toList ++ printVarList printPacket g (getVarsByPrefix params) ++ " </td>\n".toList ++
    "</tr>\n".toList ++ "</table> </p>\n".toList

/-- The lists that every round prints into buffers of `BUF_SIZE`, with the NUL at their ends. -/
def varListsFit : Bool :=
  ["response_vars.", "system_status.", "system_params.", "joint_status.", "joint_params.", "drive_status.",
    "drive_params."].all fun start => (printVarList printPacket g (getVarsByPrefix start)).length < BUF_SIZE

end

/-! ### The server -/

structure WebServer (F κ : Type) where
  resourcePath : Text
  shell : Shell F
  mode : WindowMode
  connections : List (Option κ)

/-- A callback of `libwebsockets` or a round of the loop in `main`; a call of the runner, or bytes on the serial
line, as in the shell. -/
inductive WebInput (κ : Type)
  | established (conn : κ)
  | closed (conn : κ)
  | received (line : Text) (opened : Bool)
  | http (uri : Text)
  | service
  | runner (i : ShellInput)

inductive WebEvent (F κ : Type)
  | connections
  | received (line : Text) (files : Text → Option Text) (outcome : CommandOutcome F)
  /-- The file that `lws_serve_http_file` is called with. -/
  | http (resourceFile : Text)
  /-- The texts that `lws_write` is called with. -/
  | written (writes : List (κ × Text))
  | runner (e : ShellEvent F)

inductive WebStop
  | shell (e : ShellStop)
  | bufferOverflow | exited
  deriving DecidableEq

/-- The part of `callback_http` that selects the window; `<:+:` is `strstr`. -/
def requestMode (uri : Text) (mode : WindowMode) : WindowMode :=
  if "system".toList <:+: uri then .system
  else if "joints".toList <:+: uri then .joints
  else if "drive".toList <:+: uri then .drive
  else mode

/-- The part that selects the file. -/
def requestFile (resourcePath uri : Text) : Text :=
  resourcePath ++ if uri = ['/'] then "/index.html".toList else uri

namespace WebServer

variable {F : Type} [CFloat F] (printPacket : String → ShellGlobals → Text) (pre : Nat)

/-- A round of the loop: the page goes to all connections in the table. -/
def writePage (s : WebServer F κ) : Except WebStop (List (κ × Text)) :=
  let buffer := page printPacket s.shell.globals s.mode
  if varListsFit printPacket s.shell.globals ∧ buffer.length < 102400 ∧ pre + (buffer.length + 1) ≤ 10240 then
    .ok (s.connections.reduceOption.map fun wsi => (wsi, buffer))
  else .error .bufferOverflow

/-- The command of a client has 1024 bytes for its response. -/
def receive (line : Text) (opened : Bool) (s : WebServer F κ) :
    Except WebStop (CommandOutcome F × WebServer F κ) :=
  match executeCommand printPacket line opened s.shell with
  | .error e => .error (.shell e)
  | .ok outcome =>
    if outcome.response.length < 1024 then .ok (outcome, { s with shell := outcome.shell })
    else .error .bufferOverflow

def step (s : WebServer F κ) : WebInput κ → Except WebStop (WebEvent F κ × WebServer F κ)
  | .established conn => .ok (.connections, { s with connections := addConnection conn s.connections })
  | .closed conn => .ok (.connections, { s with connections := freeConnection conn s.connections })
  | .received line opened =>
    match s.receive printPacket line opened with
    | .error e => .error e
    | .ok (outcome, s') => .ok (.received line s.shell.files outcome, s')
  | .http uri =>
    let resourceFile := requestFile s.resourcePath uri
    if resourceFile.length < PATH_SIZE then
      .ok (.http resourceFile, { s with mode := requestMode uri s.mode })
    else .error .bufferOverflow
  | .service =>
    if s.shell.run then
      match s.writePage printPacket pre with
      | .error e => .error e
      | .ok writes => .ok (.written writes, s)
    else .error .exited
  | .runner i =>
    match shellStep printPacket s.shell i with
    | .error e => .error (.shell e)
    | .ok (e, shell) => .ok (.runner e, { s with shell })

/-- The server before its first round. -/
def start (resourcePath : Text) (shell : Shell F) : WebServer F κ :=
  ⟨resourcePath, shell, .system, initConnections⟩

end WebServer

end Orazio
