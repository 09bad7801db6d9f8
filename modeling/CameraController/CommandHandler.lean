import CameraController.CameraFunction
import CameraController.Commands
import CameraController.StateMachine

/-! # The command handler and the threads it starts

`CommandHandler::onCommandReceived` runs in the server's thread, one command after
another.  It shares the camera, `activeFunction` and the function objects with the
threads that the functions start.  Here all of them are one state machine: an
action takes up a command, lets the handler do its next step, or lets a thread do
its next step, with the answer the outside gives to that step.

The handler is cut where it calls libgphoto2, changes the camera, deletes, creates
or starts something, or waits.  `connect()` is reached from three places
(`Purpose`).  The `std::future` of a test capture is destroyed at once, which
blocks the handler until the test is over (`awaitTest`).  `CMD_ID_REBOOT` and
`CMD_ID_SHUTDOWN` run another program and change nothing here. -/
namespace CameraController

/-- The command a number stands for. -/
def CommandId.ofCode (code : UInt8) : Option CommandId :=
  [shutdown, reboot, functionStart, functionStop, cameraTestConnection, cameraReconnect,
    functionTestCapture, downloadAfterExposure, sequencerSetup,
    intervalometerSetup].find? fun id => id.code == code

theorem CommandId.ofCode_eq_some_iff {code : UInt8} {id : CommandId} :
    ofCode code = some id ↔ code = id.code := by
  constructor
  · intro h
    have hid := List.find?_some (p := fun id : CommandId => id.code == code) h
    exact (beq_iff_eq.mp hid).symm
  · rintro rfl
    cases id <;> rfl

/-- Who has the camera connected: `CMD_ID_CAMERA_RECONNECT`, or `connectCamera()`
in `start()` or `testCapture()` of a function. -/
inductive Purpose where
  | reconnect
  | start (o : Nat)
  | test (o : Nat)
  deriving DecidableEq, Repr

/-- What the handler does next. -/
inductive HandlerPc where
  | idle
  | testConnection
  | disconnect
  | exitCamera
  | freeCamera
  | forgetCamera
  | markDisconnected
  | connect (p : Purpose)
  | initCamera (p : Purpose)
  | readSerial (p : Purpose)
  | freeFailed (p : Purpose)
  | isResponsive (p : Purpose)
  | connected (p : Purpose)
  | awaitTest (k : Nat)
  | setupDelete (c : Setup)
  | setupCreate (c : Setup)
  deriving DecidableEq, Repr

/-- The program: the camera, the function objects there have been and the active
one, the threads there have been, and the handler. -/
structure Controller where
  camera : CameraWrapper := {}
  functions : List CameraFunction := []
  activeFunction : Option Nat := none
  threads : List Thread := []
  handler : HandlerPc := .idle
  terminated : Bool := false
  deriving DecidableEq, Repr

/-- Whose turn it is. -/
inductive Action where
  | command (c : Command)
  | handler (ans : Answer)
  | thread (k : Nat) (ans : Answer)
  deriving DecidableEq, Repr

namespace Controller

/-- `connectCamera()`, up to the first call or to its failure. -/
def connectCamera (s : Controller) (p : Purpose) : Controller :=
  if s.camera.connected then
    { s with handler := if s.camera.camera.isSome then .isResponsive p else .idle }
  else
    { s with handler := .connect p }

/-- The two setup branches. -/
def setup (s : Controller) (c : Setup) : Option Controller :=
  match s.activeFunction with
  | none => some { s with handler := .setupCreate c }
  | some o => do
    let f ← s.functions[o]?
    if f.isOperating then some s else some { s with handler := .setupDelete c }

/-- `onCommandReceived`, up to the first step that is not the handler's own.  A
command whose class is not the one its number is cast to does not come from the
decoder. -/
def onCommandReceived (s : Controller) (command : Command) : Option Controller :=
  match CommandId.ofCode command.cmdId, command with
  | some .cameraTestConnection, _ =>
    -- isResponsive() asks the camera only behind `connected && camera != nullptr`
    some { s with handler :=
      if s.camera.connected && s.camera.camera.isSome then .testConnection else .idle }
  | some .cameraReconnect, _ => some { s with handler := .disconnect }
  | some .sequencerSetup, .sequencerSetup _ numExposures expTime download =>
    s.setup ⟨.sequencer, numExposures, 0, expTime, download⟩
  | some .sequencerSetup, _ => none
  | some .intervalometerSetup, .intervalometerSetup _ numExposures expTime interval download =>
    s.setup ⟨.intervalometer, numExposures, interval, expTime, download⟩
  | some .intervalometerSetup, _ => none
  | some .downloadAfterExposure, .downloadAfterExposure _ download =>
    match s.activeFunction with
    | none => some s
    | some o => do
      let f ← s.functions[o]?
      some { s with functions := s.functions.set o { f with downloadAfterExposure := download } }
  | some .downloadAfterExposure, _ => none
  | some .functionTestCapture, _ =>
    match s.activeFunction with
    | none => some s
    | some o => do
      let f ← s.functions[o]?
      if f.isOperating then some s else some (s.connectCamera (.test o))
  | some .functionStart, _ =>
    match s.activeFunction with
    | none => some s
    | some o => do
      let f ← s.functions[o]?
      if f.testing || f.started then some s else some (s.connectCamera (.start o))
  | some .functionStop, _ =>
    match s.activeFunction with
    | none => some s
    | some o => do
      let f ← s.functions[o]?
      if f.started then some { s with functions := s.functions.set o f.abort } else some s
  | some .shutdown, _ => some s
  | some .reboot, _ => some s
  | none, _ => some s

end Controller

/-! ## The handler's own steps -/

/-- The steps of the handler that concern the camera only. -/
def cameraStep (w : CameraWrapper) : HandlerPc → Answer → Option (CameraWrapper × HandlerPc)
  | .testConnection, .serial _ => some (w, .idle)
  | .disconnect, .nothing =>
    some (w, if w.connected then if w.camera.isSome then .exitCamera else .markDisconnected
      else .connect .reconnect)
  | .exitCamera, .result _ => some (w.release, .freeCamera)
  | .freeCamera, .result _ => some (w.release, .forgetCamera)
  | .forgetCamera, .nothing => some ({ w with camera := none }, .markDisconnected)
  | .markDisconnected, .nothing => some ({ w with connected := false }, .connect .reconnect)
  | .connect p, .nothing => if w.connected then some (w, .connected p) else none
  | .connect p, .newCamera r =>
    if w.connected then none
    else match r with
      | .created => some (w.newHandle, .initCamera p)
      | .failed left => some (w.newFailed left, .idle)
  | .initCamera p, .result ok => some (w, if ok then .readSerial p else .freeFailed p)
  | .readSerial p, .serial text => some ({ w with serial := text, connected := true }, .connected p)
  | .freeFailed _, .result _ => some (w.release, .idle)
  | .isResponsive p, .serial text => some (w, if text = w.serial then .connected p else .idle)
  | .connected .reconnect, .nothing => some (w, .idle)
  | _, _ => none

namespace Controller

/-- A step of the handler within a command. -/
def handlerStep (s : Controller) (ans : Answer) : Option Controller :=
  match s.handler, ans with
  | .connected (.start o), .nothing => do
    let f ← s.functions[o]?
    some { s with
      functions := s.functions.set o { f with started := true }
      threads := s.threads ++ [⟨o, .run 0 .loopTest⟩]
      handler := .idle }
  | .connected (.test o), .nothing =>
    some { s with
      threads := s.threads ++ [⟨o, .test .begin⟩]
      handler := .awaitTest s.threads.length }
  | .awaitTest k, .nothing =>
    match s.threads[k]? with
    | some ⟨_, .test .exited⟩ => some { s with handler := .idle }
    | _ => none
  | .setupDelete c, .nothing => do
    let o ← s.activeFunction
    let f ← s.functions[o]?
    some { s with
      functions := s.functions.set o { f with deleted := true }
      handler := .setupCreate c }
  | .setupCreate c, .nothing =>
    some { s with
      functions := s.functions ++ [.new c]
      activeFunction := some s.functions.length
      handler := .idle }
  | h, ans => (cameraStep s.camera h ans).map fun r => { s with camera := r.1, handler := r.2 }

/-! ## The whole program -/

/-- A step of thread `k`. -/
def threadStep (s : Controller) (k : Nat) (ans : Answer) : Option Controller := do
  let t ← s.threads[k]?
  let f ← s.functions[t.object]?
  match t.task with
  | .run shots pc =>
    match ← pc.step f shots ans with
    | .moved f shots pc =>
      some { s with
        functions := s.functions.set t.object f
        threads := s.threads.set k { t with task := .run shots pc } }
    | .terminated => some { s with terminated := true }
  | .test pc =>
    let (f, pc) ← pc.step f ans
    some { s with
      functions := s.functions.set t.object f
      threads := s.threads.set k { t with task := .test pc } }

/-- A step of the program. -/
def step (s : Controller) (a : Action) : Option Controller :=
  if s.terminated then none
  else match a with
    | .command c => if s.handler = .idle then s.onCommandReceived c else none
    | .handler ans => s.handlerStep ans
    | .thread k ans => s.threadStep k ans

end Controller
end CameraController
