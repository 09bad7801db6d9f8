import CameraController.CommandHandler

/-! # What the program is for

To a client the program is one camera function at a time.  It is configured, runs, and is
finished; while it does not run, it can be tested or replaced.  Captures are taken one at a
time, for the function that is running or tested, with the settings it has then.

`CaptureService` is that machine.  `service` shows the program as one, without its threads
and the steps of the handler, and `serviceActions` says which of its actions a step of the
program is, if any. -/
namespace CameraController

/-- Where a function stands. -/
inductive Phase where
  | configured
  | running
  | finished
  deriving DecidableEq, Repr

/-- The function and its settings, and what is under way. -/
structure CaptureService where
  function : Option (Setup × Phase) := none
  testing : Bool := false
  capturing : Bool := false
  deriving DecidableEq, Repr

inductive ServiceAction where
  | configure (c : Setup)
  | download (value : Bool)
  | start
  | finish
  | beginTest
  | endTest
  | beginCapture (exposureTime : Int32) (download : Bool)
  | endCapture
  deriving DecidableEq, Repr

namespace CaptureService

def step (s : CaptureService) : ServiceAction → Option CaptureService
  | .configure c =>
    match s.function with
    | some (_, .running) => none
    | _ => if s.testing then none else some { s with function := some (c, .configured) }
  | .download value => do
    let (c, phase) ← s.function
    return { s with function := some ({ c with download := value }, phase) }
  | .start =>
    match s.function with
    | some (c, .configured) =>
      if s.testing then none else some { s with function := some (c, .running) }
    | _ => none
  | .finish =>
    match s.function with
    | some (c, .running) =>
      if s.capturing then none else some { s with function := some (c, .finished) }
    | _ => none
  | .beginTest =>
    match s.function with
    | none | some (_, .running) => none
    | _ => if s.testing then none else some { s with testing := true }
  | .endTest => if s.testing && !s.capturing then some { s with testing := false } else none
  | .beginCapture exposureTime download => do
    let (c, phase) ← s.function
    if (phase = .running ∨ s.testing = true) ∧ s.capturing = false ∧
        c.exposureTime = exposureTime ∧ c.download = download then
      some { s with capturing := true }
    else
      none
  | .endCapture => if s.capturing then some { s with capturing := false } else none

end CaptureService

/-! ## The program as a service -/

namespace CameraFunction

/-- The settings a function has now. -/
def setup (f : CameraFunction) : Setup :=
  ⟨f.id, f.numShots, f.interval, f.exposureTime, f.downloadAfterExposure⟩

def phase (f : CameraFunction) : Phase :=
  if f.finished then .finished else if f.started then .running else .configured

end CameraFunction

namespace Controller

/-- The active function. -/
def active (s : Controller) : Option CameraFunction := do
  let o ← s.activeFunction
  s.functions[o]?

/-- A thread is in `camera.capture`. -/
def capturing (s : Controller) : Bool := s.threads.any fun t => t.task.inCapture

/-- The program, as its clients know it. -/
def service (s : Controller) : CaptureService where
  function := s.active.map fun f => (f.setup, f.phase)
  testing := s.active.elim false CameraFunction.testing
  capturing := s.capturing

/-- A capture for an object begins. -/
def beginsCapture (s : Controller) (o : Nat) : List ServiceAction :=
  match s.functions[o]? with
  | none => []
  | some f => [.beginCapture f.exposureTime f.downloadAfterExposure]

/-- What a step is to the clients. -/
def serviceActions (s : Controller) : Action → List ServiceAction
  | .command c =>
    match CommandId.ofCode c.cmdId, c, s.activeFunction with
    | some .downloadAfterExposure, .downloadAfterExposure _ download, some _ =>
      [.download download]
    | _, _, _ => []
  | .handler _ =>
    match s.handler with
    | .setupCreate c => [.configure c]
    | .connected (.start _) => [.start]
    | _ => []
  | .thread k ans =>
    match s.threads[k]? with
    | none => []
    | some ⟨o, .run _ .enter⟩ | some ⟨o, .test .enter⟩ => s.beginsCapture o
    | some ⟨_, .run _ (.capture c download)⟩ =>
      match captureStep download c ans with
      | some (.returned _) => [.endCapture]
      | _ => []
    | some ⟨_, .run _ .finish⟩ => [.finish]
    | some ⟨_, .test .begin⟩ => [.beginTest]
    | some ⟨_, .test (.capture c download)⟩ =>
      match captureStep download c ans with
      | some (.goOn _) => []
      | _ => [.endCapture]
    | some ⟨_, .test .finish⟩ => [.endTest]
    | some _ => []

end Controller
end CameraController
