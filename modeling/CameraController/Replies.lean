import CameraController.CameraConfig
import CameraController.LogLines
import CameraController.ServiceRefinement

/-! # What clients are told about their commands

A client learns what became of its command from the log.  `replies` are the lines that
`onCommandReceived` logs, with `start`, `abort` and `testCapture` of the functions, the
constructors, and `connect` and `isResponsive` of the camera.  The lines of a command come in
several steps of the handler, between which the threads go on.

A `Deed` is what a command does to the functions and their threads.  It is read off the
states before and behind a step (`outcome`): a step that does anything else to them, or
less, is recorded as that.

`Exchange` says what may become of a command, given what the program is to the clients when
it is taken up: it is carried out, or it is refused by a line that names the reason, as the
last thing said about it.  Only a STOP for a function that has not been started is passed
over in silence.  Commands that are for no function are refused by nothing, and do nothing
to the functions. -/
namespace CameraController

open StateMachine

/-! ## Lines -/

/-- What is logged: a text, or a line that is formatted. -/
inductive LoggedText where
  | plain (text : String)
  | printed (line : FormattedLine)
  deriving DecidableEq, Repr

abbrev Reply := LogLevel × LoggedText

/-- The reasons for which a command is refused. -/
inductive Refusal where
  | notConfigured
  | running (id : FunctionID)
  | testing
  | started (id : FunctionID)
  | cannotStart (id : FunctionID)
  | operating
  | cannotTest
  | notStarted (id : FunctionID)
  deriving DecidableEq, Repr

namespace Refusal

def reply : Refusal → Reply
  | notConfigured => (.warning, .plain "No function configured.")
  | running .sequencer =>
    (.error, .plain "Cannot configure sequencer: Function already running.")
  | running .intervalometer =>
    (.error, .plain "Cannot configure intervalometer: Function already running.")
  | testing => (.error, .plain "Can't start while testing.")
  | started .sequencer => (.info, .plain "Sequencer already started")
  | started .intervalometer => (.info, .plain "Intervalometer already started")
  | cannotStart .sequencer => (.error, .plain "Cannot start sequencer")
  | cannotStart .intervalometer => (.error, .plain "Cannot start intervalometer")
  | operating => (.warning, .plain "Cannot test while operating.")
  | cannotTest => (.error, .plain "Cannot test capture, camera not connected.")
  | notStarted .sequencer => (.info, .plain "Sequencer not started or already ended")
  | notStarted .intervalometer => (.info, .plain "Intervalometer not started or already ended")

def all : List Refusal :=
  [notConfigured, testing, operating, cannotTest] ++
    [FunctionID.sequencer, .intervalometer].flatMap fun id =>
      [running id, started id, cannotStart id, notStarted id]

end Refusal

namespace Reply

/-- The line refuses a command. -/
def refuses (l : Reply) : Bool := Refusal.all.any fun r => r.reply = l

def unresponsive : Reply := (.error, .plain "Camera is not responsive!")

def unconnected : Reply := (.error, .plain "Failed connecting to camera!")

end Reply

/-- Each reason is a line that refuses. -/
theorem Refusal.refuses_reply (r : Refusal) : r.reply.refuses = true := by
  cases r with
  | running id | started id | cannotStart id | notStarted id => cases id <;> decide
  | _ => decide

/-- A formatted line refuses nothing. -/
theorem Reply.refuses_printed (level : LogLevel) (line : FormattedLine) :
    Reply.refuses (level, .printed line) = false := by
  simp [refuses, Refusal.all, Refusal.reply]

theorem Reply.calm_printed (level : LogLevel) (line : FormattedLine) :
    ∀ l ∈ [(level, LoggedText.printed line)], Reply.refuses l = false := by
  intro l hl
  obtain rfl := List.mem_singleton.mp hl
  exact refuses_printed level line

/-! ## What is done -/

/-- What is done for a command. -/
inductive Deed where
  | deleted
  | created (c : Setup)
  | download (value : Bool)
  | tested
  | started
  | aborted
  deriving DecidableEq, Repr

/-- The program without its camera and its handler. -/
structure Work where
  functions : List CameraFunction
  activeFunction : Option Nat
  threads : List Thread
  deriving DecidableEq, Repr

namespace Work

variable (w : Work)

/-- The active function is changed. -/
def update (g : CameraFunction → CameraFunction) : Work :=
  { w with functions := w.activeFunction.elim w.functions fun o => w.functions.modify o g }

/-- A thread is started for the active function. -/
def spawn (task : Task) : Work :=
  { w with threads := w.threads ++ w.activeFunction.toList.map fun o => ⟨o, task⟩ }

/-- **What a deed changes.** -/
def perform : Deed → Work
  | .deleted => w.update fun f => { f with deleted := true }
  | .created c =>
    { w with functions := w.functions ++ [.new c], activeFunction := some w.functions.length }
  | .download value => w.update fun f => { f with downloadAfterExposure := value }
  | .tested => w.spawn (.test .begin)
  | .started => (w.update fun f => { f with started := true }).spawn (.run 0 .loopTest)
  | .aborted => w.update fun f => { f with abortCond := true }

/-- What there is behind a deed, or without one. -/
def performed (d : Option Deed) : Work := d.elim w w.perform

end Work

/-- What a command asks for, if it is for a function. -/
def Command.deed? (c : Command) : Option Deed :=
  match CommandId.ofCode c.cmdId, c with
  | some .sequencerSetup, .sequencerSetup _ numExposures expTime download =>
    some (.created ⟨.sequencer, numExposures, 0, expTime, download⟩)
  | some .intervalometerSetup, .intervalometerSetup _ numExposures expTime interval download =>
    some (.created ⟨.intervalometer, numExposures, interval, expTime, download⟩)
  | some .downloadAfterExposure, .downloadAfterExposure _ download => some (.download download)
  | some .functionTestCapture, _ => some .tested
  | some .functionStart, _ => some .started
  | some .functionStop, _ => some .aborted
  | _, _ => none

/-! ## What the handler logs and does -/

/-- What libgphoto2 returns in a step of the handler: its call, or for a serial number
`gp_camera_get_single_config` and then `gp_widget_get_value`.  0 is `GP_OK`. -/
structure CallResults where
  call : Int32 := 0
  value : Int32 := 0
  deriving DecidableEq, Repr

namespace Controller

variable (s : Controller)

/-- `getSerialNumber()`.  A text that is not empty has been read without an error. -/
def serialReplies (results : CallResults) (text : String) : List Reply :=
  if text ≠ "" then []
  else if results.call ≠ 0 then
    [(.error, .printed (.configError .getConfig configSerialNumber results.call))]
  else if results.value ≠ 0 then
    [(.error, .printed (.configError .getValue configSerialNumber results.value))]
  else []

/-- The last line when the camera is not there. -/
def cannot : Purpose → List Reply
  | .reconnect => []
  | .start o => (s.functions[o]?).toList.map fun f => (Refusal.cannotStart f.id).reply
  | .test _ => [Refusal.cannotTest.reply]

/-- `connectCamera()`, up to the first call or to its failure. -/
def connectReplies (p : Purpose) : List Reply :=
  if s.camera.connected then
    if s.camera.camera.isSome then [] else Reply.unresponsive :: s.cannot p
  else
    [(.warning, .plain "Camera not connected!")]

/-- `connectCamera()` when `connect()` has failed. -/
def connectFailed : Purpose → List Reply
  | .reconnect => []
  | p => Reply.unconnected :: s.cannot p

/-- `connectCamera()` when `connect()` has succeeded. -/
def connectSucceeded : Purpose → List Reply
  | .reconnect => []
  | _ => [(.info, .plain "Succesfully connected to camera")]

/-- The two setup branches. -/
def setupReplies (id : FunctionID) : List Reply :=
  match s.activeFunction with
  | none => []
  | some o =>
    (s.functions[o]?).elim [] fun f => if f.isOperating then [(Refusal.running id).reply] else []

/-- The branches that need a function. -/
def activeReplies (replies : Nat → CameraFunction → List Reply) : List Reply :=
  match s.activeFunction with
  | none => [Refusal.notConfigured.reply]
  | some o => (s.functions[o]?).elim [] (replies o)

/-- `start()`, up to the first step that is not the handler's own. -/
def startReplies (o : Nat) (f : CameraFunction) : List Reply :=
  if f.testing then [Refusal.testing.reply]
  else if f.started then [(Refusal.started f.id).reply]
  else
    (match f.id with
      | .sequencer => [(.info, .plain "Starting sequencer")]
      | .intervalometer => []) ++ s.connectReplies (.start o)

/-- `abort()`. -/
def abortReplies (f : CameraFunction) : List Reply :=
  if f.finished then [(Refusal.notStarted f.id).reply]
  else
    match f.id with
    | .sequencer => [(.info, .plain "Aborting sequencer")]
    | .intervalometer => [(.info, .plain "Aborting intervalometer")]

/-- What a command logs before the first step that is not the handler's own. -/
def commandReplies (c : Command) : List Reply :=
  match CommandId.ofCode c.cmdId, c with
  | some .reboot, _ => [(.info, .plain "Received reboot command")]
  | some .shutdown, _ => [(.info, .plain "Received shutdown command")]
  | some .cameraTestConnection, _ =>
    if s.camera.connected then
      (.info, .plain "Camera connected.") ::
        if s.camera.camera.isSome then [] else [(.warning, .plain "Camera not responsive.")]
    else
      [(.warning, .plain "Camera not connected.")]
  | some .cameraReconnect, _ => [(.info, .plain "Disconnecting...")]
  | some .sequencerSetup, _ => s.setupReplies .sequencer
  | some .intervalometerSetup, _ =>
    (.debug, .plain "Received intervalometer config") :: s.setupReplies .intervalometer
  | some .downloadAfterExposure, .downloadAfterExposure _ download =>
    s.activeReplies fun _ _ =>
      [(.info, .plain (if download then "Downloading after exposure: yes"
        else "Downloading after exposure: no"))]
  | some .functionTestCapture, _ =>
    s.activeReplies fun o f =>
      if f.isOperating then [Refusal.operating.reply] else s.connectReplies (.test o)
  | some .functionStart, _ => s.activeReplies s.startReplies
  | some .functionStop, _ =>
    s.activeReplies fun _ f => if f.started then abortReplies f else []
  | _, _ => []

/-- The constructors. -/
def configured (c : Setup) : Reply :=
  match c.id with
  | .sequencer => (.info, .printed (.sequencerConfigured c.numShots c.exposureTime))
  | .intervalometer =>
    (.info, .printed (.intervalometerConfigured c.numShots c.exposureTime c.interval))

/-- What a step of the handler logs. -/
def handlerReplies (results : CallResults) (ans : Answer) : List Reply :=
  match s.handler, ans with
  | .testConnection, .serial text =>
    serialReplies results text ++
      if text = s.camera.serial then [(.info, .plain "Camera responsive.")]
      else [(.warning, .plain "Camera not responsive.")]
  | .disconnect, .nothing =>
    if s.camera.connected then [] else [(.info, .plain "Reconnecting...")]
  | .markDisconnected, .nothing => [(.info, .plain "Reconnecting...")]
  | .connect p, .nothing => connectSucceeded p
  | .connect p, .newCamera (.failed _) =>
    (.error, .printed (.cameraError .instantiating results.call)) :: s.connectFailed p
  | .initCamera _, .result false =>
    [(.error, .printed (.cameraError .initiating results.call))]
  | .readSerial p, .serial text =>
    serialReplies results text ++ (.info, .printed (.connected text)) :: connectSucceeded p
  | .freeFailed p, .result _ => s.connectFailed p
  | .isResponsive p, .serial text =>
    serialReplies results text ++
      if text = s.camera.serial then [] else Reply.unresponsive :: s.cannot p
  | .connected (.test _), .nothing => [(.info, .plain "Test capture...")]
  | .setupCreate c, .nothing => [configured c]
  | _, _ => []

/-- The functions and their threads. -/
def work : Work := ⟨s.functions, s.activeFunction, s.threads⟩

/-- What a step is to do to them. -/
def deed? : Action → Option Deed
  | .command c =>
    match c.deed?, s.active with
    | some (.download value), some _ => some (.download value)
    | some .aborted, some f => if f.started && !f.finished then some .aborted else none
    | _, _ => none
  | .handler _ =>
    match s.handler with
    | .setupDelete _ => some .deleted
    | .setupCreate c => some (.created c)
    | .connected (.start _) => some .started
    | .connected (.test _) => some .tested
    | _ => none
  | .thread _ _ => none

end Controller

/-- What the handler does, as it is recorded. -/
inductive HandlerEvent where
  /-- A command is taken up, when the program is this to the clients. -/
  | took (view : CaptureService) (c : Command)
  | said (l : Reply)
  | did (d : Deed)
  /-- The functions and their threads are not what they are to be behind the step. -/
  | strayed
  deriving DecidableEq, Repr

namespace HandlerEvent

def reply? : HandlerEvent → Option Reply
  | said l => some l
  | _ => none

def deed? : HandlerEvent → Option Deed
  | did d => some d
  | _ => none

end HandlerEvent

/-- **What a step has done** to the functions and their threads, read off the states before
and behind it. -/
def Controller.outcome (s : Controller) (a : Action) : List HandlerEvent :=
  match s.step a with
  | none => []
  | some s' =>
    if s'.work = s.work.performed (s.deed? a) then (s.deed? a).toList.map .did else [.strayed]

/-- A step of the program, with what libgphoto2 has returned to the handler. -/
def answeredStep (s : Controller) (a : Action × CallResults) : Option Controller := s.step a.1

def handlerEvents (s : Controller) : Action × CallResults → List HandlerEvent
  | (.command c, _) =>
    .took s.service c :: ((s.commandReplies c).map .said ++ s.outcome (.command c))
  | (.handler ans, results) =>
    (s.handlerReplies results ans).map .said ++ s.outcome (.handler ans)
  | (.thread _ _, _) => []

/-! ## What becomes of a command -/

namespace CaptureService

/-- What is done when a function is replaced, if there is one. -/
def replaced (s : CaptureService) : List Deed :=
  if s.function.isSome then [.deleted] else []

/-- What is done for a command that is obeyed. -/
def due (s : CaptureService) (c : Command) : List Deed :=
  match c.deed? with
  | some (.created cfg) => s.replaced ++ [.created cfg]
  | d => d.toList

/-- Why a command is refused, as far as that depends on the function. -/
def refusal (s : CaptureService) (c : Command) : Option Refusal :=
  match c.deed?, s.function with
  | none, _ | some (.created _), none => none
  | some (.created cfg), some (_, phase) =>
    if phase = .running ∨ s.testing = true then some (.running cfg.id) else none
  | some _, none => some .notConfigured
  | some .tested, some (_, phase) =>
    if phase = .running ∨ s.testing = true then some .operating else none
  | some .started, some (f, phase) =>
    if s.testing = true then some .testing
    else if phase = .configured then none else some (.started f.id)
  | some .aborted, some (f, phase) => if phase = .finished then some (.notStarted f.id) else none
  | some _, some _ => none

/-- Why a command is refused when the camera is not there. -/
def failure (s : CaptureService) (c : Command) : Option Refusal :=
  match c.deed? with
  | some .started => s.function.map fun f => .cannotStart f.1.id
  | some .tested => some .cannotTest
  | _ => none

theorem due_eq_nil_iff {s : CaptureService} {c : Command} : s.due c = [] ↔ c.deed? = none := by
  unfold due
  cases hdeed : c.deed? with
  | none => simp
  | some d => cases d <;> simp

/-- A STOP for a function that has not been started. -/
def Unheard (s : CaptureService) (c : Command) : Prop :=
  c.deed? = some .aborted ∧ ∃ f, s.function = some (f, .configured)

end CaptureService

/-- **What may become of a command** that is taken up when the program is `view` to the
clients. -/
inductive Exchange (view : CaptureService) (c : Command) : List Reply → List Deed → Prop
  /-- What it asks for is done. -/
  | obeyed {replies : List Reply} (hnone : view.refusal c = none) (hheard : ¬ view.Unheard c)
      (hcalm : ∀ l ∈ replies, l.refuses = false) : Exchange view c replies (view.due c)
  /-- It is refused for what the function is doing. -/
  | refused {first : List Reply} {r : Refusal} (hsome : view.refusal c = some r)
      (hcalm : ∀ l ∈ first, l.refuses = false) : Exchange view c (first ++ [r.reply]) []
  /-- It is refused because the camera is not there. -/
  | failed {first : List Reply} {r : Refusal} (hnone : view.refusal c = none)
      (hsome : view.failure c = some r) (hcalm : ∀ l ∈ first, l.refuses = false)
      (hcamera : Reply.unresponsive ∈ first ∨ Reply.unconnected ∈ first) :
      Exchange view c (first ++ [r.reply]) []
  /-- It is passed over. -/
  | unheard (h : view.Unheard c) : Exchange view c [] []

/-- **A line refuses the command exactly when what it asks for is not done**, unless the
command is passed over. -/
theorem Exchange.refuses_iff {view : CaptureService} {c : Command} {replies : List Reply}
    {deeds : List Deed} (h : Exchange view c replies deeds) :
    (∃ l ∈ replies, l.refuses = true) ↔ deeds ≠ view.due c ∧ ¬ view.Unheard c := by
  cases h with
  | obeyed _ _ hcalm =>
    constructor
    · rintro ⟨l, hl, hrefuses⟩
      simp [hcalm l hl] at hrefuses
    · rintro ⟨hne, -⟩
      exact absurd rfl hne
  | @refused first r hsome _ =>
    refine ⟨fun _ => ⟨?_, ?_⟩, fun _ => ⟨r.reply, by simp, r.refuses_reply⟩⟩
    · intro hdue
      have hdeed := CaptureService.due_eq_nil_iff.mp hdue.symm
      simp [CaptureService.refusal, hdeed] at hsome
    · rintro ⟨hdeed, f, hf⟩
      simp [CaptureService.refusal, hdeed, hf] at hsome
  | @failed first r _ hsome _ _ =>
    refine ⟨fun _ => ⟨?_, ?_⟩, fun _ => ⟨r.reply, by simp, r.refuses_reply⟩⟩
    · intro hdue
      have hdeed := CaptureService.due_eq_nil_iff.mp hdue.symm
      simp [CaptureService.failure, hdeed] at hsome
    · rintro ⟨hdeed, -⟩
      simp [CaptureService.failure, hdeed] at hsome
  | unheard h => simp [h]

/-- A command, and what followed until it was over. -/
structure Dialogue where
  view : CaptureService
  command : Command
  rest : List HandlerEvent
  deriving DecidableEq, Repr

namespace Dialogue

def events (d : Dialogue) : List HandlerEvent := .took d.view d.command :: d.rest

def replies (d : Dialogue) : List Reply := d.rest.filterMap HandlerEvent.reply?

def deeds (d : Dialogue) : List Deed := d.rest.filterMap HandlerEvent.deed?

/-- No other command is taken up, and nothing but deeds is done. -/
def Own (d : Dialogue) : Prop :=
  ∀ e ∈ d.rest, (∃ l, e = .said l) ∨ ∃ deed, e = .did deed

/-- The command is over, as it should be. -/
structure Proper (d : Dialogue) : Prop where
  own : d.Own
  exchange : Exchange d.view d.command d.replies d.deeds

end Dialogue

/-- What is recorded is one dialogue after the other. -/
structure Answered (s : Controller) (es : List HandlerEvent) (past : List Dialogue)
    (current : List HandlerEvent) : Prop where
  proper : ∀ d ∈ past, d.Proper
  events : es = past.flatMap Dialogue.events ++ current
  ended : s.handler = .idle → current = []
  /-- As long as a command is under way, nothing refuses it. -/
  underway : s.handler ≠ .idle →
    ∃ d : Dialogue, current = d.events ∧ d.Own ∧ ∀ l ∈ d.replies, l.refuses = false

end CameraController
