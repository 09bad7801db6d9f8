import CameraController.CameraConfig
import CameraController.CheckedFold
import CameraController.CommandHandler

/-! # Does a responsive camera answer?

`isResponsive()` compares the serial number the camera reports now with the one it
reported to `connect()`.  A query that fails gives the empty text on both sides, so
a camera that answers neither query passes for responsive (`honest_iff`).  A query
that is answered with a null pointer throws, and so does the call that made it: it
tells its caller nothing, and the program ends.

`connect`, `disconnect`, `isResponsive` and `connectCamera` are written here as the
functions they are; `handler_connectCamera` says that the handler of the whole
program does the same, step by step. -/
namespace CameraController

open CheckedFold StateMachine

/-! ## The methods of the camera -/

/-- What libgphoto2 answers to `connect()`, or to the query of `isResponsive()`; `left`
is the pointer behind a `gp_camera_new` that fails. -/
structure ConnectAnswers where
  newCamera : Int
  left : Option Nat
  initCamera : Int
  config : Config

namespace CameraWrapper

/-- `connect()`: its result, and the camera afterwards. -/
def connect (w : CameraWrapper) (a : ConnectAnswers) : Except NumberError (Bool × CameraWrapper) :=
  if w.connected = false then
    if a.newCamera ≠ gpOk then .ok (false, w.newFailed a.left)
    else if a.initCamera = gpOk then do
      let serial ← getSerialNumber a.config
      return (true, { w.newHandle with serial, connected := true })
    else .ok (false, w.newHandle.release)
  else .ok (true, w)

/-- `freeCamera()`: the handle is exited and then freed. -/
def freeCamera (w : CameraWrapper) : CameraWrapper :=
  if w.camera.isSome then { w.release.release with camera := none } else w

/-- `disconnect()`. -/
def disconnect (w : CameraWrapper) : CameraWrapper :=
  if w.connected then { w.freeCamera with connected := false } else w

/-- `isResponsive()`. -/
def isResponsive (w : CameraWrapper) (config : Config) : Except NumberError Bool :=
  if w.connected && w.camera.isSome then do return (← getSerialNumber config) == w.serial
  else .ok false

/-- `CameraFunction::connectCamera()`. -/
def connectCamera (w : CameraWrapper) (a : ConnectAnswers) :
    Except NumberError (Bool × CameraWrapper) :=
  if w.connected = false then w.connect a else do return (← w.isResponsive a.config, w)

end CameraWrapper

/-! ## The handler does the same -/

/-- The answer to the query of the serial number, if it is one. -/
def serialAnswer (config : Config) : List Answer :=
  match getSerialNumber config with
  | .ok text => [.serial text]
  | .error _ => []

/-- What the handler is answered when it connects the camera for a function. -/
def connectAnswers (w : CameraWrapper) (a : ConnectAnswers) : List Answer :=
  if w.connected = false then
    if a.newCamera ≠ gpOk then [.newCamera (.failed a.left)]
    else if a.initCamera = gpOk then
      .newCamera .created :: .result true :: serialAnswer a.config
    else [.newCamera .created, .result false, .result true]
  else if w.camera.isSome then serialAnswer a.config
  else []

/-- **The handler's steps are `connectCamera()`** where it returns: it goes on for the
function exactly when the method returns `true`. -/
theorem handler_connectCamera (s : Controller) (p : Purpose) {a : ConnectAnswers}
    {r : Bool × CameraWrapper} (h : s.camera.connectCamera a = .ok r) :
    run Controller.handlerStep (s.connectCamera p) (connectAnswers s.camera a) =
      some { s with camera := r.2, handler := if r.1 then .connected p else .idle } := by
  unfold CameraWrapper.connectCamera at h
  unfold Controller.connectCamera connectAnswers serialAnswer
  by_cases hconnected : s.camera.connected = false
  · rw [if_pos hconnected] at h
    unfold CameraWrapper.connect at h
    by_cases hnew : a.newCamera = gpOk
    · by_cases hinit : a.initCamera = gpOk
      · cases hserial : getSerialNumber a.config with
        | error e =>
          simp only [hconnected, hnew, hinit, hserial, if_true, ne_eq, not_true_eq_false,
            if_false] at h
          cases h
        | ok serial =>
          simp only [hconnected, hnew, hinit, hserial, if_true, ne_eq, not_true_eq_false,
            if_false] at h
          obtain rfl := Except.ok.inj h
          simp [run, Controller.handlerStep, cameraStep, hconnected, hnew, hinit,
            CameraWrapper.newHandle]
      · simp only [hconnected, hnew, hinit, if_true, ne_eq, not_true_eq_false, if_false] at h
        obtain rfl := Except.ok.inj h
        simp [run, Controller.handlerStep, cameraStep, hconnected, hnew, hinit,
          CameraWrapper.newHandle, CameraWrapper.release]
    · simp only [hconnected, hnew, if_true, ne_eq, not_false_eq_true] at h
      obtain rfl := Except.ok.inj h
      simp [run, Controller.handlerStep, cameraStep, hconnected, hnew]
  · rw [if_neg hconnected] at h
    unfold CameraWrapper.isResponsive at h
    simp only [Bool.not_eq_false] at hconnected
    cases hcamera : s.camera.camera with
    | none =>
      simp only [hconnected, hcamera, Option.isSome_none, Bool.and_false, Bool.false_eq_true,
        if_false] at h
      obtain rfl := Except.ok.inj h
      simp [run, hconnected]
    | some n =>
      cases hserial : getSerialNumber a.config with
      | error e =>
        simp only [hconnected, hcamera, hserial, Option.isSome_some, Bool.and_self, if_true] at h
        cases h
      | ok serial =>
        simp only [hconnected, hcamera, hserial, Option.isSome_some, Bool.and_self, if_true] at h
        obtain rfl := Except.ok.inj h
        by_cases hsame : serial = s.camera.serial <;>
          simp [run, Controller.handlerStep, cameraStep, hconnected, hsame]

/-! ## Runs of calls -/

/-- A call, and what libgphoto2 answers to it. -/
inductive CameraCall where
  | connect (a : ConnectAnswers)
  | disconnect
  | isResponsive (config : Config)
  | connectCamera (a : ConnectAnswers)

/-- The camera, and what it reported as its serial number to the `connect()` that
established the present connection, which the program does not remember. -/
structure CameraConnection where
  camera : CameraWrapper := {}
  established : Option String := none

namespace CameraConnection

/-- What the present connection was established with once the camera is connected. -/
def establishedBy (s : CameraConnection) (a : ConnectAnswers) : Option String :=
  if s.camera.connected = false then a.config.report configSerialNumber else s.established

/-- What a call does, if it does not throw. -/
def step (s : CameraConnection) : CameraCall → Option CameraConnection
  | .connect a =>
    (s.camera.connect a).toOption.map fun r => ⟨r.2, s.establishedBy a⟩
  | .disconnect => some { s with camera := s.camera.disconnect }
  | .isResponsive config => (s.camera.isResponsive config).toOption.map fun _ => s
  | .connectCamera a =>
    (s.camera.connectCamera a).toOption.map fun r => ⟨r.2, s.establishedBy a⟩

/-- The camera answered, and `established` was its serial number. -/
def AnswersAs (established : Option String) (config : Config) : Prop :=
  ∃ serial, config.report configSerialNumber = some serial ∧ established = some serial

/-- A call that says the camera is there has been answered by it. -/
def Honest (s : CameraConnection) : CameraCall → Prop
  | .connect _ => True
  | .disconnect => True
  | .isResponsive config =>
    s.camera.isResponsive config = .ok true → AnswersAs s.established config
  | .connectCamera a => ∀ w, s.camera.connectCamera a = .ok (true, w) →
    AnswersAs (s.establishedBy a) a.config

/-- Two queries of the serial number, of which one failed only if the other brought
a serial number that is not empty. -/
def Answered (now before : Option String) : Prop :=
  (now = none → ∃ serial, before = some serial ∧ serial ≠ "") ∧
    (before = none → ∃ serial, now = some serial ∧ serial ≠ "")

/-- Of the queries that matter to a call, not too many fail. -/
def Queried (s : CameraConnection) : CameraCall → Prop
  | .connect _ => True
  | .disconnect => True
  | .isResponsive config => s.camera.connected = true →
    Answered (config.report configSerialNumber) s.established
  | .connectCamera a =>
    if s.camera.connected = true then Answered (a.config.report configSerialNumber) s.established
    else a.newCamera = gpOk → a.initCamera = gpOk → a.config.report configSerialNumber ≠ none

/-- While the camera is connected, its handle is there and its serial number is
what was read, or empty. -/
def Kept (s : CameraConnection) : Prop :=
  s.camera.connected = true →
    s.camera.camera.isSome = true ∧ s.camera.serial = s.established.getD ""

theorem toOption_eq_some_iff {ε α : Type} {e : Except ε α} {r : α} :
    e.toOption = some r ↔ e = .ok r := by
  cases e <;> simp [Except.toOption]

/-- The text that a query brings, where it returns. -/
theorem getSerialNumber_eq {config : Config} {text : String}
    (h : getSerialNumber config = .ok text) :
    text = (config.report configSerialNumber).getD "" := by
  rw [getSerialNumber, getTextConfigValue_eq] at h
  split at h
  · cases h
  · exact (Except.ok.inj h).symm

/-- `connect()` that connects the camera returns `true` if libgphoto2 has not failed. -/
theorem connect_fst {w : CameraWrapper} (hconnected : w.connected = false) {a : ConnectAnswers}
    {r : Bool × CameraWrapper} (h : w.connect a = .ok r) :
    r.1 = true ↔ a.newCamera = gpOk ∧ a.initCamera = gpOk := by
  unfold CameraWrapper.connect at h
  by_cases hnew : a.newCamera = gpOk
  · by_cases hinit : a.initCamera = gpOk
    · simp only [hconnected, hnew, hinit, if_true, ne_eq, not_true_eq_false, if_false] at h
      obtain ⟨serial, -, h⟩ := bind_eq_ok_iff.mp h
      obtain rfl := Except.ok.inj h
      simp [hnew, hinit]
    · simp only [hconnected, hnew, hinit, if_true, ne_eq, not_true_eq_false, if_false] at h
      obtain rfl := Except.ok.inj h
      simp [hinit]
  · simp only [hconnected, hnew, if_true, ne_eq, not_false_eq_true] at h
    obtain rfl := Except.ok.inj h
    simp [hnew]

/-- Where the camera is connected, nothing is established. -/
theorem Kept.of_connected {s : CameraConnection} (hs : s.Kept)
    (hconnected : ¬ s.camera.connected = false) (a : ConnectAnswers) :
    Kept ⟨s.camera, s.establishedBy a⟩ := by
  unfold Kept establishedBy
  rw [if_neg hconnected]
  exact hs

theorem connect_kept {s : CameraConnection} (hs : s.Kept) {a : ConnectAnswers}
    {r : Bool × CameraWrapper} (h : s.camera.connect a = .ok r) :
    Kept ⟨r.2, s.establishedBy a⟩ := by
  unfold CameraWrapper.connect at h
  by_cases hconnected : s.camera.connected = false
  · by_cases hnew : a.newCamera = gpOk
    · by_cases hinit : a.initCamera = gpOk
      · simp only [hconnected, hnew, hinit, if_true, ne_eq, not_true_eq_false, if_false] at h
        obtain ⟨serial, hserial, h⟩ := bind_eq_ok_iff.mp h
        obtain rfl := Except.ok.inj h
        exact fun _ => ⟨rfl, by rw [establishedBy, if_pos hconnected, getSerialNumber_eq hserial]⟩
      · simp only [hconnected, hnew, hinit, if_true, ne_eq, not_true_eq_false, if_false] at h
        obtain rfl := Except.ok.inj h
        exact fun hc => absurd (hconnected.symm.trans hc) (by simp)
    · simp only [hconnected, hnew, if_true, ne_eq, not_false_eq_true] at h
      obtain rfl := Except.ok.inj h
      exact fun hc => absurd (hconnected.symm.trans hc) (by simp)
  · rw [if_neg hconnected] at h
    obtain rfl := Except.ok.inj h
    exact hs.of_connected hconnected a

theorem step_kept {s s' : CameraConnection} {call : CameraCall} (hs : s.Kept)
    (h : s.step call = some s') : s'.Kept := by
  cases call with
  | connect a =>
    obtain ⟨r, hr, rfl⟩ := Option.map_eq_some_iff.mp h
    exact connect_kept hs (toOption_eq_some_iff.mp hr)
  | disconnect =>
    obtain rfl := Option.some.inj h
    by_cases hconnected : s.camera.connected = true
    · simp [Kept, CameraWrapper.disconnect, hconnected]
    · simp [Kept, CameraWrapper.disconnect, hconnected]
  | isResponsive config =>
    obtain ⟨r, -, rfl⟩ := Option.map_eq_some_iff.mp h
    exact hs
  | connectCamera a =>
    obtain ⟨r, hr, rfl⟩ := Option.map_eq_some_iff.mp h
    have hr := toOption_eq_some_iff.mp hr
    unfold CameraWrapper.connectCamera at hr
    split at hr
    · exact connect_kept hs hr
    · rename_i hconnected
      obtain ⟨responsive, -, hr⟩ := bind_eq_ok_iff.mp hr
      obtain rfl := Except.ok.inj hr
      exact hs.of_connected hconnected a

/-! ## When the answer is honest -/

/-- Two texts that agree were both reported exactly when a failure of one of the
queries would have made them differ. -/
theorem answered_iff (now before : Option String) :
    (now.getD "" = before.getD "" → ∃ serial, now = some serial ∧ before = some serial) ↔
      Answered now before := by
  unfold Answered
  cases now <;> cases before <;> simp [eq_comm]

/-- **`isResponsive`, where it returns, is honest exactly when its query and that of
`connect()` do not both come to nothing.** -/
theorem isResponsive_iff {s : CameraConnection} (hs : s.Kept) {config : Config} {r : Bool}
    (hr : s.camera.isResponsive config = .ok r) :
    (r = true → AnswersAs s.established config) ↔
      (s.camera.connected = true → Answered (config.report configSerialNumber) s.established) := by
  unfold CameraWrapper.isResponsive at hr
  by_cases hconnected : s.camera.connected = true
  · obtain ⟨hcamera, hserial⟩ := hs hconnected
    simp only [hconnected, hcamera, Bool.and_self, if_true] at hr
    obtain ⟨text, htext, hr⟩ := bind_eq_ok_iff.mp hr
    obtain rfl := Except.ok.inj hr
    simp only [hserial, getSerialNumber_eq htext, beq_iff_eq, hconnected, true_implies]
    exact answered_iff _ _
  · simp only [hconnected, Bool.false_and, Bool.false_eq_true, if_false] at hr
    obtain rfl := Except.ok.inj hr
    simp [hconnected]

theorem honest_connectCamera_iff {s : CameraConnection} {a : ConnectAnswers}
    {r : Bool × CameraWrapper} (hr : s.camera.connectCamera a = .ok r) :
    s.Honest (.connectCamera a) ↔ (r.1 = true → AnswersAs (s.establishedBy a) a.config) := by
  constructor
  · rintro h htrue
    exact h r.2 (by rw [hr, ← htrue])
  · rintro h w hw
    exact h (congrArg Prod.fst (Except.ok.inj (hr.symm.trans hw)))

/-- What establishes the connection has been answered if the query has not failed. -/
theorem answersAs_self_iff {config : Config} :
    AnswersAs (config.report configSerialNumber) config ↔
      config.report configSerialNumber ≠ none := by
  simp [AnswersAs, Option.ne_none_iff_exists']

theorem connectCamera_iff {s : CameraConnection} (hs : s.Kept) {a : ConnectAnswers}
    {r : Bool × CameraWrapper} (hr : s.camera.connectCamera a = .ok r) :
    s.Honest (.connectCamera a) ↔ s.Queried (.connectCamera a) := by
  rw [honest_connectCamera_iff hr]
  unfold CameraWrapper.connectCamera at hr
  by_cases hconnected : s.camera.connected = true
  · rw [if_neg (by simp [hconnected])] at hr
    obtain ⟨responsive, hresponsive, hr⟩ := bind_eq_ok_iff.mp hr
    obtain rfl := Except.ok.inj hr
    have hiff := isResponsive_iff hs hresponsive
    simp only [hconnected, true_implies] at hiff
    simpa [Queried, establishedBy, hconnected] using hiff
  · have hnot : s.camera.connected = false := by simpa using hconnected
    rw [if_pos hnot] at hr
    rw [connect_fst hnot hr, establishedBy, if_pos hnot, answersAs_self_iff, Queried,
      if_neg hconnected, and_imp]

theorem honest_iff_queried {s s' : CameraConnection} (hs : s.Kept) {call : CameraCall}
    (h : s.step call = some s') : s.Honest call ↔ s.Queried call := by
  cases call with
  | connect a | disconnect => exact Iff.rfl
  | isResponsive config =>
    obtain ⟨r, hr, -⟩ := Option.map_eq_some_iff.mp h
    have hr := toOption_eq_some_iff.mp hr
    rw [Honest, Queried, ← isResponsive_iff hs hr, hr, Except.ok.injEq]
  | connectCamera a =>
    obtain ⟨r, hr, -⟩ := Option.map_eq_some_iff.mp h
    exact connectCamera_iff hs (toOption_eq_some_iff.mp hr)

/-- **Every answer of a run is honest exactly when its queries do not fail
together**: when a query of the serial number fails, the one it is compared with
has brought a serial number, and `connectCamera()` establishes no connection by a
`connect()` whose query fails. -/
theorem honest_iff (calls : List CameraCall) :
    EachStep step Honest {} calls ↔ EachStep step Queried {} calls :=
  eachStep_congr step_kept (fun hs h => honest_iff_queried hs h) (fun h => by cases h) calls

/-- Both queries fail, and the camera is responsive. -/
def twoFailures : List CameraCall :=
  [.connect ⟨gpOk, none, gpOk, fun _ => ⟨-1, gpOk, none⟩⟩, .isResponsive fun _ => ⟨-1, gpOk, none⟩]

theorem not_honest_twoFailures : ¬ EachStep step Honest {} twoFailures := by
  intro h
  obtain ⟨-, hrest⟩ := h _ rfl
  obtain ⟨hhonest, -⟩ := hrest _ rfl
  obtain ⟨serial, hserial, -⟩ := hhonest rfl
  cases hserial

end CameraConnection
end CameraController
