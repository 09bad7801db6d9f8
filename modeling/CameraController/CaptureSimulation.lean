import CameraController.DownloadedPictures
import CameraController.RemoteCapture

/-! # A capture, call by call

`RemoteCapture` has `capture` as a function of what the camera, the clock and the library
answer, with its waits and its loops.  The threads of the program go through it call by
call (`captureStep`, `captureData`).

What the function is given says what each of the calls is answered (`captureAnswers`).
`capture_simulated`: with these answers the calls can all be made, and end as the function
does, with the same path and the same files; where the function is still waiting, so are
they. -/
namespace CameraController

open StateMachine

/-! ## The two -/

/-- A capture between two calls. -/
structure CaptureState where
  next : CaptureStep
  path : CameraFilePath
  disk : Disk

namespace CaptureState

def step (download : Bool) (s : CaptureState) : Answer × CaptureData → Option CaptureState
  | (ans, data) => do
    match s.next with
    | .goOn c => do
      let next ← captureStep download c ans
      let (path, disk) ← captureData s.path s.disk c ans data
      return { next, path, disk }
    | _ => none

/-- The first call is yet to be made. -/
def start (disk : Disk) : CaptureState := ⟨.goOn .exposureTime, ⟨"", ""⟩, disk⟩

end CaptureState

/-- The download behind the exposure: it fails no capture. -/
def afterExposure (download : Bool) (calls : FileCalls) (disk : Disk) : Outcome → Outcome × Disk
  | .returned true p =>
    (.returned true p, if download then (downloadFile calls disk (destination p)).2 else disk)
  | outcome => (outcome, disk)

/-- `capture` with its download. -/
def captureToDisk (perMs : Int) (overflow : Int → Int) (config config' : Config)
    (exposureTime : Int32) (timing : Timing) (source : EventSource) (result : Int)
    (path : CameraFilePath) (fuel : Nat) (download : Bool) (calls : FileCalls) (disk : Disk) :
    Outcome × Disk :=
  afterExposure download calls disk
    (capture perMs overflow config config' exposureTime timing source result path fuel).outcome

/-! ## What the calls are answered -/

/-- The turns of `waitForCapture`'s loop. -/
def waitAnswers (source : EventSource) : Nat → Nat → Int32 → List (Answer × CaptureData)
  | 0, _, _ => []
  | fuel + 1, i, timeout =>
    if (source i timeout).result ≠ gpOk then [(.event .error, .nothing)]
    else if (source i timeout).type ≠ .fileAdded then
      (.event .other, .nothing) ::
        waitAnswers source fuel (i + 1) (timeout - Int32.ofInt (source i timeout).duration)
    else [(.event .fileAdded, .path (source i timeout).data)]

/-- The calls of `remoteCapture`. -/
def remoteAnswers (perMs : Int) (overflow : Int → Int) (config : Config) (exposureTime : Int32)
    (timing : Timing) (source : EventSource) (fuel : Nat) : List (Answer × CaptureData) :=
  (exposureTimeAnswer overflow config, .nothing) ::
    match readExposureTime overflow config with
    | .error _ => []
    | .ok currExp =>
      if currExp ≠ 0 then []
      else
        match exposureLoop perMs exposureTime timing fuel 0 with
        | none => []
        | some _ => (.nothing, .nothing) :: waitAnswers source fuel 0 30000

/-- The calls of `capture` up to the download. -/
def exposureAnswers (perMs : Int) (overflow : Int → Int) (config config' : Config)
    (exposureTime : Int32) (timing : Timing) (source : EventSource) (result : Int)
    (path : CameraFilePath) (fuel : Nat) : List (Answer × CaptureData) :=
  (exposureTimeAnswer overflow config, .nothing) ::
    match readExposureTime overflow config with
    | .error _ => []
    | .ok currExp =>
      if currExp = 0 then remoteAnswers perMs overflow config' exposureTime timing source fuel
      else [(.result (result == gpOk), .path path)]

/-- The call of `downloadFile`, behind an exposure that ended so. -/
def downloadAnswers (download : Bool) (calls : FileCalls) (disk : Disk) :
    Outcome → List (Answer × CaptureData)
  | .returned true p =>
    if download then [(.result (downloadFile calls disk (destination p)).1, .download calls)]
    else []
  | _ => []

/-- All the calls of `capture`. -/
def captureAnswers (perMs : Int) (overflow : Int → Int) (config config' : Config)
    (exposureTime : Int32) (timing : Timing) (source : EventSource) (result : Int)
    (path : CameraFilePath) (fuel : Nat) (download : Bool) (calls : FileCalls) (disk : Disk) :
    List (Answer × CaptureData) :=
  exposureAnswers perMs overflow config config' exposureTime timing source result path fuel ++
    downloadAnswers download calls disk
      (capture perMs overflow config config' exposureTime timing source result path fuel).outcome

/-- It waits for the exposure to be over, or for the camera. -/
def CaptureState.Waits (s : CaptureState) : Prop :=
  s.next = .goOn .trigger ∨ s.next = .goOn .waitForCapture

/-- A capture call by call has ended as the function does, or waits as it does. -/
def CaptureState.EndsAs (s : CaptureState) : Outcome × Disk → Prop
  | (.running, disk) => s.Waits ∧ s.disk = disk
  | (.thrown _, disk) => s.next = .thrown ∧ s.disk = disk
  | (.returned true p, disk) => s.next = .returned true ∧ s.path = p ∧ s.disk = disk
  | (.returned false _, disk) => s.next = .returned false ∧ s.disk = disk

variable {download : Bool} {path : CameraFilePath} {disk : Disk}

open CaptureState

/-! ## Waiting for the camera -/

/-- Where a capture is when the camera has been waited for. -/
def waitedState (download : Bool) (path : CameraFilePath) (disk : Disk) :
    Option Waited → CaptureState
  | none => ⟨.goOn .waitForCapture, path, disk⟩
  | some w =>
    if w.returned.1 then ⟨captured download, w.returned.2, disk⟩ else ⟨.returned false, path, disk⟩

/-- **The loop of `waitForCapture`** is a call for each of its turns. -/
theorem run_waitAnswers (source : EventSource) (file : CameraFilePath) (fuel i : Nat)
    (timeout : Int32) :
    run (step download) ⟨.goOn .waitForCapture, path, disk⟩ (waitAnswers source fuel i timeout) =
      some (waitedState download path disk (waitLoop source file fuel i timeout)) := by
  induction fuel generalizing i timeout with
  | zero => rfl
  | succ fuel ih =>
    unfold waitAnswers waitLoop
    by_cases hresult : (source i timeout).result = gpOk
    · by_cases htype : (source i timeout).type = .fileAdded
      · simp only [hresult, htype, ne_eq, not_true_eq_false, if_false]
        rfl
      · simp only [hresult, htype, ne_eq, not_true_eq_false, not_false_eq_true, if_false, if_true]
        exact (run_cons_eq_some _).mpr ⟨_, rfl, ih ..⟩
    · simp only [hresult, ne_eq, not_false_eq_true, if_true]
      rfl

/-! ## The exposure -/

/-- Where a capture is behind the exposure, which has left no file. -/
def Outcome.Exposed (download : Bool) (disk : Disk) (s : CaptureState) : Outcome → Prop
  | .running => s.Waits ∧ s.disk = disk
  | .thrown _ => s.next = .thrown ∧ s.disk = disk
  | .returned true p => s = ⟨captured download, p, disk⟩
  | .returned false _ => s.next = .returned false ∧ s.disk = disk

section Exposure
variable (perMs : Int) (overflow : Int → Int) (config config' : Config) (exposureTime : Int32)
  (timing : Timing) (source : EventSource) (file : CameraFilePath) (fuel : Nat)

theorem waitedState_exposed (waited : Option Waited) :
    (match waited with
      | none => Outcome.running
      | some w => .returned w.returned.1 w.returned.2).Exposed download disk
        (waitedState download path disk waited) := by
  cases waited with
  | none => exact ⟨Or.inr rfl, rfl⟩
  | some w =>
    obtain ⟨calls, success, p⟩ := w
    cases success
    · exact ⟨rfl, rfl⟩
    · rfl

theorem run_remoteAnswers (path : CameraFilePath) :
    ∃ t, run (step download) ⟨.goOn .remoteExposureTime, path, disk⟩
        (remoteAnswers perMs overflow config exposureTime timing source fuel) = some t ∧
      (remoteCapture perMs overflow config exposureTime timing source file fuel).outcome.Exposed
        download disk t := by
  unfold remoteAnswers remoteCapture exposureTimeAnswer
  cases hconfig : readExposureTime overflow config with
  | error e => exact ⟨⟨.thrown, path, disk⟩, rfl, rfl, rfl⟩
  | ok t =>
    by_cases hbulb : t = 0
    · subst hbulb
      simp only [ne_eq, not_true_eq_false, if_false]
      cases exposureLoop perMs exposureTime timing fuel 0 with
      | none => exact ⟨⟨.goOn .trigger, path, disk⟩, rfl, Or.inl rfl, rfl⟩
      | some n =>
        refine ⟨waitedState download path disk (waitForCapture source file 30000 fuel), ?_,
          waitedState_exposed _⟩
        exact (run_cons_eq_some _).mpr ⟨_, rfl, (run_cons_eq_some _).mpr
          ⟨_, rfl, run_waitAnswers source file fuel 0 30000⟩⟩
    · simp only [ne_eq, hbulb, not_false_eq_true, if_true]
      refine ⟨⟨.returned false, path, disk⟩, ?_, rfl, rfl⟩
      simp [run, step, captureStep, captureData, Except.toOption, hbulb]

theorem run_exposureAnswers (result : Int) :
    ∃ t, run (step download) (start disk) (exposureAnswers perMs overflow config config'
        exposureTime timing source result file fuel) = some t ∧
      (capture perMs overflow config config' exposureTime timing source result file
        fuel).outcome.Exposed download disk t := by
  unfold exposureAnswers capture exposureTimeAnswer
  cases hconfig : readExposureTime overflow config with
  | error e => exact ⟨⟨.thrown, ⟨"", ""⟩, disk⟩, rfl, rfl, rfl⟩
  | ok t =>
    by_cases hbulb : t = 0
    · subst hbulb
      simp only [if_true]
      obtain ⟨u, hrun, hexposed⟩ := run_remoteAnswers perMs overflow config' exposureTime timing
        source file fuel ⟨"", ""⟩
      exact ⟨u, (run_cons_eq_some _).mpr ⟨_, rfl, hrun⟩, hexposed⟩
    · have hwired : step download (start disk) (.exposureTime (some t), .nothing) =
          some ⟨.goOn .wiredCapture, ⟨"", ""⟩, disk⟩ := by
        simp [step, start, captureStep, captureData, hbulb]
      simp only [hbulb, if_false, wiredCapture]
      cases result == gpOk with
      | true =>
        exact ⟨⟨captured download, file, disk⟩, (run_cons_eq_some _).mpr ⟨_, hwired, rfl⟩, rfl⟩
      | false =>
        exact ⟨⟨.returned false, file, disk⟩, (run_cons_eq_some _).mpr ⟨_, hwired, rfl⟩, rfl, rfl⟩

end Exposure

/-! ## The whole capture -/

/-- What is left to do behind the exposure is the download. -/
theorem run_downloadAnswers {outcome : Outcome} {s : CaptureState}
    (h : outcome.Exposed download disk s) (calls : FileCalls) :
    ∃ t, run (step download) s (downloadAnswers download calls disk outcome) = some t ∧
      t.EndsAs (afterExposure download calls disk outcome) := by
  cases outcome with
  | running | thrown => exact ⟨s, rfl, h⟩
  | returned success p =>
    cases success with
    | false => exact ⟨s, rfl, h⟩
    | true =>
      obtain rfl : s = ⟨captured download, p, disk⟩ := h
      cases download with
      | false => exact ⟨_, rfl, rfl, rfl, rfl⟩
      | true =>
        refine ⟨⟨.returned true, p, (downloadFile calls disk (destination p)).2⟩, ?_, rfl, rfl, rfl⟩
        simp [run, downloadAnswers, step, captured, captureStep, captureData]

/-- **A capture call by call, answered as the function is, ends as the function does**, and
leaves the same files, whatever the camera, the clock and the library answer. -/
theorem capture_simulated (perMs : Int) (overflow : Int → Int) (config config' : Config)
    (exposureTime : Int32) (timing : Timing) (source : EventSource) (result : Int)
    (path : CameraFilePath) (fuel : Nat) (download : Bool) (calls : FileCalls) (disk : Disk) :
    ∃ t, run (step download) (start disk) (captureAnswers perMs overflow config config'
        exposureTime timing source result path fuel download calls disk) = some t ∧
      t.EndsAs (captureToDisk perMs overflow config config' exposureTime timing source result path
        fuel download calls disk) := by
  obtain ⟨s, hs, hexposed⟩ := run_exposureAnswers perMs overflow config config' exposureTime timing
    source path fuel result
  obtain ⟨t, ht, hends⟩ := run_downloadAnswers hexposed calls
  exact ⟨t, by rw [captureAnswers, run_append, hs, Option.bind_some, ht], hends⟩

end CameraController
