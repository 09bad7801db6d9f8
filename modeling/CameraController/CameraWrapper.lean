import Mathlib.Data.List.Basic

/-! # The camera and its handle

`CameraWrapper` is one object that every thread uses without a lock.  It keeps a
pointer to the handle libgphoto2 gave it and passes that to every call.  Handles
are numbered here in the order `gp_camera_new` makes them, and `released` lists
those that were passed to `gp_camera_exit` or `gp_camera_free`.

`capture` is cut at its calls: `CapturePc` says which comes next, and what each of
them answers is up to the library (`Answer`). -/
namespace CameraController

/-- The members of `CameraWrapper`, and the handles there have been. -/
structure CameraWrapper where
  camera : Option Nat := none
  connected : Bool := false
  serial : String := "NOT_A_GOOD_SERIAL"
  created : Nat := 0
  released : List Nat := []
  deriving DecidableEq, Repr

namespace CameraWrapper

/-- `gp_camera_new(&camera)` when it succeeds. -/
def newHandle (w : CameraWrapper) : CameraWrapper :=
  { w with camera := some w.created, created := w.created + 1 }

/-- `gp_camera_new(&camera)` when it fails and leaves `left` in the pointer. -/
def newFailed (w : CameraWrapper) (left : Option Nat) : CameraWrapper := { w with camera := left }

/-- `gp_camera_exit(camera)` and `gp_camera_free(camera)`. -/
def release (w : CameraWrapper) : CameraWrapper :=
  { w with released := w.camera.toList ++ w.released }

/-- The pointer is not null, and its handle was neither exited nor freed. -/
def Usable (w : CameraWrapper) : Prop :=
  ∃ h, w.camera = some h ∧ h < w.created ∧ h ∉ w.released

/-- What was released had been created. -/
def Numbered (w : CameraWrapper) : Prop := ∀ h ∈ w.released, h < w.created

theorem newHandle_usable {w : CameraWrapper} (h : w.Numbered) : w.newHandle.Usable :=
  ⟨w.created, rfl, Nat.lt_succ_self _, fun hmem => Nat.lt_irrefl _ (h _ hmem)⟩

theorem newHandle_numbered {w : CameraWrapper} (h : w.Numbered) : w.newHandle.Numbered :=
  fun _ hmem => Nat.lt_succ_of_lt (h _ hmem)

end CameraWrapper

/-! ## What the outside answers -/

/-- `CameraEventType`, as `waitForCapture` tells events apart. -/
inductive CameraEvent where
  | error
  | fileAdded
  | other
  deriving DecidableEq, Repr

/-- What `gp_camera_new(&camera)` answers.  It stores the pointer before it can fail,
so what a failed call leaves there is the library's: null, the handle that it has freed
again, or what there was. -/
inductive NewCamera where
  | created
  | failed (left : Option Nat)
  deriving DecidableEq, Repr

/-- What a step gets from outside the program.  `getCurrentExposureTime` answers
`exposureTime none` when it throws: the pointer to the text is null, or `stoi` throws on
the text.  A serial number that is read is a text: that pointer is taken not to be
null. -/
inductive Answer where
  | nothing
  | result (ok : Bool)
  | newCamera (r : NewCamera)
  | exposureTime (t : Option Int)
  | serial (text : String)
  | event (e : CameraEvent)
  | wake (timeout : Bool)
  deriving DecidableEq, Repr

/-! ## A capture -/

/-- What `capture` does next: the exposure time is read, and then either the
trigger is pulled twice and the camera waited for, or the camera is told to
capture; the file may be downloaded at the end. -/
inductive CapturePc where
  | exposureTime
  | remoteExposureTime
  | trigger
  | waitForCapture
  | wiredCapture
  | downloadFile
  deriving DecidableEq, Repr

/-- Whether this is a call of libgphoto2 that gets the handle. -/
def CapturePc.callsCamera : CapturePc → Bool
  | trigger => false
  | _ => true

/-- How a step of `capture` ends. -/
inductive CaptureStep where
  | goOn (c : CapturePc)
  | returned (success : Bool)
  | thrown
  deriving DecidableEq, Repr

/-- After the exposure; `download` tells whether `download_folder` is not empty. -/
def captured (download : Bool) : CaptureStep :=
  if download then .goOn .downloadFile else .returned true

/-- A step of `capture`. -/
def captureStep (download : Bool) : CapturePc → Answer → Option CaptureStep
  | .exposureTime, .exposureTime none => some .thrown
  | .exposureTime, .exposureTime (some t) =>
    some (.goOn (if t = 0 then .remoteExposureTime else .wiredCapture))
  | .remoteExposureTime, .exposureTime none => some .thrown
  | .remoteExposureTime, .exposureTime (some t) =>
    some (if t = 0 then .goOn .trigger else .returned false)
  | .trigger, .nothing => some (.goOn .waitForCapture)
  | .waitForCapture, .event .error => some (.returned false)
  | .waitForCapture, .event .fileAdded => some (captured download)
  | .waitForCapture, .event .other => some (.goOn .waitForCapture)
  | .wiredCapture, .result ok => some (if ok then captured download else .returned false)
  -- a failed download is logged and does not fail the capture
  | .downloadFile, .result _ => some (.returned true)
  | _, _ => none

end CameraController
