import CameraController.CameraFunction
import CameraController.Logger
import CameraController.Printf
import CameraController.WaitForCapture

/-! # Do the lines of the log fit their buffer?

The formatting `Logger::log` prints into a buffer of 256 characters with `sprintf`,
which does not know how long it is.  `FormattedLine` are the calls of it that the camera
and its functions make.  Those that print numbers only always fit; a serial number, a
config name, and the names of files and folders may be too long.

`fits_iff` says for each line how long they may be.  One `Char` is one `char` here, as it is
for the formats: names are taken to be of characters of one byte. -/
namespace CameraController

open Printf

/-- The size of `buf`. -/
def bufSize : Nat := 256

/-- What the formatting `log` has in `buf` and logs as a text; it ends with a null character,
and there is no room for a longer one. -/
def formatted (format : String) (args : List Argument) : Option String :=
  (sprintf format args).bind fun text => if text.length < bufSize then some text else none

/-! ## The calls -/

/-- The calls of libgphoto2 that only their result is logged of. -/
inductive CameraCallError where
  | instantiating
  | initiating
  | capturing
  deriving DecidableEq, Repr

/-- Where `downloadFile` fails, once the file is open. -/
inductive FileError where
  | descriptor
  | cameraFile
  | getFile
  deriving DecidableEq, Repr

/-- Where a function for the camera's configuration fails. -/
inductive ConfigError where
  | getConfig
  | getValue
  | getType
  | setValue
  | setConfig
  | badType
  | getChoice
  deriving DecidableEq, Repr

/-- A formatted line; `none` as an event is one that has no case of its own. -/
inductive FormattedLine where
  | cameraError (call : CameraCallError) (result : Int32)
  | connected (serial : String)
  | downloadComplete (ms : Int32)
  | notInBulbMode (currExp : Int32)
  | remoteCapture (remaining : Int32)
  | capturedTo (folder name : String)
  | downloadFile (name folder : String)
  | downloadDest (destFilePath : String)
  | openingFile (destFilePath error : String)
  | fileError (step : FileError) (destFilePath : String) (result : Int32)
  | configError (step : ConfigError) (configName : String) (result : Int32)
  | additionalWait (ms : Int32)
  | event (type : Option CameraEventType) (dur : Int32)
  | intervalometerConfigured (nExposures exposureTime interval : Int32)
  | sequencerConfigured (nExposures exposureTime : Int32)
  | captureFailed (i : Int32)
  | delayedExposure (ms : Int32)
  | periodDuration (ms : Int32)
  | shotCompleted (i numShots : Int32)
  | intertime (last mean max exposureTime : Int32)
  | finished (id : FunctionID) (i numShots : Int32) (aborted : Bool)
  deriving DecidableEq, Repr

namespace FormattedLine

def format : FormattedLine → String
  | cameraError .instantiating _ => "Error instantiating camera: %d"
  | cameraError .initiating _ => "Error initiating camera: %d"
  | cameraError .capturing _ => "Error capturing picture: %d"
  | connected _ => "Connected to camera: %s"
  | downloadComplete _ => "Download complete. duration: %d ms"
  | notInBulbMode _ => "Remote capture: Not in BULB mode. Exp time: %d"
  | remoteCapture _ => "Remote capture: %d ms left"
  | capturedTo _ _ => "Captured to: %s/%s"
  | downloadFile _ _ => "Download file: %s, fld: %s"
  | downloadDest _ => "Download dest: %s"
  | openingFile _ _ => "Error opening file (%s): %s"
  | fileError .descriptor _ _ => "Error getting file descriptor (%s): %d"
  | fileError .cameraFile _ _ => "Error creating CameraFile (%s): %d"
  | fileError .getFile _ _ => "Error getting file from camera (%s): %d"
  | configError .getConfig _ _ => "Couldn't get single config (%s): %d"
  | configError .getValue _ _ => "Couldn't get widget value (%s): %d"
  | configError .getType _ _ => "Couldn't get config type (%s): %d"
  | configError .setValue _ _ => "Couldn't set config value (%s): %d"
  | configError .setConfig _ _ => "Couldn't set config on camera (%s): %d"
  | configError .badType _ _ => "Bad widget type (%s): %d"
  | configError .getChoice _ _ => "Couldn't get choice (%s): %d"
  | additionalWait _ => "Additional wait of %d ms"
  | event (some .unknown) _ => "GP_EVENT_UNKNOWN T:%d ms"
  | event (some .timeout) _ => "GP_EVENT_TIMEOUT T:%d ms"
  | event (some .fileAdded) _ => "GP_EVENT_FILE_ADDED T:%d ms"
  | event (some .folderAdded) _ => "GP_EVENT_FOLDER_ADDED T:%d ms"
  | event (some .captureComplete) _ => "GP_EVENT_CAPTURE_COMPLETE T:%d ms"
  | event (some .fileChanged) _ => "GP_EVENT_FILE_CHANGED T:%d ms"
  | event none _ => "WTF event T:%d ms"
  | intervalometerConfigured _ _ _ =>
    "Intervalometer configured: Number of exposures: %d, Exp time: %d, Interval: %d"
  | sequencerConfigured _ _ => "Sequencer configured: Number of exposures: %d, Exp time: %d"
  | captureFailed _ => "Capture %d failed."
  | delayedExposure _ => "Delayed exposure by: %d ms"
  | periodDuration _ => "Period duration: %d ms"
  | shotCompleted _ _ => "Sequencer shot %d/%d completed."
  | intertime _ _ _ _ => "Intertime: %d ms, Mean: %d ms, Max: %d ms (Exp time: %d ms)"
  | finished .intervalometer _ _ _ => "Intervalometer finished. Shots taken: %d/%d. Aborted: %s"
  | finished .sequencer _ _ _ => "Sequencer finished. Shots taken: %d/%d. Aborted: %s"

/-- An `int` as an argument. -/
def int (n : Int32) : Argument := .int n.toInt

def args : FormattedLine → List Argument
  | cameraError _ result => [int result]
  | connected serial => [.str serial]
  | downloadComplete ms => [int ms]
  | notInBulbMode currExp => [int currExp]
  | remoteCapture remaining => [int remaining]
  | capturedTo folder name => [.str folder, .str name]
  | downloadFile name folder => [.str name, .str folder]
  | downloadDest destFilePath => [.str destFilePath]
  | openingFile destFilePath error => [.str destFilePath, .str error]
  | fileError _ destFilePath result => [.str destFilePath, int result]
  | configError _ configName result => [.str configName, int result]
  | additionalWait ms => [int ms]
  | event _ dur => [int dur]
  | intervalometerConfigured nExposures exposureTime interval =>
    [int nExposures, int exposureTime, int interval]
  | sequencerConfigured nExposures exposureTime => [int nExposures, int exposureTime]
  | captureFailed i => [int i]
  | delayedExposure ms => [int ms]
  | periodDuration ms => [int ms]
  | shotCompleted i numShots => [int i, int numShots]
  | intertime last mean max exposureTime => [int last, int mean, int max, int exposureTime]
  | finished _ i numShots aborted =>
    [int i, int numShots, .str (if aborted then "true" else "false")]

/-- The text printed fits the buffer. -/
def Fits (line : FormattedLine) : Prop := (formatted line.format line.args).isSome = true

/-- How many characters a number has. -/
def digits (n : Int32) : Nat := n.toInt.repr.length

/-- The names of a line are not too long. -/
def Short : FormattedLine → Prop
  | connected serial => serial.length ≤ 234
  | capturedTo folder name => folder.length + name.length ≤ 241
  | downloadFile name folder => name.length + folder.length ≤ 233
  | downloadDest destFilePath => destFilePath.length ≤ 240
  | openingFile destFilePath error => destFilePath.length + error.length ≤ 232
  | fileError .descriptor destFilePath result => destFilePath.length + digits result ≤ 221
  | fileError .cameraFile destFilePath result => destFilePath.length + digits result ≤ 225
  | fileError .getFile destFilePath result => destFilePath.length + digits result ≤ 220
  | configError .getConfig configName result => configName.length + digits result ≤ 224
  | configError .getValue configName result => configName.length + digits result ≤ 225
  | configError .getType configName result => configName.length + digits result ≤ 226
  | configError .setValue configName result => configName.length + digits result ≤ 225
  | configError .setConfig configName result => configName.length + digits result ≤ 221
  | configError .badType configName result => configName.length + digits result ≤ 235
  | configError .getChoice configName result => configName.length + digits result ≤ 231
  | _ => True

/-! ## How long the lines are -/

/-- How many characters of the format stand for themselves. -/
def literals : FormattedLine → Nat
  | cameraError .instantiating _ => 28
  | cameraError .initiating _ => 25
  | cameraError .capturing _ => 25
  | connected _ => 21
  | downloadComplete _ => 32
  | notInBulbMode _ => 44
  | remoteCapture _ => 24
  | capturedTo _ _ => 14
  | downloadFile _ _ => 22
  | downloadDest _ => 15
  | openingFile _ _ => 23
  | fileError .descriptor _ _ => 34
  | fileError .cameraFile _ _ => 30
  | fileError .getFile _ _ => 35
  | configError .getConfig _ _ => 31
  | configError .getValue _ _ => 30
  | configError .getType _ _ => 29
  | configError .setValue _ _ => 30
  | configError .setConfig _ _ => 34
  | configError .badType _ _ => 20
  | configError .getChoice _ _ => 24
  | additionalWait _ => 22
  | event (some .unknown) _ => 22
  | event (some .timeout) _ => 22
  | event (some .fileAdded) _ => 25
  | event (some .folderAdded) _ => 27
  | event (some .captureComplete) _ => 31
  | event (some .fileChanged) _ => 27
  | event none _ => 15
  | intervalometerConfigured _ _ _ => 72
  | sequencerConfigured _ _ => 55
  | captureFailed _ => 16
  | delayedExposure _ => 24
  | periodDuration _ => 20
  | shotCompleted _ _ => 27
  | intertime _ _ _ _ => 51
  | finished .intervalometer _ _ _ => 50
  | finished .sequencer _ _ _ => 45

/-- **Every line has the arguments its format asks for.** -/
theorem layout_format (line : FormattedLine) :
    layout line.format = some (line.args.map Argument.conversion, line.literals) := by
  cases line with
  | cameraError call => cases call <;> exact layout_ofList _
  | fileError step => cases step <;> exact layout_ofList _
  | configError step => cases step <;> exact layout_ofList _
  | event type =>
    cases type with
    | none => exact layout_ofList _
    | some type => cases type <;> exact layout_ofList _
  | finished id => cases id <;> exact layout_ofList _
  | _ => exact layout_ofList _

theorem fits_iff_length (line : FormattedLine) :
    line.Fits ↔ line.literals + argumentLength line.args < bufSize := by
  obtain ⟨text, htext, hlength⟩ := sprintf_spec (layout_format line)
  rw [Fits, formatted, htext, Option.bind_some, hlength]
  split <;> simp [*]

/-- A number has eleven characters at most. -/
theorem digits_le (n : Int32) : digits n ≤ 11 := by
  apply @length_repr_le _ 10 (by decide)
  have hlo := n.le_toInt
  have hhi := n.toInt_lt
  omega

@[simp] theorem length_text_int (n : Int32) : (int n).text.length = digits n := rfl

@[simp] theorem length_text_str (s : String) : (Argument.str s).text.length = s.length := rfl

/-- The formats are short. -/
theorem literals_le (line : FormattedLine) : line.literals ≤ 72 := by
  unfold literals
  split <;> decide

theorem argumentLength_numbers_le : ∀ numbers : List Int32,
    argumentLength (numbers.map int) ≤ 11 * numbers.length
  | [] => Nat.le_refl 0
  | i :: numbers => by
      have hi := digits_le i
      have ih := argumentLength_numbers_le numbers
      simp only [List.map_cons, argumentLength_cons, length_text_int, List.length_cons]
      omega

/-- A line of four numbers or less always fits. -/
theorem numbers_lt (line : FormattedLine) (numbers : List Int32) (hle : numbers.length ≤ 4) :
    line.literals + argumentLength (numbers.map int) < bufSize := by
  have hliterals := line.literals_le
  have hlength := argumentLength_numbers_le numbers
  unfold bufSize
  omega

/-- **A line fits its buffer exactly when its names are not too long.** -/
theorem fits_iff (line : FormattedLine) : line.Fits ↔ line.Short := by
  rw [fits_iff_length]
  cases line with
  | connected | capturedTo | downloadFile | downloadDest | openingFile =>
    simp only [literals, args, argumentLength_cons, argumentLength_nil, length_text_str, Short,
      bufSize]
    omega
  | fileError step | configError step =>
    cases step <;>
      simp only [literals, args, argumentLength_cons, argumentLength_nil, length_text_str,
        length_text_int, Short, bufSize] <;>
      omega
  | finished id i numShots aborted =>
    have hi := digits_le i
    have hshots := digits_le numShots
    have hword : (if aborted then "true" else "false").length ≤ 5 := by
      cases aborted <;> decide
    refine iff_of_true ?_ trivial
    cases id <;>
      simp only [literals, args, argumentLength_cons, argumentLength_nil, length_text_str,
        length_text_int, bufSize] <;>
      omega
  | intertime last mean max exposureTime =>
    exact iff_of_true (numbers_lt _ [last, mean, max, exposureTime] (Nat.le_refl 4)) trivial
  | intervalometerConfigured nExposures exposureTime interval =>
    exact iff_of_true (numbers_lt _ [nExposures, exposureTime, interval] (by simp)) trivial
  | sequencerConfigured i j | shotCompleted i j =>
    exact iff_of_true (numbers_lt _ [i, j] (by simp)) trivial
  | cameraError _ i | downloadComplete i | notInBulbMode i | remoteCapture i | additionalWait i
  | event _ i | captureFailed i | delayedExposure i | periodDuration i =>
    exact iff_of_true (numbers_lt _ [i] (by simp)) trivial

/-- A file of the longest name and folder that libgphoto2 has room for. -/
def longestName : FormattedLine :=
  downloadFile (String.ofList (List.replicate 127 'x')) (String.ofList (List.replicate 1023 'x'))

/-- The first line about a download has no room for names that are longer. -/
theorem not_fits_downloadFile {name folder : String} (h : 233 < name.length + folder.length) :
    ¬ (downloadFile name folder).Fits := by
  rw [fits_iff_length]
  simp only [literals, args, argumentLength_cons, argumentLength_nil, length_text_str, bufSize]
  omega

theorem not_fits_longestName : ¬ longestName.Fits := by
  apply not_fits_downloadFile
  rw [String.length_ofList, String.length_ofList, List.length_replicate, List.length_replicate]
  decide

end FormattedLine
end CameraController
