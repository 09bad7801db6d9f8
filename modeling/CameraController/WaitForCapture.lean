import CameraController.CameraConfig
import CameraController.DoWhile

/-! # How long is a capture waited for?

`waitForCapture` counts the time it may still wait down and passes it to
`gp_camera_wait_for_event`, but the loop is only left for an error or for
`GP_EVENT_FILE_ADDED`.  A camera that adds no file is waited for for ever, and a file
that comes late is taken.

`respectsTimeout_iff` says when the timeout makes no difference: when the file comes
within it, or an error before the calls in front of it have used it up.

What fills the wait up to a second behind the loop changes nothing returned and is
left out; the subtraction wraps here, where the language leaves it undefined, and
nothing returned depends on it. -/
namespace CameraController

open DoWhile

/-! ## The loop -/

/-- `CameraEventType`. -/
inductive CameraEventType where
  | unknown
  | timeout
  | fileAdded
  | folderAdded
  | captureComplete
  | fileChanged
  deriving DecidableEq, Repr

/-- `CameraFilePath`. -/
structure CameraFilePath where
  name : String
  folder : String
  deriving DecidableEq, Repr

/-- What a call of `gp_camera_wait_for_event` brings, and how many milliseconds it
takes; `data` is a path when a file was added. -/
structure WaitResult where
  result : Int
  type : CameraEventType
  data : CameraFilePath
  duration : Nat
  deriving DecidableEq, Repr

/-- The library: what the calls bring, in order, for the timeouts they get. -/
abbrev EventSource := Nat → Int32 → WaitResult

/-- What `waitForCapture` returns, with `file` afterwards, and how many calls it made. -/
structure Waited where
  calls : Nat
  returned : Bool × CameraFilePath
  deriving DecidableEq, Repr

/-- The `switch` behind the loop. -/
def afterEvent (type : CameraEventType) (data file : CameraFilePath) : Bool × CameraFilePath :=
  match type with
  | .unknown => (true, file)
  | .timeout => (false, file)
  | .fileAdded => (true, data)
  | .folderAdded => (false, file)
  | .captureComplete => (false, file)
  | .fileChanged => (false, file)

variable (source : EventSource) (file : CameraFilePath)

/-- The loop from call `i` on, for at most `fuel` calls. -/
def waitLoop : Nat → Nat → Int32 → Option Waited
  | 0, _, _ => none
  | fuel + 1, i, timeout =>
    if (source i timeout).result ≠ gpOk then
      some ⟨i + 1, (false, file)⟩
    else if (source i timeout).type ≠ .fileAdded then
      waitLoop fuel (i + 1) (timeout - Int32.ofInt (source i timeout).duration)
    else
      some ⟨i + 1, afterEvent (source i timeout).type (source i timeout).data file⟩

/-- `waitForCapture`, for at most `fuel` calls. -/
def waitForCapture (timeout : Int32) (fuel : Nat) : Option Waited :=
  waitLoop source file fuel 0 timeout

/-! ## What the timeout promises -/

variable (timeout : Int32)

/-- The timeout that call `i` gets. -/
def timeoutAt : Nat → Int32
  | 0 => timeout
  | i + 1 => timeoutAt i - Int32.ofInt (source i (timeoutAt i)).duration

/-- What call `i` brings. -/
def resultAt (i : Nat) : WaitResult := source i (timeoutAt source timeout i)

/-- How long the first `n` calls take. -/
def elapsed : Nat → Int
  | 0 => 0
  | n + 1 => elapsed n + (resultAt source timeout n).duration

/-- A call that says `GP_EVENT_TIMEOUT` has taken the timeout it got. -/
def TimeoutsElapse : Prop :=
  ∀ i t, (source i t).type = .timeout → t.toInt ≤ (source i t).duration

/-- An error, or the file. -/
def Decides (r : WaitResult) : Prop := r.result ≠ gpOk ∨ r.type = .fileAdded

instance (r : WaitResult) : Decidable (Decides r) := inferInstanceAs (Decidable (_ ∨ _))

/-- Within the timeout, call `n` is the last: it decides, or it uses the timeout up. -/
structure LastCall (n : Nat) : Prop where
  before : ∀ i < n, ¬ Decides (resultAt source timeout i) ∧
    elapsed source timeout (i + 1) < timeout.toInt
  last : Decides (resultAt source timeout n) ∨ timeout.toInt ≤ elapsed source timeout (n + 1)

/-- What is to be returned after call `n`: the file if it has come within the timeout. -/
def promised (n : Nat) : Bool × CameraFilePath :=
  if (resultAt source timeout n).result = gpOk ∧ (resultAt source timeout n).type = .fileAdded ∧
      elapsed source timeout (n + 1) ≤ timeout.toInt then
    (true, (resultAt source timeout n).data)
  else (false, file)

/-- `waitForCapture` returns after the last call within its timeout: `true` and the
file if that has come by then, and otherwise `false`. -/
def RespectsTimeout : Prop :=
  ∃ n fuel, LastCall source timeout n ∧
    waitForCapture source file timeout fuel = some ⟨n + 1, promised source file timeout n⟩

/-- Call `n` brings an error, or the file within the timeout. -/
def DecidesInTime (n : Nat) : Prop :=
  (resultAt source timeout n).result ≠ gpOk ∨
    (resultAt source timeout n).type = .fileAdded ∧ elapsed source timeout (n + 1) ≤ timeout.toInt

/-- Some call brings an error, or the file within the timeout, and the calls in front of
it have not used the timeout up. -/
def DecidedInTime : Prop :=
  ∃ n, DecidesInTime source timeout n ∧ ∀ i < n, elapsed source timeout (i + 1) < timeout.toInt

/-! ## When the loop ends -/

variable {source file timeout}

/-- What the loop returns for a call that it is left behind, late or not. -/
def decided (file : CameraFilePath) (r : WaitResult) : Bool × CameraFilePath :=
  if r.result = gpOk ∧ r.type = .fileAdded then (true, r.data) else (false, file)

/-- **The loop is left behind the first call that decides.** -/
theorem waitLoop_eq (fuel i : Nat) :
    waitLoop source file fuel i (timeoutAt source timeout i) =
      (lastTurn (fun n => Decides (resultAt source timeout n)) fuel i).map fun n =>
        ⟨n + 1, decided file (resultAt source timeout n)⟩ := by
  induction fuel generalizing i with
  | zero => rfl
  | succ fuel ih =>
    unfold waitLoop lastTurn
    by_cases hok : (source i (timeoutAt source timeout i)).result = gpOk
    · by_cases htype : (source i (timeoutAt source timeout i)).type = .fileAdded
      · simp [resultAt, Decides, decided, afterEvent, hok, htype]
      · have hnot : ¬ Decides (resultAt source timeout i) := by simp [resultAt, Decides, hok, htype]
        rw [if_neg (not_not_intro hok), if_pos htype, if_neg hnot]
        exact ih (i + 1)
    · simp [resultAt, Decides, decided, hok]

theorem waitForCapture_eq_some_iff {fuel : Nat} {w : Waited} :
    waitForCapture source file timeout fuel = some w ↔
      ∃ n < fuel, Decides (resultAt source timeout n) ∧
        (∀ i < n, ¬ Decides (resultAt source timeout i)) ∧
        ⟨n + 1, decided file (resultAt source timeout n)⟩ = w := by
  change waitLoop source file fuel 0 (timeoutAt source timeout 0) = some w ↔ _
  rw [waitLoop_eq, Option.map_eq_some_iff]
  simp only [lastTurn_eq_some_iff, Nat.zero_le, true_implies, true_and, Nat.zero_add, and_assoc]

/-- **What is returned is what is promised exactly when the call decides in time.** -/
theorem decided_eq_promised_iff {n : Nat} (h : Decides (resultAt source timeout n)) :
    decided file (resultAt source timeout n) = promised source file timeout n ↔
      DecidesInTime source timeout n := by
  unfold decided promised DecidesInTime
  by_cases hok : (resultAt source timeout n).result = gpOk
  · have htype := h.resolve_left (not_not_intro hok)
    by_cases hle : elapsed source timeout (n + 1) ≤ timeout.toInt <;> simp [hok, htype, hle]
  · simp [hok]

theorem DecidesInTime.decides {n : Nat} (h : DecidesInTime source timeout n) :
    Decides (resultAt source timeout n) :=
  h.imp_right And.left

/-- **The timeout is respected exactly when an error or the file comes in time.** -/
theorem respectsTimeout_iff (source : EventSource) (file : CameraFilePath) (timeout : Int32) :
    RespectsTimeout source file timeout ↔ DecidedInTime source timeout := by
  constructor
  · rintro ⟨n, fuel, hlast, hreturns⟩
    obtain ⟨m, -, hdecides, -, hw⟩ := waitForCapture_eq_some_iff.mp hreturns
    obtain rfl : m = n := Nat.succ.inj (congrArg Waited.calls hw)
    exact ⟨m, (decided_eq_promised_iff hdecides).mp (congrArg Waited.returned hw),
      fun i hi => (hlast.before i hi).2⟩
  · rintro ⟨n, hintime, hbefore⟩
    obtain ⟨m, hle, hm, hfirst⟩ :=
      @exists_first (fun i => Decides (resultAt source timeout i)) _ n hintime.decides
    -- a file that comes before call `n` comes within the timeout
    have hm' : DecidesInTime source timeout m := by
      rcases Nat.eq_or_lt_of_le hle with rfl | hlt
      · exact hintime
      · exact hm.imp_right fun htype => ⟨htype, Int.le_of_lt (hbefore m hlt)⟩
    refine ⟨m, m + 1, ⟨fun i hi => ⟨hfirst i hi, hbefore i (Nat.lt_of_lt_of_le hi hle)⟩,
      Or.inl hm⟩, ?_⟩
    rw [← (decided_eq_promised_iff hm).mpr hm']
    exact waitForCapture_eq_some_iff.mpr ⟨m, Nat.lt_succ_self m, hm, hfirst, rfl⟩

/-- A camera that adds no file: every call waits for as long as it may. -/
def silent : EventSource := fun _ timeout => ⟨gpOk, .timeout, ⟨"", ""⟩, timeout.toInt.toNat⟩

/-- It is waited for for ever, with the timeout of `remoteCapture`. -/
theorem not_respectsTimeout_silent :
    TimeoutsElapse silent ∧ ¬ RespectsTimeout silent ⟨"", ""⟩ 30000 := by
  refine ⟨fun _ t _ => Int.self_le_toNat t.toInt, ?_⟩
  rintro ⟨n, fuel, -, hreturns⟩
  obtain ⟨m, -, hdecides, -⟩ := waitForCapture_eq_some_iff.mp hreturns
  rcases hdecides with h | h
  · exact h rfl
  · cases h

/-! ## The same loop in the whole program -/

/-- How the whole program tells the results apart. -/
def WaitResult.event (r : WaitResult) : CameraEvent :=
  if r.result ≠ gpOk then .error else if r.type = .fileAdded then .fileAdded else .other

/-- **A step of `capture` is a call of the loop.** -/
theorem captureStep_event (r : WaitResult) (download : Bool) :
    captureStep download .waitForCapture (.event r.event) =
      some (if Decides r then
          if (decided file r).1 then captured download else .returned false
        else .goOn .waitForCapture) := by
  unfold WaitResult.event Decides decided
  by_cases hok : r.result = gpOk <;> by_cases htype : r.type = .fileAdded <;>
    simp [captureStep, hok, htype]

end CameraController
