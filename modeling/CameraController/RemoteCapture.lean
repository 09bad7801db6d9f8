import CameraController.WaitForCapture
import Mathlib.Tactic.Linarith

/-! # How long is a bulb exposure?

In `BULB` the shutter stays open between two pulls of the trigger.
`remoteCapture` pulls it, sleeps until the exposure is over, and pulls it again.
It wakes up at least every thirty seconds, and looks at the clock before it sleeps:
the loop goes on for one more turn when the exposure was not over then.

The clock counts `perMs` to a millisecond, and what it shows, and when a sleep
returns, is given (`Timing`); `Timing.Keeps` is what the language promises of that.
`exposureLaw` says of every such clock when the trigger is pulled for the second
time and that it is, and that it is not pulled at all when the text of the camera is
not taken for `BULB`. -/
namespace CameraController

open DoWhile

/-! ## Sleeping -/

/-- `checkpoint_interval`, in milliseconds. -/
def checkpointInterval : Int := 30000

/-- A call of `sleep_until` or of `sleep_for`. -/
inductive Sleep where
  | sleepUntil (time : Int)
  | sleepFor (milliseconds : Int)
  deriving DecidableEq, Repr

/-- A turn of the loop: what the clock shows, when the sleep is called, and when it
returns. -/
structure Turn where
  now : Int
  asleep : Int
  woken : Int
  deriving DecidableEq, Repr

/-- What happens when: the first pull of the trigger, the clock behind it, the turns
of the loop, and the second pull, should the loop end with that turn. -/
structure Timing where
  first : Int
  start : Int
  turn : Nat → Turn
  second : Nat → Int

variable (perMs : Int) (overflow : Int → Int)

/-- The sleep of a turn; `duration_cast` drops what is less than a millisecond. -/
def sleepOf (endExposure now : Int) : Sleep :=
  if (endExposure - now).tdiv perMs < checkpointInterval then .sleepUntil endExposure
  else .sleepFor checkpointInterval

namespace Sleep

/-- A sleep does not return early. -/
def NotEarly (asleep woken : Int) : Sleep → Prop
  | sleepUntil time => asleep ≤ woken ∧ time ≤ woken
  | sleepFor milliseconds => asleep + milliseconds * perMs ≤ woken

/-- When a sleep that is on time returns. -/
def onTime (asleep : Int) : Sleep → Int
  | sleepUntil time => max asleep time
  | sleepFor milliseconds => asleep + milliseconds * perMs

end Sleep

/-! ## The capture -/

/-- How a capture stands: still going on, or over. -/
inductive Outcome where
  | running
  | thrown (e : NumberError)
  | returned (success : Bool) (path : CameraFilePath)
  deriving DecidableEq, Repr

/-- A capture: when the trigger was pulled, and how it stands. -/
structure CaptureRun where
  pulls : List Int
  outcome : Outcome
  deriving DecidableEq, Repr

/-- The time at which the exposure is to end. -/
def endExposure (exposureTime : Int32) (timing : Timing) : Int :=
  timing.start + exposureTime.toInt * perMs

/-- The loop, left when the clock shows that the exposure was over: its last turn,
if that is one of the next `fuel`. -/
def exposureLoop (exposureTime : Int32) (timing : Timing) : Nat → Nat → Option Nat
  | 0, _ => none
  | fuel + 1, k =>
    if (timing.turn k).now < endExposure perMs exposureTime timing then
      exposureLoop exposureTime timing fuel (k + 1)
    else
      some k

/-- `remoteCapture`, for at most `fuel` turns of each of its loops. -/
def remoteCapture (config : Config) (exposureTime : Int32) (timing : Timing)
    (source : EventSource) (path : CameraFilePath) (fuel : Nat) : CaptureRun :=
  match readExposureTime overflow config with
  | .error e => ⟨[], .thrown e⟩
  | .ok currExp =>
    if currExp ≠ 0 then ⟨[], .returned false path⟩
    else
      match exposureLoop perMs exposureTime timing fuel 0 with
      | none => ⟨[timing.first], .running⟩
      | some n =>
        ⟨[timing.first, timing.second n],
          match waitForCapture source path 30000 fuel with
          | none => .running
          | some waited => .returned waited.returned.1 waited.returned.2⟩

/-- `wiredCapture`: what `gp_camera_capture` answers, and the path it fills in. -/
def wiredCapture (result : Int) (path : CameraFilePath) : CaptureRun :=
  ⟨[], .returned (result == gpOk) path⟩

/-- `capture`, up to the download, which pulls no trigger and fails no capture:
`config` and `config'` are what the camera reports to it and to `remoteCapture`. -/
def capture (config config' : Config) (exposureTime : Int32) (timing : Timing)
    (source : EventSource) (result : Int) (path : CameraFilePath) (fuel : Nat) : CaptureRun :=
  match readExposureTime overflow config with
  | .error e => ⟨[], .thrown e⟩
  | .ok currExp =>
    if currExp = 0 then remoteCapture perMs overflow config' exposureTime timing source path fuel
    else wiredCapture result path

/-! ## What is promised -/

namespace Timing

variable (exposureTime : Int32) (timing : Timing)

/-- What the language promises: the clock does not go back, and no sleep returns
early. -/
structure Keeps : Prop where
  first : timing.first ≤ timing.start
  start : timing.start ≤ (timing.turn 0).now
  asleep : ∀ k, (timing.turn k).now ≤ (timing.turn k).asleep
  woken : ∀ k, (sleepOf perMs (endExposure perMs exposureTime timing) (timing.turn k).now).NotEarly
    perMs (timing.turn k).asleep (timing.turn k).woken
  next : ∀ k, (timing.turn k).woken ≤ (timing.turn (k + 1)).now
  second : ∀ k, (timing.turn k).woken ≤ timing.second k

/-- Every sleep returns on time, and nothing else takes any. -/
structure OnTime : Prop where
  first : timing.start = timing.first
  start : (timing.turn 0).now = timing.start
  asleep : ∀ k, (timing.turn k).asleep = (timing.turn k).now
  woken : ∀ k, (timing.turn k).woken =
    (sleepOf perMs (endExposure perMs exposureTime timing) (timing.turn k).now).onTime
      perMs (timing.turn k).asleep
  next : ∀ k, (timing.turn (k + 1)).now = (timing.turn k).woken
  second : ∀ k, timing.second k = (timing.turn k).woken

end Timing

/-- How many turns the loop takes at most. -/
def turnBound (exposureTime : Int32) : Int :=
  if exposureTime.toInt < 0 then 1 else exposureTime.toInt / checkpointInterval + 2

/-- **The law of the exposure.** -/
structure ExposureLaw (config : Config) (exposureTime : Int32) (timing : Timing)
    (source : EventSource) (path : CameraFilePath) : Prop where
  /-- In `BULB` the loop ends, in time, and the trigger is then pulled once more, not
  before the exposure is over; if every sleep is on time, exactly then. -/
  bulb : TakenForBulb overflow config → ∃ n : Nat, (n : Int) + 1 ≤ turnBound exposureTime ∧
    (∀ fuel, n < fuel → exposureLoop perMs exposureTime timing fuel 0 = some n ∧
      (remoteCapture perMs overflow config exposureTime timing source path fuel).pulls =
        [timing.first, timing.second n]) ∧
    endExposure perMs exposureTime timing ≤ timing.second n ∧
    (timing.OnTime perMs exposureTime →
      (0 < exposureTime.toInt → timing.second n = endExposure perMs exposureTime timing) ∧
      (exposureTime.toInt ≤ 0 → timing.second n = timing.first))
  /-- Otherwise the trigger is not pulled. -/
  other : ¬ TakenForBulb overflow config → ∀ fuel,
    (remoteCapture perMs overflow config exposureTime timing source path fuel).pulls = [] ∧
    ∀ config' result,
      (capture perMs overflow config config' exposureTime timing source result path fuel).pulls =
        [] ∧
      (capture perMs overflow config' config exposureTime timing source result path fuel).pulls =
        []

/-! ## One turn -/

variable {perMs overflow}

theorem checkpoint_pos (hp : 0 < perMs) : 0 < checkpointInterval * perMs :=
  Int.mul_pos (by decide) hp

theorem tdiv_lt_iff {x c : Int} (hp : 0 < perMs) (hc : 0 < c) :
    x.tdiv perMs < c ↔ x < c * perMs := by
  by_cases hx : 0 ≤ x
  · rw [Int.tdiv_eq_ediv_of_nonneg hx, Int.ediv_lt_iff_lt_mul hp]
  · have hneg : 0 ≤ (-x).tdiv perMs := Int.tdiv_nonneg (by omega) (by omega)
    rw [Int.neg_tdiv] at hneg
    have := Int.mul_pos hc hp
    exact iff_of_true (by omega) (by omega)

/-- A whole checkpoint is slept when that much of the exposure is left. -/
theorem sleepOf_eq (hp : 0 < perMs) (endExposure now : Int) :
    sleepOf perMs endExposure now =
      if endExposure - now < checkpointInterval * perMs then .sleepUntil endExposure
      else .sleepFor checkpointInterval := by
  unfold sleepOf
  simp only [tdiv_lt_iff hp (show 0 < checkpointInterval by decide)]

/-- The loop is left behind the first turn that finds the exposure over. -/
theorem exposureLoop_eq (exposureTime : Int32) (timing : Timing) (fuel k : Nat) :
    exposureLoop perMs exposureTime timing fuel k =
      lastTurn (fun k => endExposure perMs exposureTime timing ≤ (timing.turn k).now) fuel k := by
  induction fuel generalizing k with
  | zero => rfl
  | succ fuel ih =>
    unfold exposureLoop lastTurn
    by_cases hover : endExposure perMs exposureTime timing ≤ (timing.turn k).now
    · rw [if_neg (Int.not_lt.mpr hover), if_pos hover]
    · rw [if_pos (Int.not_le.mp hover), if_neg hover, ih]

section Keeps
variable {exposureTime : Int32} {timing : Timing} (hp : 0 < perMs)
  (h : timing.Keeps perMs exposureTime)
include hp h

/-- **A turn** sleeps until the exposure is over, or for a checkpoint. -/
theorem woken_spec (k : Nat) :
    (timing.turn k).now ≤ (timing.turn k).woken ∧
      (endExposure perMs exposureTime timing ≤ (timing.turn k).woken ∨
        (timing.turn k).now + checkpointInterval * perMs ≤ (timing.turn k).woken) := by
  have hpos := checkpoint_pos hp
  have hasleep := h.asleep k
  have hwoken := h.woken k
  rw [sleepOf_eq hp] at hwoken
  split at hwoken
  · obtain ⟨hle, hend⟩ := hwoken
    exact ⟨by omega, Or.inl hend⟩
  · have hle : (timing.turn k).asleep + checkpointInterval * perMs ≤ (timing.turn k).woken := hwoken
    exact ⟨by omega, Or.inr (by omega)⟩

/-- After `k` turns the exposure is over, or `k` checkpoints have been slept. -/
theorem over_or_checkpoints (k : Nat) :
    endExposure perMs exposureTime timing ≤ (timing.turn k).now ∨
      timing.start + k * (checkpointInterval * perMs) ≤ (timing.turn k).now := by
  induction k with
  | zero =>
    have := h.start
    exact Or.inr (by simpa using this)
  | succ k ih =>
    obtain ⟨hle, hslept⟩ := woken_spec hp h k
    have hnext := h.next k
    rcases ih with hover | hfar
    · exact Or.inl (by omega)
    · rcases hslept with hend | hcheckpoint
      · exact Or.inl (by omega)
      · refine Or.inr ?_
        rw [Nat.cast_succ, Int.add_mul, Int.one_mul]
        omega

/-- **Some turn finds the exposure over**, and it is not a late one. -/
theorem exists_over : ∃ n : Nat, (n : Int) + 1 ≤ turnBound exposureTime ∧
    endExposure perMs exposureTime timing ≤ (timing.turn n).now := by
  have hstart := h.start
  unfold turnBound
  by_cases hneg : exposureTime.toInt < 0
  · have hmul : exposureTime.toInt * perMs ≤ 0 :=
      Int.mul_nonpos_of_nonpos_of_nonneg (by omega) (by omega)
    refine ⟨0, by rw [if_pos hneg]; decide, ?_⟩
    unfold endExposure
    omega
  · obtain ⟨n, hn⟩ := Int.eq_ofNat_of_zero_le
      (show 0 ≤ exposureTime.toInt / checkpointInterval + 1 by unfold checkpointInterval; omega)
    refine ⟨n, by rw [if_neg hneg]; omega, ?_⟩
    rcases over_or_checkpoints hp h n with hover | hfar
    · exact hover
    · -- that many checkpoints are more than the exposure
      have hlong : exposureTime.toInt ≤ n * checkpointInterval := by
        unfold checkpointInterval at hn ⊢
        omega
      have hmul := Int.mul_le_mul_of_nonneg_right hlong (Int.le_of_lt hp)
      unfold endExposure
      rw [← Int.mul_assoc] at hfar
      omega

end Keeps

/-! ## Sleeps on time -/

section OnTime
variable {exposureTime : Int32} {timing : Timing} (hp : 0 < perMs)
  (h : timing.OnTime perMs exposureTime)
include hp h

/-- A turn that sleeps on time does not sleep longer than the exposure. -/
theorem woken_onTime (k : Nat) :
    (timing.turn k).woken =
      if endExposure perMs exposureTime timing - (timing.turn k).now <
          checkpointInterval * perMs then
        max (timing.turn k).now (endExposure perMs exposureTime timing)
      else
        (timing.turn k).now + checkpointInterval * perMs := by
  rw [h.woken k, h.asleep k, sleepOf_eq hp]
  split <;> rfl

/-- No turn begins behind the end of the exposure. -/
theorem now_le_end (hpos : 0 ≤ exposureTime.toInt) {k : Nat}
    (hbefore : ∀ j < k, ¬ endExposure perMs exposureTime timing ≤ (timing.turn j).now) :
    (timing.turn k).now ≤ endExposure perMs exposureTime timing := by
  induction k with
  | zero =>
    have hmul := Int.mul_nonneg hpos (Int.le_of_lt hp)
    rw [h.start]
    unfold endExposure
    omega
  | succ k ih =>
    have hk := hbefore k (Nat.lt_succ_self k)
    rw [h.next k, woken_onTime hp h k]
    split <;> omega

/-- The last turn does not sleep. -/
theorem second_onTime {n : Nat}
    (hover : endExposure perMs exposureTime timing ≤ (timing.turn n).now) :
    timing.second n = (timing.turn n).now := by
  have hpos := checkpoint_pos hp
  rw [h.second n, woken_onTime hp h n, if_pos (by omega), max_eq_left hover]

theorem second_eq {n : Nat}
    (hover : endExposure perMs exposureTime timing ≤ (timing.turn n).now)
    (hbefore : ∀ j < n, ¬ endExposure perMs exposureTime timing ≤ (timing.turn j).now) :
    (0 < exposureTime.toInt → timing.second n = endExposure perMs exposureTime timing) ∧
      (exposureTime.toInt ≤ 0 → timing.second n = timing.first) := by
  rw [second_onTime hp h hover]
  constructor
  · intro hpos
    exact Int.le_antisymm (now_le_end hp h (Int.le_of_lt hpos) hbefore) hover
  · intro hneg
    have hmul := Int.mul_nonpos_of_nonpos_of_nonneg hneg (Int.le_of_lt hp)
    have hfirst : endExposure perMs exposureTime timing ≤ (timing.turn 0).now := by
      rw [h.start]
      unfold endExposure
      omega
    rcases Nat.eq_zero_or_pos n with rfl | hn
    · rw [h.start, h.first]
    · exact absurd hfirst (hbefore 0 hn)

end OnTime

/-! ## The law -/

theorem remoteCapture_of_not_bulb {config : Config} (h : ¬ TakenForBulb overflow config)
    (exposureTime : Int32) (timing : Timing) (source : EventSource) (path : CameraFilePath)
    (fuel : Nat) :
    (remoteCapture perMs overflow config exposureTime timing source path fuel).pulls = [] := by
  rw [← readExposureTime_eq_zero_iff] at h
  unfold remoteCapture
  cases hexp : readExposureTime overflow config with
  | error e => rfl
  | ok v =>
    have hv : v ≠ 0 := by
      rintro rfl
      exact h hexp
    simp only [if_pos hv]

/-- What is asked second decides. -/
theorem capture_of_not_bulb {config config' : Config}
    (h : ¬ TakenForBulb overflow config ∨ ¬ TakenForBulb overflow config')
    (exposureTime : Int32) (timing : Timing) (source : EventSource) (result : Int)
    (path : CameraFilePath) (fuel : Nat) :
    (capture perMs overflow config config' exposureTime timing source result path fuel).pulls =
      [] := by
  unfold capture
  cases hexp : readExposureTime overflow config with
  | error e => rfl
  | ok v =>
    by_cases hv : v = 0
    · subst hv
      have hnot := h.resolve_left (not_not_intro (readExposureTime_eq_zero_iff.mp hexp))
      simp only [if_pos]
      exact remoteCapture_of_not_bulb hnot ..
    · simp only [if_neg hv]
      rfl

/-- An exposure of three quarters of a minute, on a clock of milliseconds. -/
def checkpointTiming : Timing where
  first := 0
  start := 0
  turn
    | 0 => ⟨0, 0, 30000⟩
    | 1 => ⟨30000, 30000, 45000⟩
    | _ + 2 => ⟨45000, 45000, 45000⟩
  second
    | 0 => 30000
    | _ + 1 => 45000

/-- The camera reports `BULB`. -/
def reportsBulb : Config := fun _ => ⟨gpOk, gpOk, some "-1"⟩

end CameraController
