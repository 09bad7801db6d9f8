import CameraController.IntervalometerSpacing

/-! # How many shots does a run report?

`run()` ends by logging its variable `i` as the shots taken.  It counts `i` up before
the capture, and registers an exposure in the statistics behind it, so that a capture
which fails has been counted and not registered.

A run is recorded as the captures that return and the exposures that are registered
(`shotEvent`).  `reported_iff`: wherever a run ends, the three numbers are the same
exactly when no capture of it has failed. -/
namespace CameraController

open StateMachine

/-- `run()` of a function that has been started. -/
def beginRun (c : Setup) (clock : Int) : TimedRun where
  function := { CameraFunction.new c with started := true }
  shots := 0
  pc := .loopTest
  clock := clock

/-- What a step of `run()` is for its counts. -/
inductive ShotEvent where
  /-- `camera.capture` returns `true`. -/
  | captured
  /-- `camera.capture` returns `false`. -/
  | failed
  /-- `stats.registerExposureStat` is called. -/
  | registered
  deriving DecidableEq, Repr

/-- What an action is for the counts of the run. -/
def shotEvent (s : TimedRun) : TimedAction → List ShotEvent
  | .step ans =>
    match s.pc with
    | .capture c download =>
      match captureStep download c ans with
      | some (.returned true) => [.captured]
      | some (.returned false) => [.failed]
      | _ => []
    | .register => [.registered]
    | _ => []
  | _ => []

/-- What is logged as the shots taken is how many there were. -/
def Reported (s : TimedRun) (events : List ShotEvent) : Prop :=
  s.shots = events.count .captured ∧ events.count .captured = events.count .registered

/-! ## The loop -/

namespace RunPc

/-- The shots counted whose capture has not returned. -/
def counted : RunPc → Nat
  | enter => 1
  | capture _ _ => 1
  | _ => 0

/-- The shots captured that are not registered. -/
def unregistered : RunPc → Nat
  | register => 1
  | _ => 0

theorem counted_of_ended {pc : RunPc} (h : pc.inRun = false) : pc.counted = 0 := by
  cases pc <;> first | rfl | cases h

theorem unregistered_of_ended {pc : RunPc} (h : pc.inRun = false) : pc.unregistered = 0 := by
  cases pc <;> first | rfl | cases h

end RunPc

/-- What the loop keeps between `i`, the captures and the statistics. -/
structure ShotTally (shots : Nat) (pc : RunPc) (events : List ShotEvent) : Prop where
  counted : events.count .captured + events.count .failed + pc.counted = shots
  registered : events.count .registered + pc.unregistered = events.count .captured

namespace ShotTally

variable {shots : Nat} {pc : RunPc} {events : List ShotEvent} (h : ShotTally shots pc events)
include h

/-- A step that neither counts, nor captures, nor registers. -/
theorem stay {pc' : RunPc} (hcounted : pc'.counted = pc.counted)
    (hregistered : pc'.unregistered = pc.unregistered) : ShotTally shots pc' (events ++ []) where
  counted := by rw [List.append_nil, hcounted, h.counted]
  registered := by rw [List.append_nil, hregistered, h.registered]

/-- **A step of `run()`** keeps the tally. -/
theorem moves {s : TimedRun} (hpc : s.pc = pc) {f g : CameraFunction} {shots' : Nat}
    {pc' : RunPc} {ans : Answer} (hmoves : RunPc.Moves f shots pc ans g shots' pc') :
    ShotTally shots' pc' (events ++ shotEvent s (.step ans)) := by
  have hcounted := h.counted
  have hregistered := h.registered
  simp only [shotEvent, hpc]
  cases hmoves with
  | goesOn =>
    simp only [RunPc.counted, RunPc.unregistered] at hcounted hregistered
    constructor <;> simp [RunPc.counted, RunPc.unregistered] <;> omega
  | captured hnext | fails hnext =>
    simp only [hnext]
    simp only [RunPc.counted, RunPc.unregistered] at hcounted hregistered
    constructor <;> simp [RunPc.counted, RunPc.unregistered] <;> omega
  | registers =>
    -- for an intervalometer the loop goes on to wait
    simp only [RunPc.counted, RunPc.unregistered] at hcounted hregistered
    cases f.id <;> constructor <;> simp [RunPc.counted, RunPc.unregistered] <;> omega
  | captures hnext =>
    simp only [hnext]
    exact h.stay rfl rfl
  | waits => cases f.abortCond <;> exact h.stay rfl rfl
  | wakes timeout => cases timeout <;> exact h.stay rfl rfl
  | leaves | enters | finishes | exits => exact h.stay rfl rfl

/-- Behind the loop, what was counted has returned. -/
theorem of_ended (hend : pc.inRun = false) :
    events.count .captured + events.count .failed = shots ∧
      events.count .registered = events.count .captured := by
  have hcounted := h.counted
  have hregistered := h.registered
  rw [RunPc.counted_of_ended hend] at hcounted
  rw [RunPc.unregistered_of_ended hend] at hregistered
  exact ⟨hcounted, hregistered⟩

end ShotTally

variable {perMs : Int}

/-- **An action** keeps the tally. -/
theorem timedStep_shotTally {s t : TimedRun} {a : TimedAction} {events : List ShotEvent}
    (hs : ShotTally s.shots s.pc events) (h : timedStep perMs s a = some t) :
    ShotTally t.shots t.pc (events ++ shotEvent s a) := by
  cases a with
  | tick d | abort | setDownload value =>
    cases h
    exact hs.stay rfl rfl
  | step ans =>
    obtain ⟨f, shots, pc, hmoves, -, rfl⟩ := timedStep_moves h
    exact hs.moves rfl hmoves

/-- Every recorded run keeps the tally. -/
theorem shotTally_of_reachable {c : Setup} {clock : Int} {r : TimedRun × List ShotEvent}
    (h : Reachable (recording (timedStep perMs) shotEvent) (beginRun c clock, []) r) :
    ShotTally r.1.shots r.1.pc r.2 := by
  obtain ⟨as, has⟩ := h
  exact run_recording (P := fun s => ShotTally s.shots s.pc) timedStep_shotTally ⟨rfl, rfl⟩ has

/-- **Wherever a run ends, it reports the shots it has taken exactly when no capture of
it has failed.** -/
theorem reported_iff {c : Setup} {clock : Int} {r : TimedRun × List ShotEvent}
    (h : Reachable (recording (timedStep perMs) shotEvent) (beginRun c clock, []) r)
    (hend : r.1.pc.inRun = false) : Reported r.1 r.2 ↔ .failed ∉ r.2 := by
  obtain ⟨hshots, hregistered⟩ := (shotTally_of_reachable h).of_ended hend
  rw [← List.count_eq_zero, Reported]
  omega

/-- A sequencer of one shot, up to the last line of its log. -/
def oneShot (success : Bool) : List TimedAction :=
  [.step .nothing, .step .nothing, .step (.exposureTime (some 1)), .tick 3,
    .step (.result success)] ++
    if success then [.step .nothing, .step .nothing, .step .nothing] else [.step .nothing]

/-- What it asks for. -/
def oneShotSetup : Setup := ⟨.sequencer, 1, 0, 10, false⟩

/-- What it leads to. -/
def afterOneShot (success : Bool) : TimedRun where
  function := { CameraFunction.new oneShotSetup with
    started := true
    finished := true
    exposuresCount := if success then 1 else 0 }
  shots := 1
  pc := .report
  clock := 3
  nextExposure := 0
  starts := [0]

theorem run_oneShot (success : Bool) :
    run (recording (timedStep 1) shotEvent) (beginRun oneShotSetup 0, []) (oneShot success) =
      some (afterOneShot success, if success then [.captured, .registered] else [.failed]) := by
  cases success <;> decide

theorem reported_oneShot : Reported (afterOneShot true) [.captured, .registered] :=
  (reported_iff ⟨oneShot true, run_oneShot true⟩ rfl).mpr (by decide)

/-- A capture that fails is reported as a shot. -/
theorem not_reported_failed :
    ¬ ∀ (perMs : Int) (c : Setup) (clock : Int) (r : TimedRun × List ShotEvent),
      Reachable (recording (timedStep perMs) shotEvent) (beginRun c clock, []) r →
        r.1.pc.inRun = false → Reported r.1 r.2 := by
  intro h
  have hreported := h 1 oneShotSetup 0 _ ⟨oneShot false, run_oneShot false⟩ rfl
  exact absurd hreported.1 (by decide)

end CameraController
