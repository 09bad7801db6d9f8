import CameraController.CameraFunction
import CameraController.StateMachine
import Mathlib.Data.List.Chain

/-! # How far apart are the exposures of an intervalometer?

Each turn of `Intervalometer::run` reads the clock, captures, and then waits for
`next_exposure`, which is one interval behind what the clock showed.  Any
notification, and none at all, may wake it up before; `abort()` may be called at any
time.

The clock counts `perMs` to a millisecond.  It does not go back, and a `wait_until`
that reports a timeout has reached its deadline; that much the language promises.
`spacing` says of every run how far apart its exposures begin. -/
namespace CameraController

open StateMachine

/-! ## The thread and the clock -/

/-- The thread of an intervalometer, and what the clock shows; `nextExposure` is the
deadline, and `starts` are the values of `start` so far. -/
structure TimedRun where
  function : CameraFunction
  shots : Nat
  pc : RunPc
  clock : Int
  nextExposure : Int := 0
  starts : List Int := []
  deriving DecidableEq, Repr

/-- Time goes by, another thread calls a method of the intervalometer, or its own
thread takes a step. -/
inductive TimedAction where
  | tick (d : Nat)
  | abort
  | setDownload (value : Bool)
  | step (ans : Answer)
  deriving DecidableEq, Repr

/-- `run()` of a new intervalometer that has been started. -/
def begin (numShots interval exposureTime : Int32) (download : Bool) (clock : Int) : TimedRun where
  function :=
    { CameraFunction.new ⟨.intervalometer, numShots, interval, exposureTime, download⟩ with
      started := true }
  shots := 0
  pc := .loopTest
  clock := clock

variable (perMs : Int)

namespace TimedRun

/-- The interval, as the clock counts. -/
def ticks (s : TimedRun) : Int := s.function.interval.toInt * perMs

/-- The first two lines of the loop read the clock. -/
def looks (s : TimedRun) : TimedRun :=
  if s.pc = .enter then
    { s with starts := s.starts ++ [s.clock], nextExposure := s.clock + s.ticks perMs }
  else s

/-- In the loop around `wait_until`. -/
def Waits (s : TimedRun) : Prop := s.pc = .waiting ∨ s.pc = .parked

end TimedRun

/-- A step; an exception ends the program. -/
def timedStep (s : TimedRun) : TimedAction → Option TimedRun
  | .tick d => some { s with clock := s.clock + d }
  | .abort => some { s with function := s.function.abort }
  | .setDownload value =>
    some { s with function := { s.function with downloadAfterExposure := value } }
  | .step ans =>
    match s.pc.step s.function s.shots ans with
    | some (.moved f shots pc) =>
      if ans = .wake true ∧ s.clock < s.nextExposure then none
      else some { s.looks perMs with function := f, shots := shots, pc := pc }
    | _ => none

/-- **How far apart the exposures begin**, and what a wait comes to. -/
structure Spacing (interval : Int32) (s : TimedRun) : Prop where
  /-- Two that follow each other are an interval apart, or more. -/
  spaced : s.starts.IsChain fun a b => a + interval.toInt * perMs ≤ b
  /-- Whatever wakes it up, no exposure begins before the deadline. -/
  notEarly : s.Waits → ∀ as t, run (timedStep perMs) s as = some t →
    t.clock < s.nextExposure → t.starts = s.starts
  /-- Behind an abort, none begins at all. -/
  aborted : s.Waits → ∀ as t, run (timedStep perMs) s (.abort :: as) = some t →
    t.starts = s.starts

/-! ## One step -/

variable {perMs} {s t : TimedRun}

/-- **A step of the thread** is one of `run()`, and its timeouts are on time. -/
theorem timedStep_moves {ans : Answer} (h : timedStep perMs s (.step ans) = some t) :
    ∃ f shots pc, RunPc.Moves s.function s.shots s.pc ans f shots pc ∧
      (ans = .wake true → s.nextExposure ≤ s.clock) ∧
      t = { s.looks perMs with function := f, shots := shots, pc := pc } := by
  simp only [timedStep] at h
  split at h
  · rename_i f shots pc hstep
    split at h
    · cases h
    · rename_i hwake
      refine ⟨f, shots, pc, RunPc.step_moves hstep, fun hans => ?_, (Option.some.inj h).symm⟩
      by_contra hearly
      exact hwake ⟨hans, Int.not_le.mp hearly⟩
  · cases h

theorem goesOn_of_abort {f : CameraFunction} (h : f.abortCond = true) (shots : Nat) :
    f.goesOn shots = false := by
  simp [CameraFunction.goesOn, h]

theorem abort_of_abort {f : CameraFunction} (h : f.abortCond = true) :
    f.abort.abortCond = true := by
  unfold CameraFunction.abort
  split
  · rfl
  · exact h

/-! ## While it waits -/

namespace TimedRun

/-- No exposure begins from here, but for a timeout. -/
def Rests (s : TimedRun) : Prop :=
  s.Waits ∨ s.pc = .loopTest ∧ s.function.abortCond = true ∨ s.pc = .finish ∨
    s.pc = .report ∨ s.pc = .exited

/-- What does not begin an exposure: the record and the deadline stay, time does not
go back, and an abort is not taken back. -/
structure Idles (s t : TimedRun) : Prop where
  starts : t.starts = s.starts
  nextExposure : t.nextExposure = s.nextExposure
  clock : s.clock ≤ t.clock
  abortCond : s.function.abortCond = true → t.function.abortCond = true

end TimedRun

open TimedRun

theorem TimedRun.Idles.refl (s : TimedRun) : s.Idles s := ⟨rfl, rfl, Int.le_refl _, fun h => h⟩

theorem TimedRun.Idles.trans {u : TimedRun} (hst : s.Idles t) (htu : t.Idles u) : s.Idles u :=
  ⟨htu.starts.trans hst.starts, htu.nextExposure.trans hst.nextExposure,
    Int.le_trans hst.clock htu.clock, fun h => htu.abortCond (hst.abortCond h)⟩

theorem abort_rests (h : s.Rests) : Rests { s with function := s.function.abort } := by
  rcases h with hwaits | ⟨hpc, habort⟩ | hends
  · exact Or.inl hwaits
  · exact Or.inr (Or.inl ⟨hpc, abort_of_abort habort⟩)
  · exact Or.inr (Or.inr hends)

/-- **What a thread at rest does**: it stays so, unless it was not aborted and has
reached the deadline. -/
theorem rests_step {a : TimedAction} (hs : s.Rests) (h : timedStep perMs s a = some t) :
    s.Idles t ∧ (t.Rests ∨ s.function.abortCond = false ∧ s.nextExposure ≤ s.clock) := by
  cases a with
  | tick d =>
    cases h
    exact ⟨⟨rfl, rfl, Int.le_add_of_nonneg_right (Int.natCast_nonneg d), fun h => h⟩, Or.inl hs⟩
  | abort =>
    cases h
    exact ⟨⟨rfl, rfl, Int.le_refl _, abort_of_abort⟩, Or.inl (abort_rests hs)⟩
  | setDownload value =>
    cases h
    exact ⟨⟨rfl, rfl, Int.le_refl _, fun h => h⟩, Or.inl hs⟩
  | step ans =>
    obtain ⟨f, shots, pc, hmoves, hwake, rfl⟩ := timedStep_moves h
    obtain ⟨g, n, pc₀, clock, deadline, starts⟩ := s
    simp only at hmoves hwake
    cases hmoves with
    | goesOn hgoes =>
      -- only an aborted run rests in front of the test
      have habort : f.abortCond = true := by simpa [Rests, Waits] using hs
      rw [goesOn_of_abort habort] at hgoes
      cases hgoes
    | enters | captures | captured | fails | registers => simp [Rests, Waits] at hs
    | leaves | finishes | exits =>
      exact ⟨⟨rfl, rfl, Int.le_refl _, fun h => h⟩, Or.inl (by simp [Rests, Waits])⟩
    | waits =>
      refine ⟨⟨rfl, rfl, Int.le_refl _, fun h => h⟩, Or.inl ?_⟩
      cases habort : f.abortCond <;> simp [Rests, Waits, habort]
    | wakes timeout =>
      refine ⟨⟨rfl, rfl, Int.le_refl _, fun h => h⟩, ?_⟩
      cases timeout with
      | false => exact Or.inl (Or.inl (Or.inl rfl))
      | true =>
        cases habort : f.abortCond with
        | true => exact Or.inl (Or.inr (Or.inl ⟨rfl, habort⟩))
        | false => exact Or.inr ⟨rfl, hwake rfl⟩

/-- The clock does not go back. -/
theorem clock_le {a : TimedAction} (h : timedStep perMs s a = some t) : s.clock ≤ t.clock := by
  cases a with
  | tick d =>
    cases h
    exact Int.le_add_of_nonneg_right (Int.natCast_nonneg d)
  | abort | setDownload value =>
    cases h
    exact Int.le_refl _
  | step ans =>
    obtain ⟨f, shots, pc, -, -, rfl⟩ := timedStep_moves h
    unfold TimedRun.looks
    split <;> exact Int.le_refl _

/-- **Before the deadline** a thread that waits goes on resting. -/
theorem rests_run (hs : s.Rests) {as : List TimedAction}
    (h : run (timedStep perMs) s as = some t) :
    s.nextExposure ≤ t.clock ∨ s.Idles t ∧ t.Rests := by
  refine @run_invariant _ _ (timedStep perMs)
    (fun u => s.nextExposure ≤ u.clock ∨ s.Idles u ∧ u.Rests)
    (fun {u a v} hu hstep => ?_) s t (Or.inr ⟨.refl s, hs⟩) as h
  rcases hu with hdue | ⟨hidles, hrests⟩
  · exact Or.inl (Int.le_trans hdue (clock_le hstep))
  · obtain ⟨hidle, hrest | ⟨-, hdue⟩⟩ := rests_step hrests hstep
    · exact Or.inr ⟨hidles.trans hidle, hrest⟩
    · rw [hidles.nextExposure] at hdue
      exact Or.inl (Int.le_trans hdue (clock_le hstep))

/-- **Once aborted** it does so for good. -/
theorem aborted_run (hs : s.Rests) (habort : s.function.abortCond = true) {as : List TimedAction}
    (h : run (timedStep perMs) s as = some t) : s.Idles t := by
  refine (@run_invariant _ _ (timedStep perMs) (fun u => s.Idles u ∧ u.Rests)
    (fun {u a v} hu hstep => ?_) s t ⟨.refl s, hs⟩ as h).1
  obtain ⟨hidle, hrest | ⟨hnot, -⟩⟩ := rests_step hu.2 hstep
  · exact ⟨hu.1.trans hidle, hrest⟩
  · rw [hu.1.abortCond habort] at hnot
    cases hnot

/-! ## Every run -/

/-- The last exposure began an interval ago, or more. -/
def TimedRun.Due (perMs : Int) (s : TimedRun) : Prop :=
  ∀ x ∈ s.starts.getLast?, x + s.ticks perMs ≤ s.clock

/-- What holds at each step of `run()`. -/
structure OnSchedule (perMs : Int) (interval : Int32) (s : TimedRun) : Prop where
  id : s.function.id = .intervalometer
  interval : s.function.interval = interval
  started : s.function.started = true
  finished : s.pc.inRun = true → s.function.finished = false
  spaced : s.starts.IsChain fun a b => a + s.ticks perMs ≤ b
  nextExposure : ∀ x ∈ s.starts.getLast?, x + s.ticks perMs = s.nextExposure
  loopTest : s.pc = .loopTest → s.function.abortCond = true ∨ s.Due perMs
  enter : s.pc = .enter → s.Due perMs

theorem begin_onSchedule (numShots interval exposureTime : Int32) (download : Bool) (clock : Int) :
    OnSchedule perMs interval (begin numShots interval exposureTime download clock) :=
  ⟨rfl, rfl, rfl, fun _ => rfl, .nil, nofun, fun _ => Or.inr nofun, nofun⟩

section OnSchedule
variable {interval : Int32} (hs : OnSchedule perMs interval s)
include hs

/-- A thread that has gone on behind its timeout is due. -/
theorem OnSchedule.due (h : s.nextExposure ≤ s.clock) : s.Due perMs := by
  intro x hx
  rw [hs.nextExposure x hx]
  exact h

/-- Reading the clock keeps the exposures apart. -/
theorem OnSchedule.looks_spaced :
    (s.looks perMs).starts.IsChain fun a b => a + s.ticks perMs ≤ b := by
  unfold TimedRun.looks
  split
  · rename_i henter
    refine hs.spaced.append (.singleton _) fun x hx y hy => ?_
    cases hy
    exact hs.enter henter x hx
  · exact hs.spaced

theorem OnSchedule.looks_nextExposure :
    ∀ x ∈ (s.looks perMs).starts.getLast?, x + s.ticks perMs = (s.looks perMs).nextExposure := by
  unfold TimedRun.looks
  split
  · simp
  · exact hs.nextExposure

/-- **Every step keeps the schedule.** -/
theorem step_onSchedule {a : TimedAction} (h : timedStep perMs s a = some t) :
    OnSchedule perMs interval t := by
  cases a with
  | tick d =>
    cases h
    have hdue : s.Due perMs → TimedRun.Due perMs { s with clock := s.clock + d } :=
      fun hdue x hx => Int.le_trans (hdue x hx) (Int.le_add_of_nonneg_right (Int.natCast_nonneg d))
    exact ⟨hs.id, hs.interval, hs.started, hs.finished, hs.spaced, hs.nextExposure,
      fun hpc => (hs.loopTest hpc).imp_right hdue, fun hpc => hdue (hs.enter hpc)⟩
  | abort =>
    cases h
    unfold CameraFunction.abort
    split
    · exact ⟨hs.id, hs.interval, hs.started, hs.finished, hs.spaced, hs.nextExposure,
        fun _ => Or.inl rfl, hs.enter⟩
    · exact hs
  | setDownload value =>
    cases h
    exact ⟨hs.id, hs.interval, hs.started, hs.finished, hs.spaced, hs.nextExposure, hs.loopTest,
      hs.enter⟩
  | step ans =>
    obtain ⟨f, shots, pc, hmoves, hwake, rfl⟩ := timedStep_moves h
    have hspaced := hs.looks_spaced
    have hnext := hs.looks_nextExposure
    have hdue := hs.due
    obtain ⟨hid, hinterval, hstarted, hfinished, -, -, hloopTest, henter⟩ := hs
    obtain ⟨g, n, pc₀, clock, deadline, starts⟩ := s
    simp only at hmoves hwake hid
    cases hmoves with
    | goesOn hgoes =>
      refine ⟨hid, hinterval, hstarted, hfinished, hspaced, hnext, nofun, fun _ => ?_⟩
      rcases hloopTest rfl with habort | hdue
      · -- an aborted run does not go on
        rw [goesOn_of_abort habort] at hgoes
        cases hgoes
      · exact hdue
    | leaves | enters | captures | captured | fails =>
      exact ⟨hid, hinterval, hstarted, hfinished, hspaced, hnext, nofun, nofun⟩
    | registers =>
      refine ⟨hid, hinterval, hstarted, fun _ => hfinished rfl, hspaced, hnext, ?_, ?_⟩ <;>
        simp [hid]
    | waits =>
      cases habort : f.abortCond with
      | true =>
        exact ⟨hid, hinterval, hstarted, hfinished, hspaced, hnext, fun _ => Or.inl habort, nofun⟩
      | false => exact ⟨hid, hinterval, hstarted, hfinished, hspaced, hnext, nofun, nofun⟩
    | wakes timeout =>
      cases timeout with
      | true =>
        exact ⟨hid, hinterval, hstarted, hfinished, hspaced, hnext,
          fun _ => Or.inr (hdue (hwake rfl)), nofun⟩
      | false => exact ⟨hid, hinterval, hstarted, hfinished, hspaced, hnext, nofun, nofun⟩
    | finishes | exits => exact ⟨hid, hinterval, hstarted, nofun, hspaced, hnext, nofun, nofun⟩

end OnSchedule

theorem TimedRun.Waits.inRun (h : s.Waits) : s.pc.inRun = true := by
  rcases h with h | h <;> rw [h] <;> rfl

/-- **The exposures of every run are spaced**: by the interval or more, never early,
and none behind an abort. -/
theorem spacing {numShots interval exposureTime : Int32} {download : Bool} {clock : Int}
    (h : Reachable (timedStep perMs) (begin numShots interval exposureTime download clock) s) :
    Spacing perMs interval s := by
  have hs : OnSchedule perMs interval s :=
    h.invariant (fun hs hstep => step_onSchedule hs hstep) (begin_onSchedule ..)
  refine ⟨hs.interval ▸ hs.spaced, fun hwaits as t ht hearly => ?_, fun hwaits as t ht => ?_⟩
  · rcases rests_run (Or.inl hwaits) ht with hlate | ⟨hidles, -⟩
    · exact absurd hearly (Int.not_lt.mpr hlate)
    · exact hidles.starts
  · -- it is running, so the abort is heard
    have habort : s.function.abort.abortCond = true := by
      simp [CameraFunction.abort, hs.started, hs.finished hwaits.inRun]
    exact (aborted_run (abort_rests (Or.inl hwaits)) habort ht).starts

/-- A run that begins two exposures, with a wakeup between them that comes too early. -/
def twoExposures : List TimedAction :=
  [.step .nothing, .step .nothing, .step (.exposureTime (some 1)), .tick 3, .step (.result true),
    .step .nothing, .step .nothing, .step (.wake false), .step .nothing, .tick 7,
    .step (.wake true), .step .nothing, .step .nothing, .step (.exposureTime (some 1)),
    .step (.result true), .step .nothing, .step .nothing]

/-- What it leads to. -/
def afterTwo : TimedRun where
  function := { begin 2 10 1 false 0 |>.function with exposuresCount := 2 }
  shots := 2
  pc := .parked
  clock := 10
  nextExposure := 20
  starts := [0, 10]

theorem spacing_afterTwo :
    run (timedStep 1) (begin 2 10 1 false 0) twoExposures = some afterTwo ∧
      Spacing 1 10 afterTwo := by
  have h : run (timedStep 1) (begin 2 10 1 false 0) twoExposures = some afterTwo := by decide
  exact ⟨h, spacing ⟨_, h⟩⟩

end CameraController
