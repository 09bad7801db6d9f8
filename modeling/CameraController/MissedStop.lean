import CameraController.IntervalometerSpacing

/-! # Is a stop heard?

`Intervalometer::run` tests `abort_cond` under its mutex, and then waits.
`Intervalometer::abort` sets it and notifies without the mutex, so both can happen in
between: the notification wakes nobody, and the thread sleeps until its deadline.

`TimedRun` takes the test and the wait for one step, and the two steps of `abort()`
for another; here they are apart, and `timed_reachable` says that the runs are still
runs of it.  `heard_iff`: a stop is missed in that way only.  `heard_of_undisturbed`: it
takes a notification between the test and the wait. -/
namespace CameraController

open StateMachine

/-- An intervalometer, with the calls of `abort()` that are under way. -/
structure StoppableRun where
  run : TimedRun
  /-- `abort_cond` was not set, and `wait_until` is about to be called. -/
  tested : Bool := false
  /-- The calls of `abort()` that have set `abort_cond` and not notified. -/
  notifying : Nat := 0
  /-- A notification has reached the thread, which has not woken up. -/
  notified : Bool := false
  deriving DecidableEq, Repr

/-- What happens next; `set` and `notify` are the two steps of `abort()`. -/
inductive StopAction where
  | tick (d : Nat)
  | setDownload (value : Bool)
  | set
  | notify
  | step (ans : Answer)
  deriving DecidableEq, Repr

/-- `run()` of a new intervalometer that has been started. -/
def beginStoppable (numShots interval exposureTime : Int32) (download : Bool) (clock : Int) :
    StoppableRun where
  run := begin numShots interval exposureTime download clock

variable (perMs : Int)

/-- A step of its thread in `while (!abort_cond)`: it tests, and then it parks. -/
def waitStep (s : StoppableRun) : StoppableRun :=
  if s.tested then { s with run := { s.run with pc := .parked }, tested := false }
  else if s.run.function.abortCond then { s with run := { s.run with pc := .loopTest } }
  else { s with tested := true }

/-- A step. -/
def stopStep (s : StoppableRun) : StopAction → Option StoppableRun
  | .tick d => some { s with run := { s.run with clock := s.run.clock + d } }
  | .setDownload value =>
    some { s with run := { s.run with
      function := { s.run.function with downloadAfterExposure := value } } }
  | .set =>
    if s.run.function.started && !s.run.function.finished then
      some { s with
        run := { s.run with function := s.run.function.abort }
        notifying := s.notifying + 1 }
    else some s
  | .notify =>
    if s.notifying = 0 then none
    else some { s with
      notifying := s.notifying - 1
      notified := s.notified || s.run.pc = .parked }
  | .step ans =>
    if s.run.pc = .waiting then
      if ans = .nothing then some (waitStep s) else none
    else (timedStep perMs s.run (.step ans)).map fun t => { s with run := t, notified := false }

namespace StoppableRun

/-- The thread is parked before its deadline, it is to stop, and nobody is about to
wake it up. -/
structure Missed (s : StoppableRun) : Prop where
  parked : s.run.pc = .parked
  early : s.run.clock < s.run.nextExposure
  aborted : s.run.function.abortCond = true
  unnoticed : s.notifying = 0 ∧ s.notified = false

/-- There is nothing to hear, or it will be heard. -/
def Minded (s : StoppableRun) : Prop :=
  s.run.function.abortCond = false ∨ s.notifying ≠ 0 ∨ s.notified = true ∨
    s.run.nextExposure ≤ s.run.clock

/-- A thread that parks has missed nothing. -/
def ParksMinded (s : StoppableRun) (a : StopAction) : Prop :=
  a = .step .nothing → s.tested = true → s.Minded

/-- What a step can do. -/
inductive Change (s : StoppableRun) : StopAction → StoppableRun → Prop
  | tick (d : Nat) : Change s (.tick d) { s with run := { s.run with clock := s.run.clock + d } }
  | setDownload (value : Bool) : Change s (.setDownload value) { s with run := { s.run with
      function := { s.run.function with downloadAfterExposure := value } } }
  | sets (h : (s.run.function.started && !s.run.function.finished) = true) : Change s .set { s with
      run := { s.run with function := s.run.function.abort }
      notifying := s.notifying + 1 }
  | ignored (h : (s.run.function.started && !s.run.function.finished) = false) : Change s .set s
  | notifies (h : s.notifying ≠ 0) : Change s .notify { s with
      notifying := s.notifying - 1
      notified := s.notified || s.run.pc = .parked }
  | parks (hpc : s.run.pc = .waiting) (htested : s.tested = true) : Change s (.step .nothing)
      { s with run := { s.run with pc := .parked }, tested := false }
  | leaves (hpc : s.run.pc = .waiting) (htested : s.tested = false)
      (habort : s.run.function.abortCond = true) : Change s (.step .nothing)
      { s with run := { s.run with pc := .loopTest } }
  | tests (hpc : s.run.pc = .waiting) (htested : s.tested = false)
      (habort : s.run.function.abortCond = false) : Change s (.step .nothing)
      { s with tested := true }
  | runs {ans : Answer} {t : TimedRun} (hpc : s.run.pc ≠ .waiting)
      (h : timedStep perMs s.run (.step ans) = some t) : Change s (.step ans)
      { s with run := t, notified := false }

end StoppableRun

open StoppableRun hiding run

variable {perMs} {s s' : StoppableRun} {a : StopAction}

/-- **Every step** does one of these things. -/
theorem stopStep_change (h : stopStep perMs s a = some s') : Change perMs s a s' := by
  cases a with
  | tick d =>
    cases h
    exact .tick d
  | setDownload value =>
    cases h
    exact .setDownload value
  | set =>
    simp only [stopStep] at h
    by_cases hrunning : (s.run.function.started && !s.run.function.finished) = true
    · rw [if_pos hrunning] at h
      cases h
      exact .sets hrunning
    · rw [if_neg hrunning] at h
      cases h
      exact .ignored (by simpa using hrunning)
  | notify =>
    simp only [stopStep] at h
    split at h
    · cases h
    · rename_i hnotifying
      cases h
      exact .notifies hnotifying
  | step ans =>
    simp only [stopStep] at h
    by_cases hpc : s.run.pc = .waiting
    · rw [if_pos hpc] at h
      split at h
      · rename_i hans
        cases h
        rw [hans, waitStep]
        by_cases htested : s.tested = true
        · rw [if_pos htested]
          exact .parks hpc htested
        · rw [if_neg htested]
          rw [Bool.not_eq_true] at htested
          by_cases habort : s.run.function.abortCond = true
          · rw [if_pos habort]
            exact .leaves hpc htested habort
          · rw [if_neg habort]
            exact .tests hpc htested (by simpa using habort)
      · cases h
    · rw [if_neg hpc] at h
      obtain ⟨t, ht, rfl⟩ := Option.map_eq_some_iff.mp h
      exact .runs hpc ht

theorem parked_of_timedStep {s t : TimedRun} {ans : Answer} (hpc : s.pc ≠ .waiting)
    (h : timedStep perMs s (.step ans) = some t) : t.pc ≠ .parked := by
  obtain ⟨f, shots, pc, hmoves, -, rfl⟩ := timedStep_moves h
  intro hparked
  obtain ⟨g, n, pc₀, clock, deadline, starts⟩ := s
  simp only at hmoves hpc hparked
  cases hmoves with
  | registers => cases hid : g.id <;> rw [hid] at hparked <;> cases hparked
  | waits => exact hpc rfl
  | wakes timeout => cases timeout <;> cases hparked
  | _ => cases hparked

/-! ## What is heard -/

/-- What steps keep in which a thread parks minded. -/
structure StoppableRun.Heard (s : StoppableRun) : Prop where
  tested : s.tested = true → s.run.pc = .waiting
  notified : s.notified = true → s.run.pc = .parked
  parked : s.run.pc = .parked → s.Minded

theorem beginStoppable_heard (numShots interval exposureTime : Int32) (download : Bool)
    (clock : Int) : (beginStoppable numShots interval exposureTime download clock).Heard :=
  ⟨nofun, nofun, nofun⟩

theorem StoppableRun.Minded.not_missed (h : s.Minded) : ¬ s.Missed := by
  rintro ⟨-, hearly, habort, hnotifying, hnotified⟩
  rcases h with h | h | h | h
  · simp [h] at habort
  · exact h hnotifying
  · simp [h] at hnotified
  · exact absurd h (Int.not_le.mpr hearly)

theorem StoppableRun.Heard.not_missed (hs : s.Heard) : ¬ s.Missed :=
  fun h => (hs.parked h.parked).not_missed h

theorem stopStep_heard (hs : s.Heard) (ha : ParksMinded s a) (h : stopStep perMs s a = some s') :
    s'.Heard := by
  obtain ⟨htested, hnotified, hparked⟩ := hs
  cases stopStep_change h with
  | tick d =>
    refine ⟨htested, hnotified, fun hpc => ?_⟩
    rcases hparked hpc with hm | hm | hm | hm
    · exact Or.inl hm
    · exact Or.inr (Or.inl hm)
    · exact Or.inr (Or.inr (Or.inl hm))
    · exact Or.inr (Or.inr (Or.inr (Int.le_trans hm
        (Int.le_add_of_nonneg_right (Int.natCast_nonneg d)))))
  | setDownload => exact ⟨htested, hnotified, hparked⟩
  | sets => exact ⟨htested, hnotified, fun _ => Or.inr (Or.inl (Nat.succ_ne_zero _))⟩
  | ignored => exact ⟨htested, hnotified, hparked⟩
  | notifies =>
    refine ⟨htested, fun hn => ?_, fun hpc => Or.inr (Or.inr (Or.inl ?_))⟩
    · rcases Bool.or_eq_true_iff.mp hn with hn | hn
      · exact hnotified hn
      · simpa using hn
    · simp [show s.run.pc = .parked from hpc]
  | parks hpc ht =>
    refine ⟨nofun, fun _ => rfl, fun _ => ?_⟩
    exact ha rfl ht
  | leaves hpc ht =>
    refine ⟨fun h => absurd h (Bool.eq_false_iff.mp ht), fun h => ?_, nofun⟩
    have hp := hnotified h
    rw [hpc] at hp
    cases hp
  | tests hpc => exact ⟨fun _ => hpc, hnotified, hparked⟩
  | runs hpc ht =>
    refine ⟨fun h => absurd (htested h) hpc, nofun, fun h => ?_⟩
    exact absurd h (parked_of_timedStep hpc ht)

/-- A thread that parks otherwise has missed a stop. -/
theorem missed_of_unminded (hs : s.Heard) (ha : ¬ ParksMinded s a)
    (h : stopStep perMs s a = some s') : s'.Missed := by
  simp only [ParksMinded, not_forall] at ha
  obtain ⟨rfl, htested, hmissed⟩ := ha
  simp only [Minded, not_or, not_not] at hmissed
  obtain ⟨habort, hnotifying, hnotified, hearly⟩ := hmissed
  have hpc := hs.tested htested
  simp only [stopStep, hpc, waitStep, htested, if_true, Option.some.injEq] at h
  subst h
  exact ⟨rfl, Int.not_le.mp hearly, by simpa using habort, hnotifying, by simpa using hnotified⟩

/-- **A stop is never missed exactly when the thread never parks on an `abort_cond` that
was set since, with its deadline ahead and nobody left to notify.** -/
theorem heard_iff (perMs : Int) (numShots interval exposureTime : Int32) (download : Bool)
    (clock : Int) (actions : List StopAction) :
    Always (stopStep perMs) (fun s => ¬ s.Missed)
        (beginStoppable numShots interval exposureTime download clock) actions ↔
      EachStep (stopStep perMs) ParksMinded
        (beginStoppable numShots interval exposureTime download clock) actions :=
  always_iff_eachStep Heard.not_missed stopStep_heard
    (fun hs ha h => not_not_intro (missed_of_unminded hs ha h))
    (beginStoppable_heard numShots interval exposureTime download clock) actions

/-- The first exposure of an intervalometer is taken, its thread looks at `abort_cond`,
and a stop comes before it waits. -/
def stopBetween : List StopAction :=
  [.step .nothing, .step .nothing, .step (.exposureTime (some 1)), .step (.result true),
    .step .nothing, .step .nothing, .set, .notify, .step .nothing]

theorem not_heard_between :
    ¬ ∀ (perMs : Int) (numShots interval exposureTime : Int32) (download : Bool) (clock : Int)
      (actions : List StopAction), Always (stopStep perMs) (fun s => ¬ s.Missed)
        (beginStoppable numShots interval exposureTime download clock) actions := by
  intro h
  have hrun : run (stopStep 1) (beginStoppable 2 10 1 false 0) stopBetween =
      some { run := { afterTwo with
        function := { begin 2 10 1 false 0 |>.function with exposuresCount := 1, abortCond := true }
        shots := 1
        clock := 0
        nextExposure := 10
        starts := [0] } } := by
    decide
  exact (h 1 2 10 1 false 0 stopBetween).of_run hrun ⟨rfl, by decide, rfl, rfl, rfl⟩

/-! ## A condition on the schedule -/

/-- `abort()` does not notify between the test and the wait. -/
def StoppableRun.Undisturbed (s : StoppableRun) (a : StopAction) : Prop :=
  a = .notify → s.tested = false

/-- What undisturbed steps keep: a thread about to wait has seen what is still so, or it
will be told. -/
structure StoppableRun.Aware (s : StoppableRun) : Prop extends Heard s where
  seen : s.tested = true → s.run.function.abortCond = false ∨ s.notifying ≠ 0

theorem StoppableRun.Aware.parksMinded (hs : s.Aware) (a : StopAction) : ParksMinded s a := by
  intro _ htested
  rcases hs.seen htested with h | h
  · exact Or.inl h
  · exact Or.inr (Or.inl h)

theorem stopStep_aware (hs : s.Aware) (ha : Undisturbed s a) (h : stopStep perMs s a = some s') :
    s'.Aware := by
  refine ⟨stopStep_heard hs.toHeard (hs.parksMinded a) h, ?_⟩
  have hseen := hs.seen
  cases stopStep_change h with
  | tick | setDownload | ignored => exact hseen
  | sets => exact fun _ => Or.inr (Nat.succ_ne_zero _)
  | notifies => exact fun htested => absurd htested (Bool.eq_false_iff.mp (ha rfl))
  | parks => nofun
  | leaves hpc ht => exact fun htested => absurd htested (Bool.eq_false_iff.mp ht)
  | tests hpc ht habort => exact fun _ => Or.inl habort
  | runs hpc ht => exact fun htested => absurd (hs.tested htested) hpc

/-- **Without a notification between the test and the wait no stop is missed.** -/
theorem heard_of_undisturbed {numShots interval exposureTime : Int32} {download : Bool}
    {clock : Int} {actions : List StopAction}
    (h : EachStep (stopStep perMs) Undisturbed
      (beginStoppable numShots interval exposureTime download clock) actions) :
    Always (stopStep perMs) (fun s => ¬ s.Missed)
      (beginStoppable numShots interval exposureTime download clock) actions :=
  always_of_eachStep (fun hs => hs.toHeard.not_missed) stopStep_aware
    ⟨beginStoppable_heard .., nofun⟩ h

/-! ## The test and the wait as one step -/

namespace StoppableRun

/-- The thread as `TimedRun` has it, parked from the test on. -/
def timed (s : StoppableRun) : TimedRun :=
  if s.tested then { s.run with pc := .parked } else s.run

/-- It tests where it waits. -/
def TestsInLoop (s : StoppableRun) : Prop := s.tested = true → s.run.pc = .waiting

end StoppableRun

theorem stopStep_testsInLoop (hs : s.TestsInLoop) (h : stopStep perMs s a = some s') :
    s'.TestsInLoop := by
  cases stopStep_change h with
  | tick | setDownload | sets | ignored | notifies => exact hs
  | parks => nofun
  | leaves hpc ht => exact fun htested => absurd htested (Bool.eq_false_iff.mp ht)
  | tests hpc => exact fun _ => hpc
  | runs hpc ht => exact fun htested => absurd (hs htested) hpc

/-- **A step** is one of `TimedRun`, or none. -/
theorem timed_step (hs : s.TestsInLoop) (h : stopStep perMs s a = some s') :
    s'.timed = s.timed ∨ ∃ b, timedStep perMs s.timed b = some s'.timed := by
  cases stopStep_change h with
  | tick d =>
    refine Or.inr ⟨.tick d, ?_⟩
    unfold timed
    split <;> rfl
  | setDownload value =>
    refine Or.inr ⟨.setDownload value, ?_⟩
    unfold timed
    split <;> rfl
  | sets =>
    refine Or.inr ⟨.abort, ?_⟩
    unfold timed
    split <;> rfl
  | ignored | notifies => exact Or.inl rfl
  | parks hpc ht =>
    apply Or.inl
    simp [timed, ht]
  | leaves hpc ht habort =>
    refine Or.inr ⟨.step .nothing, ?_⟩
    simp [timed, ht, timedStep, hpc, RunPc.step, habort, TimedRun.looks]
  | tests hpc ht habort =>
    refine Or.inr ⟨.step .nothing, ?_⟩
    simp [timed, ht, timedStep, hpc, RunPc.step, habort, TimedRun.looks]
  | @runs ans t hpc hstep =>
    have ht : s.tested = false := by simpa using mt hs hpc
    refine Or.inr ⟨.step ans, ?_⟩
    simpa [timed, ht] using hstep

/-- **Every run** is one of `TimedRun`. -/
theorem timed_run (hs : s.TestsInLoop) {as : List StopAction}
    (h : run (stopStep perMs) s as = some s') :
    s'.TestsInLoop ∧ ∃ bs, run (timedStep perMs) s.timed bs = some s'.timed := by
  refine run_invariant (P := fun u => u.TestsInLoop ∧
    ∃ bs, run (timedStep perMs) s.timed bs = some u.timed) ?_ ⟨hs, [], rfl⟩ h
  rintro u a v ⟨hu, bs, hbs⟩ hstep
  refine ⟨stopStep_testsInLoop hu hstep, ?_⟩
  rcases timed_step hu hstep with hsame | ⟨b, hb⟩
  · exact ⟨bs, by rw [hsame, hbs]⟩
  · refine ⟨bs ++ [b], ?_⟩
    rw [run_append, hbs]
    exact (run_cons_eq_some _).mpr ⟨v.timed, hb, rfl⟩

theorem timed_reachable {numShots interval exposureTime : Int32} {download : Bool} {clock : Int}
    (h : Reachable (stopStep perMs)
      (beginStoppable numShots interval exposureTime download clock) s) :
    Reachable (timedStep perMs) (begin numShots interval exposureTime download clock) s.timed := by
  obtain ⟨as, has⟩ := h
  exact (timed_run (beginStoppable_heard ..).tested has).2

/-- **A stop that is missed** is late, and not lost: no exposure begins behind it. -/
theorem starts_of_missed (hs : s.Missed) (htested : s.TestsInLoop) {as : List StopAction}
    (h : run (stopStep perMs) s as = some s') : s'.run.starts = s.run.starts := by
  have hnot : s.tested = false := by
    have hpc : s.run.pc ≠ .waiting := by
      rw [hs.parked]
      nofun
    simpa using mt htested hpc
  have htimed : s.timed = s.run := by simp [timed, hnot]
  have hstarts : s'.timed.starts = s'.run.starts := by
    unfold timed
    split <;> rfl
  obtain ⟨-, bs, hbs⟩ := timed_run htested h
  rw [htimed] at hbs
  rw [← hstarts]
  exact (aborted_run (Or.inl (Or.inr hs.parked)) hs.aborted hbs).starts

end CameraController
