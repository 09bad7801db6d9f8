import CameraController.StopEffect
import CameraController.StuckFunctions

/-! # The way back

A client that wants another function has two commands for it: STOP and a setup command.
`can_be_set_up`: as long as no capture has thrown, these two are enough, wherever the
program is.  There are at most 77 steps in which the handler ends what it is doing, the
function under way ends, and the new one is there.

Each part of the way is a measure that the program can bring down: what is left of a
command (`busy`), and of `run()` (`RunPc.callsLeft`). -/
namespace CameraController

open StateMachine

/-! ## Answers that bring a thread on -/

namespace CapturePc

/-- In how many calls a capture can be over. -/
def rank : CapturePc → Nat
  | exposureTime | trigger => 2
  | _ => 1

theorem rank_le (c : CapturePc) : c.rank ≤ 2 := by
  cases c <;> simp [rank]

/-- A capture can be over soon, and without an exception. -/
theorem exists_answer (download : Bool) (c : CapturePc) :
    ∃ ans, ans ≠ .exposureTime none ∧ ((∃ success, captureStep download c ans =
        some (.returned success)) ∨
      ∃ c', captureStep download c ans = some (.goOn c') ∧ c'.rank < c.rank) := by
  cases c with
  | exposureTime => exact ⟨.exposureTime (some 1), by simp, Or.inr ⟨.wiredCapture, rfl, by decide⟩⟩
  | remoteExposureTime => exact ⟨.exposureTime (some 1), by simp, Or.inl ⟨false, rfl⟩⟩
  | trigger => exact ⟨.nothing, by simp, Or.inr ⟨.waitForCapture, rfl, by decide⟩⟩
  | waitForCapture => exact ⟨.event .error, by simp, Or.inl ⟨false, rfl⟩⟩
  | wiredCapture => exact ⟨.result false, by simp, Or.inl ⟨false, rfl⟩⟩
  | downloadFile => exact ⟨.result true, by simp, Or.inl ⟨true, rfl⟩⟩

end CapturePc

/-- In how many steps `doTestCapture()` can be over. -/
def TestPc.callsLeft : TestPc → Nat
  | begin => 5
  | enter => 4
  | capture c _ => c.rank + 1
  | finish => 1
  | exited => 0

/-- In how many steps `run()` can be over, once `abort_cond` is set. -/
def RunPc.callsLeft : RunPc → Nat
  | enter => 8
  | capture c _ => c.rank + 5
  | register | parked => 5
  | waiting => 4
  | loopTest => 3
  | finish => 2
  | report => 1
  | exited => 0

theorem TestPc.callsLeft_le (pc : TestPc) : pc.callsLeft ≤ 5 := by
  cases pc with
  | capture c download =>
    have := c.rank_le
    simp only [callsLeft]
    omega
  | _ => simp [callsLeft]

theorem RunPc.callsLeft_le (pc : RunPc) : pc.callsLeft ≤ 8 := by
  cases pc with
  | capture c download =>
    have := c.rank_le
    simp only [callsLeft]
    omega
  | _ => simp [callsLeft]

theorem TestPc.exists_calm_step (f : CameraFunction) {pc : TestPc} (h : pc ≠ .exited) :
    ∃ ans g pc', ans ≠ .exposureTime none ∧ pc.step f ans = some (g, pc') ∧
      pc'.callsLeft < pc.callsLeft := by
  cases pc with
  | exited => exact absurd rfl h
  | begin | enter => exact ⟨.nothing, _, _, by simp, rfl, by simp [callsLeft, CapturePc.rank]⟩
  | finish => exact ⟨.nothing, _, _, by simp, rfl, by simp [callsLeft]⟩
  | capture c download =>
    obtain ⟨ans, hcalm, ⟨success, hr⟩ | ⟨c', hr, hlt⟩⟩ := CapturePc.exists_answer download c
    · exact ⟨ans, f, .finish, hcalm, by simp [TestPc.step, hr], by
        cases c <;> simp [callsLeft, CapturePc.rank]⟩
    · exact ⟨ans, f, .capture c' download, hcalm, by simp [TestPc.step, hr], by
        simpa [callsLeft] using hlt⟩

/-- A function that is stopped can be over soon. -/
theorem RunPc.exists_calm_step {f : CameraFunction} (habort : f.abortCond = true) (shots : Nat)
    {pc : RunPc} (h : pc ≠ .exited) :
    ∃ ans g shots' pc', ans ≠ .exposureTime none ∧
      pc.step f shots ans = some (.moved g shots' pc') ∧ pc'.callsLeft < pc.callsLeft := by
  cases pc with
  | exited => exact absurd rfl h
  | loopTest =>
    have hends : f.goesOn shots = false := by simp [CameraFunction.goesOn, habort]
    exact ⟨.nothing, f, shots, .finish, by simp, by simp [RunPc.step, hends], by simp [callsLeft]⟩
  | enter => exact ⟨.nothing, _, _, _, by simp, rfl, by simp [callsLeft, CapturePc.rank]⟩
  | register =>
    refine ⟨.nothing, _, _, _, by simp, rfl, ?_⟩
    cases f.id <;> simp [callsLeft]
  | waiting =>
    refine ⟨.nothing, _, _, _, by simp, rfl, ?_⟩
    simp [callsLeft, habort]
  | parked => exact ⟨.wake true, _, _, _, by simp, rfl, by simp [callsLeft]⟩
  | finish | report => exact ⟨.nothing, _, _, _, by simp, rfl, by simp [callsLeft]⟩
  | capture c download =>
    obtain ⟨ans, hcalm, ⟨success, hr⟩ | ⟨c', hr, hlt⟩⟩ := CapturePc.exists_answer download c
    · cases success with
      | true => exact ⟨ans, f, shots, .register, hcalm, by simp [RunPc.step, hr], by
          cases c <;> simp [callsLeft, CapturePc.rank]⟩
      | false => exact ⟨ans, f, shots, .finish, hcalm, by simp [RunPc.step, hr], by
          cases c <;> simp [callsLeft, CapturePc.rank]⟩
    · exact ⟨ans, f, shots, .capture c' download, hcalm, by simp [RunPc.step, hr], by
        simpa [callsLeft] using hlt⟩

/-! ## What the program keeps on the way -/

/-- `stoi` throws for a capture. -/
def Action.Throws (a : Action) : Prop := ∃ k, a = .thread k (.exposureTime none)

/-- All that is kept as long as no capture throws. -/
structure Sound (s : Controller) : Prop where
  invariant : Invariant s
  placed : s.Placed
  cleared : Cleared s
  tally : ∀ o, ∃ events, Tally o s events

theorem init_sound : Sound {} :=
  ⟨invariant_init, Controller.init_placed, cleared_init, fun o => ⟨[], init_tally o⟩⟩

namespace Sound

variable {s s' : Controller}

theorem step (hs : Sound s) {a : Action} (ha : ¬ a.Throws) (h : s.step a = some s') : Sound s' where
  invariant := hs.invariant.step h
  placed := hs.placed.step h
  cleared := hs.cleared.step hs.invariant (fun k hk => ha ⟨k, hk⟩) h
  tally o := by
    obtain ⟨events, htally⟩ := hs.tally o
    exact ⟨_, htally.step h⟩

theorem run (hs : Sound s) {as : List Action} (has : ∀ a ∈ as, ¬ a.Throws)
    (h : run Controller.step s as = some s') : Sound s' := by
  induction as generalizing s with
  | nil => exact Option.some.inj h ▸ hs
  | cons a as ih =>
    obtain ⟨t, ht, hrest⟩ := (run_cons_eq_some _).mp h
    exact ih (hs.step (has a List.mem_cons_self) ht)
      (fun b hb => has b (List.mem_cons_of_mem _ hb)) hrest

/-- The function that is operating has a thread. -/
theorem exists_runs (hs : Sound s) {o : Nat} {f : CameraFunction} (hf : s.functions[o]? = some f)
    (hstarted : f.started = true) : ∃ k shots pc, Runs s o k shots pc := by
  obtain ⟨_, htally⟩ := hs.tally o
  exact htally.begun f hf hstarted

end Sound

/-- A step of the program, of which the client knows nothing. -/
def Action.Inner (a : Action) : Prop := ¬ a.Throws ∧ ∀ c, a ≠ .command c

namespace Action

theorem inner_handler (ans : Answer) : Inner (.handler ans) := by
  refine ⟨?_, fun _ h => by cases h⟩
  rintro ⟨_, h⟩
  cases h

theorem inner_thread {k : Nat} {ans : Answer} (h : ans ≠ .exposureTime none) :
    Inner (.thread k ans) := by
  refine ⟨?_, fun _ h => by cases h⟩
  rintro ⟨_, heq⟩
  exact h (Action.thread.inj heq).2

end Action

/-! ## The handler ends its command -/

/-- How many steps are left of the test capture that the handler waits for. -/
def testLeft (s : Controller) : Nat :=
  match s.handler with
  | .awaitTest k =>
    match s.threads[k]? with
    | some ⟨_, .test pc⟩ => pc.callsLeft
    | _ => 0
  | _ => 0

/-- How many steps are left of a command; 5 is what a test capture takes. -/
def busy (s : Controller) : Nat := 6 * s.handler.rank + testLeft s

theorem testLeft_le (s : Controller) : testLeft s ≤ 5 := by
  unfold testLeft
  split
  · split
    · exact TestPc.callsLeft_le _
    · exact Nat.zero_le 5
  · exact Nat.zero_le 5

theorem busy_le (s : Controller) : busy s ≤ 65 := by
  have hrank := s.handler.rank_le
  have htest := testLeft_le s
  unfold busy
  omega

theorem idle_of_busy {s : Controller} (h : busy s = 0) : s.handler = .idle := by
  have hrank : s.handler.rank = 0 := by
    unfold busy at h
    omega
  cases hh : s.handler <;> simp [hh, HandlerPc.rank] at hrank ⊢

/-- **A command can be brought nearer to its end.** -/
theorem exists_busy_lt {s : Controller} (hs : Sound s) (hbusy : 0 < busy s) :
    ∃ a s', a.Inner ∧ s.step a = some s' ∧ Sound s' ∧ busy s' < busy s := by
  have hne : s.handler ≠ .idle := by
    intro hidle
    simp [busy, testLeft, hidle, HandlerPc.rank] at hbusy
  rcases Controller.exists_progress hs.invariant hs.placed hs.cleared.alive hne with
    ⟨ans, s', hstep⟩ | ⟨k, ans, s', hawait, hstep⟩
  · have hinner := Action.inner_handler ans
    refine ⟨.handler ans, s', hinner, hstep, hs.step hinner.1 hstep, ?_⟩
    have hrank : s'.handler.rank < s.handler.rank :=
      Controller.handlerStep_rank_lt (Option.ite_none_left_eq_some.mp hstep).2
    have := testLeft_le s'
    unfold busy
    omega
  · obtain ⟨⟨o, task⟩, pc, ht, rfl, hlt⟩ := hs.placed.awaiting k hawait
    have hrunning := hs.cleared.alive
    have hf := List.getElem?_eq_getElem hlt
    have hpc : pc ≠ .exited := by
      rintro rfl
      simp [Controller.step, hrunning, Controller.threadStep, ht, hf, TestPc.step] at hstep
    obtain ⟨ans, g, pc', hcalm, hr, hleft⟩ := TestPc.exists_calm_step s.functions[o] hpc
    have hthread : s.step (.thread k ans) = some { s with
        functions := s.functions.set o g
        threads := s.threads.set k ⟨o, .test pc'⟩ } := by
      simp [Controller.step, hrunning, Controller.threadStep, ht, hf, hr]
    have hinner := Action.inner_thread (k := k) hcalm
    refine ⟨_, _, hinner, hthread, hs.step hinner.1 hthread, ?_⟩
    simp only [busy, testLeft, hawait, ht, getElem?_set_self_of_some ht]
    omega

/-- **The handler can be idle**, within 65 steps. -/
theorem exists_idle {s : Controller} (hs : Sound s) :
    ∃ as t, (∀ a ∈ as, a.Inner) ∧ run Controller.step s as = some t ∧ Sound t ∧
      t.handler = .idle ∧ as.length ≤ 65 := by
  obtain ⟨as, t, has, hrun, ht, hend, hle⟩ := exists_run_of_measure exists_busy_lt hs
  exact ⟨as, t, has, hrun, ht, idle_of_busy hend, Nat.le_trans hle (busy_le s)⟩

/-! ## A stopped function ends -/

/-- The active function `o` is stopped, and its thread `k` goes on while the handler is idle. -/
structure Ending (o k : Nat) (s : Controller) : Prop where
  sound : Sound s
  idle : s.handler = .idle
  active : s.activeFunction = some o
  stopped : Stopped o k s

/-- How many steps are left of `run()`. -/
def runLeft (k : Nat) (s : Controller) : Nat :=
  match s.threads[k]? with
  | some ⟨_, .run _ pc⟩ => pc.callsLeft
  | _ => 0

theorem runLeft_of_runs {s : Controller} {o k shots : Nat} {pc : RunPc} (h : Runs s o k shots pc) :
    runLeft k s = pc.callsLeft := by
  have hk : s.threads[k]? = some ⟨o, .run shots pc⟩ := h
  simp only [runLeft, hk]

/-- **A stopped function can be brought nearer to its end.** -/
theorem exists_runLeft_lt {o k : Nat} {s : Controller} (hs : Ending o k s)
    (hleft : 0 < runLeft k s) :
    ∃ a s', a.Inner ∧ s.step a = some s' ∧ Ending o k s' ∧ runLeft k s' < runLeft k s := by
  obtain ⟨shots, pc, hruns⟩ := hs.stopped.runs
  obtain ⟨f, hf, habort⟩ := hs.stopped.abort
  rw [runLeft_of_runs hruns] at hleft ⊢
  have hpc : pc ≠ .exited := by
    rintro rfl
    cases hleft
  obtain ⟨ans, g, shots', pc', hcalm, hr, hlt⟩ := RunPc.exists_calm_step habort shots hpc
  have hk : s.threads[k]? = some ⟨o, .run shots pc⟩ := hruns
  have hrunning := hs.sound.cleared.alive
  have hthread : s.step (.thread k ans) = some { s with
      functions := s.functions.set o g
      threads := s.threads.set k ⟨o, .run shots' pc'⟩ } := by
    simp [Controller.step, hrunning, Controller.threadStep, hk, hf, hr]
  have hinner := Action.inner_thread (k := k) hcalm
  have hruns' : Runs { s with
      functions := s.functions.set o g
      threads := s.threads.set k ⟨o, .run shots' pc'⟩ } o k shots' pc' :=
    getElem?_set_self_of_some hk
  refine ⟨_, _, hinner, hthread, ⟨hs.sound.step hinner.1 hthread, hs.idle, hs.active,
    (hs.stopped.step hthread).1⟩, ?_⟩
  rw [runLeft_of_runs hruns']
  exact hlt

/-- **It can have ended**, within eight steps. -/
theorem exists_ended {o k : Nat} {s : Controller} (hs : Ending o k s) :
    ∃ as t, (∀ a ∈ as, a.Inner) ∧ run Controller.step s as = some t ∧ Sound t ∧
      t.handler = .idle ∧ t.activeFunction = some o ∧
      (∃ f : CameraFunction, t.functions[o]? = some f ∧ f.finished = true) ∧ as.length ≤ 8 := by
  obtain ⟨as, t, has, hrun, ht, hend, hle⟩ := exists_run_of_measure exists_runLeft_lt hs
  obtain ⟨shots, pc, hruns⟩ := hs.stopped.runs
  rw [runLeft_of_runs hruns] at hle
  refine ⟨as, t, has, hrun, ht.sound, ht.idle, ht.active, ?_, Nat.le_trans hle pc.callsLeft_le⟩
  obtain ⟨shots', pc', hruns'⟩ := ht.stopped.runs
  rw [runLeft_of_runs hruns'] at hend
  obtain rfl : pc' = .exited := by
    cases pc' <;> simp [RunPc.callsLeft] at hend ⊢
  obtain ⟨f, hf, -, hfinished⟩ := ht.sound.invariant.running k _ shots' .exited hruns' rfl
  exact ⟨f, hf, hfinished⟩

/-! ## The two commands -/

/-- STOP. -/
def stopCommand : Command := .command CommandId.functionStop.code

/-- The command that asks for a function. -/
def setupCommand : Setup → Command
  | ⟨.sequencer, numShots, _, exposureTime, download⟩ =>
    .sequencerSetup CommandId.sequencerSetup.code numShots exposureTime download
  | ⟨.intervalometer, numShots, interval, exposureTime, download⟩ =>
    .intervalometerSetup CommandId.intervalometerSetup.code numShots exposureTime interval download

/-- A sequencer has no interval. -/
def Setup.Proper (c : Setup) : Prop := c.id = .sequencer → c.interval = 0

theorem step_setupCommand {s : Controller} (hs : Sound s) (hidle : s.handler = .idle) {c : Setup}
    (hc : c.Proper) : s.step (.command (setupCommand c)) = s.setup c := by
  have hrunning := hs.cleared.alive
  obtain ⟨id, numShots, interval, exposureTime, download⟩ := c
  cases id with
  | sequencer =>
    obtain rfl : interval = 0 := hc rfl
    simp only [Controller.step, hrunning, hidle, setupCommand, Controller.onCommandReceived]
    rfl
  | intervalometer =>
    simp only [Controller.step, hrunning, hidle, setupCommand, Controller.onCommandReceived]
    rfl

/-- A step of the program, STOP, or the setup command for `c`. -/
def Action.Allowed (c : Setup) (a : Action) : Prop :=
  ¬ a.Throws ∧ ∀ command, a = .command command → command = stopCommand ∨ command = setupCommand c

theorem Action.Inner.allowed {a : Action} (h : a.Inner) (c : Setup) : a.Allowed c :=
  ⟨h.1, fun _ heq => absurd heq (h.2 _)⟩

theorem Action.allowed_command {c : Setup} {command : Command}
    (h : command = stopCommand ∨ command = setupCommand c) : Allowed c (.command command) := by
  refine ⟨?_, fun _ heq => Action.command.inj heq ▸ h⟩
  rintro ⟨_, heq⟩
  cases heq

/-- The new function is there, and has the handler at its disposal. -/
structure SetUp (c : Setup) (s : Controller) : Prop where
  idle : s.handler = .idle
  function : ∃ o, s.activeFunction = some o ∧ s.functions[o]? = some (.new c)

/-- The handler makes the new function. -/
theorem exists_created {s : Controller} (hrunning : s.terminated = false) {c : Setup}
    (hcreate : s.handler = .setupCreate c) :
    ∃ t, s.step (.handler .nothing) = some t ∧ SetUp c t := by
  have hstep : s.step (.handler .nothing) = some { s with
      functions := s.functions ++ [.new c]
      activeFunction := some s.functions.length
      handler := .idle } := by
    simp only [Controller.step, hrunning, Controller.handlerStep, hcreate]
    rfl
  exact ⟨_, hstep, rfl, s.functions.length, rfl, List.getElem?_concat_length ..⟩

theorem setup_of_none {s : Controller} (hactive : s.activeFunction = none) (c : Setup) :
    s.setup c = some { s with handler := .setupCreate c } := by
  unfold Controller.setup
  split
  case h_1 => rfl
  case h_2 hsome => cases hactive.symm.trans hsome

theorem setup_of_rest {s : Controller} {o : Nat} {f : CameraFunction}
    (hactive : s.activeFunction = some o) (hf : s.functions[o]? = some f)
    (hrest : f.isOperating = false) (c : Setup) :
    s.setup c = some { s with handler := .setupDelete c } := by
  unfold Controller.setup
  split
  case h_1 hnone => cases hactive.symm.trans hnone
  case h_2 o' hsome =>
    obtain rfl := Option.some.inj (hactive.symm.trans hsome)
    rw [hf, Option.bind_eq_bind, Option.bind_some, if_neg (by simp [hrest])]

/-- **A function at rest is replaced**, within three steps. -/
theorem exists_setUp {s : Controller} (hs : Sound s) (hidle : s.handler = .idle)
    (hrest : ∀ o (f : CameraFunction), s.activeFunction = some o → s.functions[o]? = some f →
      f.isOperating = false) {c : Setup} (hc : c.Proper) :
    ∃ as t, (∀ a ∈ as, a.Allowed c) ∧ run Controller.step s as = some t ∧ SetUp c t ∧
      as.length ≤ 3 := by
  have hrunning := hs.cleared.alive
  have hallowed : Action.Allowed c (.command (setupCommand c)) :=
    Action.allowed_command (Or.inr rfl)
  have hnothing : Action.Allowed c (.handler .nothing) := (Action.inner_handler _).allowed c
  cases hactive : s.activeFunction with
  | none =>
    have hcommand := (step_setupCommand hs hidle hc).trans (setup_of_none hactive c)
    obtain ⟨t, ht, hsetUp⟩ :=
      exists_created (s := { s with handler := .setupCreate c }) hrunning rfl
    refine ⟨[.command (setupCommand c), .handler .nothing], t, by simp [hallowed, hnothing], ?_,
      hsetUp, Nat.le_succ 2⟩
    rw [run, hcommand, Option.bind_some, run, ht]
    rfl
  | some o =>
    obtain ⟨f, hf, -⟩ := hs.invariant.active o hactive
    have hcommand := (step_setupCommand hs hidle hc).trans
      (setup_of_rest hactive hf (hrest o f hactive hf) c)
    have hdelete : Controller.step { s with handler := .setupDelete c } (.handler .nothing) =
        some { s with
          functions := s.functions.set o { f with deleted := true }
          handler := .setupCreate c } := by
      simp [Controller.step, hrunning, Controller.handlerStep, hactive, hf]
    obtain ⟨t, ht, hsetUp⟩ := exists_created (s := { s with
      functions := s.functions.set o { f with deleted := true }
      handler := .setupCreate c }) hrunning rfl
    refine ⟨[.command (setupCommand c), .handler .nothing, .handler .nothing], t,
      by simp [hallowed, hnothing], ?_, hsetUp, Nat.le_refl 3⟩
    rw [run, hcommand, Option.bind_some, run, hdelete, Option.bind_some, run, ht]
    rfl

/-- STOP reaches a function that is running. -/
theorem exists_ending {s : Controller} (hs : Sound s) (hidle : s.handler = .idle) {o : Nat}
    {f : CameraFunction} (hactive : s.activeFunction = some o) (hf : s.functions[o]? = some f)
    (hstarted : f.started = true) (hunfinished : f.finished = false) :
    ∃ t k, s.step (.command stopCommand) = some t ∧ Ending o k t := by
  have hrunning := hs.cleared.alive
  obtain ⟨k, shots, pc, hruns⟩ := hs.exists_runs hf hstarted
  have habort : f.abort = { f with abortCond := true } := by
    simp [CameraFunction.abort, hstarted, hunfinished]
  have hstep : s.step (.command stopCommand) = some { s with
      functions := s.functions.set o { f with abortCond := true } } := by
    simp only [Controller.step, hrunning, hidle, stopCommand, Controller.onCommandReceived,
      hactive, hf, ← habort]
    simp [Command.cmdId, CommandId.ofCode_eq_some_iff.mpr rfl, hstarted]
  have hcalm : ¬ Action.Throws (.command stopCommand) :=
    (Action.allowed_command (c := ⟨.sequencer, 0, 0, 0, false⟩) (Or.inl rfl)).1
  exact ⟨_, k, hstep, hs.step hcalm hstep, hidle, hactive, ⟨shots, pc, hruns⟩,
    _, getElem?_set_self_of_some hf, rfl⟩

/-- What is stopped comes to rest, and what is at rest is replaced. -/
theorem exists_setUp_of_idle {s : Controller} (hs : Sound s) (hidle : s.handler = .idle)
    {c : Setup} (hc : c.Proper) :
    ∃ as t, (∀ a ∈ as, a.Allowed c) ∧ run Controller.step s as = some t ∧ SetUp c t ∧
      as.length ≤ 12 := by
  -- with the handler idle, nothing is testing
  have hquiet {t : Controller} (ht : Sound t) (hidle : t.handler = .idle) {o : Nat}
      {f : CameraFunction} (hf : t.functions[o]? = some f) : f.testing = false :=
    ht.cleared.quiet (by simp [hidle]) hf
  by_cases hoperating : ∃ o f, s.activeFunction = some o ∧ s.functions[o]? = some f ∧
      f.started = true ∧ f.finished = false
  · obtain ⟨o, f, hactive, hf, hstarted, hunfinished⟩ := hoperating
    obtain ⟨t, k, hstop, hending⟩ := exists_ending hs hidle hactive hf hstarted hunfinished
    obtain ⟨as, u, has, hrun, hu, huidle, huactive, ⟨g, hg, hfinished⟩, hle⟩ := exists_ended hending
    have hrest : ∀ i (x : CameraFunction), u.activeFunction = some i → u.functions[i]? = some x →
        x.isOperating = false := by
      intro i x hi hx
      obtain rfl := Option.some.inj (huactive.symm.trans hi)
      obtain rfl := Option.some.inj (hg.symm.trans hx)
      simp [CameraFunction.isOperating, hfinished, hquiet hu huidle hg]
    obtain ⟨bs, v, hbs, hrun', hv, hle'⟩ := exists_setUp hu huidle hrest hc
    refine ⟨.command stopCommand :: (as ++ bs), v, ?_, ?_, hv, ?_⟩
    · refine List.forall_mem_cons.mpr ⟨Action.allowed_command (Or.inl rfl), ?_⟩
      exact List.forall_mem_append.mpr ⟨fun a ha => (has a ha).allowed c, hbs⟩
    · rw [run, hstop, Option.bind_some, run_append, hrun, Option.bind_some, hrun']
    · rw [List.length_cons, List.length_append]
      omega
  · have hrest : ∀ o (f : CameraFunction), s.activeFunction = some o → s.functions[o]? = some f →
        f.isOperating = false := by
      intro o f hactive hf
      by_contra hop
      refine hoperating ⟨o, f, hactive, hf, ?_⟩
      simpa [CameraFunction.isOperating, hquiet hs hidle hf] using hop
    obtain ⟨bs, t, hbs, hrun, ht, hle⟩ := exists_setUp hs hidle hrest hc
    exact ⟨bs, t, hbs, hrun, ht, by omega⟩

/-- **STOP and a setup command are enough.**  Wherever the program is after a run in which no
capture has thrown, it can come to the function that `c` asks for within 77 steps, and these
two are the only commands it takes. -/
theorem can_be_set_up {as : List Action} {s : Controller} (h : run Controller.step {} as = some s)
    (hcalm : ∀ a ∈ as, ¬ a.Throws) {c : Setup} (hc : c.Proper) :
    ∃ bs t, (∀ b ∈ bs, b.Allowed c) ∧ run Controller.step s bs = some t ∧ SetUp c t ∧
      bs.length ≤ 77 := by
  obtain ⟨as₁, s₁, has₁, hrun₁, hs₁, hidle, hle₁⟩ := exists_idle (init_sound.run hcalm h)
  obtain ⟨as₂, t, has₂, hrun₂, ht, hle₂⟩ := exists_setUp_of_idle hs₁ hidle hc
  refine ⟨as₁ ++ as₂, t, ?_, ?_, ht, ?_⟩
  · exact List.forall_mem_append.mpr ⟨fun a ha => (has₁ a ha).allowed c, has₂⟩
  · rw [run_append, hrun₁, Option.bind_some, hrun₂]
  · rw [List.length_append]
    omega

/-- An intervalometer is wanted while a sequencer takes its first exposure. -/
theorem can_be_set_up_capture :
    ∃ s bs t, run Controller.step {} startCapture = some s ∧
      (∀ b ∈ bs, b.Allowed ⟨.intervalometer, 10, 5000, 100, true⟩) ∧
      run Controller.step s bs = some t ∧ SetUp ⟨.intervalometer, 10, 5000, 100, true⟩ t ∧
      bs.length ≤ 77 := by
  have hcalm : ∀ a ∈ startCapture, ¬ a.Throws := by
    rintro a ha ⟨k, rfl⟩
    simp [startCapture] at ha
  obtain ⟨bs, t, hbs⟩ := can_be_set_up (show run _ _ startCapture = some _ from rfl) hcalm
    (show Setup.Proper ⟨.intervalometer, 10, 5000, 100, true⟩ from fun h => by cases h)
  exact ⟨_, bs, t, rfl, hbs⟩

end CameraController
