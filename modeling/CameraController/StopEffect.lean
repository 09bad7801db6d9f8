import CameraController.ExposureCount
import CameraController.HandlerProgress
import CameraController.SingleCapture

/-! # What STOP brings about

`abort()` sets `abort_cond`, and nothing clears it.  The thread in `run()` sees it at the
next test of its loop.  `stop_ends_run`: from then on it takes six steps at most outside of
`camera.capture`, whatever else happens; it can always take the next one, until the program
ends; and when it has taken them all, `finished` is set. -/
namespace CameraController

open StateMachine

namespace RunPc

/-- How many steps outside of `capture` may be left of `run()` once `abort_cond` is set. -/
def stepsLeft : RunPc → Nat
  | enter => 6
  | capture _ _ | register | parked => 5
  | waiting => 4
  | loopTest => 3
  | finish => 2
  | report => 1
  | exited => 0

theorem stepsLeft_le (pc : RunPc) : pc.stepsLeft ≤ 6 := by
  cases pc <;> simp [stepsLeft]

/-- Not inside of `camera.capture`. -/
def outside : RunPc → List RunPc
  | capture _ _ => []
  | pc => [pc]

/-- **With `abort_cond` set, each step of `run()`** outside of `capture` brings its end
nearer, and none inside puts it off. -/
theorem stepsLeft_step {f g : CameraFunction} {shots shots' : Nat} {pc pc' : RunPc} {ans : Answer}
    (h : pc.step f shots ans = some (.moved g shots' pc')) (habort : f.abortCond = true) :
    pc.outside.length + pc'.stepsLeft ≤ pc.stepsLeft := by
  cases RunPc.step_moves h with
  | goesOn hgoes => simp [CameraFunction.goesOn, habort] at hgoes
  | registers => cases f.id <;> simp [outside, stepsLeft]
  | waits => simp [outside, stepsLeft, habort]
  | wakes timeout => cases timeout <;> simp [outside, stepsLeft]
  | leaves | enters | captures | captured | fails | finishes | exits =>
    simp [outside, stepsLeft]

/-- `run()` waits for nothing but an answer. -/
theorem exists_step (f : CameraFunction) (shots : Nat) {pc : RunPc} (h : pc ≠ .exited) :
    ∃ ans r, pc.step f shots ans = some r := by
  cases pc with
  | exited => exact absurd rfl h
  | capture c download =>
    obtain ⟨ans, r, hr⟩ := exists_captureStep download c
    exact ⟨ans, Option.isSome_iff_exists.mp (by simp [RunPc.step, hr])⟩
  | parked => exact ⟨.wake true, _, rfl⟩
  | loopTest => exact ⟨.nothing, Option.isSome_iff_exists.mp (by simp [RunPc.step]; split <;> rfl)⟩
  | enter | register | waiting | finish | report => exact ⟨.nothing, _, rfl⟩

end RunPc

/-- The steps of thread `k` outside of `capture`. -/
def outsideStep (k : Nat) (s : Controller) : Action → List RunPc
  | .thread j _ =>
    match s.threads[j]? with
    | some ⟨_, .run _ pc⟩ => if j = k then pc.outside else []
    | _ => []
  | _ => []

/-- How many of them are left. -/
def stepsLeft (k : Nat) (s : Controller) : Nat :=
  match s.threads[k]? with
  | some ⟨_, .run _ pc⟩ => pc.stepsLeft
  | _ => 0

/-- Thread `k` runs `run()` of object `o`, whose `abort_cond` is set. -/
structure Stopped (o k : Nat) (s : Controller) : Prop where
  runs : ∃ shots pc, Runs s o k shots pc
  abort : ∃ f : CameraFunction, s.functions[o]? = some f ∧ f.abortCond = true

theorem stepsLeft_of_runs {s : Controller} {o k shots : Nat} {pc : RunPc}
    (h : Runs s o k shots pc) : stepsLeft k s = pc.stepsLeft := by
  have hk : s.threads[k]? = some ⟨o, .run shots pc⟩ := h
  simp only [stepsLeft, hk]

/-- **Nothing clears `abort_cond`.** -/
theorem abort_kept {s s' : Controller} {a : Action} (h : s.step a = some s') {o : Nat}
    (habort : ∃ f : CameraFunction, s.functions[o]? = some f ∧ f.abortCond = true) :
    ∃ f : CameraFunction, s'.functions[o]? = some f ∧ f.abortCond = true := by
  obtain ⟨f, hf, hset⟩ := habort
  -- an object is replaced by one that is stopped if it was
  have hreplaced {i : Nat} {x y : CameraFunction} (hx : s.functions[i]? = some x)
      (hxy : x.abortCond = true → y.abortCond = true) :
      ∃ g : CameraFunction, (s.functions.set i y)[o]? = some g ∧ g.abortCond = true := by
    obtain ⟨g, hg, hkept⟩ := exists_after hx
      (R := fun x y => x.abortCond = true → y.abortCond = true) (fun _ h => h) hxy hf
    exact ⟨g, hg, hkept hset⟩
  have hchange := Controller.step_change h
  cases a with
  | command c =>
    obtain ⟨-, hstep⟩ := Option.ite_none_left_eq_some.mp h
    obtain ⟨-, hstep⟩ := Option.ite_none_right_eq_some.mp hstep
    cases onCommandReceived_runChange hstep with
    | none _ hsame => exact ⟨f, hsame ▸ hf, hset⟩
    | touched _ hx hg hfunctions =>
      rw [hfunctions]
      exact hreplaced hx fun hx => hg.2.2.trans hx
    | aborted hx hfunctions =>
      rw [hfunctions]
      exact hreplaced hx fun _ => rfl
  | handler ans =>
    cases hchange with
    | camera | tested | testOver => exact ⟨f, hf, hset⟩
    | started _ _ hx | deleted _ _ _ hx => exact hreplaced hx fun h => h
    | created =>
      have hlt := (List.getElem?_eq_some_iff.mp hf).1
      exact ⟨f, by rw [List.getElem?_append_left hlt, hf], hset⟩
  | thread j ans =>
    cases hchange with
    | ran _ _ hx hstep => exact hreplaced hx fun hx => (runStep_sameRun hstep).2.2.trans hx
    | testRan _ _ hx hstep => exact hreplaced hx fun hx => (testStep_sameRun hstep).2.2.trans hx
    | crashed => exact ⟨f, hf, hset⟩

/-- **What a step does to thread `k`**: it is a step of the thread, or leaves it where it is. -/
theorem thread_cases {s s' : Controller} {a : Action} (h : s.step a = some s') {o k shots : Nat}
    {pc : RunPc} (hruns : Runs s o k shots pc) :
    (Runs s' o k shots pc ∧ outsideStep k s a = []) ∨
      ∃ f g ans shots' pc', s.functions[o]? = some f ∧
        pc.step f shots ans = some (.moved g shots' pc') ∧ Runs s' o k shots' pc' ∧
        outsideStep k s a = pc.outside := by
  have hk : s.threads[k]? = some ⟨o, .run shots pc⟩ := hruns
  have hlt := (List.getElem?_eq_some_iff.mp hk).1
  have hchange := Controller.step_change h
  cases a with
  | command c =>
    refine Or.inl ⟨?_, rfl⟩
    rw [Runs, command_threads hchange, hk]
  | handler ans =>
    refine Or.inl ⟨?_, rfl⟩
    cases hchange with
    | camera | testOver | deleted | created => exact hruns
    | started | tested => rw [Runs, List.getElem?_append_left hlt, hk]
  | thread j ans =>
    obtain ⟨-, hstep⟩ := Option.ite_none_left_eq_some.mp h
    obtain ⟨⟨i, task⟩, ht, hstep⟩ := Option.bind_eq_some_iff.mp hstep
    obtain ⟨f, hf, hstep⟩ := Option.bind_eq_some_iff.mp hstep
    by_cases hjk : j = k
    · obtain rfl := hjk
      obtain ⟨rfl, rfl⟩ := Thread.mk.inj (Option.some.inj (ht.symm.trans hk))
      obtain ⟨r, hr, hstep⟩ := Option.bind_eq_some_iff.mp hstep
      cases r with
      | moved g shots' pc' =>
        cases hstep
        exact Or.inr ⟨f, g, ans, shots', pc', hf, hr, getElem?_set_self_of_some hk, by
          simp [outsideStep, hk]⟩
      | terminated =>
        cases hstep
        obtain ⟨c, download, rfl, -⟩ := RunPc.step_terminated hr
        exact Or.inl ⟨hruns, by simp [outsideStep, hk, RunPc.outside]⟩
    · refine Or.inl ⟨?_, ?_⟩
      · cases hchange with
        | ran | testRan => rw [Runs, List.getElem?_set_ne hjk, hk]
        | crashed => exact hruns
      · cases task <;> simp [outsideStep, ht, hjk]

/-- **A step of a program** with a stopped function. -/
theorem Stopped.step {s s' : Controller} {a : Action} {o k : Nat} (hs : Stopped o k s)
    (h : s.step a = some s') :
    Stopped o k s' ∧ (outsideStep k s a).length + stepsLeft k s' ≤ stepsLeft k s := by
  obtain ⟨shots, pc, hruns⟩ := hs.runs
  obtain ⟨f, hf, habort⟩ := hs.abort
  rw [stepsLeft_of_runs hruns]
  rcases thread_cases h hruns with ⟨hruns', hnone⟩ | ⟨f', g, ans, shots', pc', hf', hstep, hruns',
    hsome⟩
  · refine ⟨⟨⟨shots, pc, hruns'⟩, abort_kept h hs.abort⟩, ?_⟩
    rw [stepsLeft_of_runs hruns', hnone]
    exact Nat.le_of_eq (Nat.zero_add _)
  · obtain rfl := Option.some.inj (hf.symm.trans hf')
    refine ⟨⟨⟨shots', pc', hruns'⟩, abort_kept h hs.abort⟩, ?_⟩
    rw [stepsLeft_of_runs hruns', hsome]
    exact RunPc.stepsLeft_step hstep habort

/-- **STOP ends a run.**  Whatever the program does once `abort_cond` of an object is set, the
thread that runs its `run()` takes six steps at most outside of `camera.capture`; while the
program goes on, it has left `run()` and set `finished`, or it can take its next step. -/
theorem stop_ends_run {s : Controller} (h : Reachable Controller.step {} s) {o k shots : Nat}
    {pc : RunPc} (hruns : Runs s o k shots pc) {f : CameraFunction}
    (hf : s.functions[o]? = some f) (habort : f.abortCond = true) {as : List Action}
    {s' : Controller} {steps : List RunPc}
    (hrun : run (recording Controller.step (outsideStep k)) (s, []) as = some (s', steps)) :
    steps.length ≤ 6 ∧ ∃ shots' pc' f', Runs s' o k shots' pc' ∧ s'.functions[o]? = some f' ∧
      (pc' = .exited ∧ f'.finished = true ∨
        (s'.terminated = false → ∃ ans s'', s'.step (.thread k ans) = some s'')) := by
  have hinit : (Invariant s ∧ Stopped o k s) ∧ ([] : List RunPc).length + stepsLeft k s ≤ 6 := by
    refine ⟨⟨invariant_of_reachable h, ⟨shots, pc, hruns⟩, f, hf, habort⟩, ?_⟩
    rw [stepsLeft_of_runs hruns]
    exact Nat.le_trans (Nat.le_of_eq (Nat.zero_add _)) pc.stepsLeft_le
  obtain ⟨⟨hinv, hstopped⟩, hcount⟩ := run_recording
    (P := fun s steps => (Invariant s ∧ Stopped o k s) ∧ steps.length + stepsLeft k s ≤ 6)
    (fun {s steps a t} ⟨⟨hinv, hs⟩, hcount⟩ hstep => by
      obtain ⟨hs', hle⟩ := hs.step hstep
      refine ⟨⟨hinv.step hstep, hs'⟩, ?_⟩
      rw [List.length_append]
      omega) hinit hrun
  have hsix : steps.length ≤ 6 := Nat.le_trans (Nat.le_add_right _ _) hcount
  obtain ⟨shots', pc', hruns'⟩ := hstopped.runs
  have hk : s'.threads[k]? = some ⟨o, .run shots' pc'⟩ := hruns'
  obtain ⟨f', hf', -, hphase⟩ := hinv.running k _ shots' pc' hk rfl
  refine ⟨hsix, shots', pc', f', hruns', hf', ?_⟩
  by_cases hover : pc' = .exited
  · exact Or.inl ⟨hover, by rw [hphase, hover]; rfl⟩
  · refine Or.inr fun hrunning => ?_
    obtain ⟨ans, r, hr⟩ := RunPc.exists_step f' shots' hover
    have hstep : (s'.step (.thread k ans)).isSome = true := by
      cases r <;> simp [Controller.step, hrunning, Controller.threadStep, hk, hf', hr]
    exact ⟨ans, Option.isSome_iff_exists.mp hstep⟩

/-- A sequencer of three shots is stopped while it takes the first. -/
def stoppedInCapture : List Action := startCapture ++ [.command (.command 6)]

/-- It takes that one, and no other. -/
def lastSteps : List Action :=
  [.thread 0 (.exposureTime (some 1000)), .thread 0 (.result true), .thread 0 .nothing,
    .thread 0 .nothing, .thread 0 .nothing, .thread 0 .nothing]

theorem stop_ends_run_capture :
    ∃ s s' steps, run Controller.step {} stoppedInCapture = some s ∧
      run (recording Controller.step (outsideStep 0)) (s, []) lastSteps = some (s', steps) ∧
      steps.length ≤ 6 ∧ ∃ shots' pc' f', Runs s' 0 0 shots' pc' ∧ s'.functions[0]? = some f' ∧
        (pc' = .exited ∧ f'.finished = true ∨
          (s'.terminated = false → ∃ ans s'', s'.step (.thread 0 ans) = some s'')) :=
  ⟨_, _, _, rfl, rfl, stop_ends_run ⟨stoppedInCapture, rfl⟩
    (show Runs _ 0 0 1 (.capture .exposureTime false) from rfl) rfl rfl
    (show run _ _ lastSteps = some _ from rfl)⟩

end CameraController
