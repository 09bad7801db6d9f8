import CameraController.CommandHandlerInvariant

/-! # One capture, one run, one function

What the invariant of the program means for the camera and for the function that
is running (`single_capture`): no two threads are in `capture` at a time, `run()`
is started once in the life of an object, and a function that has been started is
neither replaced nor reconfigured before it has finished. -/
namespace CameraController

/-! ## What becomes of an object -/

/-- `g` is what `f` may have become after a step. -/
structure Advanced (f g : CameraFunction) : Prop where
  sameSetup : f.SameSetup g
  started : g.started = f.started ∨ g.started = true ∧ g.finished = f.finished
  finished : f.finished = true → g.finished = true

theorem Advanced.refl (f : CameraFunction) : Advanced f f := ⟨.refl f, Or.inl rfl, fun h => h⟩

theorem Advanced.of_touched {f g : CameraFunction} (h : f.Touched g) : Advanced f g :=
  ⟨h.sameSetup, Or.inl h.started, h.finished⟩

/-- **A step never replaces or reconfigures an object.** -/
theorem step_advanced {s s' : Controller} {a : Action} (h : s.step a = some s') {o : Nat}
    {f : CameraFunction} (hf : s.functions[o]? = some f) :
    ∃ g, s'.functions[o]? = some g ∧ Advanced f g := by
  cases Controller.step_change h with
  | ignored | testing | reconnecting | replacing | creating | camera | tested | testOver
  | crashed =>
    exact ⟨f, hf, .refl f⟩
  | connecting c hidle hactive hf' hp =>
    obtain ⟨h, heq, -⟩ := s.connectCamera_eq _
    rw [heq]
    exact ⟨f, hf, .refl f⟩
  | flagged c hf' hg => exact exists_after hf' Advanced.refl (.of_touched hg) hf
  | @started ans o₀ f₀ hhandler hf' =>
    exact exists_after hf' (b := { f₀ with started := true }) Advanced.refl
      ⟨⟨rfl, rfl, rfl, rfl⟩, Or.inr ⟨rfl, rfl⟩, fun h => h⟩ hf
  | @deleted ans cfg o₀ f₀ hhandler hactive hf' =>
    exact exists_after hf' (b := { f₀ with deleted := true }) Advanced.refl
      ⟨⟨rfl, rfl, rfl, rfl⟩, Or.inl rfl, fun h => h⟩ hf
  | created => exact ⟨f, getElem?_concat_eq_some_iff.mpr (Or.inl hf), .refl f⟩
  | ran ht htask hf' hstep =>
    exact exists_after hf' Advanced.refl (.of_touched (RunPc.step_spec hstep).1) hf
  | testRan ht htask hf' hstep =>
    exact exists_after hf' Advanced.refl (.of_touched (TestPc.step_spec hstep).1) hf

/-- A run keeps the setup of every object, and what is started stays started. -/
theorem run_sameSetup {s s' : Controller} {as : List Action}
    (h : StateMachine.run Controller.step s as = some s') {o : Nat} {f : CameraFunction}
    (hf : s.functions[o]? = some f) :
    ∃ g, s'.functions[o]? = some g ∧ f.SameSetup g ∧ (f.started = true → g.started = true) := by
  refine StateMachine.run_invariant
    (P := fun s' => ∃ g, s'.functions[o]? = some g ∧ f.SameSetup g ∧
      (f.started = true → g.started = true)) ?_ ⟨f, hf, .refl f, fun h => h⟩ h
  rintro s a s' ⟨g, hg, hfg, hstarted⟩ hstep
  obtain ⟨g', hg', hadvanced⟩ := step_advanced hstep hg
  refine ⟨g', hg', hfg.trans hadvanced.sameSetup, fun hf => ?_⟩
  rcases hadvanced.started with hsame | ⟨hstarted', -⟩
  · rw [hsame, hstarted hf]
  · exact hstarted'

/-- The thread runs `run()` of object `o`. -/
def Thread.Runs (t : Thread) (o : Nat) : Prop :=
  t.object = o ∧ ∃ shots pc, t.task = .run shots pc

/-- A thread in `capture` is in `run()`, or the handler awaits it. -/
theorem Invariant.of_inCapture {s : Controller} (hs : Invariant s) {k : Nat} {t : Thread}
    (ht : s.threads[k]? = some t) (hin : t.task.inCapture = true) :
    (t.Runs t.object ∧ s.activeFunction = some t.object ∧ s.handler.exclusive = false) ∨
      s.handler = .awaitTest k := by
  cases htask : t.task with
  | run n pc =>
    rw [htask] at hin
    refine Or.inl ⟨⟨rfl, n, pc, htask⟩, hs.of_inRun ht htask ?_⟩
    cases pc <;> first | rfl | cases hin
  | test pc =>
    rw [htask] at hin
    refine Or.inr (hs.awaited k t pc ht htask ?_)
    rintro rfl
    cases hin

theorem Invariant.run_unique {s : Controller} (hs : Invariant s) {o k k' : Nat} {t t' : Thread}
    (ht : s.threads[k]? = some t) (ht' : s.threads[k']? = some t') (hrun : t.Runs o)
    (hrun' : t'.Runs o) : k = k' := by
  obtain ⟨ho, n, pc, htask⟩ := hrun
  obtain ⟨ho', n', pc', htask'⟩ := hrun'
  exact hs.single k k' t t' n n' pc pc' ht ht' htask htask' (ho.trans ho'.symm)

/-- At most one thread is in `capture`. -/
theorem Invariant.capture_unique {s : Controller} (hs : Invariant s) {k k' : Nat} {t t' : Thread}
    (ht : s.threads[k]? = some t) (ht' : s.threads[k']? = some t')
    (hin : t.task.inCapture = true) (hin' : t'.task.inCapture = true) : k = k' := by
  rcases hs.of_inCapture ht hin with ⟨hrun, hactive, hex⟩ | hawait <;>
    rcases hs.of_inCapture ht' hin' with ⟨hrun', hactive', hex'⟩ | hawait'
  · have ho : t.object = t'.object := Option.some.inj (hactive.symm.trans hactive')
    exact hs.run_unique ht ht' hrun (ho ▸ hrun')
  · rw [hawait'] at hex
    cases hex
  · rw [hawait] at hex'
    cases hex'
  · exact HandlerPc.awaitTest.inj (hawait.symm.trans hawait')

/-- What is promised of a state about captures and functions. -/
structure SingleCapture (s : Controller) : Prop where
  /-- At most one thread is in `capture`. -/
  capture : ∀ (k k' : Nat) (t t' : Thread), s.threads[k]? = some t → s.threads[k']? = some t' →
    t.task.inCapture = true → t'.task.inCapture = true → k = k'
  /-- At most one thread was ever started to run an object's `run()`; threads stay
  in the list when they are over. -/
  run : ∀ (o k k' : Nat) (t t' : Thread), s.threads[k]? = some t → s.threads[k']? = some t' →
    t.Runs o → t'.Runs o → k = k'
  /-- A step that starts an object leaves it unfinished. -/
  start : ∀ (o : Nat) (f f' : CameraFunction) a s', s.functions[o]? = some f →
    f.started = false → s.step a = some s' → s'.functions[o]? = some f' → f'.started = true →
    f'.finished = false
  /-- A started object is the active one until it is finished, whatever happens, and
  its setup never changes. -/
  kept : ∀ (o : Nat) (f : CameraFunction), s.functions[o]? = some f → f.started = true →
    f.finished = false → s.activeFunction = some o ∧
    ∀ as s', StateMachine.run Controller.step s as = some s' → ∃ f' : CameraFunction,
      s'.functions[o]? = some f' ∧ f.SameSetup f' ∧
        (f'.finished = false → s'.activeFunction = some o)

/-- **At most one capture activity exists at a time, and a running function is
never replaced or reconfigured**, in every reachable state. -/
theorem single_capture {s : Controller} (h : StateMachine.Reachable Controller.step {} s) :
    SingleCapture s := by
  have hs := invariant_of_reachable h
  refine ⟨fun _ _ _ _ => hs.capture_unique, fun _ _ _ _ _ => hs.run_unique, ?_, ?_⟩
  · intro o f f' a s' hf hunstarted hstep hf' hstarted'
    obtain ⟨g, hg, hadvanced⟩ := step_advanced hstep hf
    obtain rfl : f' = g := Option.some.inj (hf'.symm.trans hg)
    rcases hadvanced.started with hsame | ⟨-, hfinished⟩
    · rw [hsame, hunstarted] at hstarted'
      cases hstarted'
    · rw [hfinished]
      exact hs.unfinished hf hunstarted
  · intro o f hf hstarted hunfinished
    refine ⟨hs.operating o f hf hstarted hunfinished, fun as s' hrun => ?_⟩
    have hs' : Invariant s' := StateMachine.run_invariant (fun hs hstep => hs.step hstep) hs hrun
    obtain ⟨f', hf', hsame, hstarted'⟩ := run_sameSetup hrun hf
    exact ⟨f', hf', hsame, hs'.operating o f' hf' (hstarted' hstarted)⟩

/-- A sequencer of three shots is set up and started, the camera is connected, and
`run()` calls `capture`. -/
def startCapture : List Action :=
  [.command (.sequencerSetup 20 3 100 false), .handler .nothing, .command (.command 5),
    .handler (.newCamera .created), .handler (.result true), .handler (.serial "1"),
    .handler .nothing, .thread 0 .nothing, .thread 0 .nothing]

/-- The program after that. -/
def capturing : Controller where
  camera := { camera := some 0, connected := true, serial := "1", created := 1 }
  functions := [{ CameraFunction.new ⟨.sequencer, 3, 0, 100, false⟩ with started := true }]
  activeFunction := some 0
  threads := [⟨0, .run 1 (.capture .exposureTime false)⟩]

theorem single_capture_capturing : SingleCapture capturing :=
  single_capture ⟨startCapture, rfl⟩

end CameraController
