import CameraController.CameraWrapper

/-! # Camera functions and their threads

A `Sequencer` and an `Intervalometer` are objects with a detached thread that runs
their `run()`; `testCapture` runs `doTestCapture()` in a thread of its own.  A
thread is a program counter; `RunPc.step` and `TestPc.step` are what it does next,
to the object it belongs to and to itself.

Objects are never forgotten: a deleted one stays with `deleted` set, so that a
thread that still touches it can be seen doing so (`RunPc.touches`). -/
namespace CameraController

/-- `enum class FunctionID`. -/
inductive FunctionID where
  | sequencer
  | intervalometer
  deriving DecidableEq, Repr

/-- What a setup command asks for. -/
structure Setup where
  id : FunctionID
  numShots : Int32
  interval : Int32
  exposureTime : Int32
  download : Bool
  deriving DecidableEq, Repr

/-- A `CameraFunction`: how it was set up, and the flags of its state. -/
structure CameraFunction where
  id : FunctionID
  numShots : Int32
  interval : Int32
  exposureTime : Int32
  downloadAfterExposure : Bool
  started : Bool := false
  finished : Bool := false
  testing : Bool := false
  abortCond : Bool := false
  exposuresCount : Nat := 0
  deleted : Bool := false
  deriving DecidableEq, Repr

namespace CameraFunction

/-- The constructor of a `Sequencer` or an `Intervalometer`. -/
def new (c : Setup) : CameraFunction where
  id := c.id
  numShots := c.numShots
  interval := c.interval
  exposureTime := c.exposureTime
  downloadAfterExposure := c.download

/-- `isOperating()`. -/
def isOperating (f : CameraFunction) : Bool := (f.started && !f.finished) || f.testing

/-- `abort()`. -/
def abort (f : CameraFunction) : CameraFunction :=
  if f.started && !f.finished then { f with abortCond := true } else f

/-- The condition of the loop of `run()`. -/
def goesOn (f : CameraFunction) (shots : Nat) : Bool :=
  !f.abortCond && ((shots : Int) < f.numShots.toInt || f.numShots.toInt == -1)

end CameraFunction

/-! ## Threads -/

/-- Where `run()` stands.  The loop leads from `loopTest` through `enter`,
`capture` and `register`, for an intervalometer also through `waiting` and
`parked`, back to `loopTest`; it is left through `finish`, which sets `finished`,
and `report`, which reads members for the last line of the log. -/
inductive RunPc where
  | loopTest
  | enter
  | capture (c : CapturePc) (download : Bool)
  | register
  | waiting
  | parked
  | finish
  | report
  | exited
  deriving DecidableEq, Repr

namespace RunPc

/-- Before `finished` is set. -/
def inRun : RunPc → Bool
  | report => false
  | exited => false
  | _ => true

/-- Whether the next step reads or writes a member of the function object. -/
def touches : RunPc → Bool
  | capture _ _ => false
  | exited => false
  | _ => true

end RunPc

/-- Where `doTestCapture()` stands. -/
inductive TestPc where
  | begin
  | enter
  | capture (c : CapturePc) (download : Bool)
  | finish
  | exited
  deriving DecidableEq, Repr

/-- What a thread runs; `shots` is the variable `i` of `run()`. -/
inductive Task where
  | run (shots : Nat) (pc : RunPc)
  | test (pc : TestPc)
  deriving DecidableEq, Repr

namespace Task

/-- Inside `CameraWrapper::capture`. -/
def inCapture : Task → Bool
  | run _ (.capture _ _) => true
  | test (.capture _ _) => true
  | _ => false

end Task

/-- A thread and the object whose method it runs. -/
structure Thread where
  object : Nat
  task : Task
  deriving DecidableEq, Repr

/-! ## Steps of a thread -/

/-- What a step of `run()` leads to; an exception nothing catches ends the
program. -/
inductive RunStep where
  | moved (f : CameraFunction) (shots : Nat) (pc : RunPc)
  | terminated
  deriving DecidableEq, Repr

/-- A step of `run()`. -/
def RunPc.step (f : CameraFunction) (shots : Nat) : RunPc → Answer → Option RunStep
  | .loopTest, .nothing =>
    if f.goesOn shots then some (.moved f (shots + 1) .enter) else some (.moved f shots .finish)
  | .enter, .nothing => some (.moved f shots (.capture .exposureTime f.downloadAfterExposure))
  | .capture c download, ans =>
    (captureStep download c ans).map fun
      | .goOn c => .moved f shots (.capture c download)
      | .returned true => .moved f shots .register
      | .returned false => .moved f shots .finish
      | .thrown => .terminated
  | .register, .nothing =>
    some (.moved { f with exposuresCount := f.exposuresCount + 1 } shots
      (match f.id with
        | .sequencer => .loopTest
        | .intervalometer => .waiting))
  -- while (!abort_cond), and then wait_until
  | .waiting, .nothing => some (.moved f shots (if f.abortCond then .loopTest else .parked))
  | .parked, .wake timeout => some (.moved f shots (if timeout then .loopTest else .waiting))
  | .finish, .nothing => some (.moved { f with finished := true } shots .report)
  | .report, .nothing => some (.moved f shots .exited)
  | _, _ => none

/-- A step of `doTestCapture()`.  An exception is kept in the future, which nobody
asks for it; `testing` stays set. -/
def TestPc.step (f : CameraFunction) : TestPc → Answer → Option (CameraFunction × TestPc)
  | .begin, .nothing => some ({ f with testing := true }, .enter)
  | .enter, .nothing => some (f, .capture .exposureTime f.downloadAfterExposure)
  | .capture c download, ans =>
    (captureStep download c ans).map fun
      | .goOn c => (f, .capture c download)
      | .returned _ => (f, .finish)
      | .thrown => (f, .exited)
  | .finish, .nothing => some ({ f with testing := false }, .exited)
  | _, _ => none

/-! ## What a step does to the object -/

namespace CameraFunction

/-- `g` is `f` with the same setup. -/
def SameSetup (f g : CameraFunction) : Prop :=
  g.id = f.id ∧ g.numShots = f.numShots ∧ g.interval = f.interval ∧
    g.exposureTime = f.exposureTime

/-- `g` is `f` but for what its threads and commands may change: the flags
`downloadAfterExposure`, `finished`, `testing` and `abortCond`, and the count. -/
structure Touched (f g : CameraFunction) : Prop where
  sameSetup : SameSetup f g
  started : g.started = f.started
  deleted : g.deleted = f.deleted
  finished : f.finished = true → g.finished = true

theorem SameSetup.refl (f : CameraFunction) : SameSetup f f := ⟨rfl, rfl, rfl, rfl⟩

theorem SameSetup.trans {f g h : CameraFunction} (hfg : SameSetup f g) (hgh : SameSetup g h) :
    SameSetup f h :=
  ⟨hgh.1.trans hfg.1, hgh.2.1.trans hfg.2.1, hgh.2.2.1.trans hfg.2.2.1,
    hgh.2.2.2.trans hfg.2.2.2⟩

theorem Touched.refl (f : CameraFunction) : Touched f f := ⟨.refl f, rfl, rfl, fun h => h⟩

/-- What is not operating does not begin to when it is touched. -/
theorem Touched.atRest {f g : CameraFunction} (h : f.Touched g) (htesting : g.testing = f.testing)
    (hrest : f.isOperating = false) : g.isOperating = false := by
  unfold isOperating at hrest ⊢
  rw [h.started, htesting]
  have hfinished := h.finished
  cases hf : f.finished <;> cases hs : f.started <;> simp_all

/-- Aborting only sets `abort_cond`. -/
theorem abort_eq (f : CameraFunction) : ∃ b, f.abort = { f with abortCond := b } := by
  unfold abort
  split
  · exact ⟨true, rfl⟩
  · exact ⟨f.abortCond, rfl⟩

end CameraFunction

/-- What a step of `run()` can do. -/
inductive RunPc.Moves (f : CameraFunction) (shots : Nat) :
    RunPc → Answer → CameraFunction → Nat → RunPc → Prop
  | goesOn (h : f.goesOn shots = true) : Moves f shots .loopTest .nothing f (shots + 1) .enter
  | leaves (h : f.goesOn shots = false) : Moves f shots .loopTest .nothing f shots .finish
  | enters : Moves f shots .enter .nothing f shots
      (.capture .exposureTime f.downloadAfterExposure)
  | captures {c c' : CapturePc} {download : Bool} {ans : Answer}
      (h : captureStep download c ans = some (.goOn c')) :
      Moves f shots (.capture c download) ans f shots (.capture c' download)
  | captured {c : CapturePc} {download : Bool} {ans : Answer}
      (h : captureStep download c ans = some (.returned true)) :
      Moves f shots (.capture c download) ans f shots .register
  | fails {c : CapturePc} {download : Bool} {ans : Answer}
      (h : captureStep download c ans = some (.returned false)) :
      Moves f shots (.capture c download) ans f shots .finish
  | registers : Moves f shots .register .nothing
      { f with exposuresCount := f.exposuresCount + 1 } shots
      (match f.id with
        | .sequencer => .loopTest
        | .intervalometer => .waiting)
  | waits : Moves f shots .waiting .nothing f shots (if f.abortCond then .loopTest else .parked)
  | wakes (timeout : Bool) : Moves f shots .parked (.wake timeout) f shots
      (if timeout then .loopTest else .waiting)
  | finishes : Moves f shots .finish .nothing { f with finished := true } shots .report
  | exits : Moves f shots .report .nothing f shots .exited

/-- **Every step of `run()`** does one of these things. -/
theorem RunPc.step_moves {f g : CameraFunction} {shots shots' : Nat} {pc pc' : RunPc}
    {ans : Answer} (h : pc.step f shots ans = some (.moved g shots' pc')) :
    Moves f shots pc ans g shots' pc' := by
  cases pc with
  | loopTest =>
    cases ans with
    | nothing =>
      simp only [RunPc.step] at h
      by_cases hgoes : f.goesOn shots = true
      · rw [if_pos hgoes] at h
        cases h
        exact .goesOn hgoes
      · rw [if_neg hgoes] at h
        cases h
        exact .leaves (by simpa using hgoes)
    | _ => cases h
  | capture c download =>
    obtain ⟨next, hnext, hmoved⟩ := Option.map_eq_some_iff.mp h
    cases next with
    | goOn c' =>
      cases hmoved
      exact .captures hnext
    | returned success =>
      cases success <;> cases hmoved
      · exact .fails hnext
      · exact .captured hnext
    | thrown => cases hmoved
  | enter =>
    cases ans <;> cases h
    exact .enters
  | register =>
    cases ans <;> cases h
    exact .registers
  | waiting =>
    cases ans <;> cases h
    exact .waits
  | parked =>
    cases ans <;> cases h
    exact .wakes _
  | finish =>
    cases ans <;> cases h
    exact .finishes
  | report =>
    cases ans <;> cases h
    exact .exits
  | exited => cases ans <;> cases h

/-- The program ends where `capture` throws. -/
theorem RunPc.step_terminated {f : CameraFunction} {shots : Nat} {pc : RunPc} {ans : Answer}
    (h : pc.step f shots ans = some .terminated) :
    ∃ c download, pc = .capture c download ∧ captureStep download c ans = some .thrown := by
  cases pc with
  | capture c download =>
    obtain ⟨next, hnext, hthrown⟩ := Option.map_eq_some_iff.mp h
    cases next with
    | goOn c' => cases hthrown
    | returned success => cases success <;> cases hthrown
    | thrown => exact ⟨c, download, rfl, hnext⟩
  | loopTest =>
    cases ans with
    | nothing =>
      simp only [RunPc.step] at h
      split at h <;> cases h
    | _ => cases h
  | _ => cases ans <;> cases h

/-- **What a step of `run()` does**: it goes on before `finished` is set, or sets
it, or reads the object for the last time. -/
theorem RunPc.step_spec {f g : CameraFunction} {shots shots' : Nat} {pc pc' : RunPc}
    {ans : Answer} (h : pc.step f shots ans = some (.moved g shots' pc')) :
    f.Touched g ∧ g.testing = f.testing ∧
      ((pc.inRun = true ∧ pc'.inRun = true ∧ g.finished = f.finished) ∨
        (pc = .finish ∧ pc' = .report ∧ g.finished = true) ∨
        (pc = .report ∧ pc' = .exited ∧ g = f)) := by
  cases RunPc.step_moves h with
  | goesOn | leaves | enters | captures | captured | fails =>
    exact ⟨.refl f, rfl, Or.inl ⟨rfl, rfl, rfl⟩⟩
  | registers =>
    refine ⟨⟨⟨rfl, rfl, rfl, rfl⟩, rfl, rfl, fun h => h⟩, rfl, Or.inl ⟨rfl, ?_, rfl⟩⟩
    cases f.id <;> rfl
  | waits =>
    refine ⟨.refl f, rfl, Or.inl ⟨rfl, ?_, rfl⟩⟩
    cases f.abortCond <;> rfl
  | wakes timeout =>
    refine ⟨.refl f, rfl, Or.inl ⟨rfl, ?_, rfl⟩⟩
    cases timeout <;> rfl
  | finishes =>
    exact ⟨⟨⟨rfl, rfl, rfl, rfl⟩, rfl, rfl, fun _ => rfl⟩, rfl, Or.inr (Or.inl ⟨rfl, rfl, rfl⟩)⟩
  | exits => exact ⟨.refl f, rfl, Or.inr (Or.inr ⟨rfl, rfl, rfl⟩)⟩

/-- What a step of `doTestCapture()` can do. -/
inductive TestPc.Moves (f : CameraFunction) : TestPc → Answer → CameraFunction → TestPc → Prop
  | begins : Moves f .begin .nothing { f with testing := true } .enter
  | enters : Moves f .enter .nothing f (.capture .exposureTime f.downloadAfterExposure)
  | captures {c c' : CapturePc} {download : Bool} {ans : Answer}
      (h : captureStep download c ans = some (.goOn c')) :
      Moves f (.capture c download) ans f (.capture c' download)
  | returns {c : CapturePc} {download success : Bool} {ans : Answer}
      (h : captureStep download c ans = some (.returned success)) :
      Moves f (.capture c download) ans f .finish
  | throws {c : CapturePc} {download : Bool} {ans : Answer}
      (h : captureStep download c ans = some .thrown) :
      Moves f (.capture c download) ans f .exited
  | finishes : Moves f .finish .nothing { f with testing := false } .exited

/-- **Every step of `doTestCapture()`** does one of these things. -/
theorem TestPc.step_moves {f g : CameraFunction} {pc pc' : TestPc} {ans : Answer}
    (h : pc.step f ans = some (g, pc')) : Moves f pc ans g pc' := by
  cases pc with
  | capture c download =>
    obtain ⟨next, hnext, hmoved⟩ := Option.map_eq_some_iff.mp h
    cases next with
    | goOn c' =>
      cases hmoved
      exact .captures hnext
    | returned success =>
      cases hmoved
      exact .returns hnext
    | thrown =>
      cases hmoved
      exact .throws hnext
  | begin =>
    cases ans <;> cases h
    exact .begins
  | enter =>
    cases ans <;> cases h
    exact .enters
  | finish =>
    cases ans <;> cases h
    exact .finishes
  | exited => cases ans <;> cases h

theorem TestPc.step_spec {f g : CameraFunction} {pc pc' : TestPc} {ans : Answer}
    (h : pc.step f ans = some (g, pc')) :
    f.Touched g ∧ g.finished = f.finished ∧ pc ≠ .exited := by
  cases TestPc.step_moves h with
  | enters | captures | returns | throws => exact ⟨.refl f, rfl, by simp⟩
  | begins | finishes =>
    exact ⟨⟨⟨rfl, rfl, rfl, rfl⟩, rfl, rfl, fun h => h⟩, rfl, by simp⟩

end CameraController
