import CameraController.CameraConfig
import CameraController.CommandHandlerInvariant

/-! # Can a camera leave a function operating for ever?

`testing` is cleared, and `finished` set, by the last line of straight-line code.
The exposure time is a text of the camera; `string` throws where there is none, and
`stoi` throws on a text that does not begin with an `int`.  Thrown in `run()`, the
exception ends the program; thrown in `doTestCapture()`, it is kept in a future that
nobody asks, and `testing` stays set: no function can be set up, started or tested any
more.

The program is run here on what the camera reports (`Report`).  `unstuck_iff` says
that no run gets stuck exactly when what is read are texts that begin with an
`int`. -/
namespace CameraController

open StateMachine

/-! ## The program, on what the camera reports -/

/-- The answer is one to the question for the exposure time. -/
def Answer.isExposureTime : Answer → Bool
  | exposureTime _ => true
  | _ => false

/-- An action, or the exposure time read by thread `k` from what the camera
reports. -/
inductive Report where
  | action (a : Action)
  | exposureTime (k : Nat) (config : Config)

/-- A step of the program; `overflow` is what the machine makes of a product that
is not an `int`. -/
def reportStep (overflow : Int → Int) (s : Controller) : Report → Option Controller
  | .action (.thread k ans) => if ans.isExposureTime then none else s.step (.thread k ans)
  | .action a => s.step a
  | .exposureTime k config => s.step (.thread k (exposureTimeAnswer overflow config))

/-- No function is stuck: no exception has left a thread that runs `run()`, such a
thread is over only when `finished` is set, a test capture is over only when its
function is not operating, and none is testing otherwise. -/
structure Unstuck (s : Controller) : Prop where
  alive : s.terminated = false
  runs : ∀ (k : Nat) (t : Thread) n, s.threads[k]? = some t → t.task = .run n .exited →
    ∃ f : CameraFunction, s.functions[t.object]? = some f ∧ f.finished = true
  returned : ∀ (k : Nat) (t : Thread) (f : CameraFunction), s.handler = .awaitTest k →
    s.threads[k]? = some t → t.task = .test .exited → s.functions[t.object]? = some f →
    f.isOperating = false
  tests : (∀ k, s.handler ≠ .awaitTest k) → ∀ (o : Nat) (f : CameraFunction),
    s.functions[o]? = some f → f.testing = false

/-- The text begins with an integer that is an `int`. -/
def BeginsWithInt (text : String) : Prop :=
  ∃ n rest, IntegerPrefix.scan text.toList = some (n, rest) ∧ FitsInt n

/-- Reading the exposure time brings no null pointer, and the text begins with an `int`
or is empty. -/
def Config.Parses (config : Config) : Prop :=
  ¬ config.Null configExposureTime ∧
    ∀ text, config.report configExposureTime = some text → text = "" ∨ BeginsWithInt text

/-- Whatever exposure time is read can be parsed. -/
def Parses : Controller → Report → Prop
  | _, .action _ => True
  | _, .exposureTime _ config => config.Parses

/-! ## What throws -/

theorem stoi_returns_iff (text : String) :
    (∃ v, stoi text = .ok v) ↔ BeginsWithInt text := by
  simp only [stoi_eq_ok_iff]
  constructor
  · rintro ⟨v, rest, hscan⟩
    exact ⟨v.toInt, rest, hscan, v.le_toInt, v.toInt_lt⟩
  · rintro ⟨n, rest, hscan, hn⟩
    exact ⟨Int32.ofInt n, rest, by rw [toInt_ofInt_of_fitsInt hn, hscan]⟩

theorem stoi_error {text : String} {e : NumberError} (h : stoi text = .error e) :
    e = .invalidArgument ∨ e = .outOfRange := by
  unfold stoi at h
  split at h
  · exact Or.inl (Except.error.inj h).symm
  · split at h
    · cases h
    · exact Or.inr (Except.error.inj h).symm

theorem mulInt_cases (a b : Int32) :
    (∃ v, mulInt a b = .ok v) ∨ ∃ product, mulInt a b = .error (.overflow product) := by
  unfold mulInt
  split
  · exact Or.inl ⟨_, rfl⟩
  · exact Or.inr ⟨_, rfl⟩

/-- An exposure time is answered unless `string` or `stoi` throws. -/
theorem exposureTimeAnswer_eq_none_iff (overflow : Int → Int) (config : Config) :
    exposureTimeAnswer overflow config = .exposureTime none ↔ ¬ config.Parses := by
  unfold exposureTimeAnswer readExposureTime Config.Parses
  by_cases hnull : config.Null configExposureTime
  · simp [getCurrentExposureTime_of_null hnull, hnull, Except.toOption]
  · rw [getCurrentExposureTime_eq hnull, and_iff_right hnull]
    cases config.report configExposureTime with
    | none => simp [Except.toOption]
    | some text =>
      simp only [Option.getD_some, Option.some.injEq, forall_eq', ← stoi_returns_iff]
      by_cases hempty : text = ""
      · simp [hempty, Except.toOption]
      · simp only [ne_eq, hempty, not_false_eq_true, if_true, false_or, exposureTimeFromString]
        cases hstoi : stoi text with
        | error e =>
          rcases stoi_error hstoi with rfl | rfl <;> simp [bind, Except.bind, Except.toOption]
        | ok v =>
          rcases mulInt_cases v 100 with ⟨p, hp⟩ | ⟨product, hp⟩ <;>
            simp [hp, bind, Except.bind, pure, Except.pure, Except.toOption]

theorem captured_ne_thrown (download : Bool) : captured download ≠ .thrown := by
  unfold captured
  split <;> simp

/-- `capture` throws only where the exposure time is asked for. -/
theorem captureStep_thrown {download : Bool} {c : CapturePc} {ans : Answer}
    (h : captureStep download c ans = some .thrown) : ans = .exposureTime none := by
  have hcaptured := captured_ne_thrown download
  revert h
  fun_cases captureStep download c ans
  case case1 | case3 => exact fun _ => rfl
  case case4 => split <;> simp
  case case7 => simpa using hcaptured
  case case9 => split <;> simp [hcaptured]
  all_goals simp

/-- It always throws there when reading it does. -/
theorem captureStep_none {download : Bool} {c : CapturePc} {r : CaptureStep}
    (h : captureStep download c (.exposureTime none) = some r) : r = .thrown := by
  cases c <;> cases h <;> rfl

/-! ## Steps that do not throw -/

/-- `testing` has been set and is yet to be cleared. -/
def TestPc.inTest : TestPc → Bool
  | enter | capture _ _ | finish => true
  | _ => false

/-- What the program keeps as long as nothing throws. -/
structure Cleared (s : Controller) : Prop where
  alive : s.terminated = false
  /-- A function is testing only while its test capture is awaited. -/
  tested : ∀ (o : Nat) (f : CameraFunction), s.functions[o]? = some f → f.testing = true →
    ∃ (k : Nat) (t : Thread) (pc : TestPc), s.handler = .awaitTest k ∧ s.threads[k]? = some t ∧
      t.object = o ∧ t.task = .test pc ∧ pc.inTest = true
  testing : ∀ (k : Nat) (t : Thread) (pc : TestPc) (f : CameraFunction), s.threads[k]? = some t →
    t.task = .test pc → pc.inTest = true → s.functions[t.object]? = some f → f.testing = true

theorem cleared_init : Cleared {} where
  alive := rfl
  tested _ _ h := by cases h
  testing _ _ _ _ h := by cases h

namespace Cleared

variable {s : Controller} (hs : Cleared s)
include hs

/-- Nothing is testing while no test capture is awaited. -/
theorem quiet (h : ∀ k, s.handler ≠ .awaitTest k) {o : Nat} {f : CameraFunction}
    (hf : s.functions[o]? = some f) : f.testing = false := by
  by_contra htesting
  obtain ⟨k, t, pc, hawait, -⟩ := hs.tested o f hf (by simpa using htesting)
  exact h k hawait

/-- Nothing is testing when the test capture awaited is over. -/
theorem quiet_of_over {k : Nat} {t : Thread} (hawait : s.handler = .awaitTest k)
    (ht : s.threads[k]? = some t) (hover : t.task = .test .exited) {o : Nat} {f : CameraFunction}
    (hf : s.functions[o]? = some f) : f.testing = false := by
  by_contra htesting
  obtain ⟨k', u, pc, hawait', hu, -, htask, hin⟩ := hs.tested o f hf (by simpa using htesting)
  obtain rfl := HandlerPc.awaitTest.inj (hawait.symm.trans hawait')
  obtain rfl := Option.some.inj (ht.symm.trans hu)
  obtain rfl := Task.test.inj (hover.symm.trans htask)
  cases hin

theorem unstuck (hinv : Invariant s) : Unstuck s where
  alive := hs.alive
  runs k t n ht htask := by
    obtain ⟨f, hf, -, hphase⟩ := hinv.running k t n .exited ht htask
    exact ⟨f, hf, hphase⟩
  returned k t f hawait ht hover hf := by
    have hrest := hinv.resting (by rw [hawait]; rfl) t.object f hf
    have htesting := hs.quiet_of_over hawait ht hover hf
    unfold CameraFunction.isOperating
    rw [htesting, Bool.or_false, Bool.and_eq_false_iff, Bool.not_eq_false']
    by_cases hstarted : f.started = true
    · exact Or.inr (hrest hstarted)
    · exact Or.inl (by simpa using hstarted)
  tests hquiet _ _ hf := hs.quiet hquiet hf

/-- An object is touched, but not its flag `testing`. -/
theorem touch {o : Nat} {f g : CameraFunction} (hf : s.functions[o]? = some f)
    (hg : g.testing = f.testing) : Cleared { s with functions := s.functions.set o g } where
  alive := hs.alive
  tested i y hy htesting := by
    obtain ⟨x, hx, hxy⟩ := exists_before hf (R := fun x y => y.testing = x.testing)
      (fun _ => rfl) hg hy
    exact hs.tested i x hx (hxy ▸ htesting)
  testing k t pc y ht htask hin hy := by
    obtain ⟨x, hx, hxy⟩ := exists_before hf (R := fun x y => y.testing = x.testing)
      (fun _ => rfl) hg hy
    exact hxy.trans (hs.testing k t pc x ht htask hin hx)

/-- A thread in `run()` goes on there. -/
theorem rerun {k n n' : Nat} {t : Thread} {pc pc' : RunPc} (ht : s.threads[k]? = some t)
    (htask : t.task = .run n pc) :
    Cleared { s with threads := s.threads.set k { t with task := .run n' pc' } } where
  alive := hs.alive
  tested o f hf htesting := by
    obtain ⟨i, u, p, hawait, hu, hobject, hutask, hin⟩ := hs.tested o f hf htesting
    have hne : k ≠ i := by
      rintro rfl
      obtain rfl := Option.some.inj (ht.symm.trans hu)
      cases htask.symm.trans hutask
    exact ⟨i, u, p, hawait, by rw [List.getElem?_set_ne hne]; exact hu, hobject, hutask, hin⟩
  testing i u p f hu hutask hin hf := by
    rcases (getElem?_set_eq_some_iff ht).mp hu with ⟨-, rfl⟩ | ⟨-, hu⟩
    · cases hutask
    · exact hs.testing i u p f hu hutask hin hf

/-- The handler is busy with something else than a test capture, or the one it
awaits is over: nothing is testing, and nothing begins to. -/
theorem rest {s' : Controller} (halive : s'.terminated = s.terminated)
    (hquiet : ∀ (o : Nat) (f : CameraFunction), s.functions[o]? = some f → f.testing = false)
    (hfunctions : ∀ (o : Nat) (g : CameraFunction), s'.functions[o]? = some g →
      g.testing = false ∨ ∃ f : CameraFunction, s.functions[o]? = some f ∧ g.testing = f.testing)
    (hthreads : ∀ (k : Nat) (t : Thread) (pc : TestPc), s'.threads[k]? = some t →
      t.task = .test pc → pc.inTest = false) : Cleared s' where
  alive := halive.trans hs.alive
  tested o g hg htesting := by
    rcases hfunctions o g hg with h | ⟨f, hf, h⟩
    · simp [h] at htesting
    · simp [h, hquiet o f hf] at htesting
  testing k t pc f ht htask hin := by simp [hthreads k t pc ht htask] at hin

end Cleared

/-- **A step of `doTestCapture()` that does not throw** leaves `testing` set exactly
while it is yet to be cleared. -/
theorem TestPc.step_testing {f g : CameraFunction} {pc pc' : TestPc} {ans : Answer}
    (h : pc.step f ans = some (g, pc')) (hin : pc.inTest = true → f.testing = true)
    (hans : ans ≠ .exposureTime none) : g.testing = pc'.inTest := by
  cases TestPc.step_moves h with
  | begins | finishes => rfl
  | enters | captures | returns => exact hin rfl
  | throws hthrown => exact absurd (captureStep_thrown hthrown) hans

theorem Cleared.retest {s : Controller} (hs : Cleared s) (hinv : Invariant s) {k : Nat}
    {t : Thread} {f g : CameraFunction} {pc pc' : TestPc} {ans : Answer}
    (ht : s.threads[k]? = some t) (htask : t.task = .test pc)
    (hf : s.functions[t.object]? = some f) (hstep : pc.step f ans = some (g, pc'))
    (hans : ans ≠ .exposureTime none) :
    Cleared { s with
      functions := s.functions.set t.object g
      threads := s.threads.set k { t with task := .test pc' } } := by
  have hg := TestPc.step_testing hstep (fun hin => hs.testing k t pc f ht htask hin hf) hans
  have hawait := hinv.awaited k t pc ht htask (TestPc.step_spec hstep).2.2
  refine ⟨hs.alive, fun o y hy htesting => ?_, fun i u p y hu hutask hin hy => ?_⟩
  · rcases (getElem?_set_eq_some_iff hf).mp hy with ⟨rfl, rfl⟩ | ⟨hne, hy⟩
    · exact ⟨k, _, pc', hawait, getElem?_set_self_of_some ht, rfl, rfl, hg ▸ htesting⟩
    · -- only the object of the thread that is awaited is testing
      obtain ⟨i, u, p, hawait', hu, hobject, -⟩ := hs.tested o y hy htesting
      obtain rfl := HandlerPc.awaitTest.inj (hawait.symm.trans hawait')
      obtain rfl := Option.some.inj (ht.symm.trans hu)
      exact absurd hobject hne
  · rcases (getElem?_set_eq_some_iff ht).mp hu with ⟨-, rfl⟩ | ⟨hne, hu⟩
    · obtain rfl := Task.test.inj hutask
      obtain rfl := Option.some.inj ((getElem?_set_self_of_some hf).symm.trans hy)
      exact hg.trans hin
    · have hpc : p ≠ .exited := by
        rintro rfl
        cases hin
      have hawait' := hinv.awaited i u p hu hutask hpc
      exact absurd (HandlerPc.awaitTest.inj (hawait.symm.trans hawait')) hne

/-- **The program ends only by an exception that leaves `run()`.** -/
theorem Controller.step_terminated {s s' : Controller} {a : Action} (h : s.step a = some s')
    (hend : s'.terminated = true) : ∃ k, a = .thread k (.exposureTime none) := by
  obtain ⟨hrunning, hstep⟩ := Option.ite_none_left_eq_some.mp h
  cases Controller.step_change h with
  | @crashed k ans =>
    refine ⟨k, congrArg _ ?_⟩
    obtain ⟨t, ht, hstep⟩ := Option.bind_eq_some_iff.mp hstep
    obtain ⟨f, hf, hstep⟩ := Option.bind_eq_some_iff.mp hstep
    cases htask : t.task with
    | run shots pc =>
      simp only [htask] at hstep
      obtain ⟨r, hr, hstep⟩ := Option.bind_eq_some_iff.mp hstep
      cases r with
      | terminated =>
        obtain ⟨c, download, -, hthrown⟩ := RunPc.step_terminated hr
        exact captureStep_thrown hthrown
      | moved g shots' pc' =>
        have hsame := congrArg Controller.terminated (Option.some.inj hstep)
        exact absurd hsame hrunning
    | test pc =>
      simp only [htask] at hstep
      obtain ⟨r, hr, hstep⟩ := Option.bind_eq_some_iff.mp hstep
      have hsame := congrArg Controller.terminated (Option.some.inj hstep)
      exact absurd hsame hrunning
  | @connecting c hidle o f p hactive hf hp =>
    obtain ⟨h, heq, -⟩ := s.connectCamera_eq p
    rw [heq] at hend
    exact absurd hend hrunning
  | _ => exact absurd hend hrunning

/-- **A step that does not throw** keeps every flag clear that is not in use. -/
theorem Cleared.step {s s' : Controller} {a : Action} (hs : Cleared s) (hinv : Invariant s)
    (ha : ∀ k, a ≠ .thread k (.exposureTime none)) (h : s.step a = some s') : Cleared s' := by
  have hsame (o : Nat) (g : CameraFunction) (hg : s.functions[o]? = some g) :
      g.testing = false ∨ ∃ f : CameraFunction, s.functions[o]? = some f ∧ g.testing = f.testing :=
    Or.inr ⟨g, hg, rfl⟩
  have hover (hquiet : ∀ k, s.handler ≠ .awaitTest k) (k : Nat) (t : Thread) (pc : TestPc)
      (ht : s.threads[k]? = some t) (htask : t.task = .test pc) : pc.inTest = false := by
    rw [hinv.no_test hquiet k t pc ht htask]
    rfl
  cases Controller.step_change h with
  | ignored => exact hs
  | testing c hidle | reconnecting c hidle | replacing c hidle | creating c hidle =>
    have hquiet : ∀ k, s.handler ≠ .awaitTest k := by simp [hidle]
    exact hs.rest rfl (fun _ _ => hs.quiet hquiet) hsame (hover hquiet)
  | @connecting c hidle o f p hactive hf hp =>
    have hquiet : ∀ k, s.handler ≠ .awaitTest k := by simp [hidle]
    obtain ⟨h, heq, -⟩ := s.connectCamera_eq p
    rw [heq]
    exact hs.rest rfl (fun _ _ => hs.quiet hquiet) hsame (hover hquiet)
  | flagged c hf hg hfinished htesting => exact hs.touch hf htesting
  | camera ans hstep =>
    have hquiet := (cameraStep_spec hstep).2.2.1
    exact hs.rest rfl (fun _ _ => hs.quiet hquiet) hsame (hover hquiet)
  | @started ans o f hhandler hf =>
    have hquiet : ∀ k, s.handler ≠ .awaitTest k := by simp [hhandler]
    refine hs.rest rfl (fun _ _ => hs.quiet hquiet) (fun i g hg => Or.inr ?_)
      fun k t pc ht htask => ?_
    · exact exists_before hf (b := { f with started := true })
        (R := fun x y => y.testing = x.testing) (fun _ => rfl) rfl hg
    · rcases getElem?_concat_eq_some_iff.mp ht with ht | ⟨-, rfl⟩
      · exact hover hquiet k t pc ht htask
      · cases htask
  | tested ans hhandler =>
    have hquiet : ∀ k, s.handler ≠ .awaitTest k := by simp [hhandler]
    refine hs.rest rfl (fun _ _ => hs.quiet hquiet) hsame fun k t pc ht htask => ?_
    rcases getElem?_concat_eq_some_iff.mp ht with ht | ⟨-, rfl⟩
    · exact hover hquiet k t pc ht htask
    · obtain rfl := Task.test.inj htask
      rfl
  | testOver ans hhandler ht htask =>
    refine hs.rest rfl (fun _ _ => hs.quiet_of_over hhandler ht htask) hsame
      fun i u pc hu hutask => ?_
    by_contra hin
    have hpc : pc ≠ .exited := by
      rintro rfl
      exact hin rfl
    have hawait := hinv.awaited i u pc hu hutask hpc
    obtain rfl := HandlerPc.awaitTest.inj (hhandler.symm.trans hawait)
    obtain rfl := Option.some.inj (ht.symm.trans hu)
    exact hpc (Task.test.inj (hutask.symm.trans htask))
  | @deleted ans cfg o f hhandler hactive hf =>
    have hquiet : ∀ k, s.handler ≠ .awaitTest k := by simp [hhandler]
    refine hs.rest rfl (fun _ _ => hs.quiet hquiet) (fun i g hg => Or.inr ?_) (hover hquiet)
    exact exists_before hf (b := { f with deleted := true })
      (R := fun x y => y.testing = x.testing) (fun _ => rfl) rfl hg
  | created ans hhandler =>
    have hquiet : ∀ k, s.handler ≠ .awaitTest k := by simp [hhandler]
    refine hs.rest rfl (fun _ _ => hs.quiet hquiet) (fun o g hg => ?_) (hover hquiet)
    rcases getElem?_concat_eq_some_iff.mp hg with hg | ⟨-, rfl⟩
    · exact hsame o g hg
    · exact Or.inl rfl
  | ran ht htask hf hstep =>
    exact (hs.touch hf (RunPc.step_spec hstep).2.1).rerun ht htask
  | @crashed k ans =>
    obtain ⟨i, hi⟩ := Controller.step_terminated h rfl
    exact absurd hi (ha i)
  | @testRan k ans t f g pc pc' ht htask hf hstep =>
    apply hs.retest hinv ht htask hf hstep
    rintro rfl
    exact ha k rfl

/-! ## Steps that throw -/

/-- **A step that throws gets its function stuck**, or ends the program. -/
theorem not_unstuck_of_throw {s s' : Controller} {k : Nat} (hs : Cleared s) (hinv : Invariant s)
    (h : s.step (.thread k (.exposureTime none)) = some s') : ¬ Unstuck s' := by
  intro hunstuck
  cases Controller.step_change h with
  | crashed => cases hunstuck.alive
  | ran ht htask hf hstep =>
    cases RunPc.step_moves hstep with
    | captures hnext | captured hnext | fails hnext => cases captureStep_none hnext
  | @testRan _ _ t f g pc pc' ht htask hf hstep =>
    have hawait := hinv.awaited k t pc ht htask (TestPc.step_spec hstep).2.2
    cases TestPc.step_moves hstep with
    | captures hnext | returns hnext => cases captureStep_none hnext
    | @throws c download _ hnext =>
      have htesting := hs.testing k t (.capture c download) f ht htask rfl hf
      have hrest := hunstuck.returned k _ f hawait (getElem?_set_self_of_some ht) rfl
        (getElem?_set_self_of_some hf)
      simp [CameraFunction.isOperating, htesting] at hrest

/-! ## Runs -/

variable {overflow : Int → Int}

/-- A report is taken up by a step of the program that throws exactly when the
report cannot be parsed. -/
theorem reportStep_eq_some {s s' : Controller} {r : Report}
    (h : reportStep overflow s r = some s') :
    ∃ a, s.step a = some s' ∧ ((∃ k, a = .thread k (.exposureTime none)) ↔ ¬ Parses s r) := by
  unfold reportStep at h
  split at h
  · rename_i k ans
    obtain ⟨hans, h⟩ := Option.ite_none_left_eq_some.mp h
    refine ⟨_, h, iff_of_false ?_ (not_not_intro trivial)⟩
    rintro ⟨i, hi⟩
    obtain ⟨-, rfl⟩ := Action.thread.inj hi
    exact hans rfl
  · rename_i a hthread
    refine ⟨a, h, iff_of_false ?_ (not_not_intro trivial)⟩
    rintro ⟨i, hi⟩
    exact hthread i _ hi
  · rename_i k config
    refine ⟨_, h, ?_⟩
    rw [Parses, ← exposureTimeAnswer_eq_none_iff overflow]
    constructor
    · rintro ⟨i, hi⟩
      exact (Action.thread.inj hi).2
    · intro hnone
      exact ⟨k, by rw [hnone]⟩

/-- **No camera gets a function stuck exactly when every exposure time read in the
run can be parsed**, whatever else the camera, its library and the commands do. -/
theorem unstuck_iff (overflow : Int → Int) (reports : List Report) :
    Always (reportStep overflow) Unstuck {} reports ↔
      EachStep (reportStep overflow) Parses {} reports := by
  refine @always_iff_eachStep _ _ (reportStep overflow) (fun s => Invariant s ∧ Cleared s) _ _
    (fun hs => hs.2.unstuck hs.1) ?_ ?_ _ ⟨invariant_init, cleared_init⟩ reports
  · rintro s r s' ⟨hinv, hs⟩ hparses hstep
    obtain ⟨a, ha, hthrow⟩ := reportStep_eq_some hstep
    refine ⟨hinv.step ha, hs.step hinv (fun k hk => ?_) ha⟩
    exact hthrow.mp ⟨k, hk⟩ hparses
  · rintro s r s' ⟨hinv, hs⟩ hparses hstep
    obtain ⟨a, ha, hthrow⟩ := reportStep_eq_some hstep
    obtain ⟨k, rfl⟩ := hthrow.mpr hparses
    exact not_unstuck_of_throw hs hinv ha

/-- The camera reports a word, and a test capture asks for it. -/
def testBulb : List Report :=
  [.action (.command (.sequencerSetup 20 3 100 false)), .action (.handler .nothing),
    .action (.command (.command 18)), .action (.handler (.newCamera .created)),
    .action (.handler (.result true)), .action (.handler (.serial "1")),
    .action (.handler .nothing), .action (.thread 0 .nothing), .action (.thread 0 .nothing),
    .exposureTime 0 fun _ => ⟨gpOk, gpOk, some "bulb"⟩, .action (.handler .nothing)]

/-- The program after that. -/
def stuckTesting : Controller where
  camera := { camera := some 0, connected := true, serial := "1", created := 1 }
  functions := [{ CameraFunction.new ⟨.sequencer, 3, 0, 100, false⟩ with testing := true }]
  activeFunction := some 0
  threads := [⟨0, .test .exited⟩]

/-- The test capture has returned, and the function goes on testing. -/
theorem not_unstuck_testBulb : ¬ Always (reportStep id) Unstuck {} testBulb := by
  intro h
  have hrun : run (reportStep id) {} testBulb = some stuckTesting := rfl
  have htesting := (h.of_run hrun).tests (by simp [stuckTesting]) 0 _ rfl
  cases htesting

end CameraController
