import CameraController.CommandHandlerInvariant

/-! # The handler always gets on

`onCommandReceived` waits for nothing but the answers of libgphoto2, and for the end of a
test capture.  In every state that the program can be in, the handler, or the test
capture it waits for, can do its next step until the command is over
(`exists_progress`), and each step of the handler brings that nearer
(`handlerStep_rank_lt`). -/
namespace CameraController

namespace HandlerPc

/-- How many steps of the handler may be left of a command. -/
def rank : HandlerPc → Nat
  | idle => 0
  | testConnection => 1
  | disconnect => 10
  | exitCamera => 9
  | freeCamera => 8
  | forgetCamera => 7
  | markDisconnected => 6
  | connect _ => 5
  | initCamera _ => 4
  | readSerial _ => 3
  | freeFailed _ => 1
  | isResponsive _ => 3
  | connected _ => 2
  | awaitTest _ => 1
  | setupDelete _ => 2
  | setupCreate _ => 1

theorem rank_le (h : HandlerPc) : h.rank ≤ 10 := by
  cases h <;> simp [rank]

end HandlerPc

/-- What the camera's steps make of the handler. -/
theorem cameraStep_handler {w w' : CameraWrapper} {h h' : HandlerPc} {ans : Answer}
    (hstep : cameraStep w h ans = some (w', h')) :
    h'.rank < h.rank ∧ (∀ o, h'.purpose? = some (.test o) → h.purpose? = some (.test o)) ∧
      (∀ k, h' ≠ .awaitTest k) ∧ (∀ c, h' ≠ .setupDelete c) := by
  unfold cameraStep at hstep
  repeat' split at hstep
  all_goals
    cases hstep <;>
      exact ⟨by simp [HandlerPc.rank], by simp [HandlerPc.purpose?], by simp, by simp⟩

namespace Controller

/-- **Each step of the handler brings the end of the command nearer.** -/
theorem handlerStep_rank_lt {s s' : Controller} {ans : Answer}
    (h : s.handlerStep ans = some s') : s'.handler.rank < s.handler.rank := by
  cases handlerStep_change h with
  | camera _ hstep => exact (cameraStep_handler hstep).1
  | started _ hhandler | tested _ hhandler | testOver _ hhandler | deleted _ hhandler
  | created _ hhandler =>
    rw [hhandler]
    simp [HandlerPc.rank]

/-- A step of a thread leaves the handler where it is. -/
theorem handler_of_thread {s s' : Controller} {k : Nat} {ans : Answer}
    (h : s.step (.thread k ans) = some s') : s'.handler = s.handler := by
  cases step_change h <;> rfl

/-! ## What the handler relies on -/

/-- What the handler is about to touch is there. -/
structure Placed (s : Controller) : Prop where
  testing : ∀ o, s.handler.purpose? = some (.test o) → o < s.functions.length
  awaiting : ∀ k, s.handler = .awaitTest k → ∃ t pc, s.threads[k]? = some t ∧
    t.task = .test pc ∧ t.object < s.functions.length
  deleting : ∀ c, s.handler = .setupDelete c → s.activeFunction ≠ none

theorem init_placed : Placed {} where
  testing _ h := by cases h
  awaiting _ h := by cases h
  deleting _ h := by cases h

/-- Objects are never forgotten. -/
theorem length_functions_le {s s' : Controller} {a : Action} (h : s.Change a s') :
    s.functions.length ≤ s'.functions.length := by
  cases h with
  | ignored | testing | reconnecting | replacing | creating | camera | tested | testOver
  | crashed => exact Nat.le_refl _
  | connecting =>
    obtain ⟨h, heq, -⟩ := s.connectCamera_eq _
    rw [heq]
  | flagged | started | deleted | ran | testRan =>
    rw [List.length_set]
  | created =>
    rw [List.length_append]
    exact Nat.le_add_right _ _

/-- A thread that tests goes on testing, for the same object. -/
theorem exists_test {s s' : Controller} {a : Action} (h : s.Change a s') {k : Nat} {t : Thread}
    {pc : TestPc} (ht : s.threads[k]? = some t) (htask : t.task = .test pc) :
    ∃ t' pc', s'.threads[k]? = some t' ∧ t'.task = .test pc' ∧ t'.object = t.object := by
  have hsame : ∃ t' pc', s.threads[k]? = some t' ∧ t'.task = .test pc' ∧ t'.object = t.object :=
    ⟨t, pc, ht, htask, rfl⟩
  have hlt := (List.getElem?_eq_some_iff.mp ht).1
  cases h with
  | ignored | testing | reconnecting | replacing | creating | camera | testOver | crashed
  | flagged | deleted | created => exact hsame
  | connecting =>
    obtain ⟨h, heq, -⟩ := s.connectCamera_eq _
    rw [heq]
    exact hsame
  | started | tested =>
    refine ⟨t, pc, ?_, htask, rfl⟩
    rw [List.getElem?_append_left hlt]
    exact ht
  | @ran j _ u f g shots shots' rpc rpc' hu hrun hf hstep =>
    have hne : j ≠ k := by
      rintro rfl
      obtain rfl := Option.some.inj (hu.symm.trans ht)
      rw [htask] at hrun
      cases hrun
    refine ⟨t, pc, ?_, htask, rfl⟩
    rw [List.getElem?_set_ne hne]
    exact ht
  | @testRan j _ u f g tpc tpc' hu htest hf hstep =>
    by_cases hjk : j = k
    · obtain rfl := hjk
      obtain rfl := Option.some.inj (hu.symm.trans ht)
      exact ⟨_, tpc', getElem?_set_self_of_some hu, rfl, rfl⟩
    · refine ⟨t, pc, ?_, htask, rfl⟩
      rw [List.getElem?_set_ne hjk]
      exact ht

/-- **Every step keeps what the handler relies on.** -/
theorem Placed.step {s s' : Controller} {a : Action} (hs : Placed s) (h : s.step a = some s') :
    Placed s' := by
  have hchange := step_change h
  have hle := length_functions_le hchange
  -- a step that leaves the handler and the active function where they are
  have hstay (hhandler : s'.handler = s.handler) (hactive : s'.activeFunction = s.activeFunction) :
      Placed s' := by
    refine ⟨fun o ho => ?_, fun k hk => ?_, fun c hc => ?_⟩
    · exact Nat.lt_of_lt_of_le (hs.testing o (hhandler ▸ ho)) hle
    · obtain ⟨t, pc, ht, htask, hobject⟩ := hs.awaiting k (hhandler ▸ hk)
      obtain ⟨t', pc', ht', htask', hsame⟩ := exists_test hchange ht htask
      exact ⟨t', pc', ht', htask', hsame ▸ Nat.lt_of_lt_of_le hobject hle⟩
    · rw [hactive]
      exact hs.deleting c (hhandler ▸ hc)
  cases hchange with
  | ignored | flagged | ran | crashed | testRan => exact hstay rfl rfl
  | testing c hidle hh =>
    rcases hh with rfl | rfl <;> exact ⟨by simp [HandlerPc.purpose?], by simp, by simp⟩
  | reconnecting => exact ⟨by simp [HandlerPc.purpose?], by simp, by simp⟩
  | @connecting _ hidle o f p hactive hf hp =>
    have hlt := (List.getElem?_eq_some_iff.mp hf).1
    have hobject : ∀ o', p = .test o' → o' < s.functions.length := by
      rintro o' rfl
      rcases hp with ⟨hp, -⟩ | ⟨hp, -⟩
      · cases hp
      · obtain rfl := Purpose.test.inj hp
        exact hlt
    obtain ⟨h', heq, hh⟩ := s.connectCamera_eq p
    rw [heq]
    rcases hh with rfl | rfl | ⟨rfl, -⟩
    · exact ⟨by simp [HandlerPc.purpose?], by simp, by simp⟩
    · exact ⟨by simpa [HandlerPc.purpose?] using hobject, by simp, by simp⟩
    · exact ⟨by simpa [HandlerPc.purpose?] using hobject, by simp, by simp⟩
  | replacing _ _ _ hactive =>
    refine ⟨by simp [HandlerPc.purpose?], by simp, fun _ _ => ?_⟩
    rw [hactive]
    exact Option.some_ne_none _
  | creating => exact ⟨by simp [HandlerPc.purpose?], by simp, by simp⟩
  | @camera ans w h hstep =>
    obtain ⟨-, htest, hawait, hdelete⟩ := cameraStep_handler hstep
    exact ⟨fun o ho => hs.testing o (htest o ho), fun k hk => absurd hk (hawait k),
      fun c hc => absurd hc (hdelete c)⟩
  | started | testOver | deleted | created =>
    exact ⟨by simp [HandlerPc.purpose?], by simp, by simp⟩
  | @tested ans o hhandler =>
    have hlt : o < s.functions.length := hs.testing o (by rw [hhandler]; rfl)
    refine ⟨by simp [HandlerPc.purpose?], fun k hk => ?_, by simp⟩
    obtain rfl := HandlerPc.awaitTest.inj hk
    exact ⟨_, .begin, getElem?_concat_eq_some_iff.mpr (Or.inr ⟨rfl, rfl⟩), rfl, hlt⟩

theorem placed_of_reachable {s : Controller}
    (h : StateMachine.Reachable Controller.step {} s) : Placed s :=
  h.invariant (fun hs hstep => hs.step hstep) init_placed

end Controller

/-! ## The next step -/

/-- Whatever `capture` does next, it can be answered. -/
theorem exists_captureStep (download : Bool) (c : CapturePc) :
    ∃ ans r, captureStep download c ans = some r := by
  cases c with
  | exposureTime => exact ⟨.exposureTime none, _, rfl⟩
  | remoteExposureTime => exact ⟨.exposureTime none, _, rfl⟩
  | trigger => exact ⟨.nothing, _, rfl⟩
  | waitForCapture => exact ⟨.event .error, _, rfl⟩
  | wiredCapture => exact ⟨.result true, _, rfl⟩
  | downloadFile => exact ⟨.result true, _, rfl⟩

/-- A test capture that is not over can go on. -/
theorem TestPc.exists_step (f : CameraFunction) {pc : TestPc} (h : pc ≠ .exited) :
    ∃ ans r, pc.step f ans = some r := by
  cases pc with
  | exited => exact absurd rfl h
  | capture c download =>
    obtain ⟨ans, r, hr⟩ := exists_captureStep download c
    exact ⟨ans, Option.isSome_iff_exists.mp (by simp [TestPc.step, hr])⟩
  | begin | enter | finish => exact ⟨.nothing, _, rfl⟩

namespace Controller

/-- The handler, or the thread it waits for, can do its next step. -/
def CanGoOn (s : Controller) : Prop :=
  (∃ ans s', s.step (.handler ans) = some s') ∨
    ∃ k ans s', s.handler = .awaitTest k ∧ s.step (.thread k ans) = some s'

/-- **The handler is never stuck.** -/
theorem exists_progress {s : Controller} (hs : Invariant s) (hplaced : Placed s)
    (hrunning : s.terminated = false) (hbusy : s.handler ≠ .idle) : CanGoOn s := by
  have hstep : ∀ ans s', s.handlerStep ans = some s' → CanGoOn s := by
    intro ans s' h
    refine Or.inl ⟨ans, s', ?_⟩
    simp [step, hrunning, h]
  cases hh : s.handler with
  | idle => exact absurd hh hbusy
  | testConnection | readSerial | isResponsive =>
    exact hstep (.serial "") _ (by simp only [handlerStep, hh]; rfl)
  | disconnect | forgetCamera | markDisconnected | setupCreate =>
    exact hstep .nothing _ (by simp only [handlerStep, hh]; rfl)
  | exitCamera | freeCamera | initCamera | freeFailed =>
    exact hstep (.result true) _ (by simp only [handlerStep, hh]; rfl)
  | connect p =>
    by_cases hc : s.camera.connected = true
    · exact hstep .nothing _ (by simp only [handlerStep, hh, cameraStep, if_pos hc]; rfl)
    · exact hstep (.newCamera (.failed none)) _
        (by simp only [handlerStep, hh, cameraStep, if_neg hc]; rfl)
  | connected p =>
    cases p with
    | reconnect | test => exact hstep .nothing _ (by simp only [handlerStep, hh]; rfl)
    | start o =>
      obtain ⟨hactive, -⟩ := hs.starting o (by rw [hh]; rfl)
      obtain ⟨f, hf, -⟩ := hs.active o hactive
      exact hstep .nothing _ (by simp only [handlerStep, hh, hf]; rfl)
  | awaitTest k =>
    obtain ⟨t, pc, ht, htask, hlt⟩ := hplaced.awaiting k hh
    by_cases hover : pc = .exited
    · obtain ⟨object, task⟩ := t
      obtain rfl := htask
      obtain rfl := hover
      exact hstep .nothing _ (by simp only [handlerStep, hh, ht]; rfl)
    · have hf := List.getElem?_eq_getElem hlt
      obtain ⟨ans, ⟨g, pc'⟩, hr⟩ := TestPc.exists_step s.functions[t.object] hover
      have hthread : (s.step (.thread k ans)).isSome = true := by
        simp [step, hrunning, threadStep, ht, hf, htask, hr]
      obtain ⟨s', hs'⟩ := Option.isSome_iff_exists.mp hthread
      exact Or.inr ⟨k, ans, s', hh, hs'⟩
  | setupDelete c =>
    obtain ⟨o, ho⟩ := Option.ne_none_iff_exists'.mp (hplaced.deleting c hh)
    obtain ⟨f, hf, -⟩ := hs.active o ho
    obtain ⟨s', hs'⟩ := Option.isSome_iff_exists.mp
      (show (s.handlerStep .nothing).isSome = true by simp [handlerStep, hh, ho, hf])
    exact hstep .nothing s' hs'

end Controller
end CameraController
