import CameraController.SingleCapture

/-! # Is the camera there for a running function?

Whoever starts a function has connected the camera, and the branches that replace,
start or test a function look at `isOperating()` first.  `CMD_ID_CAMERA_RECONNECT`
does not: it exits and frees the handle whatever is running.

`handle_safe_iff`: in a run every call of libgphoto2 made by a thread in `run()`
gets a handle that is neither null nor released, and the camera is never
disconnected while the active function is operating, exactly when no `disconnect()`
of a connected camera is executed while it is. -/
namespace CameraController

open StateMachine

namespace HandlerPc

/-- `disconnect()` has found the camera connected and is not over. -/
def disconnecting : HandlerPc → Bool
  | exitCamera | freeCamera | forgetCamera | markDisconnected => true
  | _ => false

/-- `connect()` has created a handle and is not over. -/
def opening : HandlerPc → Bool
  | initCamera _ | readSerial _ | freeFailed _ => true
  | _ => false

/-- The handle has been released and the camera is still marked connected. -/
def tearingDown : HandlerPc → Bool
  | freeCamera | forgetCamera | markDisconnected => true
  | _ => false

end HandlerPc

/-! ## The handle, by what the handler is doing -/

/-- What the handler knows of the handle. -/
structure CameraSound (w : CameraWrapper) (h : HandlerPc) : Prop where
  numbered : w.Numbered
  pointer : w.connected = true ∨ h.opening = true → ∀ c, w.camera = some c → c < w.created
  usable : w.connected = true → h.tearingDown = false → w.Usable
  opening : ∀ p, h = .initCamera p ∨ h = .readSerial p → w.connected = false ∧ w.Usable
  failed : ∀ p, h = .freeFailed p → w.connected = false
  opened : ∀ p, h = .isResponsive p ∨ h = .connected p → w.connected = true
  closing : h.disconnecting = true → w.connected = true

theorem cameraSound_init : CameraSound {} .idle where
  numbered := nofun
  pointer _ := nofun
  usable := nofun
  opening _ h := by rcases h with h | h <;> cases h
  failed := nofun
  opened _ h := by rcases h with h | h <;> cases h
  closing := nofun

/-- Releasing the handle that is there only lists it. -/
theorem CameraSound.release_numbered {w : CameraWrapper} {h : HandlerPc} (hw : CameraSound w h)
    (hthere : w.connected = true ∨ h.opening = true) : w.release.Numbered := by
  intro c hc
  rcases List.mem_append.mp hc with hc | hc
  · exact hw.pointer hthere c (by simpa using hc)
  · exact hw.numbered c hc

/-- The handler turns to something else than the camera, or to its first step. -/
theorem CameraSound.turn {w : CameraWrapper} {h h' : HandlerPc} (hw : CameraSound w h)
    (hidle : h.tearingDown = false) (hopening : h'.opening = false)
    (hopened : ∀ p, h' = .isResponsive p ∨ h' = .connected p → w.connected = true)
    (hclosing : h'.disconnecting = true → w.connected = true) : CameraSound w h' where
  numbered := hw.numbered
  pointer hthere := hw.pointer (Or.inl (hthere.resolve_right (by simp [hopening])))
  usable hc _ := hw.usable hc hidle
  opening p hp := by
    rcases hp with rfl | rfl <;> cases hopening
  failed p hp := by
    obtain rfl := hp
    cases hopening
  opened := hopened
  closing := hclosing

/-- **The handler's steps with the camera** keep what it knows. -/
theorem cameraStep_sound {w w' : CameraWrapper} {h h' : HandlerPc} {ans : Answer}
    (hw : CameraSound w h) (hstep : cameraStep w h ans = some (w', h')) : CameraSound w' h' := by
  have hnumbered := hw.numbered
  have hpointer := hw.pointer
  cases h with
  | idle | awaitTest | setupDelete | setupCreate => cases ans <;> cases hstep
  | testConnection =>
    cases ans <;> cases hstep
    exact hw.turn rfl rfl (by simp) nofun
  | disconnect =>
    cases ans <;> cases hstep
    split
    case isTrue hc => split <;> exact hw.turn rfl rfl (by simp) fun _ => hc
    case isFalse => exact hw.turn rfl rfl (by simp) nofun
  | exitCamera | freeCamera =>
    have hc := hw.closing rfl
    cases ans <;> cases hstep
    exact ⟨hw.release_numbered (Or.inl hc), fun _ => hpointer (Or.inl hc),
      (fun _ htear => by cases htear), by simp, by simp, by simp, fun _ => hc⟩
  | forgetCamera =>
    have hc := hw.closing rfl
    cases ans <;> cases hstep
    exact ⟨hnumbered, by simp, (fun _ htear => by cases htear), by simp, by simp, by simp,
      fun _ => hc⟩
  | markDisconnected =>
    have hc := hw.closing rfl
    cases ans <;> cases hstep
    exact ⟨hnumbered, fun _ => hpointer (Or.inl hc), nofun, by simp, by simp, by simp, nofun⟩
  | connect p =>
    cases ans with
    | nothing =>
      simp only [cameraStep] at hstep
      split at hstep
      case isTrue hc =>
        cases hstep
        exact hw.turn rfl rfl (fun _ _ => hc) nofun
      case isFalse => cases hstep
    | newCamera r =>
      simp only [cameraStep] at hstep
      split at hstep
      · cases hstep
      case isFalse hc =>
        have hdisc : w.connected = false := by simpa using hc
        cases r with
        | created =>
          cases hstep
          refine ⟨CameraWrapper.newHandle_numbered hnumbered, ?_, ?_, ?_, by simp, by simp, nofun⟩
          · intro _ c hc
            rw [← Option.some.inj hc]
            exact Nat.lt_succ_self _
          · exact fun hc => absurd (hdisc.symm.trans hc) (by simp)
          · exact fun _ _ => ⟨hdisc, CameraWrapper.newHandle_usable hnumbered⟩
        | failed left =>
          -- nothing is known of the pointer, and nothing uses it before the next `connect()`
          cases hstep
          have hnot : ¬ (w.newFailed left).connected = true := hc
          exact ⟨hnumbered,
            fun hthere => absurd (hthere.resolve_right (by simp [HandlerPc.opening])) hnot,
            fun hc => absurd hc hnot, by simp, by simp, by simp, nofun⟩
    | _ => cases hstep
  | initCamera p =>
    obtain ⟨hdisc, husable⟩ := hw.opening p (Or.inl rfl)
    have hpointer := hpointer (Or.inr rfl)
    cases ans <;> cases hstep
    split
    · exact ⟨hnumbered, fun _ => hpointer, fun _ _ => husable, fun _ _ => ⟨hdisc, husable⟩, by simp,
        by simp, nofun⟩
    · exact ⟨hnumbered, fun _ => hpointer, fun _ _ => husable, by simp, fun _ _ => hdisc, by simp,
        nofun⟩
  | readSerial p =>
    obtain ⟨-, husable⟩ := hw.opening p (Or.inr rfl)
    have hpointer := hpointer (Or.inr rfl)
    cases ans <;> cases hstep
    exact ⟨hnumbered, fun _ => hpointer, fun _ _ => husable, by simp, by simp, fun _ _ => rfl,
      nofun⟩
  | freeFailed p =>
    have hdisc := hw.failed p rfl
    have hpointer := hpointer (Or.inr rfl)
    cases ans <;> cases hstep
    exact ⟨hw.release_numbered (Or.inr rfl), fun _ => hpointer,
      fun hc => absurd (hdisc.symm.trans hc) (by simp), by simp, by simp, by simp, nofun⟩
  | isResponsive p =>
    have hopened := hw.opened p (Or.inl rfl)
    cases ans <;> cases hstep
    split
    · exact hw.turn rfl rfl (fun _ _ => hopened) nofun
    · exact hw.turn rfl rfl (by simp) nofun
  | connected p =>
    cases p <;> cases ans <;> cases hstep
    exact hw.turn rfl rfl (by simp) nofun

/-- Only `disconnect()` marks the camera disconnected. -/
theorem cameraStep_connected {w w' : CameraWrapper} {h h' : HandlerPc} {ans : Answer}
    (hstep : cameraStep w h ans = some (w', h')) (hc : w.connected = true) :
    w'.connected = true ∨ h.disconnecting = true := by
  unfold cameraStep at hstep
  repeat' split at hstep
  all_goals cases hstep <;> first | exact Or.inl hc | exact Or.inl rfl | exact Or.inr rfl

/-- The camera is disconnected by a `disconnect()` that finds it connected. -/
theorem cameraStep_disconnecting {w w' : CameraWrapper} {h h' : HandlerPc} {ans : Answer}
    (hstep : cameraStep w h ans = some (w', h')) (hdisc : h'.disconnecting = true) :
    h.disconnecting = true ∨ h = .disconnect ∧ w.connected = true := by
  unfold cameraStep at hstep
  repeat' split at hstep
  all_goals cases hstep <;> first | exact Or.inl rfl | exact Or.inr ⟨rfl, ‹_›⟩ | cases hdisc

/-! ## The property and its condition -/

/-- Every call that a thread in `run()` is about to make gets a usable handle, and
the camera is not disconnected while the active function is operating. -/
structure HandleSafe (s : Controller) : Prop where
  calls : ∀ (k : Nat) (t : Thread) n c download, s.threads[k]? = some t →
    t.task = .run n (.capture c download) → c.callsCamera = true → s.camera.Usable
  disconnects : s.handler.disconnecting = true → ∀ (o : Nat) (f : CameraFunction),
    s.activeFunction = some o → s.functions[o]? = some f → f.isOperating = false

/-- If the step executes `disconnect()` while the camera is connected, then the active
function is not operating. -/
def DisconnectsAtRest (s : Controller) (a : Action) : Prop :=
  ∀ ans, a = .handler ans → s.handler = .disconnect → s.camera.connected = true →
    ∀ (o : Nat) (f : CameraFunction), s.activeFunction = some o → s.functions[o]? = some f →
      f.isOperating = false

/-- What is kept under that condition. -/
structure Connected (s : Controller) : Prop where
  invariant : Invariant s
  camera : CameraSound s.camera s.handler
  running : ∀ (k : Nat) (t : Thread) n pc, s.threads[k]? = some t → t.task = .run n pc →
    pc.inRun = true → s.camera.connected = true
  disconnects : s.handler.disconnecting = true → ∀ (o : Nat) (f : CameraFunction),
    s.activeFunction = some o → s.functions[o]? = some f → f.isOperating = false

theorem connected_init : Connected {} where
  invariant := invariant_init
  camera := cameraSound_init
  running _ _ _ _ h := by cases h
  disconnects := nofun

/-- While the camera is being disconnected, nothing is in `run()`. -/
theorem Connected.not_inRun {s : Controller} (hs : Connected s)
    (hdisc : s.handler.disconnecting = true) {k : Nat} {t : Thread} {n : Nat} {pc : RunPc}
    (ht : s.threads[k]? = some t) (htask : t.task = .run n pc) : pc.inRun = false := by
  by_contra hin
  have hactive := (hs.invariant.of_inRun ht htask (by simpa using hin)).1
  obtain ⟨f, hf, hstarted, hphase⟩ := hs.invariant.running k t n pc ht htask
  have hrest := hs.disconnects hdisc t.object f hactive hf
  simp [CameraFunction.isOperating, hstarted, hphase, hin] at hrest

theorem Connected.handleSafe {s : Controller} (hs : Connected s) : HandleSafe s := by
  refine ⟨?_, hs.disconnects⟩
  intro k t n c download ht htask hcall
  apply hs.camera.usable (hs.running k t n _ ht htask rfl)
  by_contra htear
  have hdisc : s.handler.disconnecting = true := by
    revert htear
    cases s.handler <;> simp [HandlerPc.tearingDown, HandlerPc.disconnecting]
  exact absurd (hs.not_inRun hdisc ht htask) (by simp [RunPc.inRun])

/-- A function that is touched is operating only if it was. -/
theorem Connected.atRest {s : Controller} (hs : Connected s) {o : Nat} {f g : CameraFunction}
    (hf : s.functions[o]? = some f) (hg : f.Touched g) (htesting : g.testing = f.testing)
    (hdisc : s.handler.disconnecting = true) {i : Nat} {y : CameraFunction}
    (hi : s.activeFunction = some i) (hy : (s.functions.set o g)[i]? = some y) :
    y.isOperating = false := by
  obtain ⟨x, hx, hxy⟩ := exists_before hf
    (R := fun x y => x.isOperating = false → y.isOperating = false) (fun _ h => h)
    (hg.atRest htesting) hy
  exact hxy (hs.disconnects hdisc i x hi hx)

/-- **A step under the condition** keeps it. -/
theorem Connected.step {s s' : Controller} {a : Action} (hs : Connected s)
    (ha : DisconnectsAtRest s a) (h : s.step a = some s') : Connected s' := by
  have hinv := hs.invariant.step h
  cases Controller.step_change h with
  | ignored | crashed => exact ⟨hinv, hs.camera, hs.running, hs.disconnects⟩
  | testing c hidle hh =>
    refine ⟨hinv, ?_, hs.running, ?_⟩
    · rcases hh with rfl | rfl <;> exact hs.camera.turn (by rw [hidle]; rfl) rfl (by simp) nofun
    · rcases hh with rfl | rfl <;> simp [HandlerPc.disconnecting]
  | reconnecting c hidle hc =>
    exact ⟨hinv, hs.camera.turn (by rw [hidle]; rfl) rfl (by simp) nofun, hs.running,
      by simp [HandlerPc.disconnecting]⟩
  | connecting c hidle hactive hf hp =>
    obtain ⟨h, heq, hh⟩ := s.connectCamera_eq _
    rw [heq] at hinv ⊢
    refine ⟨hinv, hs.camera.turn (by rw [hidle]; rfl) ?_ ?_ ?_, hs.running, ?_⟩ <;>
      rcases hh with rfl | rfl | ⟨rfl, hc⟩ <;>
      simp_all [HandlerPc.disconnecting, HandlerPc.opening]
  | replacing c hidle cfg hactive hf hrest =>
    exact ⟨hinv, hs.camera.turn (by rw [hidle]; rfl) rfl (by simp) nofun, hs.running,
      by simp [HandlerPc.disconnecting]⟩
  | creating c hidle cfg hactive =>
    exact ⟨hinv, hs.camera.turn (by rw [hidle]; rfl) rfl (by simp) nofun, hs.running,
      by simp [HandlerPc.disconnecting]⟩
  | flagged c hf hg hfinished htesting =>
    exact ⟨hinv, hs.camera, hs.running, fun hdisc i y hi hy => hs.atRest hf hg htesting hdisc hi hy⟩
  | camera ans hstep =>
    refine ⟨hinv, cameraStep_sound hs.camera hstep, ?_, fun hdisc => ?_⟩
    · intro k t n pc ht htask hin
      rcases cameraStep_connected hstep (hs.running k t n pc ht htask hin) with hc | hdisc
      · exact hc
      · rw [hs.not_inRun hdisc ht htask] at hin
        cases hin
    · rcases cameraStep_disconnecting hstep hdisc with hbefore | ⟨hhandler, hc⟩
      · exact hs.disconnects hbefore
      · exact ha ans rfl hhandler hc
  | started ans hhandler hf =>
    have hc := hs.camera.opened _ (Or.inr hhandler)
    exact ⟨hinv, hs.camera.turn (by rw [hhandler]; rfl) rfl (by simp) nofun,
      fun _ _ _ _ _ _ _ => hc, by simp [HandlerPc.disconnecting]⟩
  | tested ans hhandler =>
    refine ⟨hinv, hs.camera.turn (by rw [hhandler]; rfl) rfl (by simp) nofun, ?_,
      by simp [HandlerPc.disconnecting]⟩
    intro k t n pc ht htask hin
    rcases getElem?_concat_eq_some_iff.mp ht with ht | ⟨-, rfl⟩
    · exact hs.running k t n pc ht htask hin
    · cases htask
  | testOver ans hhandler ht hover =>
    exact ⟨hinv, hs.camera.turn (by rw [hhandler]; rfl) rfl (by simp) nofun, hs.running,
      by simp [HandlerPc.disconnecting]⟩
  | deleted ans hhandler hactive hf =>
    exact ⟨hinv, hs.camera.turn (by rw [hhandler]; rfl) rfl (by simp) nofun, hs.running,
      by simp [HandlerPc.disconnecting]⟩
  | created ans hhandler =>
    exact ⟨hinv, hs.camera.turn (by rw [hhandler]; rfl) rfl (by simp) nofun, hs.running,
      by simp [HandlerPc.disconnecting]⟩
  | @ran k ans t f g shots shots' pc pc' ht htask hf hstep =>
    obtain ⟨htouched, htesting, hcases⟩ := RunPc.step_spec hstep
    refine ⟨hinv, hs.camera, ?_, fun hdisc i y hi hy => hs.atRest hf htouched htesting hdisc hi hy⟩
    intro i u n p hu hutask hin
    rcases (getElem?_set_eq_some_iff ht).mp hu with ⟨rfl, rfl⟩ | ⟨-, hu⟩
    · obtain ⟨rfl, rfl⟩ := Task.run.inj hutask
      apply hs.running k t shots pc ht htask
      rcases hcases with ⟨hpc, -, -⟩ | ⟨-, rfl, -⟩ | ⟨-, rfl, -⟩
      · exact hpc
      · cases hin
      · cases hin
    · exact hs.running i u n p hu hutask hin
  | @testRan k ans t f g pc pc' ht htask hf hstep =>
    obtain ⟨-, -, hpc⟩ := TestPc.step_spec hstep
    have hawait := hs.invariant.awaited k t pc ht htask hpc
    refine ⟨hinv, hs.camera, ?_, ?_⟩
    · intro i u n p hu hutask hin
      rcases (getElem?_set_eq_some_iff ht).mp hu with ⟨-, rfl⟩ | ⟨-, hu⟩
      · cases hutask
      · exact hs.running i u n p hu hutask hin
    · intro hdisc
      simp only [hawait, HandlerPc.disconnecting] at hdisc
      cases hdisc

/-- A `disconnect()` executed while a function is operating begins to disconnect. -/
theorem not_handleSafe {s s' : Controller} {a : Action} (ha : ¬ DisconnectsAtRest s a)
    (h : s.step a = some s') : ¬ HandleSafe s' := by
  unfold DisconnectsAtRest at ha
  push Not at ha
  obtain ⟨ans, rfl, hhandler, hc, o, f, hactive, hf, hoperating⟩ := ha
  obtain ⟨-, h⟩ := Option.ite_none_left_eq_some.mp h
  obtain ⟨next, rfl, hdisc⟩ : ∃ next, s' = { s with handler := next } ∧
      next.disconnecting = true := by
    simp only [Controller.handlerStep, hhandler] at h
    cases ans with
    | nothing =>
      simp only [cameraStep, if_pos hc, Option.map_some, Option.some.injEq] at h
      refine ⟨_, h.symm, ?_⟩
      split <;> rfl
    | _ => cases h
  intro hsafe
  exact hoperating (hsafe.disconnects hdisc o f hactive hf)

/-- **Every call of a running function gets its handle, and the camera is not
disconnected under it, all along a run, exactly when every `disconnect()` of a
connected camera is executed at rest.** -/
theorem handle_safe_iff (as : List Action) :
    Always Controller.step HandleSafe {} as ↔ EachStep Controller.step DisconnectsAtRest {} as :=
  always_iff_eachStep Connected.handleSafe Connected.step (fun _ => not_handleSafe)
    connected_init as

/-- A reconnection during a capture; the handle has just been freed. -/
def reconnectCapturing : List Action :=
  startCapture ++ [.command (.command 10), .handler .nothing, .handler (.result true),
    .handler (.result true)]

/-- The program after that. -/
def freed : Controller where
  camera := { camera := some 0, connected := true, serial := "1", created := 1, released := [0, 0] }
  functions := [{ CameraFunction.new ⟨.sequencer, 3, 0, 100, false⟩ with started := true }]
  activeFunction := some 0
  threads := [⟨0, .run 1 (.capture .exposureTime false)⟩]
  handler := .forgetCamera

/-- The thread then passes the freed handle to libgphoto2. -/
theorem not_handle_safe_reconnectCapturing :
    ¬ Always Controller.step HandleSafe {} reconnectCapturing := by
  intro h
  have hrun : run Controller.step {} reconnectCapturing = some freed := rfl
  obtain ⟨c, hc, -, hunreleased⟩ :=
    (h.of_run hrun).calls 0 ⟨0, .run 1 (.capture .exposureTime false)⟩ 1 .exposureTime false rfl rfl
      rfl
  rw [← Option.some.inj hc] at hunreleased
  exact hunreleased (by decide)

end CameraController
