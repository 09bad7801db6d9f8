import CameraController.CommandHandler

/-! # What a step of the program does

`Change` lists what one step can do to the program, with what the code has checked
before it does that; `step_change` is the inversion of `Controller.step` that
every invariant is derived from. -/
namespace CameraController

namespace Controller

/-! ## What a step does -/

/-- **What a step can do.** -/
inductive Change (s : Controller) : Action → Controller → Prop
  /-- A command that changes nothing here. -/
  | ignored (c : Command) : Change s (.command c) s
  | testing (c : Command) (hidle : s.handler = .idle) {h : HandlerPc}
      (hh : h = .testConnection ∨ h = .idle) : Change s (.command c) { s with handler := h }
  | reconnecting (c : Command) (hidle : s.handler = .idle)
      (hc : c.cmdId = CommandId.cameraReconnect.code) :
      Change s (.command c) { s with handler := .disconnect }
  /-- `connectCamera()` for a function that is at rest. -/
  | connecting (c : Command) (hidle : s.handler = .idle) {o : Nat} {f : CameraFunction}
      {p : Purpose}
      (hactive : s.activeFunction = some o) (hf : s.functions[o]? = some f)
      (hp : p = .start o ∧ f.started = false ∨ p = .test o ∧ f.isOperating = false) :
      Change s (.command c) (s.connectCamera p)
  /-- A setup that is to replace a function at rest. -/
  | replacing (c : Command) (hidle : s.handler = .idle) (cfg : Setup) {o : Nat} {f : CameraFunction}
      (hactive : s.activeFunction = some o) (hf : s.functions[o]? = some f)
      (hrest : f.isOperating = false) :
      Change s (.command c) { s with handler := .setupDelete cfg }
  | creating (c : Command) (hidle : s.handler = .idle) (cfg : Setup)
      (hactive : s.activeFunction = none) :
      Change s (.command c) { s with handler := .setupCreate cfg }
  /-- `downloadAfterExposure(value)` and `abort()`. -/
  | flagged (c : Command) {o : Nat} {f g : CameraFunction} (hf : s.functions[o]? = some f)
      (hg : f.Touched g) (hfinished : g.finished = f.finished) (htesting : g.testing = f.testing) :
      Change s (.command c) { s with functions := s.functions.set o g }
  | camera (ans : Answer) {w : CameraWrapper} {h : HandlerPc}
      (hstep : cameraStep s.camera s.handler ans = some (w, h)) :
      Change s (.handler ans) { s with camera := w, handler := h }
  | started (ans : Answer) {o : Nat} {f : CameraFunction}
      (hhandler : s.handler = .connected (.start o)) (hf : s.functions[o]? = some f) :
      Change s (.handler ans) { s with
        functions := s.functions.set o { f with started := true }
        threads := s.threads ++ [⟨o, .run 0 .loopTest⟩]
        handler := .idle }
  | tested (ans : Answer) {o : Nat} (hhandler : s.handler = .connected (.test o)) :
      Change s (.handler ans) { s with
        threads := s.threads ++ [⟨o, .test .begin⟩]
        handler := .awaitTest s.threads.length }
  | testOver (ans : Answer) {k : Nat} {t : Thread} (hhandler : s.handler = .awaitTest k)
      (ht : s.threads[k]? = some t) (hover : t.task = .test .exited) :
      Change s (.handler ans) { s with handler := .idle }
  | deleted (ans : Answer) {cfg : Setup} {o : Nat} {f : CameraFunction}
      (hhandler : s.handler = .setupDelete cfg) (hactive : s.activeFunction = some o)
      (hf : s.functions[o]? = some f) :
      Change s (.handler ans) { s with
        functions := s.functions.set o { f with deleted := true }
        handler := .setupCreate cfg }
  | created (ans : Answer) {cfg : Setup} (hhandler : s.handler = .setupCreate cfg) :
      Change s (.handler ans) { s with
        functions := s.functions ++ [.new cfg]
        activeFunction := some s.functions.length
        handler := .idle }
  | ran {k : Nat} {ans : Answer} {t : Thread} {f g : CameraFunction} {shots shots' : Nat}
      {pc pc' : RunPc} (ht : s.threads[k]? = some t) (htask : t.task = .run shots pc)
      (hf : s.functions[t.object]? = some f)
      (hstep : pc.step f shots ans = some (.moved g shots' pc')) :
      Change s (.thread k ans) { s with
        functions := s.functions.set t.object g
        threads := s.threads.set k { t with task := .run shots' pc' } }
  | crashed {k : Nat} {ans : Answer} : Change s (.thread k ans) { s with terminated := true }
  | testRan {k : Nat} {ans : Answer} {t : Thread} {f g : CameraFunction} {pc pc' : TestPc}
      (ht : s.threads[k]? = some t) (htask : t.task = .test pc)
      (hf : s.functions[t.object]? = some f) (hstep : pc.step f ans = some (g, pc')) :
      Change s (.thread k ans) { s with
        functions := s.functions.set t.object g
        threads := s.threads.set k { t with task := .test pc' } }

theorem setup_change {s s' : Controller} (hidle : s.handler = .idle) {cfg : Setup}
    (h : s.setup cfg = some s') (c : Command) : Change s (.command c) s' := by
  unfold setup at h
  split at h
  case h_1 hactive =>
    cases h
    exact .creating c hidle cfg hactive
  case h_2 o hactive =>
    obtain ⟨f, hf, h⟩ := Option.bind_eq_some_iff.mp h
    cases hop : f.isOperating <;> simp only [hop, if_true, Bool.false_eq_true, if_false] at h <;>
      cases h
    · exact .replacing c hidle cfg hactive hf hop
    · exact .ignored c

/-- What a command does to the active function, if there is one. -/
theorem active_change {s s' : Controller} {c : Command}
    {act : Nat → CameraFunction → Option Controller}
    (h : (match s.activeFunction with
      | none => some s
      | some o => do
        let f ← s.functions[o]?
        act o f) = some s')
    (hact : ∀ o f, s.activeFunction = some o → s.functions[o]? = some f →
      act o f = some s' → Change s (.command c) s') : Change s (.command c) s' := by
  split at h
  case h_1 =>
    cases h
    exact .ignored c
  case h_2 o hactive =>
    obtain ⟨f, hf, h⟩ := Option.bind_eq_some_iff.mp h
    exact hact o f hactive hf h

theorem onCommandReceived_change {s s' : Controller} (hidle : s.handler = .idle) {c : Command}
    (h : s.onCommandReceived c = some s') : Change s (.command c) s' := by
  unfold onCommandReceived at h
  split at h
  case h_1 =>
    cases h
    refine .testing _ hidle ?_
    split
    · exact Or.inl rfl
    · exact Or.inr rfl
  case h_2 hc =>
    cases h
    exact .reconnecting _ hidle (CommandId.ofCode_eq_some_iff.mp hc)
  case h_3 | h_5 => exact setup_change hidle h _
  -- a flag, and no command whose class is not the one it is cast to
  case h_7 =>
    refine active_change h fun o f _ hf h => ?_
    cases h
    exact .flagged _ hf ⟨⟨rfl, rfl, rfl, rfl⟩, rfl, rfl, fun h => h⟩ rfl rfl
  case h_4 | h_6 | h_8 => cases h
  case h_9 =>
    refine active_change h fun o f hactive hf h => ?_
    cases hop : f.isOperating <;> simp only [hop, if_true, Bool.false_eq_true, if_false] at h <;>
      cases h
    · exact .connecting _ hidle hactive hf (Or.inr ⟨rfl, hop⟩)
    · exact .ignored _
  case h_10 =>
    refine active_change h fun o f hactive hf h => ?_
    split at h <;> cases h
    case isTrue => exact .ignored _
    case isFalse hrest => exact .connecting _ hidle hactive hf (Or.inl ⟨rfl, by simp_all⟩)
  case h_11 =>
    refine active_change h fun o f _ hf h => ?_
    split at h <;> cases h
    case isTrue =>
      obtain ⟨b, hb⟩ := f.abort_eq
      rw [hb]
      exact .flagged _ hf ⟨⟨rfl, rfl, rfl, rfl⟩, rfl, rfl, fun h => h⟩ rfl rfl
    case isFalse => exact .ignored _
  case h_12 | h_13 | h_14 =>
    cases h
    exact .ignored _

theorem handlerStep_change {s s' : Controller} {ans : Answer}
    (h : s.handlerStep ans = some s') : Change s (.handler ans) s' := by
  unfold handlerStep at h
  split at h
  case h_1 o hhandler =>
    obtain ⟨f, hf, h⟩ := Option.bind_eq_some_iff.mp h
    cases h
    exact .started _ hhandler hf
  case h_2 o hhandler =>
    cases h
    exact .tested _ hhandler
  case h_3 k hhandler =>
    split at h
    case h_1 ht =>
      cases h
      exact .testOver _ hhandler ht rfl
    case h_2 => cases h
  case h_4 cfg hhandler =>
    obtain ⟨o, hactive, h⟩ := Option.bind_eq_some_iff.mp h
    obtain ⟨f, hf, h⟩ := Option.bind_eq_some_iff.mp h
    cases h
    exact .deleted _ hhandler hactive hf
  case h_5 cfg hhandler =>
    cases h
    exact .created _ hhandler
  case h_6 =>
    obtain ⟨⟨w, h⟩, hstep, rfl⟩ := Option.map_eq_some_iff.mp h
    exact .camera _ hstep

theorem threadStep_change {s s' : Controller} {k : Nat} {ans : Answer}
    (h : s.threadStep k ans = some s') : Change s (.thread k ans) s' := by
  obtain ⟨t, ht, h⟩ := Option.bind_eq_some_iff.mp h
  obtain ⟨f, hf, h⟩ := Option.bind_eq_some_iff.mp h
  cases htask : t.task with
  | run shots pc =>
    simp only [htask] at h
    obtain ⟨r, hr, h⟩ := Option.bind_eq_some_iff.mp h
    cases r with
    | moved g shots' pc' =>
      cases h
      exact .ran ht htask hf hr
    | terminated =>
      cases h
      exact .crashed
  | test pc =>
    simp only [htask] at h
    obtain ⟨⟨g, pc'⟩, hr, h⟩ := Option.bind_eq_some_iff.mp h
    cases h
    exact .testRan ht htask hf hr

/-- **Every step does one of these things.** -/
theorem step_change {s s' : Controller} {a : Action} (h : s.step a = some s') : Change s a s' := by
  obtain ⟨-, h⟩ := Option.ite_none_left_eq_some.mp h
  cases a with
  | command c =>
    obtain ⟨hidle, h⟩ := Option.ite_none_right_eq_some.mp h
    exact onCommandReceived_change hidle h
  | handler ans => exact handlerStep_change h
  | thread k ans => exact threadStep_change h

end Controller

/-! ## What the handler is about to do -/

namespace HandlerPc

/-- For whom the handler is connecting the camera. -/
def purpose? : HandlerPc → Option Purpose
  | connect p | initCamera p | readSerial p | freeFailed p | isResponsive p | connected p => some p
  | _ => none

/-- The handler is replacing a function, starting one, or testing one. -/
def exclusive : HandlerPc → Bool
  | setupDelete _ | setupCreate _ | awaitTest _ => true
  | h =>
    match h.purpose? with
    | some (.start _) | some (.test _) => true
    | _ => false

end HandlerPc

/-- What `connectCamera()` does first. -/
theorem Controller.connectCamera_eq (s : Controller) (p : Purpose) :
    ∃ h, s.connectCamera p = { s with handler := h } ∧
      (h = .idle ∨ h = .connect p ∨ h = .isResponsive p ∧ s.camera.connected = true) := by
  unfold Controller.connectCamera
  split
  case isTrue hc =>
    refine ⟨_, rfl, ?_⟩
    split
    · exact Or.inr (Or.inr ⟨rfl, hc⟩)
    · exact Or.inl rfl
  case isFalse => exact ⟨_, rfl, Or.inr (Or.inl rfl)⟩

/-- The steps that concern the camera only neither begin nor end anything else. -/
theorem cameraStep_spec {w w' : CameraWrapper} {h h' : HandlerPc} {ans : Answer}
    (hstep : cameraStep w h ans = some (w', h')) :
    (h'.exclusive = true → h.exclusive = true) ∧
      (∀ o, h'.purpose? = some (.start o) → h.purpose? = some (.start o)) ∧
      (∀ k, h ≠ .awaitTest k) ∧ (∀ c, h ≠ .setupCreate c) := by
  unfold cameraStep at hstep
  repeat' split at hstep
  all_goals
    cases hstep <;>
      exact ⟨by simp [HandlerPc.exclusive, HandlerPc.purpose?], by simp [HandlerPc.purpose?],
        by simp, by simp⟩

end CameraController
