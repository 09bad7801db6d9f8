import CameraController.CommandDeeds

/-! # Every command is answered

`commands_answered`: in every run, what the handler says and does is one `Exchange` after the
other, and nothing else is done to the functions by the handler.  The steps of a command come
between steps of the threads, and `Underway` is what holds meanwhile: nothing has been
refused yet, and the handler is still doing what the command asks for, for the function that
the client saw. -/
namespace CameraController

open StateMachine

/-! ## A command under way -/

/-- What is asked for while the camera is being connected. -/
def Purpose.deed? : Purpose → Option Deed
  | reconnect => none
  | start _ => some .started
  | test _ => some .tested

/-- What the handler is doing it for. -/
def HandlerPc.deed? : HandlerPc → Option Deed
  | setupDelete c | setupCreate c => some (.created c)
  | awaitTest _ => some .tested
  | h => h.purpose?.bind Purpose.deed?

/-- What has been done already. -/
def HandlerPc.done (view : CaptureService) : HandlerPc → List Deed
  | setupCreate _ => view.replaced
  | awaitTest _ => [.tested]
  | _ => []

/-- The function that the camera is connected for. -/
def Purpose.object? : Purpose → Option Nat
  | reconnect => none
  | start o | test o => some o

/-- **What holds of a command under way.** -/
structure Underway (s : Controller) (view : CaptureService) (c : Command) (replies : List Reply)
    (deeds : List Deed) : Prop where
  asked : c.deed? = s.handler.deed?
  accepted : view.refusal c = none
  calm : ∀ l ∈ replies, l.refuses = false
  done : deeds = s.handler.done view
  /-- The active function is the one that the client saw. -/
  seen : s.active.map CameraFunction.id = view.function.map fun f => f.1.id
  /-- The function that is being started or tested is the active one. -/
  aimed : ∀ p, s.handler.purpose? = some p → ∀ o, p.object? = some o → s.activeFunction = some o

/-- What has become of a command, or is about to. -/
def Answers (s : Controller) (view : CaptureService) (c : Command) (replies : List Reply)
    (deeds : List Deed) : Prop :=
  s.handler = .idle ∧ Exchange view c replies deeds ∨
    s.handler ≠ .idle ∧ Underway s view c replies deeds

namespace CameraFunction

variable {f : CameraFunction}

theorem isOperating_iff : f.isOperating = true ↔ f.phase = .running ∨ f.testing = true := by
  unfold isOperating phase
  cases f.finished <;> cases f.started <;> simp

theorem phase_eq_finished_iff : f.phase = .finished ↔ f.finished = true := by
  unfold phase
  cases f.finished <;> cases f.started <;> simp

theorem phase_eq_configured_iff (h : f.finished = true → f.started = true) :
    f.phase = .configured ↔ f.started = false := by
  unfold phase
  cases hf : f.finished <;> cases hs : f.started <;> simp_all

end CameraFunction

theorem Controller.calm_serialReplies (results : CallResults) (text : String) :
    ∀ l ∈ serialReplies results text, l.refuses = false := by
  unfold serialReplies
  split
  · simp
  · split
    · exact Reply.calm_printed _ _
    · split
      · exact Reply.calm_printed _ _
      · simp

theorem Controller.calm_connectSucceeded (p : Purpose) :
    ∀ l ∈ connectSucceeded p, l.refuses = false := by
  cases p with
  | reconnect => simp [connectSucceeded]
  | start o | test o =>
    intro l hl
    obtain rfl := List.mem_singleton.mp hl
    decide

variable {s s' : Controller} {view : CaptureService} {c : Command} {replies : List Reply}

theorem refusal_of_not_asked (h : c.deed? = none) : view.refusal c = none := by
  simp [CaptureService.refusal, h]

theorem Exchange.refused_at_once {r : Refusal} (hsome : view.refusal c = some r) :
    Exchange view c [r.reply] [] := by
  have h : Exchange view c ([] ++ [r.reply]) [] := .refused hsome (by simp)
  exact h

/-- A command that is for no function. -/
theorem Exchange.of_not_asked (h : c.deed? = none) (hcalm : ∀ l ∈ replies, l.refuses = false) :
    Exchange view c replies [] := by
  have hobeyed : Exchange view c replies (view.due c) :=
    .obeyed (refusal_of_not_asked h) (fun hheard => by simp [hheard.1] at h) hcalm
  rwa [CaptureService.due_eq_nil_iff.mpr h] at hobeyed

namespace Controller

/-- The last line names the reason. -/
theorem exists_cannot {p : Purpose} (hp : p ≠ .reconnect) (hasked : c.deed? = p.deed?)
    (hnone : view.refusal c = none)
    (hseen : s.active.map CameraFunction.id = view.function.map fun f => f.1.id)
    (haimed : ∀ o, p.object? = some o → s.activeFunction = some o) :
    ∃ r, view.failure c = some r ∧ s.cannot p = [r.reply] := by
  cases p with
  | reconnect => exact absurd rfl hp
  | test o => exact ⟨.cannotTest, by simp [CaptureService.failure, hasked, Purpose.deed?], rfl⟩
  | start o =>
    have hdeed : c.deed? = some .started := hasked
    cases hfunction : view.function with
    | none => simp [CaptureService.refusal, hdeed, hfunction] at hnone
    | some f =>
      rw [hfunction] at hseen
      obtain ⟨g, hg, hgid⟩ := Option.map_eq_some_iff.mp hseen
      rw [active_eq (haimed o rfl)] at hg
      refine ⟨.cannotStart f.1.id, by simp [CaptureService.failure, hdeed, hfunction], ?_⟩
      simp [cannot, hg, hgid]

/-- `connectCamera()` has failed. -/
theorem answers_failed {s' : Controller} {p : Purpose} (hidle : s'.handler = .idle)
    (hp : p ≠ .reconnect) (hasked : c.deed? = p.deed?) (hnone : view.refusal c = none)
    (hseen : s.active.map CameraFunction.id = view.function.map fun f => f.1.id)
    (haimed : ∀ o, p.object? = some o → s.activeFunction = some o)
    {first : List Reply} (hcalm : ∀ l ∈ first, l.refuses = false)
    (hcamera : Reply.unresponsive ∈ first ∨ Reply.unconnected ∈ first) :
    Answers s' view c (first ++ s.cannot p) [] := by
  obtain ⟨r, hr, hlast⟩ := exists_cannot hp hasked hnone hseen haimed
  rw [hlast]
  exact Or.inl ⟨hidle, .failed hnone hr hcalm hcamera⟩

/-- **The camera is to be connected** for a function. -/
theorem connectCamera_answers {p : Purpose} (hp : p ≠ .reconnect) (hasked : c.deed? = p.deed?)
    (hnone : view.refusal c = none)
    (hseen : s.active.map CameraFunction.id = view.function.map fun f => f.1.id)
    (haimed : ∀ o, p.object? = some o → s.activeFunction = some o)
    {first : List Reply} (hcalm : ∀ l ∈ first, l.refuses = false) :
    Answers (s.connectCamera p) view c (first ++ s.connectReplies p) [] := by
  have hgo {h : HandlerPc} (hdeed : h.deed? = p.deed?) (hdone : h.done view = [])
      (hpurpose : h.purpose? = some p) {more : List Reply}
      (hmore : ∀ l ∈ more, l.refuses = false) :
      Answers { s with handler := h } view c (first ++ more) [] := by
    refine Or.inr ⟨?_, hasked.trans hdeed.symm, hnone, ?_, hdone.symm, hseen, ?_⟩
    · rintro rfl
      cases hpurpose
    · exact List.forall_mem_append.mpr ⟨hcalm, hmore⟩
    · intro q hq o ho
      obtain rfl := Option.some.inj (hpurpose.symm.trans hq)
      exact haimed o ho
  unfold connectCamera connectReplies
  by_cases hconnected : s.camera.connected = true
  · rw [if_pos hconnected, if_pos hconnected]
    by_cases hcamera : s.camera.camera.isSome = true
    · rw [if_pos hcamera, if_pos hcamera]
      exact hgo rfl rfl rfl (by simp)
    · rw [if_neg hcamera, if_neg hcamera, List.append_cons]
      refine answers_failed rfl hp hasked hnone hseen haimed
        (List.forall_mem_append.mpr ⟨hcalm, ?_⟩) (Or.inl (by simp))
      simp
      decide
  · rw [if_neg hconnected, if_neg hconnected]
    exact hgo rfl rfl rfl (by simp; decide)

end Controller

theorem HandlerPc.deed?_of_purpose (view : CaptureService) {h : HandlerPc} {p : Purpose}
    (hp : h.purpose? = some p) :
    h.deed? = p.deed? ∧ h.done view = [] := by
  cases h <;> simp_all [HandlerPc.purpose?, HandlerPc.deed?, HandlerPc.done]

/-- The handler is reconnecting, up to the call of `connect()`. -/
def HandlerPc.reconnecting : HandlerPc → Bool
  | disconnect | exitCamera | freeCamera | forgetCamera | markDisconnected => true
  | connect .reconnect => true
  | _ => false

theorem HandlerPc.of_reconnecting (view : CaptureService) {h : HandlerPc}
    (hh : h.reconnecting = true) :
    h.deed? = none ∧ h.done view = [] ∧ ∀ p, h.purpose? = some p → p = .reconnect := by
  cases h with
  | connect p =>
    cases p with
    | reconnect => exact ⟨rfl, rfl, by simp [purpose?]⟩
    | _ => cases hh
  | disconnect | exitCamera | freeCamera | forgetCamera | markDisconnected =>
    exact ⟨rfl, rfl, by simp [purpose?]⟩
  | _ => cases hh

theorem HandlerPc.deed?_ne_aborted (h : HandlerPc) : h.deed? ≠ some .aborted := by
  cases h with
  | connect p | initCamera p | readSerial p | freeFailed p | isResponsive p | connected p =>
    cases p <;> simp [deed?, purpose?, Purpose.deed?]
  | _ => simp [deed?, purpose?]

namespace Underway

variable {deeds : List Deed} (h : Underway s view c replies deeds) {w : CameraWrapper}
include h

/-- Lines that refuse nothing. -/
theorem calm_append {more : List Reply} (hmore : ∀ l ∈ more, l.refuses = false) :
    ∀ l ∈ replies ++ more, l.refuses = false :=
  List.forall_mem_append.mpr ⟨h.calm, hmore⟩

/-- **The handler goes on.** -/
theorem goOn {next : HandlerPc} {more : List Reply} (hne : next ≠ .idle)
    (hdeed : next.deed? = s.handler.deed?) (hdone : next.done view = s.handler.done view)
    (hpurpose : ∀ p, next.purpose? = some p → p = .reconnect ∨ s.handler.purpose? = some p)
    (hmore : ∀ l ∈ more, l.refuses = false) :
    Answers { s with camera := w, handler := next } view c (replies ++ more) deeds := by
  refine Or.inr ⟨hne, h.asked.trans hdeed.symm, h.accepted, h.calm_append hmore,
    h.done.trans hdone.symm, h.seen, ?_⟩
  intro p hp o ho
  rcases hpurpose p hp with rfl | hp
  · cases ho
  · exact h.aimed p hp o ho

/-- **A command for no function is over.** -/
theorem ends (hdeed : s.handler.deed? = none) (hdone : s.handler.done view = [])
    {more : List Reply} (hmore : ∀ l ∈ more, l.refuses = false) :
    Answers { s with camera := w, handler := .idle } view c (replies ++ more) deeds := by
  have hnone : deeds = [] := h.done.trans hdone
  rw [hnone]
  exact Or.inl ⟨rfl, .of_not_asked (h.asked.trans hdeed) (h.calm_append hmore)⟩

/-- **The camera is not there.** -/
theorem fails {p : Purpose} (hpurpose : s.handler.purpose? = some p) {more : List Reply}
    (hmore : ∀ l ∈ more, l.refuses = false) {blame : Reply}
    (hblame : blame = .unresponsive ∨ blame = .unconnected) :
    Answers { s with camera := w, handler := .idle } view c
      (replies ++ (more ++ blame :: s.cannot p)) deeds := by
  obtain ⟨hdeed, hdone⟩ := HandlerPc.deed?_of_purpose view hpurpose
  have hcalm : ∀ l ∈ more ++ [blame], l.refuses = false := by
    refine List.forall_mem_append.mpr ⟨hmore, ?_⟩
    rcases hblame with rfl | rfl <;> simp <;> decide
  rw [List.append_cons, ← List.append_assoc]
  by_cases hp : p = .reconnect
  · subst hp
    rw [Controller.cannot, List.append_nil]
    exact h.ends hdeed hdone hcalm
  · have hnone : deeds = [] := h.done.trans hdone
    rw [hnone]
    refine Controller.answers_failed rfl hp (h.asked.trans hdeed) h.accepted h.seen
      (h.aimed p hpurpose) (h.calm_append hcalm) ?_
    rcases hblame with rfl | rfl
    · exact Or.inl (by simp)
    · exact Or.inr (by simp)

/-- `connect()` has failed. -/
theorem connect_fails {p : Purpose} (hpurpose : s.handler.purpose? = some p) {more : List Reply}
    (hmore : ∀ l ∈ more, l.refuses = false) :
    Answers { s with camera := w, handler := .idle } view c
      (replies ++ (more ++ s.connectFailed p)) deeds := by
  cases p with
  | reconnect =>
    obtain ⟨hdeed, hdone⟩ := HandlerPc.deed?_of_purpose view hpurpose
    rw [Controller.connectFailed, List.append_nil]
    exact h.ends hdeed hdone hmore
  | start o | test o => exact h.fails hpurpose hmore (Or.inr rfl)

/-- The camera is still being connected. -/
theorem connects {p : Purpose} (hpurpose : s.handler.purpose? = some p) {next : HandlerPc}
    (hnext : next.purpose? = some p) {more : List Reply} (hmore : ∀ l ∈ more, l.refuses = false) :
    Answers { s with camera := w, handler := next } view c (replies ++ more) deeds := by
  obtain ⟨hdeed, hdone⟩ := HandlerPc.deed?_of_purpose view hpurpose
  obtain ⟨hdeed', hdone'⟩ := HandlerPc.deed?_of_purpose view hnext
  refine h.goOn ?_ (hdeed'.trans hdeed.symm) (hdone'.trans hdone.symm) ?_ hmore
  · rintro rfl
    cases hnext
  · intro q hq
    exact Or.inr (hpurpose.trans (hnext.symm.trans hq))

/-- The camera is being disconnected, which is for no function. -/
theorem reconnecting {next : HandlerPc} (hself : s.handler.reconnecting = true)
    (hne : next ≠ .idle) (hnext : next.reconnecting = true) {more : List Reply}
    (hmore : ∀ l ∈ more, l.refuses = false) :
    Answers { s with camera := w, handler := next } view c (replies ++ more) deeds := by
  obtain ⟨hdeed, hdone, -⟩ := HandlerPc.of_reconnecting view hself
  obtain ⟨hdeed', hdone', hpurpose⟩ := HandlerPc.of_reconnecting view hnext
  exact h.goOn hne (hdeed'.trans hdeed.symm) (hdone'.trans hdone.symm)
    (fun p hp => Or.inl (hpurpose p hp)) hmore

/-- **A step that concerns the camera only.** -/
theorem camera {next : HandlerPc} {ans : Answer} (results : CallResults)
    (hstep : cameraStep s.camera s.handler ans = some (w, next)) :
    Answers { s with camera := w, handler := next } view c
      (replies ++ s.handlerReplies results ans) (deeds ++ (s.deed? (.handler ans)).toList) := by
  have hnothing : ∀ l ∈ ([] : List Reply), l.refuses = false := by simp
  rw [Controller.deed?_of_camera hstep, Option.toList_none, List.append_nil]
  unfold cameraStep at hstep
  split at hstep
  case h_1 hh =>
    cases hstep
    simp only [Controller.handlerReplies, hh]
    refine h.ends (by rw [hh]; rfl) (by rw [hh]; rfl) ?_
    refine List.forall_mem_append.mpr ⟨Controller.calm_serialReplies _ _, ?_⟩
    split <;> simp <;> decide
  case h_2 hh =>
    simp only [Controller.handlerReplies, hh]
    by_cases hconnected : s.camera.connected = true
    · rw [if_pos hconnected] at hstep ⊢
      by_cases hcamera : s.camera.camera.isSome = true
      · rw [if_pos hcamera] at hstep
        cases hstep
        exact h.reconnecting (by rw [hh]; rfl) (by simp) rfl hnothing
      · rw [if_neg hcamera] at hstep
        cases hstep
        exact h.reconnecting (by rw [hh]; rfl) (by simp) rfl hnothing
    · rw [if_neg hconnected] at hstep ⊢
      cases hstep
      exact h.reconnecting (by rw [hh]; rfl) (by simp) rfl (by simp; decide)
  case h_3 hh | h_4 hh | h_5 hh =>
    cases hstep
    simp only [Controller.handlerReplies, hh]
    exact h.reconnecting (by rw [hh]; rfl) (by simp) rfl hnothing
  case h_6 hh =>
    cases hstep
    simp only [Controller.handlerReplies, hh]
    exact h.reconnecting (by rw [hh]; rfl) (by simp) rfl (by simp; decide)
  case h_7 p hh =>
    obtain ⟨-, hsome⟩ := Option.ite_none_right_eq_some.mp hstep
    cases hsome
    simp only [Controller.handlerReplies, hh]
    exact h.connects (by rw [hh]; rfl) rfl (Controller.calm_connectSucceeded p)
  case h_8 p new hh =>
    obtain ⟨-, hsome⟩ := Option.ite_none_left_eq_some.mp hstep
    cases new with
    | created =>
      cases hsome
      simp only [Controller.handlerReplies, hh]
      exact h.connects (by rw [hh]; rfl) rfl hnothing
    | failed left =>
      cases hsome
      simp only [Controller.handlerReplies, hh]
      exact h.connect_fails (by rw [hh]; rfl) (Reply.calm_printed _ _)
  case h_9 p ok hh =>
    cases hstep
    cases ok with
    | true =>
      simp only [Controller.handlerReplies, hh]
      exact h.connects (by rw [hh]; rfl) rfl hnothing
    | false =>
      simp only [Controller.handlerReplies, hh]
      exact h.connects (by rw [hh]; rfl) rfl (Reply.calm_printed _ _)
  case h_10 p text hh =>
    cases hstep
    simp only [Controller.handlerReplies, hh]
    refine h.connects (by rw [hh]; rfl) rfl ?_
    refine List.forall_mem_append.mpr ⟨Controller.calm_serialReplies _ _, ?_⟩
    intro l hl
    rcases List.mem_cons.mp hl with rfl | hl
    · exact Reply.refuses_printed _ _
    · exact Controller.calm_connectSucceeded p l hl
  case h_11 p ok hh =>
    cases hstep
    simp only [Controller.handlerReplies, hh]
    exact h.connect_fails (by rw [hh]; rfl) hnothing
  case h_12 p text hh =>
    cases hstep
    simp only [Controller.handlerReplies, hh]
    by_cases htext : text = s.camera.serial
    · rw [if_pos htext, if_pos htext, List.append_nil]
      exact h.connects (by rw [hh]; rfl) rfl (Controller.calm_serialReplies _ _)
    · rw [if_neg htext, if_neg htext]
      exact h.fails (by rw [hh]; rfl) (Controller.calm_serialReplies _ _) (Or.inl rfl)
  case h_13 hh =>
    cases hstep
    simp only [Controller.handlerReplies, hh]
    exact h.ends (by rw [hh]; rfl) (by rw [hh]; rfl) hnothing
  case h_14 => cases hstep

/-- **The command is over**, and what it asks for is done. -/
theorem obeys {deeds' : List Deed} (hidle : s'.handler = .idle)
    (hdeeds : deeds' = view.due c) {more : List Reply}
    (hmore : ∀ l ∈ more, l.refuses = false) :
    Answers s' view c (replies ++ more) deeds' := by
  have hheard : ¬ view.Unheard c := by
    intro hunheard
    exact s.handler.deed?_ne_aborted (h.asked ▸ hunheard.1)
  rw [hdeeds]
  exact Or.inl ⟨hidle, .obeyed h.accepted hheard (h.calm_append hmore)⟩

/-- The function that is started or tested is the active one. -/
theorem aim {o : Nat} (ho : s.handler.purpose? = some (.start o) ∨
    s.handler.purpose? = some (.test o)) : s.activeFunction = some o := by
  rcases ho with ho | ho
  · exact h.aimed _ ho o rfl
  · exact h.aimed _ ho o rfl

/-- **A step of the handler.** -/
theorem handler {ans : Answer} (results : CallResults) (hstep : s.Change (.handler ans) s') :
    Answers s' view c (replies ++ s.handlerReplies results ans)
      (deeds ++ (s.deed? (.handler ans)).toList) := by
  have hnothing : ∀ l ∈ ([] : List Reply), l.refuses = false := by simp
  have hasked := h.asked
  have hdone := h.done
  cases hstep with
  | camera _ hcamera => exact h.camera results hcamera
  | started _ hhandler hf =>
    rw [hhandler] at hasked hdone
    refine h.obeys rfl ?_ ?_
    · rw [hdone, Controller.deed?, hhandler, CaptureService.due, hasked]
      rfl
    · simp only [Controller.handlerReplies, hhandler]
      exact hnothing
  | @tested _ o hhandler =>
    rw [hhandler] at hdone
    refine Or.inr ⟨by simp, h.asked.trans (by rw [hhandler]; rfl), h.accepted, h.calm_append ?_,
      ?_, h.seen, by simp [HandlerPc.purpose?]⟩
    · cases ans with
      | nothing =>
        simp only [Controller.handlerReplies, hhandler]
        simp
        decide
      | _ =>
        simp only [Controller.handlerReplies, hhandler]
        exact hnothing
    · rw [hdone, Controller.deed?, hhandler]
      rfl
  | testOver _ hhandler =>
    rw [hhandler] at hasked hdone
    refine h.obeys rfl ?_ ?_
    · rw [hdone, Controller.deed?, hhandler, CaptureService.due, hasked]
      rfl
    · simp only [Controller.handlerReplies, hhandler]
      exact hnothing
  | @deleted _ cfg o f hhandler hactive hf =>
    rw [hhandler] at hdone
    have hseen := h.seen
    have hbefore : s.active = some f := (Controller.active_eq hactive).trans hf
    refine Or.inr ⟨by simp, h.asked.trans (by rw [hhandler]; rfl), h.accepted, h.calm_append ?_,
      ?_, ?_, by simp [HandlerPc.purpose?]⟩
    · simp only [Controller.handlerReplies, hhandler]
      exact hnothing
    · have hsome : view.function.isSome = true := by
        rw [hbefore] at hseen
        cases hview : view.function with
        | none => simp [hview] at hseen
        | some _ => rfl
      rw [hdone, Controller.deed?, hhandler]
      simp [HandlerPc.done, CaptureService.replaced, hsome]
    · rw [← hseen, hbefore]
      simp [Controller.active, hactive, getElem?_set_self_of_some hf]
  | @created _ cfg hhandler =>
    rw [hhandler] at hasked hdone
    refine h.obeys rfl ?_ ?_
    · rw [hdone, Controller.deed?, hhandler, CaptureService.due, hasked]
      rfl
    · cases ans with
      | nothing =>
        simp only [Controller.handlerReplies, hhandler, Controller.configured]
        split <;> exact Reply.calm_printed _ _
      | _ =>
        simp only [Controller.handlerReplies, hhandler]
        exact hnothing

/-- **A step of a thread** concerns no command. -/
theorem thread {k : Nat} {ans : Answer} (hstep : s.Change (.thread k ans) s') :
    Underway s' view c replies deeds := by
  have hset {o : Nat} {f g : CameraFunction} (hf : s.functions[o]? = some f) (hg : f.Touched g) :
      (Controller.active { s with functions := s.functions.set o g }).map CameraFunction.id =
        view.function.map fun f => f.1.id := by
    rw [← h.seen]
    cases hactive : s.activeFunction with
    | none =>
      simp only [Controller.active, hactive]
      rfl
    | some i =>
      simp only [Controller.active, hactive, Option.bind_eq_bind, Option.bind_some,
        getElem?_set_of_some hf]
      split
      · subst i
        rw [hf, Option.map_some, Option.map_some, hg.sameSetup.1]
      · rfl
  cases hstep with
  | crashed => exact ⟨h.asked, h.accepted, h.calm, h.done, h.seen, h.aimed⟩
  | ran ht htask hf hrun =>
    exact ⟨h.asked, h.accepted, h.calm, h.done, hset hf (RunPc.step_spec hrun).1, h.aimed⟩
  | testRan ht htask hf htest =>
    exact ⟨h.asked, h.accepted, h.calm, h.done, hset hf (TestPc.step_spec htest).1, h.aimed⟩

end Underway

/-! ## A command is taken up -/

namespace Controller

/-- The client sees the active function. -/
theorem seen_service (s : Controller) :
    s.active.map CameraFunction.id = s.service.function.map fun f => f.1.id := by
  cases hactive : s.active <;> simp [service, hactive, CameraFunction.setup]

theorem service_of_none (hactive : s.activeFunction = none) : s.service.function = none := by
  simp [service, active, hactive]

theorem setupReplies_of_active {o : Nat} {f : CameraFunction} (hactive : s.activeFunction = some o)
    (hf : s.functions[o]? = some f) (id : FunctionID) :
    s.setupReplies id = if f.isOperating then [(Refusal.running id).reply] else [] := by
  simp [setupReplies, hactive, hf]

theorem activeReplies_of_active {o : Nat} {f : CameraFunction} (hactive : s.activeFunction = some o)
    (hf : s.functions[o]? = some f) (replies : Nat → CameraFunction → List Reply) :
    s.activeReplies replies = replies o f := by
  simp [activeReplies, hactive, hf]

theorem activeReplies_of_none (hactive : s.activeFunction = none)
    (replies : Nat → CameraFunction → List Reply) :
    s.activeReplies replies = [Refusal.notConfigured.reply] := by
  simp [activeReplies, hactive]

/-- A command that is for no function. -/
theorem answers_of_not_asked {h : HandlerPc} (hdeed : c.deed? = none) (hh : h.deed? = none)
    (hdone : h.done s.service = []) (hpurpose : h.purpose? = none)
    (hcalm : ∀ l ∈ replies, l.refuses = false) :
    Answers { s with handler := h } s.service c replies (s.deed? (.command c)).toList := by
  have hnone : s.deed? (.command c) = none := by simp only [deed?, hdeed]
  rw [hnone]
  by_cases hidle : h = .idle
  · exact Or.inl ⟨hidle, .of_not_asked hdeed hcalm⟩
  · exact Or.inr ⟨hidle, hdeed.trans hh.symm, refusal_of_not_asked hdeed, hcalm, hdone.symm,
      s.seen_service, by simp [hpurpose]⟩

/-- A command that is for no function, and leaves the handler idle. -/
theorem answers_of_ignored (hidle : s.handler = .idle) (hdeed : c.deed? = none)
    (hcalm : ∀ l ∈ replies, l.refuses = false) :
    Answers s s.service c replies (s.deed? (.command c)).toList := by
  have hanswers := answers_of_not_asked (s := s) (h := .idle) hdeed rfl rfl rfl hcalm
  have hsame : { s with handler := HandlerPc.idle } = s := by rw [← hidle]
  rwa [hsame] at hanswers

/-- A command for a function, and there is none. -/
theorem answers_of_none (hidle : s.handler = .idle) (hactive : s.activeFunction = none)
    {d : Deed} (hdeed : c.deed? = some d) (hd : ∀ cfg, d ≠ .created cfg) :
    Answers s s.service c [Refusal.notConfigured.reply] (s.deed? (.command c)).toList := by
  have hnone : s.deed? (.command c) = none := by
    cases d <;> simp [deed?, hdeed, active, hactive]
  have hrefused : s.service.refusal c = some .notConfigured := by
    cases d with
    | created cfg => exact absurd rfl (hd cfg)
    | _ => simp [CaptureService.refusal, hdeed, service_of_none hactive]
  rw [hnone]
  exact Or.inl ⟨hidle, .refused_at_once hrefused⟩

/-- **A setup.** -/
theorem setup_answers (hidle : s.handler = .idle) {cfg : Setup}
    (hdeed : c.deed? = some (.created cfg)) (h : s.setup cfg = some s') {first : List Reply}
    (hcalm : ∀ l ∈ first, l.refuses = false) :
    Answers s' s.service c (first ++ s.setupReplies cfg.id) (s.deed? (.command c)).toList := by
  have hnone : s.deed? (.command c) = none := by simp only [deed?, hdeed]
  rw [hnone]
  unfold setup at h
  cases hactive : s.activeFunction with
  | none =>
    have hquiet : s.setupReplies cfg.id = [] := by simp [setupReplies, hactive]
    rw [hactive] at h
    cases h
    rw [hquiet]
    refine Or.inr ⟨by simp, hdeed, ?_, by simpa using hcalm, ?_, ?_,
      by simp [HandlerPc.purpose?]⟩
    · simp [CaptureService.refusal, hdeed, service_of_none hactive]
    · simp [HandlerPc.done, CaptureService.replaced, service_of_none hactive]
    · rw [service_of_none hactive]
      rfl
  | some o =>
    rw [hactive] at h
    obtain ⟨f, hf, h⟩ := Option.bind_eq_some_iff.mp h
    have hview := service_eq ((active_eq hactive).trans hf)
    rw [setupReplies_of_active hactive hf]
    by_cases hop : f.isOperating = true
    · rw [if_pos hop] at h ⊢
      cases h
      refine Or.inl ⟨hidle, .refused ?_ hcalm⟩
      simp only [CaptureService.refusal, hdeed, hview]
      rw [if_pos (CameraFunction.isOperating_iff.mp hop)]
    · rw [if_neg hop] at h ⊢
      cases h
      refine Or.inr ⟨by simp, hdeed, ?_, by simpa using hcalm, rfl, ?_,
        by simp [HandlerPc.purpose?]⟩
      · simp only [CaptureService.refusal, hdeed, hview]
        rw [if_neg fun hrunning => hop (CameraFunction.isOperating_iff.mpr hrunning)]
      · rw [← s.seen_service]
        simp only [active, hactive]

/-- **`downloadAfterExposure(value)`.** -/
theorem download_answers {value : Bool} (hdeed : c.deed? = some (.download value))
    {f : CameraFunction} (hf : s.active = some f) (hidle : s'.handler = .idle)
    (hcalm : ∀ l ∈ replies, l.refuses = false) :
    Answers s' s.service c replies (s.deed? (.command c)).toList := by
  have hdone : (s.deed? (.command c)).toList = s.service.due c := by
    simp only [deed?, hdeed, hf, CaptureService.due]
  rw [hdone]
  refine Or.inl ⟨hidle, .obeyed ?_ ?_ hcalm⟩
  · simp [CaptureService.refusal, hdeed, service_eq hf]
  · intro hunheard
    cases hdeed.symm.trans hunheard.1

/-- **`start()`.** -/
theorem start_answers (hinv : Invariant s) (hidle : s.handler = .idle)
    (hdeed : c.deed? = some .started) {o : Nat} {f : CameraFunction}
    (hactive : s.activeFunction = some o) (hf : s.functions[o]? = some f)
    (h : (if f.testing || f.started then some s else some (s.connectCamera (.start o))) = some s') :
    Answers s' s.service c (s.startReplies o f) (s.deed? (.command c)).toList := by
  have hnone : s.deed? (.command c) = none := by simp only [deed?, hdeed]
  have hview := service_eq ((active_eq hactive).trans hf)
  have hphase := f.phase_eq_configured_iff (hinv.started_of_finished o f hf)
  rw [hnone]
  unfold startReplies
  by_cases htesting : f.testing = true
  · rw [if_pos (by simp [htesting])] at h
    cases h
    rw [if_pos htesting]
    refine Or.inl ⟨hidle, .refused_at_once ?_⟩
    simp [CaptureService.refusal, hdeed, hview, htesting]
  rw [if_neg htesting]
  by_cases hstarted : f.started = true
  · rw [if_pos (by simp [hstarted])] at h
    cases h
    rw [if_pos hstarted]
    refine Or.inl ⟨hidle, .refused_at_once ?_⟩
    have hne : f.phase ≠ .configured := by
      intro hconfigured
      simp [hphase.mp hconfigured] at hstarted
    simp [CaptureService.refusal, hdeed, hview, htesting, hne]
    rfl
  · rw [if_neg (by simp [htesting, hstarted])] at h
    cases h
    rw [if_neg hstarted]
    refine connectCamera_answers (by simp) hdeed ?_ s.seen_service ?_ ?_
    · have hconfigured := hphase.mpr (by simpa using hstarted)
      simp [CaptureService.refusal, hdeed, hview, htesting, hconfigured]
    · intro i hi
      obtain rfl := Option.some.inj hi
      exact hactive
    · cases f.id with
      | sequencer =>
        simp
        decide
      | intervalometer => simp

/-- **`testCapture()`.** -/
theorem test_answers (hidle : s.handler = .idle) (hdeed : c.deed? = some .tested) {o : Nat}
    {f : CameraFunction} (hactive : s.activeFunction = some o) (hf : s.functions[o]? = some f)
    (h : (if f.isOperating then some s else some (s.connectCamera (.test o))) = some s') :
    Answers s' s.service c
      (if f.isOperating then [Refusal.operating.reply] else s.connectReplies (.test o))
      (s.deed? (.command c)).toList := by
  have hnone : s.deed? (.command c) = none := by simp only [deed?, hdeed]
  have hview := service_eq ((active_eq hactive).trans hf)
  rw [hnone]
  by_cases hop : f.isOperating = true
  · rw [if_pos hop] at h ⊢
    cases h
    refine Or.inl ⟨hidle, .refused_at_once ?_⟩
    simp only [CaptureService.refusal, hdeed, hview]
    rw [if_pos (CameraFunction.isOperating_iff.mp hop)]
  · rw [if_neg hop] at h ⊢
    cases h
    have hconnect : Answers (s.connectCamera (.test o)) s.service c
        ([] ++ s.connectReplies (.test o)) [] := by
      refine connectCamera_answers (by simp) hdeed ?_ s.seen_service ?_ (by simp)
      · simp only [CaptureService.refusal, hdeed, hview]
        rw [if_neg fun hrunning => hop (CameraFunction.isOperating_iff.mpr hrunning)]
      · intro i hi
        obtain rfl := Option.some.inj hi
        exact hactive
    exact hconnect

/-- **`abort()`.** -/
theorem stop_answers (hinv : Invariant s) (hidle : s'.handler = .idle)
    (hdeed : c.deed? = some .aborted) {o : Nat} {f : CameraFunction}
    (hactive : s.activeFunction = some o) (hf : s.functions[o]? = some f) :
    Answers s' s.service c (if f.started then abortReplies f else [])
      (s.deed? (.command c)).toList := by
  have hbefore : s.active = some f := (active_eq hactive).trans hf
  have hview := service_eq hbefore
  have hconfigured := f.phase_eq_configured_iff (hinv.started_of_finished o f hf)
  have hdone : s.deed? (.command c) = if f.started && !f.finished then some .aborted else none := by
    simp only [deed?, hdeed, hbefore]
  rw [hdone]
  refine Or.inl ⟨hidle, ?_⟩
  by_cases hstarted : f.started = true
  · rw [if_pos hstarted]
    have hheard : ¬ s.service.Unheard c := by
      rintro ⟨-, g, hg⟩
      rw [hview] at hg
      obtain ⟨-, hphase⟩ := Prod.mk.inj (Option.some.inj hg)
      simp [hconfigured.mp hphase] at hstarted
    by_cases hfinished : f.finished = true
    · rw [abortReplies, if_pos hfinished, if_neg (by simp [hfinished])]
      refine .refused_at_once ?_
      simp only [CaptureService.refusal, hdeed, hview]
      rw [if_pos (CameraFunction.phase_eq_finished_iff.mpr hfinished)]
      rfl
    · have hcalm : ∀ l ∈ abortReplies f, l.refuses = false := by
        rw [abortReplies, if_neg hfinished]
        cases f.id <;> simp <;> decide
      have hobeyed : Exchange s.service c (abortReplies f) (s.service.due c) := by
        refine .obeyed ?_ hheard hcalm
        simp only [CaptureService.refusal, hdeed, hview]
        rw [if_neg fun hphase => hfinished (CameraFunction.phase_eq_finished_iff.mp hphase)]
      rw [if_pos (by simp [hstarted, hfinished])]
      rwa [CaptureService.due, hdeed] at hobeyed
  · rw [if_neg hstarted, if_neg (by simp [hstarted])]
    refine .unheard ⟨hdeed, f.setup, ?_⟩
    rw [hview, hconfigured.mpr (by simpa using hstarted)]

/-- **A branch that needs a function.** -/
theorem active_answers (hidle : s.handler = .idle) {d : Deed} (hdeed : c.deed? = some d)
    (hd : ∀ cfg, d ≠ .created cfg) {act : Nat → CameraFunction → Option Controller}
    {replies : Nat → CameraFunction → List Reply}
    (h : (match s.activeFunction with
      | none => some s
      | some o => do
        let f ← s.functions[o]?
        act o f) = some s')
    (hact : ∀ o f, s.activeFunction = some o → s.functions[o]? = some f → act o f = some s' →
      Answers s' s.service c (replies o f) (s.deed? (.command c)).toList) :
    Answers s' s.service c (s.activeReplies replies) (s.deed? (.command c)).toList := by
  refine active_cases (P := fun t => Answers t _ c _ _) h ?_ ?_
  · intro hactive
    rw [activeReplies_of_none hactive]
    exact answers_of_none hidle hactive hdeed hd
  · intro o f hactive hf hdone
    rw [activeReplies_of_active hactive hf]
    exact hact o f hactive hf hdone

/-- **What becomes of a command** when it is taken up. -/
theorem onCommandReceived_answers (hinv : Invariant s) (hidle : s.handler = .idle)
    (h : s.onCommandReceived c = some s') :
    Answers s' s.service c (s.commandReplies c) (s.deed? (.command c)).toList := by
  unfold onCommandReceived at h
  split at h
  case h_1 c _ _ hid =>
    cases h
    have hdeed : c.deed? = none := by simp only [Command.deed?, hid]
    simp only [commandReplies, hid]
    refine answers_of_not_asked hdeed ?_ ?_ ?_ ?_
    · split <;> rfl
    · split <;> rfl
    · split <;> rfl
    · split
      · split <;> simp <;> decide
      · simp
        decide
  case h_2 c _ _ hid =>
    cases h
    have hdeed : c.deed? = none := by simp only [Command.deed?, hid]
    simp only [commandReplies, hid]
    exact answers_of_not_asked hdeed rfl rfl rfl (by simp; decide)
  case h_3 _ _ id numExposures expTime download hid =>
    have hdeed : Command.deed? (.sequencerSetup id numExposures expTime download) =
        some (.created ⟨.sequencer, numExposures, 0, expTime, download⟩) := by
      simp only [Command.deed?, hid]
    have hcalm : ∀ l ∈ ([] : List Reply), l.refuses = false := by simp
    simp only [commandReplies, hid]
    exact setup_answers hidle hdeed h hcalm
  -- no command whose class is not the one it is cast to
  case h_4 | h_6 | h_8 => cases h
  case h_5 _ _ id numExposures expTime interval download hid =>
    have hdeed : Command.deed? (.intervalometerSetup id numExposures expTime interval download) =
        some (.created ⟨.intervalometer, numExposures, interval, expTime, download⟩) := by
      simp only [Command.deed?, hid]
    have hcalm : ∀ l ∈ [(LogLevel.debug, LoggedText.plain "Received intervalometer config")],
        Reply.refuses l = false := by
      simp
      decide
    simp only [commandReplies, hid]
    exact setup_answers hidle hdeed h hcalm
  case h_7 id download hid =>
    have hdeed : Command.deed? (.downloadAfterExposure id download) =
        some (.download download) := by
      simp only [Command.deed?, hid]
    simp only [commandReplies, hid]
    refine active_answers hidle hdeed (by simp) h ?_
    intro o f hactive hf h
    cases h
    refine download_answers hdeed ((active_eq hactive).trans hf) hidle ?_
    cases download <;> simp <;> decide
  case h_9 c _ _ hid =>
    have hdeed : c.deed? = some .tested := by simp only [Command.deed?, hid]
    simp only [commandReplies, hid]
    refine active_answers hidle hdeed (by simp) h ?_
    intro o f hactive hf h
    exact test_answers hidle hdeed hactive hf h
  case h_10 c _ _ hid =>
    have hdeed : c.deed? = some .started := by simp only [Command.deed?, hid]
    simp only [commandReplies, hid]
    refine active_answers hidle hdeed (by simp) h ?_
    intro o f hactive hf h
    exact start_answers hinv hidle hdeed hactive hf h
  case h_11 c _ _ hid =>
    have hdeed : c.deed? = some .aborted := by simp only [Command.deed?, hid]
    simp only [commandReplies, hid]
    refine active_answers hidle hdeed (by simp) h ?_
    intro o f hactive hf h
    have hidle : s'.handler = .idle := by
      split at h <;> cases h <;> exact hidle
    exact stop_answers hinv hidle hdeed hactive hf
  case h_12 c _ _ hid | h_13 c _ _ hid =>
    cases h
    have hdeed : c.deed? = none := by simp only [Command.deed?, hid]
    simp only [commandReplies, hid]
    exact answers_of_ignored hidle hdeed (by simp; decide)
  case h_14 c _ _ hid =>
    cases h
    have hdeed : c.deed? = none := by simp only [Command.deed?, hid]
    simp only [commandReplies, hid]
    exact answers_of_ignored hidle hdeed (by simp)

end Controller

/-! ## One dialogue after the other -/

namespace Dialogue

/-- More is said and done. -/
def extend (d : Dialogue) (replies : List Reply) (deeds : List Deed) : Dialogue :=
  { d with rest := d.rest ++ (replies.map .said ++ deeds.map .did) }

variable {d : Dialogue}

theorem replies_extend (replies : List Reply) (deeds : List Deed) :
    (d.extend replies deeds).replies = d.replies ++ replies := by
  simp [Dialogue.replies, extend, List.filterMap_append, List.filterMap_map, Function.comp_def,
    HandlerEvent.reply?]

theorem deeds_extend (replies : List Reply) (deeds : List Deed) :
    (d.extend replies deeds).deeds = d.deeds ++ deeds := by
  simp [Dialogue.deeds, extend, List.filterMap_append, List.filterMap_map, Function.comp_def,
    HandlerEvent.deed?]

theorem Own.extend (h : d.Own) (replies : List Reply) (deeds : List Deed) :
    (d.extend replies deeds).Own := by
  refine List.forall_mem_append.mpr ⟨h, List.forall_mem_append.mpr ⟨fun e he => ?_, fun e he => ?_⟩⟩
  · obtain ⟨l, -, rfl⟩ := List.mem_map.mp he
    exact Or.inl ⟨l, rfl⟩
  · obtain ⟨d, -, rfl⟩ := List.mem_map.mp he
    exact Or.inr ⟨d, rfl⟩

end Dialogue

/-- **What holds of the record**: the commands that are over have been answered, and one may
be under way. -/
def Recorded (s : Controller) (es : List HandlerEvent) : Prop :=
  ∃ past : List Dialogue, (∀ d ∈ past, d.Proper) ∧
    (s.handler = .idle ∧ es = past.flatMap Dialogue.events ∨
      ∃ d : Dialogue, s.handler ≠ .idle ∧ es = past.flatMap Dialogue.events ++ d.events ∧ d.Own ∧
        Underway s d.view d.command d.replies d.deeds)

/-- What has become of the last command. -/
theorem recorded_of_answers {past : List Dialogue} (hpast : ∀ d ∈ past, d.Proper) {d : Dialogue}
    (hown : d.Own) (h : Answers s d.view d.command d.replies d.deeds) :
    Recorded s (past.flatMap Dialogue.events ++ d.events) := by
  rcases h with ⟨hidle, hexchange⟩ | ⟨hbusy, hunderway⟩
  · refine ⟨past ++ [d], List.forall_mem_append.mpr ⟨hpast, ?_⟩, Or.inl ⟨hidle, by simp⟩⟩
    intro e he
    obtain rfl := List.mem_singleton.mp he
    exact ⟨hown, hexchange⟩
  · exact ⟨past, hpast, Or.inr ⟨d, hbusy, rfl, hown, hunderway⟩⟩

/-- **Every step.** -/
theorem Recorded.step (hinv : Invariant s) {es : List HandlerEvent} (h : Recorded s es)
    {a : Action × CallResults} (hstep : answeredStep s a = some s') :
    Recorded s' (es ++ handlerEvents s a) := by
  obtain ⟨a, results⟩ := a
  obtain ⟨past, hpast, h⟩ := h
  have hchange := Controller.step_change hstep
  cases a with
  | command c =>
    obtain ⟨-, hreceived⟩ := Option.ite_none_left_eq_some.mp hstep
    obtain ⟨hidle, hreceived⟩ := Option.ite_none_right_eq_some.mp hreceived
    rcases h with ⟨-, rfl⟩ | ⟨d, hbusy, -⟩
    · have hanswers := Controller.onCommandReceived_answers hinv hidle hreceived
      let d : Dialogue := ⟨s.service, c, []⟩
      have hown : d.Own := by simp [Dialogue.Own, d]
      rw [handlerEvents, Controller.outcome_of_step hstep (Controller.work_of_command hreceived)]
      refine recorded_of_answers hpast
        (hown.extend (s.commandReplies c) (s.deed? (.command c)).toList) ?_
      rw [Dialogue.replies_extend, Dialogue.deeds_extend]
      exact hanswers
    · exact absurd hidle hbusy
  | handler ans =>
    rcases h with ⟨hidle, -⟩ | ⟨d, -, rfl, hown, hunderway⟩
    · obtain ⟨-, hstep⟩ := Option.ite_none_left_eq_some.mp hstep
      have hlt := Controller.handlerStep_rank_lt hstep
      rw [hidle] at hlt
      exact absurd hlt (Nat.not_lt_zero _)
    · have hanswers := hunderway.handler results hchange
      have hwork := Controller.work_of_handler hchange fun _ => hunderway.aim
      rw [handlerEvents, Controller.outcome_of_step hstep hwork, List.append_assoc]
      refine recorded_of_answers hpast
        (hown.extend (s.handlerReplies results ans) (s.deed? (.handler ans)).toList) ?_
      rw [Dialogue.replies_extend, Dialogue.deeds_extend]
      exact hanswers
  | thread k ans =>
    have hhandler := Controller.handler_of_thread hstep
    rw [handlerEvents, List.append_nil]
    refine ⟨past, hpast, ?_⟩
    rw [hhandler]
    rcases h with hidle | ⟨d, hbusy, hes, hown, hunderway⟩
    · exact Or.inl hidle
    · exact Or.inr ⟨d, hbusy, hes, hown, hunderway.thread hchange⟩

/-- What is recorded is one dialogue after the other. -/
theorem Recorded.answered {es : List HandlerEvent} (h : Recorded s es) :
    ∃ past current, Answered s es past current := by
  obtain ⟨past, hpast, ⟨hidle, hes⟩ | ⟨d, hbusy, hes, hown, hunderway⟩⟩ := h
  · exact ⟨past, [], hpast, hes.trans (List.append_nil _).symm, fun _ => rfl,
      fun hbusy => absurd hidle hbusy⟩
  · exact ⟨past, d.events, hpast, hes, fun hidle => absurd hidle hbusy,
      fun _ => ⟨d, rfl, hown, hunderway.calm⟩⟩

/-- **Every command is answered.**  In every run of the program, whatever the commands are and
however the threads take turns, each command that is over was carried out, or was refused
with the reason as the last thing said, or was a STOP for a function not started. -/
theorem commands_answered {as : List (Action × CallResults)} {es : List HandlerEvent}
    (h : run (recording answeredStep handlerEvents) ({}, []) as = some (s, es)) :
    ∃ past current, Answered s es past current := by
  have hinit : Invariant {} ∧ Recorded {} [] := ⟨invariant_init, [], by simp, Or.inl ⟨rfl, rfl⟩⟩
  exact (run_recording (P := fun s es => Invariant s ∧ Recorded s es)
    (fun hs hstep => ⟨hs.1.step hstep, hs.2.step hs.1 hstep⟩) hinit h).2.answered

/-- A sequencer is configured; a STOP comes, a START when there is no camera, another when
there is one, and a STOP for what has been started. -/
def retriedStart : List (Action × CallResults) :=
  [(.command (.sequencerSetup 20 3 100 true), {}), (.handler .nothing, {}),
    (.command (.command 6), {}),
    (.command (.command 5), {}), (.handler (.newCamera (.failed none)), { call := -105 }),
    (.command (.command 5), {}), (.handler (.newCamera .created), {}),
    (.handler (.result true), {}), (.handler (.serial ""), { value := -2 }),
    (.handler .nothing, {}),
    (.command (.command 6), {})]

/-- What is recorded of that. -/
def retriedStartEvents : List HandlerEvent :=
  let configured : CaptureService :=
    ⟨some (⟨.sequencer, 3, 0, 100, true⟩, .configured), false, false⟩
  [.took {} (.sequencerSetup 20 3 100 true),
    .said (.info, .printed (.sequencerConfigured 3 100)),
    .did (.created ⟨.sequencer, 3, 0, 100, true⟩),
    .took configured (.command 6),
    .took configured (.command 5),
    .said (.info, .plain "Starting sequencer"),
    .said (.warning, .plain "Camera not connected!"),
    .said (.error, .printed (.cameraError .instantiating (-105))),
    .said (.error, .plain "Failed connecting to camera!"),
    .said (.error, .plain "Cannot start sequencer"),
    .took configured (.command 5),
    .said (.info, .plain "Starting sequencer"),
    .said (.warning, .plain "Camera not connected!"),
    .said (.error, .printed (.configError .getValue "serialnumber" (-2))),
    .said (.info, .printed (.connected "")),
    .said (.info, .plain "Succesfully connected to camera"),
    .did .started,
    .took ⟨some (⟨.sequencer, 3, 0, 100, true⟩, .running), false, false⟩ (.command 6),
    .said (.info, .plain "Aborting sequencer"),
    .did .aborted]

theorem commands_answered_retriedStart :
    ∃ s past current,
      run (recording answeredStep handlerEvents) ({}, []) retriedStart =
        some (s, retriedStartEvents) ∧ Answered s retriedStartEvents past current := by
  have hrun : run (recording answeredStep handlerEvents) ({}, []) retriedStart =
      some (_, retriedStartEvents) := rfl
  obtain ⟨past, current, hanswered⟩ := commands_answered hrun
  exact ⟨_, past, current, hrun, hanswered⟩

end CameraController
