import CameraController.Replies

/-! # What the handler does to the functions

`outcome` reads off the states before and behind a step what has been done.  No step of the
handler strays: `work_of_command` and `work_of_handler` say that it changes the functions
and their threads by its deed, and does nothing else to them. -/
namespace CameraController

/-- What is put where it is already. -/
theorem set_of_some {α : Type} {l : List α} {i : Nat} {a : α} (ha : l[i]? = some a) :
    l.set i a = l := by
  obtain ⟨hlt, rfl⟩ := List.getElem?_eq_some_iff.mp ha
  exact List.set_getElem_self hlt

namespace Work

variable {w : Work} {o : Nat} (hactive : w.activeFunction = some o)
include hactive

theorem update_of_active {f : CameraFunction} (hf : w.functions[o]? = some f)
    (g : CameraFunction → CameraFunction) :
    w.update g = { w with functions := w.functions.set o (g f) } := by
  rw [update, hactive, Option.elim_some, List.modify_eq_set_getElem?, hf]
  rfl

theorem spawn_of_active (task : Task) :
    w.spawn task = { w with threads := w.threads ++ [⟨o, task⟩] } := by
  rw [spawn, hactive]
  rfl

end Work

namespace Controller

variable {s s' : Controller} {c : Command}

/-- What has been done is the deed, if it is what has changed. -/
theorem outcome_of_step {a : Action} (h : s.step a = some s')
    (hwork : s'.work = s.work.performed (s.deed? a)) :
    s.outcome a = (s.deed? a).toList.map .did := by
  rw [outcome, h]
  exact if_pos hwork

/-! ## Commands -/

/-- A setup leaves the functions to the steps that follow. -/
theorem work_of_setup {cfg : Setup} (h : s.setup cfg = some s') : s'.work = s.work := by
  unfold setup at h
  split at h
  case h_1 =>
    cases h
    rfl
  case h_2 o hactive =>
    obtain ⟨f, -, h⟩ := Option.bind_eq_some_iff.mp h
    split at h <;> cases h <;> rfl

theorem work_connectCamera (p : Purpose) : (s.connectCamera p).work = s.work := by
  unfold connectCamera
  split <;> rfl

/-- A command that is to do nothing at once. -/
theorem deed?_of_command (hdownload : ∀ value, c.deed? ≠ some (.download value))
    (habort : c.deed? ≠ some .aborted) : s.deed? (.command c) = none := by
  simp only [deed?]
  split
  · rename_i value _ hdeed _
    exact absurd hdeed (hdownload value)
  · rename_i hdeed _
    exact absurd hdeed habort
  · rfl

/-- **`downloadAfterExposure(value)`.** -/
theorem work_of_download {value : Bool} (hdeed : c.deed? = some (.download value)) {o : Nat}
    {f : CameraFunction} (hactive : s.activeFunction = some o) (hf : s.functions[o]? = some f) :
    work { s with functions := s.functions.set o { f with downloadAfterExposure := value } } =
      s.work.performed (s.deed? (.command c)) := by
  have hdone : s.deed? (.command c) = some (.download value) := by
    simp only [deed?, hdeed, (active_eq hactive).trans hf]
  rw [hdone, Work.performed, Option.elim_some, Work.perform,
    Work.update_of_active (w := s.work) hactive hf]
  rfl

/-- **`abort()`.** -/
theorem work_of_stop (hdeed : c.deed? = some .aborted) {o : Nat} {f : CameraFunction}
    (hactive : s.activeFunction = some o) (hf : s.functions[o]? = some f)
    (h : (if f.started then some { s with functions := s.functions.set o f.abort } else some s) =
      some s') : s'.work = s.work.performed (s.deed? (.command c)) := by
  have hdone : s.deed? (.command c) = if f.started && !f.finished then some .aborted else none := by
    simp only [deed?, hdeed, (active_eq hactive).trans hf]
  rw [hdone]
  by_cases hstarted : f.started = true
  · rw [if_pos hstarted] at h
    cases h
    unfold CameraFunction.abort
    by_cases hrunning : (f.started && !f.finished) = true
    · rw [if_pos hrunning, if_pos hrunning, Work.performed, Option.elim_some, Work.perform,
        Work.update_of_active (w := s.work) hactive hf]
      rfl
    · rw [if_neg hrunning, if_neg hrunning, set_of_some hf]
      rfl
  · rw [if_neg hstarted] at h
    cases h
    rw [if_neg (by simp [hstarted])]
    rfl

/-- **What a command does at once** is its deed. -/
theorem work_of_command (h : s.onCommandReceived c = some s') :
    s'.work = s.work.performed (s.deed? (.command c)) := by
  have hnothing {c : Command} (hdeed : ∀ d, c.deed? = some d → d = .tested ∨ d = .started ∨
      ∃ cfg, d = .created cfg) : s.work.performed (s.deed? (.command c)) = s.work := by
    rw [deed?_of_command]
    · rfl
    · intro value hc
      simpa using hdeed _ hc
    · intro hc
      simpa using hdeed _ hc
  unfold onCommandReceived at h
  split at h
  case h_1 c _ _ hid | h_2 c _ _ hid | h_12 c _ _ hid | h_13 c _ _ hid | h_14 c _ _ hid =>
    cases h
    have hdeed : c.deed? = none := by simp only [Command.deed?, hid]
    exact (hnothing (by simp [hdeed])).symm
  case h_3 _ _ _ _ hid | h_5 _ _ _ _ _ hid =>
    rw [hnothing (by simp [Command.deed?, hid])]
    exact work_of_setup h
  case h_4 | h_6 | h_8 => cases h
  case h_7 id download hid =>
    have hdeed : Command.deed? (.downloadAfterExposure id download) =
        some (.download download) := by
      simp only [Command.deed?, hid]
    refine active_cases (P := fun t => t.work = _) h ?_ ?_
    · intro hactive
      simp only [deed?, hdeed, active, hactive]
      rfl
    · intro o f hactive hf h
      cases h
      exact work_of_download hdeed hactive hf
  case h_9 c _ _ hid =>
    rw [hnothing (by simp [Command.deed?, hid])]
    refine active_cases (P := fun t => t.work = _) h (fun _ => rfl) fun o f _ _ h => ?_
    split at h <;> cases h
    · rfl
    · exact work_connectCamera _
  case h_10 c _ _ hid =>
    rw [hnothing (by simp [Command.deed?, hid])]
    refine active_cases (P := fun t => t.work = _) h (fun _ => rfl) fun o f _ _ h => ?_
    split at h <;> cases h
    · rfl
    · exact work_connectCamera _
  case h_11 c _ _ hid =>
    have hdeed : c.deed? = some .aborted := by simp only [Command.deed?, hid]
    refine active_cases (P := fun t => t.work = _) h ?_ ?_
    · intro hactive
      simp only [deed?, hdeed, active, hactive]
      rfl
    · intro o f hactive hf h
      exact work_of_stop hdeed hactive hf h

/-! ## Steps of the handler -/

/-- Nothing is to be done in the steps that concern the camera only. -/
theorem deed?_of_camera {w : CameraWrapper} {next : HandlerPc} {ans : Answer}
    (hstep : cameraStep s.camera s.handler ans = some (w, next)) :
    s.deed? (.handler ans) = none := by
  obtain ⟨-, -, -, hcreate⟩ := cameraStep_spec hstep
  cases hh : s.handler with
  | setupCreate cfg => exact absurd hh (hcreate cfg)
  | setupDelete cfg =>
    rw [hh] at hstep
    cases ans <;> cases hstep
  | connected p =>
    cases p with
    | reconnect => simp only [deed?, hh]
    | start o | test o =>
      rw [hh] at hstep
      cases ans <;> cases hstep
  | _ => simp only [deed?, hh]

/-- **What a step of the handler does** is its deed, when the function it starts or tests is
the active one. -/
theorem work_of_handler {ans : Answer} (h : s.Change (.handler ans) s')
    (haim : ∀ o, s.handler.purpose? = some (.start o) ∨ s.handler.purpose? = some (.test o) →
      s.activeFunction = some o) :
    s'.work = s.work.performed (s.deed? (.handler ans)) := by
  cases h with
  | camera _ hstep =>
    rw [deed?_of_camera hstep]
    rfl
  | @started _ o f hhandler hf =>
    have hactive : s.work.activeFunction = some o := haim o (Or.inl (by rw [hhandler]; rfl))
    simp only [deed?, hhandler, Work.performed, Option.elim_some, Work.perform]
    rw [Work.update_of_active hactive hf]
    have hstarted := Work.spawn_of_active
      (w := { s.work with functions := s.functions.set o { f with started := true } }) hactive
      (.run 0 .loopTest)
    exact hstarted.symm
  | @tested _ o hhandler =>
    have hactive : s.work.activeFunction = some o := haim o (Or.inr (by rw [hhandler]; rfl))
    simp only [deed?, hhandler, Work.performed, Option.elim_some, Work.perform]
    rw [Work.spawn_of_active hactive]
    rfl
  | testOver _ hhandler =>
    simp only [deed?, hhandler]
    rfl
  | deleted _ hhandler hactive hf =>
    simp only [deed?, hhandler, Work.performed, Option.elim_some, Work.perform]
    rw [Work.update_of_active (w := s.work) hactive hf]
    rfl
  | created _ hhandler =>
    simp only [deed?, hhandler]
    rfl

end Controller
end CameraController
