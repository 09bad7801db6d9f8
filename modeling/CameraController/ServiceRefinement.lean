import CameraController.CaptureService
import CameraController.HandlerProgress
import CameraController.SingleCapture
import CameraController.StuckFunctions

/-! # The program refines the service

`refines_service`: whatever commands come and however the handler and the threads take
turns, what the clients see is a run of `CaptureService`.  The invariant behind it is
`Invariant` together with what the flag `testing` is (`TestFlags`). -/
namespace CameraController

open StateMachine

/-! ## Threads in a capture -/

section Any
variable {α : Type} {l : List α} {k : Nat} {a b : α}

theorem any_eq_eraseIdx (h : l[k]? = some a) (p : α → Bool) :
    l.any p = (p a || (l.eraseIdx k).any p) := by
  induction l generalizing k with
  | nil => cases h
  | cons x l ih =>
    cases k with
    | zero =>
      obtain rfl := Option.some.inj h
      rfl
    | succ k =>
      rw [List.any_cons, ih h, List.eraseIdx_cons_succ, List.any_cons, Bool.or_left_comm]

/-- What a replacement makes of a search. -/
theorem any_set (h : l[k]? = some a) (p : α → Bool) :
    (l.set k b).any p = (p b || (l.eraseIdx k).any p) := by
  rw [any_eq_eraseIdx (getElem?_set_self_of_some h), List.eraseIdx_set_eq]

/-- What is not found elsewhere. -/
theorem any_eraseIdx_of_none {p : α → Bool}
    (h : ∀ (j : Nat) (x : α), j ≠ k → l[j]? = some x → p x = false) :
    (l.eraseIdx k).any p = false := by
  rw [List.any_eq_false]
  intro x hx
  obtain ⟨j, hj, hget⟩ := List.mem_eraseIdx_iff_getElem?.mp hx
  simp [h j x hj hget]

end Any

/-! ## Commands -/

namespace Controller

variable {s s' : Controller}

/-- What a command comes to. -/
inductive Effect (s : Controller) (c : Command) : Controller → Prop
  /-- The handler has something to do, or nothing. -/
  | handled {h : HandlerPc} (hnone : s.serviceActions (.command c) = [])
      (hquiet : h.exclusive = true → ∀ f, s.active = some f → f.testing = false)
      (haim : ∀ o, h.purpose? = some (.test o) → s.activeFunction = some o)
      (hawait : ∀ k, h ≠ .awaitTest k) : Effect s c { s with handler := h }
  | stopped {o : Nat} {f : CameraFunction} (hnone : s.serviceActions (.command c) = [])
      (hf : s.functions[o]? = some f) :
      Effect s c { s with functions := s.functions.set o f.abort }
  | download {o : Nat} {f : CameraFunction} {value : Bool}
      (hsome : s.serviceActions (.command c) = [.download value])
      (hactive : s.activeFunction = some o) (hf : s.functions[o]? = some f) :
      Effect s c { s with
        functions := s.functions.set o { f with downloadAfterExposure := value } }

theorem active_eq {o : Nat} (ho : s.activeFunction = some o) : s.active = s.functions[o]? := by
  simp [active, ho]

/-- The active function, when an object has been replaced. -/
theorem active_set {o : Nat} {f g : CameraFunction} (hf : s.functions[o]? = some f) :
    active { s with functions := s.functions.set o g } =
      if s.activeFunction = some o then some g else s.active := by
  cases hactive : s.activeFunction with
  | none => simp [active, hactive]
  | some i =>
    simp only [active, hactive, Option.bind_eq_bind, Option.bind_some, getElem?_set_of_some hf,
      Option.some.injEq, eq_comm (a := i)]

/-- A command that leaves everything as it is. -/
theorem Effect.ignored {c : Command} (hidle : s.handler = .idle)
    (hnone : s.serviceActions (.command c) = []) : Effect s c s := by
  have hsame : { s with handler := HandlerPc.idle } = s := by rw [← hidle]
  have h : Effect s c { s with handler := .idle } :=
    .handled hnone (by simp [HandlerPc.exclusive, HandlerPc.purpose?])
      (by simp [HandlerPc.purpose?]) (by simp)
  rwa [hsame] at h

theorem setup_effect {c : Command} {cfg : Setup} (hidle : s.handler = .idle)
    (hnone : s.serviceActions (.command c) = []) (h : s.setup cfg = some s') :
    Effect s c s' := by
  unfold setup at h
  split at h
  case h_1 hactive =>
    cases h
    exact .handled hnone (by simp [active, hactive]) (by simp [HandlerPc.purpose?]) (by simp)
  case h_2 o hactive =>
    obtain ⟨f, hf, h⟩ := Option.bind_eq_some_iff.mp h
    have hrest : f.isOperating = false → ∀ g, s.active = some g → g.testing = false := by
      intro hrest g hg
      rw [active_eq hactive, hf] at hg
      obtain rfl := Option.some.inj hg
      simp_all [CameraFunction.isOperating]
    cases hop : f.isOperating <;> simp only [hop, if_true, Bool.false_eq_true, if_false] at h <;>
      cases h
    · exact .handled hnone (fun _ => hrest hop) (by simp [HandlerPc.purpose?]) (by simp)
    · exact .ignored hidle hnone

/-- `connectCamera()` for the active function, which is not testing. -/
theorem connectCamera_effect {c : Command} (hnone : s.serviceActions (.command c) = []) {o : Nat}
    {f : CameraFunction} {p : Purpose} (hactive : s.activeFunction = some o)
    (hf : s.functions[o]? = some f) (hp : p = .start o ∨ p = .test o)
    (hquiet : f.testing = false) : Effect s c (s.connectCamera p) := by
  have hquiet' : ∀ g, s.active = some g → g.testing = false := by
    intro g hg
    rw [active_eq hactive, hf] at hg
    exact Option.some.inj hg ▸ hquiet
  have haim : ∀ o', p = .test o' → s.activeFunction = some o' := by
    rintro o' rfl
    rcases hp with hp | hp
    · cases hp
    · exact Purpose.test.inj hp ▸ hactive
  obtain ⟨h, heq, hh⟩ := s.connectCamera_eq p
  rw [heq]
  rcases hh with rfl | rfl | ⟨rfl, -⟩
  · exact .handled hnone (fun _ => hquiet') (by simp [HandlerPc.purpose?]) (by simp)
  · exact .handled hnone (fun _ => hquiet') (by simpa [HandlerPc.purpose?] using haim) (by simp)
  · exact .handled hnone (fun _ => hquiet') (by simpa [HandlerPc.purpose?] using haim) (by simp)

/-- A branch that needs the active function: there is none, or something is done to it. -/
theorem active_cases {P : Controller → Prop} {act : Nat → CameraFunction → Option Controller}
    (h : (match s.activeFunction with
      | none => some s
      | some o => do
        let f ← s.functions[o]?
        act o f) = some s')
    (hnone : s.activeFunction = none → P s)
    (hact : ∀ o f, s.activeFunction = some o → s.functions[o]? = some f →
      act o f = some s' → P s') : P s' := by
  split at h
  case h_1 hactive =>
    cases h
    exact hnone hactive
  case h_2 o hactive =>
    obtain ⟨f, hf, h⟩ := Option.bind_eq_some_iff.mp h
    exact hact o f hactive hf h

/-- **What a command comes to.** -/
theorem onCommandReceived_effect {c : Command} (hidle : s.handler = .idle)
    (h : s.onCommandReceived c = some s') : Effect s c s' := by
  unfold onCommandReceived at h
  split at h
  case h_1 hid =>
    cases h
    refine .handled (by simp only [serviceActions, hid]) ?_ ?_ ?_ <;> split <;>
      simp [HandlerPc.exclusive, HandlerPc.purpose?]
  case h_2 hid =>
    cases h
    exact .handled (by simp only [serviceActions, hid])
      (by simp [HandlerPc.exclusive, HandlerPc.purpose?]) (by simp [HandlerPc.purpose?]) (by simp)
  case h_3 hid | h_5 hid => exact setup_effect hidle (by simp only [serviceActions, hid]) h
  case h_4 | h_6 | h_8 => cases h
  case h_7 hid =>
    refine active_cases h
      (fun hactive => .ignored hidle (by simp only [serviceActions, hid, hactive]))
      fun o f hactive hf h => ?_
    cases h
    exact .download (by simp only [serviceActions, hid, hactive]) hactive hf
  case h_9 hid =>
    refine active_cases h (fun _ => .ignored hidle (by simp only [serviceActions, hid]))
      fun o f hactive hf h => ?_
    split at h <;> cases h
    case isTrue => exact .ignored hidle (by simp only [serviceActions, hid])
    case isFalse hrest =>
      exact connectCamera_effect (by simp only [serviceActions, hid]) hactive hf (Or.inr rfl)
        (by simp_all [CameraFunction.isOperating])
  case h_10 hid =>
    refine active_cases h (fun _ => .ignored hidle (by simp only [serviceActions, hid]))
      fun o f hactive hf h => ?_
    split at h <;> cases h
    case isTrue => exact .ignored hidle (by simp only [serviceActions, hid])
    case isFalse hrest =>
      exact connectCamera_effect (by simp only [serviceActions, hid]) hactive hf (Or.inl rfl)
        (by simp_all)
  case h_11 hid =>
    refine active_cases h (fun _ => .ignored hidle (by simp only [serviceActions, hid]))
      fun o f hactive hf h => ?_
    split at h <;> cases h
    case isTrue => exact .stopped (by simp only [serviceActions, hid]) hf
    case isFalse => exact .ignored hidle (by simp only [serviceActions, hid])
  case h_12 hid | h_13 hid | h_14 hid =>
    cases h
    exact .ignored hidle (by simp only [serviceActions, hid])

end Controller

/-! ## The flag `testing` -/

/-- What the program keeps of the flag. -/
structure TestFlags (s : Controller) : Prop where
  /-- The handler is replacing, starting or about to test a function that is not testing. -/
  quiet : s.handler.exclusive = true → (∀ k, s.handler ≠ .awaitTest k) →
    ∀ f, s.active = some f → f.testing = false
  /-- It is the active function that is about to be tested, -/
  aimed : ∀ o, s.handler.purpose? = some (.test o) → s.activeFunction = some o
  /-- and that is tested. -/
  tested : ∀ (k : Nat) (t : Thread) (pc : TestPc), s.threads[k]? = some t → t.task = .test pc →
    pc ≠ .exited → s.activeFunction = some t.object
  /-- The flag is set as long as the thread is between setting and clearing it. -/
  flag : ∀ (k : Nat) (t : Thread) (pc : TestPc) (f : CameraFunction), s.threads[k]? = some t →
    t.task = .test pc → pc ≠ .exited → s.functions[t.object]? = some f → f.testing = pc.inTest

theorem init_testFlags : TestFlags {} where
  quiet _ _ _ h := by cases h
  aimed _ h := by cases h
  tested _ _ _ h := by cases h
  flag _ _ _ _ h := by cases h

namespace TestFlags

variable {s : Controller} (hs : TestFlags s)
include hs

/-- An object is touched, but not its flag `testing`. -/
theorem set_object {o : Nat} {f g : CameraFunction} (hf : s.functions[o]? = some f)
    (hg : g.testing = f.testing) : TestFlags { s with functions := s.functions.set o g } where
  quiet hex hawait y hy := by
    rw [Controller.active_set hf] at hy
    split at hy
    · obtain rfl := Option.some.inj hy
      rename_i hactive
      exact hg.trans (hs.quiet hex hawait f (by rw [Controller.active_eq hactive, hf]))
    · exact hs.quiet hex hawait y hy
  aimed := hs.aimed
  tested := hs.tested
  flag k t pc y ht htask hne hy := by
    obtain ⟨x, hx, hxy⟩ := exists_before hf (R := fun x y => y.testing = x.testing)
      (fun _ => rfl) hg hy
    exact hxy.trans (hs.flag k t pc x ht htask hne hx)

/-- The handler goes on, and awaits nothing. -/
theorem handle {h : HandlerPc}
    (hquiet : h.exclusive = true → ∀ f, s.active = some f → f.testing = false)
    (haim : ∀ o, h.purpose? = some (.test o) → s.activeFunction = some o) :
    TestFlags { s with handler := h } where
  quiet hex _ := hquiet hex
  aimed := haim
  tested := hs.tested
  flag := hs.flag

/-- **A command** keeps the flags. -/
theorem effect {c : Command} {s' : Controller} (h : Controller.Effect s c s') : TestFlags s' := by
  cases h with
  | handled _ hquiet haim => exact hs.handle hquiet haim
  | @stopped o f _ hf =>
    obtain ⟨b, hb⟩ := f.abort_eq
    exact hs.set_object hf (by rw [hb])
  | download _ _ hf => exact hs.set_object hf rfl

/-- **A step of the handler** keeps the flags. -/
theorem handler {ans : Answer} {s' : Controller} (hinv : Invariant s)
    (h : s.Change (.handler ans) s') : TestFlags s' := by
  cases h with
  | @camera _ w h hstep =>
    obtain ⟨hex, -, hawait, -⟩ := cameraStep_spec hstep
    obtain ⟨-, htest, -, -⟩ := cameraStep_handler hstep
    exact ⟨fun h' _ => hs.quiet (hex h') hawait, fun o ho => hs.aimed o (htest o ho), hs.tested,
      hs.flag⟩
  | @started _ o f hhandler hf =>
    have hset := hs.set_object (g := { f with started := true }) hf rfl
    have hno (k : Nat) (t : Thread) (pc : TestPc)
        (ht : (s.threads ++ [⟨o, .run 0 .loopTest⟩])[k]? = some t) (htask : t.task = .test pc) :
        s.threads[k]? = some t := by
      rcases getElem?_concat_eq_some_iff.mp ht with ht | ⟨-, rfl⟩
      · exact ht
      · cases htask
    exact ⟨by simp [HandlerPc.exclusive, HandlerPc.purpose?], by simp [HandlerPc.purpose?],
      fun k t pc ht htask => hset.tested k t pc (hno k t pc ht htask) htask,
      fun k t pc y ht htask => hset.flag k t pc y (hno k t pc ht htask) htask⟩
  | @tested _ o hhandler =>
    have hactive := hs.aimed o (by rw [hhandler]; rfl)
    have hquiet := hs.quiet (by rw [hhandler]; rfl) (by simp [hhandler])
    have hover := hinv.no_test (by simp [hhandler])
    refine ⟨fun _ hno => absurd rfl (hno _), by simp [HandlerPc.purpose?], ?_, ?_⟩
    · intro k t pc ht htask hne
      rcases getElem?_concat_eq_some_iff.mp ht with ht | ⟨-, rfl⟩
      · exact absurd (hover k t pc ht htask) hne
      · exact hactive
    · intro k t pc f ht htask hne hf
      rcases getElem?_concat_eq_some_iff.mp ht with ht | ⟨-, rfl⟩
      · exact absurd (hover k t pc ht htask) hne
      · obtain rfl := Task.test.inj htask
        exact hquiet f (by rw [Controller.active_eq hactive]; exact hf)
  | testOver =>
    exact hs.handle (by simp [HandlerPc.exclusive, HandlerPc.purpose?])
      (by simp [HandlerPc.purpose?])
  | @deleted _ cfg o f hhandler hactive hf =>
    have hset := hs.set_object (g := { f with deleted := true }) hf rfl
    refine hset.handle (fun _ => hset.quiet ?_ ?_) (by simp [HandlerPc.purpose?])
    · simp [hhandler, HandlerPc.exclusive]
    · simp [hhandler]
  | @created _ cfg hhandler =>
    have hover := hinv.no_test (by simp [hhandler])
    exact ⟨by simp [HandlerPc.exclusive, HandlerPc.purpose?], by simp [HandlerPc.purpose?],
      fun k t pc ht htask hne => absurd (hover k t pc ht htask) hne,
      fun k t pc _ ht htask hne => absurd (hover k t pc ht htask) hne⟩

/-- **A step of a thread** keeps the flags. -/
theorem thread {k : Nat} {ans : Answer} {s' : Controller} (hinv : Invariant s)
    (h : s.Change (.thread k ans) s') : TestFlags s' := by
  cases h with
  | crashed => exact ⟨hs.quiet, hs.aimed, hs.tested, hs.flag⟩
  | @ran _ _ t f g shots shots' pc pc' ht htask hf hstep =>
    have hset := hs.set_object hf (RunPc.step_spec hstep).2.1
    have hold (j : Nat) (u : Thread) (p : TestPc)
        (hu : (s.threads.set k { t with task := .run shots' pc' })[j]? = some u)
        (hutask : u.task = .test p) : s.threads[j]? = some u := by
      rcases (getElem?_set_eq_some_iff ht).mp hu with ⟨-, rfl⟩ | ⟨-, hu⟩
      · cases hutask
      · exact hu
    exact ⟨hset.quiet, hset.aimed,
      fun j u p hu htask => hset.tested j u p (hold j u p hu htask) htask,
      fun j u p y hu htask => hset.flag j u p y (hold j u p hu htask) htask⟩
  | @testRan _ _ t f g pc pc' ht htask hf hstep =>
    have hne := (TestPc.step_spec hstep).2.2
    have hawait := hinv.awaited k t pc ht htask hne
    have hobject := hs.tested k t pc ht htask hne
    have hflag := hs.flag k t pc f ht htask hne hf
    -- no other test capture is under way
    have honly (j : Nat) (u : Thread) (p : TestPc)
        (hu : (s.threads.set k { t with task := .test pc' })[j]? = some u)
        (hutask : u.task = .test p) (hp : p ≠ .exited) : u = { t with task := .test pc' } := by
      rcases (getElem?_set_eq_some_iff ht).mp hu with ⟨-, rfl⟩ | ⟨hjk, hu⟩
      · rfl
      · have hsame := hawait.symm.trans (hinv.awaited j u p hu hutask hp)
        exact absurd (HandlerPc.awaitTest.inj hsame) hjk
    refine ⟨fun _ hno => absurd hawait (hno k), hs.aimed, ?_, ?_⟩
    · intro j u p hu hutask hp
      rw [honly j u p hu hutask hp]
      exact hobject
    · intro j u p y hu hutask hp hy
      obtain rfl := honly j u p hu hutask hp
      obtain rfl := Task.test.inj hutask
      rw [getElem?_set_self_of_some hf] at hy
      obtain rfl := Option.some.inj hy
      cases TestPc.step_moves hstep with
      | begins => rfl
      | enters | captures | returns => exact hflag
      | throws | finishes => exact absurd rfl hp

/-- **Every step** keeps the flags. -/
theorem step {a : Action} {s' : Controller} (hinv : Invariant s) (h : s.step a = some s') :
    TestFlags s' := by
  have hchange := Controller.step_change h
  cases a with
  | command c =>
    obtain ⟨-, hstep⟩ := Option.ite_none_left_eq_some.mp h
    obtain ⟨hidle, hstep⟩ := Option.ite_none_right_eq_some.mp hstep
    exact hs.effect (Controller.onCommandReceived_effect hidle hstep)
  | handler ans => exact hs.handler hinv hchange
  | thread k ans => exact hs.thread hinv hchange

end TestFlags
/-! ## Each step is a step of the service, or none -/

namespace Controller

variable {s s' : Controller}

theorem service_eq {f : CameraFunction} (h : s.active = some f) :
    s.service = ⟨some (f.setup, f.phase), f.testing, s.capturing⟩ := by
  simp [service, h]

/-- Objects of which the clients see nothing new. -/
theorem service_set {o : Nat} {f g : CameraFunction} (hf : s.functions[o]? = some f)
    (hsetup : g.setup = f.setup) (hphase : g.phase = f.phase) (htesting : g.testing = f.testing) :
    service { s with functions := s.functions.set o g } = s.service := by
  have hcapturing : capturing { s with functions := s.functions.set o g } = s.capturing := rfl
  by_cases hactive : s.activeFunction = some o
  · have hbefore : s.active = some f := by rw [active_eq hactive, hf]
    rw [service_eq hbefore, service_eq ((active_set hf).trans (if_pos hactive)), hsetup, hphase,
      htesting, hcapturing]
  · simp only [service, active_set hf, if_neg hactive, hcapturing]

/-- **Commands.** -/
theorem service_command {c : Command} (h : Effect s c s') :
    run CaptureService.step s.service (s.serviceActions (.command c)) = some s'.service := by
  cases h with
  | handled hnone =>
    rw [hnone]
    rfl
  | @stopped o f hnone hf =>
    obtain ⟨b, hb⟩ := f.abort_eq
    rw [hnone, service_set hf (by rw [hb]; rfl) (by rw [hb]; rfl) (by rw [hb])]
    rfl
  | @download o f value hsome hactive hf =>
    have hbefore : s.active = some f := by rw [active_eq hactive, hf]
    rw [hsome, service_eq hbefore, service_eq ((active_set hf).trans (if_pos hactive))]
    rfl

/-- **The handler.** -/
theorem service_handler (hinv : Invariant s) (hflags : TestFlags s) {ans : Answer}
    (h : s.Change (.handler ans) s') :
    run CaptureService.step s.service (s.serviceActions (.handler ans)) = some s'.service := by
  cases h with
  | @camera _ w h hstep =>
    obtain ⟨-, -, -, hcreate⟩ := cameraStep_spec hstep
    have hnone : s.serviceActions (.handler ans) = [] := by
      cases hh : s.handler with
      | setupCreate c => exact absurd hh (hcreate c)
      | connected p =>
        cases p with
        | start o =>
          rw [hh] at hstep
          cases ans <;> cases hstep
        | _ => simp only [serviceActions, hh]
      | _ => simp only [serviceActions, hh]
    rw [hnone]
    rfl
  | @started _ o f hhandler hf =>
    obtain ⟨hactive, hunstarted⟩ := hinv.starting o (by rw [hhandler]; rfl)
    have hbefore : s.active = some f := by rw [active_eq hactive, hf]
    have hquiet := hflags.quiet (by rw [hhandler]; rfl) (by simp [hhandler]) f hbefore
    have hstarted := hunstarted f hf
    have hfinished := hinv.unfinished hf hstarted
    have hafter : service { s with
        functions := s.functions.set o { f with started := true }
        threads := s.threads ++ [⟨o, .run 0 .loopTest⟩]
        handler := .idle } = ⟨some (f.setup, .running), false, s.capturing⟩ := by
      refine (service_eq (f := { f with started := true }) ?_).trans ?_
      · simp [active, hactive, getElem?_set_self_of_some hf]
      · simp [CameraFunction.setup, CameraFunction.phase, hfinished, hquiet, capturing,
          Task.inCapture]
    rw [hafter, service_eq hbefore, serviceActions, hhandler]
    simp [run, CaptureService.step, CameraFunction.phase, hfinished, hstarted, hquiet]
  | @tested _ o hhandler =>
    have hcapturing : service { s with
        threads := s.threads ++ [⟨o, .test .begin⟩], handler := .awaitTest s.threads.length } =
          s.service := by
      simp only [service, capturing, List.any_append, List.any_cons, List.any_nil, Task.inCapture,
        Bool.or_false]
      rfl
    rw [hcapturing, serviceActions, hhandler]
    rfl
  | testOver _ hhandler =>
    simp only [serviceActions, hhandler]
    rfl
  | @deleted _ cfg o f hhandler _ hf =>
    have hsame := service_set (g := { f with deleted := true }) hf rfl rfl rfl
    rw [← hsame, serviceActions, hhandler]
    rfl
  | @created _ cfg hhandler =>
    have hquiet := hflags.quiet (by rw [hhandler]; rfl) (by simp [hhandler])
    have hrest := hinv.resting (by rw [hhandler]; rfl)
    have hafter : service { s with
        functions := s.functions ++ [.new cfg]
        activeFunction := some s.functions.length
        handler := .idle } = ⟨some (cfg, .configured), false, s.capturing⟩ :=
      service_eq (f := .new cfg) (by simp [active])
    -- the function replaced, if there is one, is at rest
    have hphase : ∀ f, s.active = some f → f.phase ≠ .running := by
      intro f hf
      obtain ⟨o, -, ho⟩ := Option.bind_eq_some_iff.mp hf
      have hfinished := hrest o f ho
      unfold CameraFunction.phase
      split
      · simp
      · split <;> simp_all
    rw [hafter, serviceActions, hhandler]
    cases hactive : s.active with
    | none => simp [run, CaptureService.step, service, hactive]
    | some f =>
      have hne := hphase f hactive
      simp only [service_eq hactive, hquiet f hactive]
      cases hf : f.phase <;> simp_all [run, CaptureService.step]

/-! ### Threads -/

/-- While a thread is in `run()`, no other is in a capture. -/
theorem others_of_run (hinv : Invariant s) {k : Nat} {t : Thread} {n : Nat} {pc : RunPc}
    (ht : s.threads[k]? = some t) (htask : t.task = .run n pc) (hin : pc.inRun = true)
    (j : Nat) (u : Thread) (hjk : j ≠ k) (hu : s.threads[j]? = some u) :
    u.task.inCapture = false := by
  by_contra hcapture
  obtain ⟨hactive, hex⟩ := hinv.of_inRun ht htask hin
  rcases hinv.of_inCapture hu (by simpa using hcapture) with ⟨hruns, hactive', -⟩ | hawait
  · have hobject : u.object = t.object := Option.some.inj (hactive'.symm.trans hactive)
    exact hjk (hinv.run_unique hu ht hruns ⟨hobject.symm, n, pc, htask⟩)
  · rw [hawait] at hex
    cases hex

/-- While a test capture is under way, no other thread is in a capture. -/
theorem others_of_test (hinv : Invariant s) {k : Nat} {t : Thread} {pc : TestPc}
    (ht : s.threads[k]? = some t) (htask : t.task = .test pc) (hne : pc ≠ .exited)
    (j : Nat) (u : Thread) (hjk : j ≠ k) (hu : s.threads[j]? = some u) :
    u.task.inCapture = false := by
  by_contra hcapture
  have hawait := hinv.awaited k t pc ht htask hne
  rcases hinv.of_inCapture hu (by simpa using hcapture) with ⟨-, -, hex⟩ | hawait'
  · rw [hawait] at hex
    cases hex
  · exact hjk (HandlerPc.awaitTest.inj (hawait'.symm.trans hawait))

/-- The one thread that may be in a capture goes on. -/
theorem capturing_set {k : Nat} {t : Thread} (ht : s.threads[k]? = some t)
    (hother : ∀ (j : Nat) (u : Thread), j ≠ k → s.threads[j]? = some u → u.task.inCapture = false)
    (task : Task) :
    s.capturing = t.task.inCapture ∧
      (s.threads.set k { t with task }).any (fun t => t.task.inCapture) = task.inCapture := by
  have hnone := any_eraseIdx_of_none (p := fun t : Thread => t.task.inCapture) hother
  refine ⟨?_, ?_⟩
  · rw [capturing, any_eq_eraseIdx ht, hnone, Bool.or_false]
  · rw [any_set ht, hnone, Bool.or_false]

/-- What a thread leaves of the program: its object, and where it stands itself. -/
theorem service_thread {k : Nat} {t : Thread} {f : CameraFunction}
    (ht : s.threads[k]? = some t) (hf : s.functions[t.object]? = some f)
    (hactive : s.activeFunction = some t.object)
    (hother : ∀ (j : Nat) (u : Thread), j ≠ k → s.threads[j]? = some u →
      u.task.inCapture = false) (g : CameraFunction) (task : Task) :
    s.service = ⟨some (f.setup, f.phase), f.testing, t.task.inCapture⟩ ∧
      service { s with
        functions := s.functions.set t.object g
        threads := s.threads.set k { t with task } } =
          ⟨some (g.setup, g.phase), g.testing, task.inCapture⟩ := by
  obtain ⟨hbefore, hafter⟩ := capturing_set ht hother task
  refine ⟨?_, ?_⟩
  · rw [service_eq ((active_eq hactive).trans hf), hbefore]
  · refine (service_eq (f := g) ?_).trans ?_
    · simp [active, hactive, getElem?_set_self_of_some hf]
    · rw [← hafter]
      rfl

/-- **A thread in `run()`.** -/
theorem service_ran (hinv : Invariant s) {k : Nat} {ans : Answer} {t : Thread}
    {f g : CameraFunction} {shots shots' : Nat} {pc pc' : RunPc} (ht : s.threads[k]? = some t)
    (htask : t.task = .run shots pc) (hf : s.functions[t.object]? = some f)
    (hstep : pc.step f shots ans = some (.moved g shots' pc')) :
    run CaptureService.step s.service (s.serviceActions (.thread k ans)) = some (service { s with
      functions := s.functions.set t.object g
      threads := s.threads.set k { t with task := .run shots' pc' } }) := by
  obtain ⟨o, task⟩ := t
  obtain rfl : task = .run shots pc := htask
  have hmoves := RunPc.step_moves hstep
  by_cases hin : pc.inRun = true
  · obtain ⟨hactive, -⟩ := hinv.of_inRun ht rfl hin
    obtain ⟨f', hf', hstarted, hunfinished⟩ := hinv.running k _ shots pc ht rfl
    obtain rfl := Option.some.inj (hf.symm.trans hf')
    rw [hin] at hunfinished
    obtain ⟨hbefore, hafter⟩ := service_thread ht hf hactive (others_of_run hinv ht rfl hin) g
      (.run shots' pc')
    rw [hafter, hbefore]
    have hphase : f.phase = .running := by simp [CameraFunction.phase, hstarted, hunfinished]
    cases hmoves with
    | goesOn | leaves =>
      simp [serviceActions, ht, run, Task.inCapture]
    | enters =>
      simp [serviceActions, ht, run, Task.inCapture, beginsCapture, hf, CaptureService.step, hphase,
        CameraFunction.setup]
    | captures h | captured h | fails h =>
      simp [serviceActions, ht, run, Task.inCapture, h, CaptureService.step]
    | registers =>
      cases hid : f.id <;>
        simp [serviceActions, ht, run, Task.inCapture, CameraFunction.setup, CameraFunction.phase,
          hid]
    | waits => cases f.abortCond <;> simp [serviceActions, ht, run, Task.inCapture]
    | wakes timeout => cases timeout <;> simp [serviceActions, ht, run, Task.inCapture]
    | finishes =>
      rw [hphase]
      simp [serviceActions, ht, run, Task.inCapture, CaptureService.step, CameraFunction.setup,
        CameraFunction.phase]
    | exits => cases hin
  · -- what is left of `run()` behind `finished` changes nothing
    cases hmoves with
    | exits =>
      obtain ⟨hlt, hget⟩ := List.getElem?_eq_some_iff.mp hf
      have hsame : s.functions.set o f = s.functions := by rw [← hget, List.set_getElem_self]
      have hcapturing : (s.threads.set k ⟨o, .run shots .exited⟩).any (fun t => t.task.inCapture) =
          s.capturing := by
        rw [capturing, any_set ht, any_eq_eraseIdx ht]
        rfl
      have hafter : service { s with
          functions := s.functions.set o f
          threads := s.threads.set k ⟨o, .run shots .exited⟩ } = s.service := by
        simp only [hsame, service, capturing, hcapturing]
        rfl
      rw [hafter]
      simp [serviceActions, ht, run]
    | _ => exact absurd rfl hin

/-- **A thread in `doTestCapture()`.** -/
theorem service_testRan (hinv : Invariant s) (hflags : TestFlags s) {k : Nat} {ans : Answer}
    {t : Thread} {f g : CameraFunction} {pc pc' : TestPc} (ht : s.threads[k]? = some t)
    (htask : t.task = .test pc) (hf : s.functions[t.object]? = some f)
    (hstep : pc.step f ans = some (g, pc')) :
    run CaptureService.step s.service (s.serviceActions (.thread k ans)) = some (service { s with
      functions := s.functions.set t.object g
      threads := s.threads.set k { t with task := .test pc' } }) := by
  obtain ⟨o, task⟩ := t
  obtain rfl : task = .test pc := htask
  have hne := (TestPc.step_spec hstep).2.2
  have hactive := hflags.tested k _ pc ht rfl hne
  have hflag := hflags.flag k _ pc f ht rfl hne hf
  have hawait := hinv.awaited k _ pc ht rfl hne
  have hrest := hinv.resting (by rw [hawait]; rfl) _ f hf
  have hphase : f.phase ≠ .running := by
    unfold CameraFunction.phase
    split
    · simp
    · split <;> simp_all
  obtain ⟨hbefore, hafter⟩ := service_thread ht hf hactive (others_of_test hinv ht rfl hne) g
    (.test pc')
  rw [hafter, hbefore]
  cases TestPc.step_moves hstep with
  | begins =>
    have hquiet : f.testing = false := hflag
    cases hp : f.phase <;> simp_all [serviceActions, run, Task.inCapture, CaptureService.step,
      CameraFunction.setup, CameraFunction.phase]
  | enters =>
    have htesting : f.testing = true := hflag
    simp [serviceActions, ht, run, Task.inCapture, beginsCapture, hf, CaptureService.step, htesting,
      CameraFunction.setup]
  | captures h | returns h | throws h =>
    simp [serviceActions, ht, run, Task.inCapture, h, CaptureService.step]
  | finishes =>
    have htesting : f.testing = true := hflag
    simp [serviceActions, ht, run, Task.inCapture, CaptureService.step, htesting,
      CameraFunction.setup, CameraFunction.phase]

/-- **Every step of the program** is a step of the service, or none. -/
theorem service_step (hinv : Invariant s) (hflags : TestFlags s) {a : Action}
    (h : s.step a = some s') :
    run CaptureService.step s.service (s.serviceActions a) = some s'.service := by
  cases a with
  | command c =>
    obtain ⟨-, hstep⟩ := Option.ite_none_left_eq_some.mp h
    obtain ⟨hidle, hstep⟩ := Option.ite_none_right_eq_some.mp hstep
    exact service_command (onCommandReceived_effect hidle hstep)
  | handler ans => exact service_handler hinv hflags (step_change h)
  | thread k ans =>
    obtain ⟨-, hstep⟩ := Option.ite_none_left_eq_some.mp h
    obtain ⟨⟨o, task⟩, ht, hstep⟩ := Option.bind_eq_some_iff.mp hstep
    obtain ⟨f, hf, hstep⟩ := Option.bind_eq_some_iff.mp hstep
    cases task with
    | run shots pc =>
      obtain ⟨r, hr, hstep⟩ := Option.bind_eq_some_iff.mp hstep
      cases r with
      | moved g shots' pc' =>
        cases hstep
        exact service_ran hinv ht rfl hf hr
      | terminated =>
        cases hstep
        obtain ⟨c, download, rfl, hthrown⟩ := RunPc.step_terminated hr
        simp only [serviceActions, ht, hthrown]
        rfl
    | test pc =>
      obtain ⟨⟨g, pc'⟩, hr, hstep⟩ := Option.bind_eq_some_iff.mp hstep
      cases hstep
      exact service_testRan hinv hflags ht rfl hf hr

end Controller

/-- **The program refines the service**: in every run, what its steps are to the clients is a
run of `CaptureService`, which ends where the program is seen to end. -/
theorem refines_service {as : List Action} {s : Controller} {actions : List ServiceAction}
    (h : run (recording Controller.step Controller.serviceActions) ({}, []) as =
      some (s, actions)) : run CaptureService.step {} actions = some s.service := by
  have hinit : (Invariant {} ∧ TestFlags {}) ∧
      run CaptureService.step {} [] = some (Controller.service {}) :=
    ⟨⟨invariant_init, init_testFlags⟩, rfl⟩
  refine (run_recording (P := fun s actions => (Invariant s ∧ TestFlags s) ∧
    run CaptureService.step {} actions = some s.service) ?_ hinit h).2
  intro s actions a t ⟨⟨hinv, hflags⟩, hrun⟩ hstep
  refine ⟨⟨hinv.step hstep, hflags.step hinv hstep⟩, ?_⟩
  rw [run_append, hrun]
  exact Controller.service_step hinv hflags hstep

/-- The sequencer is configured and started, and begins its first capture. -/
theorem refines_service_capture :
    run CaptureService.step {} [.configure ⟨.sequencer, 3, 0, 100, false⟩, .start,
      .beginCapture 100 false] =
        some ⟨some (⟨.sequencer, 3, 0, 100, false⟩, .running), false, true⟩ :=
  refines_service (show run _ _ startCapture = some _ from rfl)

end CameraController
