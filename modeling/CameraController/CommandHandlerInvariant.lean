import CameraController.CommandHandlerSteps

/-! # What the program keeps

An object that is operating is the active one and has one thread, and while the
handler deletes, creates, connects for a function or awaits a test capture, no
object is operating (`Invariant`).  Each kind of step has its own lemma; `step`
collects them. -/
namespace CameraController

/-! ## The invariant -/

/-- The program keeps this. -/
structure Invariant (s : Controller) : Prop where
  /-- The active function is there, and deleted only while it is being replaced. -/
  active : ∀ o, s.activeFunction = some o → ∃ f : CameraFunction, s.functions[o]? = some f ∧
    (f.deleted = true → ∃ c, s.handler = .setupCreate c)
  /-- An operating function is the active one. -/
  operating : ∀ (o : Nat) (f : CameraFunction), s.functions[o]? = some f → f.started = true →
    f.finished = false → s.activeFunction = some o
  /-- While the handler is busy with a function, none is operating. -/
  resting : s.handler.exclusive = true → ∀ (o : Nat) (f : CameraFunction),
    s.functions[o]? = some f → f.started = true → f.finished = true
  /-- A function about to be started is the active one and has not been started. -/
  starting : ∀ o, s.handler.purpose? = some (.start o) → s.activeFunction = some o ∧
    ∀ f : CameraFunction, s.functions[o]? = some f → f.started = false
  started_of_finished : ∀ (o : Nat) (f : CameraFunction), s.functions[o]? = some f →
    f.finished = true → f.started = true
  /-- A thread is in `run()` until it has set `finished`. -/
  running : ∀ (k : Nat) (t : Thread) shots pc, s.threads[k]? = some t → t.task = .run shots pc →
    ∃ f : CameraFunction, s.functions[t.object]? = some f ∧ f.started = true ∧
      f.finished = !pc.inRun
  /-- An object has one thread in its life that runs its `run()`. -/
  single : ∀ (k k' : Nat) (t t' : Thread) n n' pc pc', s.threads[k]? = some t →
    s.threads[k']? = some t' → t.task = .run n pc → t'.task = .run n' pc' →
    t.object = t'.object → k = k'
  /-- The handler awaits every test capture. -/
  awaited : ∀ (k : Nat) (t : Thread) pc, s.threads[k]? = some t → t.task = .test pc → pc ≠ .exited →
    s.handler = .awaitTest k

/-! ## Lists of objects and of threads -/

section Lists
variable {α : Type} {l : List α} {i : Nat} {a b : α} (ha : l[i]? = some a)
include ha

theorem getElem?_set_of_some (j : Nat) : (l.set i b)[j]? = if i = j then some b else l[j]? := by
  obtain ⟨hi, -⟩ := List.getElem?_eq_some_iff.mp ha
  rw [List.getElem?_set, if_pos hi]

theorem getElem?_set_self_of_some : (l.set i b)[i]? = some b := by
  rw [getElem?_set_of_some ha, if_pos rfl]

/-- What is in a list after a replacement is new or was there. -/
theorem getElem?_set_eq_some_iff {j : Nat} {y : α} :
    (l.set i b)[j]? = some y ↔ i = j ∧ y = b ∨ i ≠ j ∧ l[j]? = some y := by
  rw [getElem?_set_of_some ha]
  by_cases hij : i = j
  · simp [hij, eq_comm]
  · simp [hij]

/-- What is in a list after a replacement comes from what was there. -/
theorem exists_before {R : α → α → Prop} (hrefl : ∀ x, R x x) (hab : R a b) {j : Nat} {y : α}
    (hy : (l.set i b)[j]? = some y) : ∃ x, l[j]? = some x ∧ R x y := by
  rcases (getElem?_set_eq_some_iff ha).mp hy with ⟨rfl, rfl⟩ | ⟨-, hy⟩
  · exact ⟨a, ha, hab⟩
  · exact ⟨y, hy, hrefl y⟩

/-- What was in a list is still there after a replacement, perhaps replaced. -/
theorem exists_after {R : α → α → Prop} (hrefl : ∀ x, R x x) (hab : R a b) {j : Nat} {x : α}
    (hx : l[j]? = some x) : ∃ y, (l.set i b)[j]? = some y ∧ R x y := by
  by_cases hij : i = j
  · obtain rfl : a = x := Option.some.inj (ha.symm.trans (hij ▸ hx))
    exact ⟨b, (getElem?_set_eq_some_iff ha).mpr (Or.inl ⟨hij, rfl⟩), hab⟩
  · exact ⟨x, (getElem?_set_eq_some_iff ha).mpr (Or.inr ⟨hij, hx⟩), hrefl x⟩

end Lists

theorem getElem?_concat_eq_some_iff {α : Type} {l : List α} {a x : α} {j : Nat} :
    (l ++ [a])[j]? = some x ↔ l[j]? = some x ∨ j = l.length ∧ x = a := by
  rcases Nat.lt_trichotomy j l.length with hj | rfl | hj
  · rw [List.getElem?_append_left hj]
    simp [Nat.ne_of_lt hj]
  · simp [eq_comm]
  · rw [List.getElem?_eq_none (by simp; omega), List.getElem?_eq_none (Nat.le_of_lt hj)]
    simp [Nat.ne_of_gt hj]

namespace Invariant

variable {s : Controller} (hs : Invariant s)
include hs

/-! ## Steps that keep it -/

/-- **Objects touched, and left in their phase.** -/
theorem touch {o : Nat} {f g : CameraFunction} (hf : s.functions[o]? = some f) (hg : f.Touched g)
    (hfinished : g.finished = f.finished) :
    Invariant { s with functions := s.functions.set o g } := by
  have before {i : Nat} {y : CameraFunction} (hy : (s.functions.set o g)[i]? = some y) :
      ∃ x, s.functions[i]? = some x ∧ x.Touched y ∧ y.finished = x.finished :=
    exists_before hf (R := fun x y => x.Touched y ∧ y.finished = x.finished)
      (fun x => ⟨.refl x, rfl⟩) ⟨hg, hfinished⟩ hy
  have after {i : Nat} {x : CameraFunction} (hx : s.functions[i]? = some x) :
      ∃ y, (s.functions.set o g)[i]? = some y ∧ x.Touched y ∧ y.finished = x.finished :=
    exists_after hf (R := fun x y => x.Touched y ∧ y.finished = x.finished)
      (fun x => ⟨.refl x, rfl⟩) ⟨hg, hfinished⟩ hx
  refine ⟨?_, ?_, ?_, ?_, ?_, ?_, hs.single, hs.awaited⟩
  · intro i hi
    obtain ⟨x, hx, hdeleted⟩ := hs.active i hi
    obtain ⟨y, hy, htouched, -⟩ := after hx
    exact ⟨y, hy, fun h => hdeleted (htouched.deleted ▸ h)⟩
  · intro i y hy hstarted hunfinished
    obtain ⟨x, hx, htouched, hfin⟩ := before hy
    exact hs.operating i x hx (htouched.started ▸ hstarted) (hfin ▸ hunfinished)
  · intro hex i y hy hstarted
    obtain ⟨x, hx, htouched, hfin⟩ := before hy
    exact hfin ▸ hs.resting hex i x hx (htouched.started ▸ hstarted)
  · intro i hi
    obtain ⟨hactive, hunstarted⟩ := hs.starting i hi
    refine ⟨hactive, fun y hy => ?_⟩
    obtain ⟨x, hx, htouched, -⟩ := before hy
    exact htouched.started ▸ hunstarted x hx
  · intro i y hy hfinished'
    obtain ⟨x, hx, htouched, hfin⟩ := before hy
    exact htouched.started ▸ hs.started_of_finished i x hx (hfin ▸ hfinished')
  · intro k t shots pc ht htask
    obtain ⟨x, hx, hstarted, hphase⟩ := hs.running k t shots pc ht htask
    obtain ⟨y, hy, htouched, hfin⟩ := after hx
    exact ⟨y, hy, htouched.started ▸ hstarted, hfin ▸ hphase⟩

/-- **A step of a test capture.** -/
theorem retask {k : Nat} {t : Thread} {pc pc' : TestPc} (ht : s.threads[k]? = some t)
    (htask : t.task = .test pc) (hpc : pc ≠ .exited) :
    Invariant { s with threads := s.threads.set k { t with task := .test pc' } } := by
  have before {i : Nat} {u : Thread}
      (hu : (s.threads.set k { t with task := .test pc' })[i]? = some u) :
      (k = i ∧ u.task = .test pc') ∨ s.threads[i]? = some u := by
    rcases (getElem?_set_eq_some_iff ht).mp hu with ⟨hki, rfl⟩ | ⟨-, hu⟩
    · exact Or.inl ⟨hki, rfl⟩
    · exact Or.inr hu
  refine ⟨hs.active, hs.operating, hs.resting, hs.starting, hs.started_of_finished, ?_, ?_, ?_⟩
  · intro i u shots pc hu hrun
    rcases before hu with ⟨-, htest⟩ | hu
    · rw [htest] at hrun
      cases hrun
    · exact hs.running i u shots pc hu hrun
  · intro i i' u u' n n' pc pc' hu hu' hrun hrun' hobject
    rcases before hu with ⟨-, htest⟩ | hu
    · rw [htest] at hrun
      cases hrun
    rcases before hu' with ⟨-, htest⟩ | hu'
    · rw [htest] at hrun'
      cases hrun'
    exact hs.single i i' u u' n n' pc pc' hu hu' hrun hrun' hobject
  · intro i u pc hu htest hne
    rcases before hu with ⟨rfl, -⟩ | hu
    · exact hs.awaited k t _ ht htask hpc
    · exact hs.awaited i u pc hu htest hne

/-- **The handler goes on** when no test is going on and nothing is being replaced. -/
theorem goOn {w : CameraWrapper} {h : HandlerPc}
    (hover : ∀ (k : Nat) (t : Thread) pc, s.threads[k]? = some t → t.task = .test pc →
      pc = .exited)
    (hreplaced : ∀ c, s.handler ≠ .setupCreate c)
    (hrest : h.exclusive = true → ∀ (o : Nat) (f : CameraFunction), s.functions[o]? = some f →
      f.started = true → f.finished = true)
    (hstart : ∀ o, h.purpose? = some (.start o) → s.activeFunction = some o ∧
      ∀ f : CameraFunction, s.functions[o]? = some f → f.started = false) :
    Invariant { s with camera := w, handler := h } where
  active o ho := by
    obtain ⟨f, hf, hdeleted⟩ := hs.active o ho
    exact ⟨f, hf, fun hd => absurd (hdeleted hd).choose_spec (hreplaced _)⟩
  operating := hs.operating
  resting := hrest
  starting := hstart
  started_of_finished := hs.started_of_finished
  running := hs.running
  single := hs.single
  awaited k t pc ht htask hne := absurd (hover k t pc ht htask) hne

/-- Only while the handler awaits a test is there one going on. -/
theorem no_test (h : ∀ k, s.handler ≠ .awaitTest k) (k : Nat) (t : Thread) (pc : TestPc)
    (ht : s.threads[k]? = some t) (htask : t.task = .test pc) : pc = .exited := by
  by_contra hne
  exact h k (hs.awaited k t pc ht htask hne)

/-- If the active function is at rest, all are. -/
theorem rest_of_active {o : Nat} {f : CameraFunction} (hactive : s.activeFunction = some o)
    (hf : s.functions[o]? = some f) (hrest : f.started = true → f.finished = true) (i : Nat)
    (g : CameraFunction) (hg : s.functions[i]? = some g) (hstarted : g.started = true) :
    g.finished = true := by
  by_contra hunfinished
  have hi := hs.operating i g hg hstarted (by simpa using hunfinished)
  obtain rfl : o = i := Option.some.inj (hactive.symm.trans hi)
  obtain rfl : f = g := Option.some.inj (hf.symm.trans hg)
  exact hunfinished (hrest hstarted)

/-- What has not been started is not finished. -/
theorem unfinished {o : Nat} {f : CameraFunction} (hf : s.functions[o]? = some f)
    (hunstarted : f.started = false) : f.finished = false := by
  by_contra hfin
  have hstarted := hs.started_of_finished o f hf (by simpa using hfin)
  simp [hunstarted] at hstarted

/-- What has not been started has no thread in `run()`. -/
theorem ne_of_unstarted {o : Nat} {f : CameraFunction} (hf : s.functions[o]? = some f)
    (hunstarted : f.started = false) {k : Nat} {t : Thread} {n : Nat} {pc : RunPc}
    (ht : s.threads[k]? = some t) (htask : t.task = .run n pc) : o ≠ t.object := by
  rintro rfl
  obtain ⟨g, hg, hstarted, -⟩ := hs.running k t n pc ht htask
  obtain rfl : f = g := Option.some.inj (hf.symm.trans hg)
  simp [hunstarted] at hstarted

/-- The active function is only deleted when another is about to be made. -/
theorem active_alive {o : Nat} {f : CameraFunction} (hactive : s.activeFunction = some o)
    (hf : s.functions[o]? = some f) (hhandler : ∀ c, s.handler ≠ .setupCreate c) :
    f.deleted = false := by
  obtain ⟨g, hg, hdeleted⟩ := hs.active o hactive
  obtain rfl : f = g := Option.some.inj (hf.symm.trans hg)
  by_contra hd
  obtain ⟨c, hc⟩ := hdeleted (by simpa using hd)
  exact hhandler c hc

/-- **A function is started**: it has no thread yet. -/
theorem launch {o : Nat} {f : CameraFunction} (hhandler : s.handler = .connected (.start o))
    (hf : s.functions[o]? = some f) :
    Invariant { s with
      functions := s.functions.set o { f with started := true }
      threads := s.threads ++ [⟨o, .run 0 .loopTest⟩]
      handler := .idle } := by
  have hex : s.handler.exclusive = true := by rw [hhandler]; rfl
  obtain ⟨hactive, hunstarted⟩ := hs.starting o (by rw [hhandler]; rfl)
  have hstarted : f.started = false := hunstarted f hf
  have hunfinished := hs.unfinished hf hstarted
  have hget (i : Nat) := getElem?_set_of_some (b := { f with started := true }) hf i
  refine ⟨?_, ?_, by simp [HandlerPc.exclusive, HandlerPc.purpose?],
    by simp [HandlerPc.purpose?], ?_, ?_, ?_, ?_⟩
  · intro i hi
    obtain rfl : o = i := Option.some.inj (hactive.symm.trans hi)
    have halive := hs.active_alive hactive hf (by simp [hhandler])
    exact ⟨{ f with started := true }, by rw [hget, if_pos rfl], fun hd => by simp [halive] at hd⟩
  · intro i g hg hgs hgf
    rcases (getElem?_set_eq_some_iff hf).mp hg with ⟨rfl, -⟩ | ⟨-, hg⟩
    · exact hactive
    · exact hs.operating i g hg hgs hgf
  · intro i g hg hgf
    rcases (getElem?_set_eq_some_iff hf).mp hg with ⟨-, rfl⟩ | ⟨-, hg⟩
    · rfl
    · exact hs.started_of_finished i g hg hgf
  · intro k t shots pc ht htask
    rcases getElem?_concat_eq_some_iff.mp ht with ht | ⟨-, rfl⟩
    · obtain ⟨g, hg, hphase⟩ := hs.running k t shots pc ht htask
      have hother := hs.ne_of_unstarted hf hstarted ht htask
      exact ⟨g, by rw [hget, if_neg hother]; exact hg, hphase⟩
    · cases htask
      exact ⟨{ f with started := true }, by rw [hget, if_pos rfl], rfl, hunfinished⟩
  · intro k k' t t' n n' pc pc' ht ht' htask htask' hobject
    rcases getElem?_concat_eq_some_iff.mp ht with ht | ⟨rfl, rfl⟩ <;>
      rcases getElem?_concat_eq_some_iff.mp ht' with ht' | ⟨rfl, rfl⟩
    · exact hs.single k k' t t' n n' pc pc' ht ht' htask htask' hobject
    · exact absurd hobject.symm (hs.ne_of_unstarted hf hstarted ht htask)
    · exact absurd hobject (hs.ne_of_unstarted hf hstarted ht' htask')
    · rfl
  · intro k t pc ht htask hne
    rcases getElem?_concat_eq_some_iff.mp ht with ht | ⟨-, rfl⟩
    · exact absurd (hs.no_test (by simp [hhandler]) k t pc ht htask) hne
    · cases htask

/-- **A test capture is started.** -/
theorem launchTest {o : Nat} (hhandler : s.handler = .connected (.test o)) :
    Invariant { s with
      threads := s.threads ++ [⟨o, .test .begin⟩]
      handler := .awaitTest s.threads.length } := by
  have hex : s.handler.exclusive = true := by rw [hhandler]; rfl
  refine ⟨?_, hs.operating, fun _ => hs.resting hex, by simp [HandlerPc.purpose?],
    hs.started_of_finished, ?_, ?_, ?_⟩
  · intro i hi
    obtain ⟨g, hg, -⟩ := hs.active i hi
    have halive := hs.active_alive hi hg (by simp [hhandler])
    exact ⟨g, hg, fun hd => by simp [halive] at hd⟩
  · intro k t shots pc ht htask
    rcases getElem?_concat_eq_some_iff.mp ht with ht | ⟨-, rfl⟩
    · exact hs.running k t shots pc ht htask
    · cases htask
  · intro k k' t t' n n' pc pc' ht ht' htask htask' hobject
    rcases getElem?_concat_eq_some_iff.mp ht with ht | ⟨-, rfl⟩
    · rcases getElem?_concat_eq_some_iff.mp ht' with ht' | ⟨-, rfl⟩
      · exact hs.single k k' t t' n n' pc pc' ht ht' htask htask' hobject
      · cases htask'
    · cases htask
  · intro k t pc ht htask hne
    rcases getElem?_concat_eq_some_iff.mp ht with ht | ⟨rfl, -⟩
    · exact absurd (hs.no_test (by simp [hhandler]) k t pc ht htask) hne
    · rfl

/-- **A function at rest is deleted.** -/
theorem delete {cfg : Setup} {o : Nat} {f : CameraFunction}
    (hhandler : s.handler = .setupDelete cfg) (hf : s.functions[o]? = some f) :
    Invariant { s with
      functions := s.functions.set o { f with deleted := true }
      handler := .setupCreate cfg } := by
  have hex : s.handler.exclusive = true := by rw [hhandler]; rfl
  have before {i : Nat} {y : CameraFunction}
      (hy : (s.functions.set o { f with deleted := true })[i]? = some y) :
      ∃ x, s.functions[i]? = some x ∧ y.started = x.started ∧ y.finished = x.finished :=
    exists_before hf (b := { f with deleted := true })
      (R := fun x y => y.started = x.started ∧ y.finished = x.finished)
      (fun _ => ⟨rfl, rfl⟩) ⟨rfl, rfl⟩ hy
  have after {i : Nat} {x : CameraFunction} (hx : s.functions[i]? = some x) :
      ∃ y, (s.functions.set o { f with deleted := true })[i]? = some y ∧
        y.started = x.started ∧ y.finished = x.finished :=
    exists_after hf (b := { f with deleted := true })
      (R := fun x y => y.started = x.started ∧ y.finished = x.finished)
      (fun _ => ⟨rfl, rfl⟩) ⟨rfl, rfl⟩ hx
  refine ⟨?_, ?_, ?_, by simp [HandlerPc.purpose?], ?_, ?_, hs.single, ?_⟩
  · intro i hi
    obtain ⟨x, hx, -⟩ := hs.active i hi
    obtain ⟨y, hy, -⟩ := after hx
    exact ⟨y, hy, fun _ => ⟨cfg, rfl⟩⟩
  · intro i y hy hstarted hunfinished
    obtain ⟨x, hx, hst, hfin⟩ := before hy
    exact hs.operating i x hx (hst ▸ hstarted) (hfin ▸ hunfinished)
  · intro _ i y hy hstarted
    obtain ⟨x, hx, hst, hfin⟩ := before hy
    exact hfin ▸ hs.resting hex i x hx (hst ▸ hstarted)
  · intro i y hy hfinished
    obtain ⟨x, hx, hst, hfin⟩ := before hy
    exact hst ▸ hs.started_of_finished i x hx (hfin ▸ hfinished)
  · intro k t shots pc ht htask
    obtain ⟨x, hx, hstarted, hphase⟩ := hs.running k t shots pc ht htask
    obtain ⟨y, hy, hst, hfin⟩ := after hx
    exact ⟨y, hy, hst ▸ hstarted, hfin ▸ hphase⟩
  · intro k t pc ht htask hne
    exact absurd (hs.no_test (by simp [hhandler]) k t pc ht htask) hne

/-- **A function is created** and becomes the active one. -/
theorem create {cfg : Setup} (hhandler : s.handler = .setupCreate cfg) :
    Invariant { s with
      functions := s.functions ++ [.new cfg]
      activeFunction := some s.functions.length
      handler := .idle } := by
  have hex : s.handler.exclusive = true := by rw [hhandler]; rfl
  refine ⟨?_, ?_, by simp [HandlerPc.exclusive, HandlerPc.purpose?],
    by simp [HandlerPc.purpose?], ?_, ?_, hs.single, ?_⟩
  · intro i hi
    obtain rfl := Option.some.inj hi
    exact ⟨.new cfg, by simp, by simp [CameraFunction.new]⟩
  · intro i g hg hstarted hunfinished
    rcases getElem?_concat_eq_some_iff.mp hg with hg | ⟨-, rfl⟩
    · rw [hs.resting hex i g hg hstarted] at hunfinished
      cases hunfinished
    · cases hstarted
  · intro i g hg hfinished
    rcases getElem?_concat_eq_some_iff.mp hg with hg | ⟨-, rfl⟩
    · exact hs.started_of_finished i g hg hfinished
    · cases hfinished
  · intro k t shots pc ht htask
    obtain ⟨g, hg, hphase⟩ := hs.running k t shots pc ht htask
    exact ⟨g, getElem?_concat_eq_some_iff.mpr (Or.inl hg), hphase⟩
  · intro k t pc ht htask hne
    exact absurd (hs.no_test (by simp [hhandler]) k t pc ht htask) hne

/-- **A step of `run()`.** -/
theorem run {k : Nat} {ans : Answer} {t : Thread} {f g : CameraFunction} {shots shots' : Nat}
    {pc pc' : RunPc} (ht : s.threads[k]? = some t) (htask : t.task = .run shots pc)
    (hf : s.functions[t.object]? = some f)
    (hstep : pc.step f shots ans = some (.moved g shots' pc')) :
    Invariant { s with
      functions := s.functions.set t.object g
      threads := s.threads.set k { t with task := .run shots' pc' } } := by
  obtain ⟨htouched, -, hcases⟩ := RunPc.step_spec hstep
  obtain ⟨hstarted, hphase⟩ : f.started = true ∧ f.finished = !pc.inRun := by
    obtain ⟨x, hx, h⟩ := hs.running k t shots pc ht htask
    obtain rfl : f = x := Option.some.inj (hf.symm.trans hx)
    exact h
  have hphase' : g.finished = !pc'.inRun := by
    rcases hcases with ⟨hin, hin', hfin⟩ | ⟨-, rfl, hfin⟩ | ⟨rfl, rfl, rfl⟩
    · rw [hfin, hphase, hin, hin']
    · rw [hfin]; rfl
    · rw [hphase]; rfl
  have hget (i : Nat) := getElem?_set_of_some (b := g) hf i
  have before {i : Nat} {y : CameraFunction} (hy : (s.functions.set t.object g)[i]? = some y) :
      ∃ x, s.functions[i]? = some x ∧ x.Touched y :=
    exists_before hf CameraFunction.Touched.refl htouched hy
  have hthread {i : Nat} {u : Thread}
      (hu : (s.threads.set k { t with task := .run shots' pc' })[i]? = some u) :
      (k = i ∧ u.object = t.object ∧ u.task = .run shots' pc') ∨
        k ≠ i ∧ s.threads[i]? = some u := by
    rcases (getElem?_set_eq_some_iff ht).mp hu with ⟨hki, rfl⟩ | hu
    · exact Or.inl ⟨hki, rfl, rfl⟩
    · exact Or.inr hu
  refine ⟨?_, ?_, ?_, ?_, ?_, ?_, ?_, ?_⟩
  · intro i hi
    obtain ⟨x, hx, hdeleted⟩ := hs.active i hi
    obtain ⟨y, hy, hxy⟩ := exists_after hf CameraFunction.Touched.refl htouched hx
    exact ⟨y, hy, fun h => hdeleted (hxy.deleted ▸ h)⟩
  · intro i y hy hst hunfinished
    obtain ⟨x, hx, hxy⟩ := before hy
    refine hs.operating i x hx (hxy.started ▸ hst) ?_
    by_contra hfin
    rw [hxy.finished (by simpa using hfin)] at hunfinished
    cases hunfinished
  · intro hex i y hy hst
    obtain ⟨x, hx, hxy⟩ := before hy
    exact hxy.finished (hs.resting hex i x hx (hxy.started ▸ hst))
  · intro i hi
    obtain ⟨hactive, hunstarted⟩ := hs.starting i hi
    refine ⟨hactive, fun y hy => ?_⟩
    obtain ⟨x, hx, hxy⟩ := before hy
    exact hxy.started ▸ hunstarted x hx
  · intro i y hy hfin
    rcases (getElem?_set_eq_some_iff hf).mp hy with ⟨-, rfl⟩ | ⟨-, hy⟩
    · rw [htouched.started, hstarted]
    · exact hs.started_of_finished i y hy hfin
  · intro i u n pc'' hu hrun
    rcases hthread hu with ⟨-, hobject, htask'⟩ | ⟨hne, hu⟩
    · rw [htask'] at hrun
      cases hrun
      exact ⟨g, by rw [hobject, hget, if_pos rfl], htouched.started.trans hstarted, hphase'⟩
    · obtain ⟨x, hx, h⟩ := hs.running i u n pc'' hu hrun
      have hother : t.object ≠ u.object := fun hobject =>
        hne (hs.single k i t u _ _ _ _ ht hu htask hrun hobject)
      exact ⟨x, by rw [hget, if_neg hother]; exact hx, h⟩
  · intro i i' u u' n n' p p' hu hu' hrun hrun' hobject
    rcases hthread hu with ⟨rfl, hob, -⟩ | ⟨hne, hu⟩ <;>
      rcases hthread hu' with ⟨rfl, hob', -⟩ | ⟨hne', hu'⟩
    · rfl
    · exact hs.single k i' t u' _ _ _ _ ht hu' htask hrun' (hob ▸ hobject)
    · exact hs.single i k u t _ _ _ _ hu ht hrun htask (hob' ▸ hobject)
    · exact hs.single i i' u u' n n' p p' hu hu' hrun hrun' hobject
  · intro i u p hu htest hne
    rcases hthread hu with ⟨-, -, htask'⟩ | ⟨-, hu⟩
    · rw [htask'] at htest
      cases htest
    · exact hs.awaited i u p hu htest hne

/-- **The invariant is kept by every step.** -/
theorem step {s' : Controller} {a : Action} (h : s.step a = some s') : Invariant s' := by
  cases Controller.step_change h with
  | ignored c => exact hs
  | testing c hidle hh =>
    refine hs.goOn (hs.no_test (by simp [hidle])) (by simp [hidle]) ?_ ?_ <;>
      rcases hh with rfl | rfl <;> simp [HandlerPc.exclusive, HandlerPc.purpose?]
  | reconnecting c hidle hc =>
    exact hs.goOn (hs.no_test (by simp [hidle])) (by simp [hidle])
      (by simp [HandlerPc.exclusive, HandlerPc.purpose?]) (by simp [HandlerPc.purpose?])
  | @connecting c hidle o f p hactive hf hp =>
    obtain ⟨h, heq, hh⟩ := s.connectCamera_eq p
    have hpurpose : h = .idle ∨ h.purpose? = some p := by
      rcases hh with rfl | rfl | ⟨rfl, -⟩
      exacts [Or.inl rfl, Or.inr rfl, Or.inr rfl]
    rw [heq]
    refine hs.goOn (hs.no_test (by simp [hidle])) (by simp [hidle]) ?_ ?_
    · refine fun _ => hs.rest_of_active hactive hf ?_
      rcases hp with ⟨-, hunstarted⟩ | ⟨-, hrest⟩
      · simp [hunstarted]
      · simp_all [CameraFunction.isOperating]
    · intro i hi
      rcases hpurpose with rfl | hh
      · cases hi
      rcases hp with ⟨rfl, hunstarted⟩ | ⟨rfl, -⟩
      · obtain rfl := Purpose.start.inj (Option.some.inj (hh.symm.trans hi))
        exact ⟨hactive, fun g hg => Option.some.inj (hf.symm.trans hg) ▸ hunstarted⟩
      · cases hh.symm.trans hi
  | replacing c hidle cfg hactive hf hrest =>
    exact hs.goOn (hs.no_test (by simp [hidle])) (by simp [hidle])
      (fun _ => hs.rest_of_active hactive hf (by simp_all [CameraFunction.isOperating]))
      (by simp [HandlerPc.purpose?])
  | creating c hidle cfg hactive =>
    refine hs.goOn (hs.no_test (by simp [hidle])) (by simp [hidle]) ?_
      (by simp [HandlerPc.purpose?])
    intro _ o f hf hstarted
    by_contra hunfinished
    have := hs.operating o f hf hstarted (by simpa using hunfinished)
    rw [hactive] at this
    cases this
  | flagged c hf hg hfinished htesting => exact hs.touch hf hg hfinished
  | camera ans hstep =>
    obtain ⟨hex, hpurpose, hawait, hreplace⟩ := cameraStep_spec hstep
    exact hs.goOn (hs.no_test hawait) hreplace (fun h => hs.resting (hex h))
      fun o ho => hs.starting o (hpurpose o ho)
  | started ans hhandler hf => exact hs.launch hhandler hf
  | tested ans hhandler => exact hs.launchTest hhandler
  | testOver ans hhandler ht hover =>
    refine hs.goOn ?_ (by simp [hhandler]) (by simp [HandlerPc.exclusive, HandlerPc.purpose?])
      (by simp [HandlerPc.purpose?])
    intro i u pc hu htest
    by_contra hne
    obtain rfl := HandlerPc.awaitTest.inj (hhandler.symm.trans (hs.awaited i u pc hu htest hne))
    obtain rfl := Option.some.inj (ht.symm.trans hu)
    exact hne (Task.test.inj (htest.symm.trans hover))
  | deleted ans hhandler hactive hf => exact hs.delete hhandler hf
  | created ans hhandler => exact hs.create hhandler
  | ran ht htask hf hstep => exact hs.run ht htask hf hstep
  | crashed => exact ⟨hs.active, hs.operating, hs.resting, hs.starting, hs.started_of_finished,
      hs.running, hs.single, hs.awaited⟩
  | testRan ht htask hf hstep =>
    obtain ⟨htouched, hfinished, hpc⟩ := TestPc.step_spec hstep
    exact (hs.touch hf htouched hfinished).retask ht htask hpc

end Invariant

theorem invariant_init : Invariant {} where
  active _ h := by cases h
  operating _ _ h := by cases h
  resting h := by cases h
  starting _ h := by cases h
  started_of_finished _ _ h := by cases h
  running _ _ _ _ h := by cases h
  single _ _ _ _ _ _ _ _ h := by cases h
  awaited _ _ _ h := by cases h

theorem invariant_of_reachable {s : Controller}
    (h : StateMachine.Reachable Controller.step {} s) : Invariant s :=
  h.invariant (fun hs hstep => hs.step hstep) invariant_init

/-- A thread in `run()` belongs to the active function, which no one else is busy
with. -/
theorem Invariant.of_inRun {s : Controller} (hs : Invariant s) {k : Nat} {t : Thread} {n : Nat}
    {pc : RunPc} (ht : s.threads[k]? = some t) (htask : t.task = .run n pc)
    (hin : pc.inRun = true) : s.activeFunction = some t.object ∧ s.handler.exclusive = false := by
  obtain ⟨f, hf, hstarted, hphase⟩ := hs.running k t n pc ht htask
  have hunfinished : f.finished = false := by rw [hphase, hin]; rfl
  refine ⟨hs.operating t.object f hf hstarted hunfinished, ?_⟩
  by_contra hex
  rw [hs.resting (by simpa using hex) t.object f hf hstarted] at hunfinished
  cases hunfinished

end CameraController
