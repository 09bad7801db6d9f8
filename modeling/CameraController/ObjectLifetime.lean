import CameraController.CommandHandlerInvariant

/-! # Does an object outlive its thread?

A setup command deletes the active function when it is not operating, that is, as
soon as its thread has set `finished`.  But `run()` still reads `num_shots` and
`abort_cond` for its last line of log after that, and nothing waits for it.

`members_alive_iff`: in a run no thread is about to touch a member of a deleted
object exactly when nothing is deleted whose thread is not done with it. -/
namespace CameraController

open StateMachine

/-- No thread in `run()` is about to touch a member of a deleted object. -/
def MembersAlive (s : Controller) : Prop :=
  ∀ (k : Nat) (t : Thread) n pc, s.threads[k]? = some t → t.task = .run n pc →
    pc.touches = true → ∃ f : CameraFunction, s.functions[t.object]? = some f ∧ f.deleted = false

/-- If the step is a setup's `delete activeFunction`, then the object's thread does
not touch the object any more. -/
def DeletesUntouched (s : Controller) (a : Action) : Prop :=
  ∀ cfg ans o, s.handler = .setupDelete cfg → a = .handler ans → s.activeFunction = some o →
    ∀ (k : Nat) (t : Thread) n pc, s.threads[k]? = some t → t.object = o →
      t.task = .run n pc → pc.touches = false

/-- The object of a thread that runs `run()` has not been deleted. -/
structure Alive (s : Controller) : Prop where
  invariant : Invariant s
  alive : ∀ (k : Nat) (t : Thread) n pc, s.threads[k]? = some t → t.task = .run n pc →
    pc ≠ .exited → ∃ f : CameraFunction, s.functions[t.object]? = some f ∧ f.deleted = false

theorem alive_init : Alive {} := ⟨invariant_init, fun _ _ _ _ h => by cases h⟩

theorem Alive.membersAlive {s : Controller} (hs : Alive s) : MembersAlive s := by
  intro k t n pc ht htask htouches
  apply hs.alive k t n pc ht htask
  rintro rfl
  cases htouches

/-- Replacing an object by one that is deleted exactly if it was. -/
theorem Alive.after {s : Controller} (hs : Alive s) {o : Nat} {f g : CameraFunction}
    (hf : s.functions[o]? = some f) (hg : g.deleted = f.deleted) {k : Nat} {t : Thread} {n : Nat}
    {pc : RunPc} (ht : s.threads[k]? = some t) (htask : t.task = .run n pc) (hpc : pc ≠ .exited) :
    ∃ y : CameraFunction, (s.functions.set o g)[t.object]? = some y ∧ y.deleted = false := by
  obtain ⟨x, hx, hdeleted⟩ := hs.alive k t n pc ht htask hpc
  obtain ⟨y, hy, hyx⟩ := exists_after hf (R := fun x y => y.deleted = x.deleted)
    (fun _ => rfl) hg hx
  exact ⟨y, hy, hyx.trans hdeleted⟩

/-- **A step that deletes nothing in use** keeps the objects of threads alive. -/
theorem Alive.step {s s' : Controller} {a : Action} (hs : Alive s) (ha : DeletesUntouched s a)
    (h : s.step a = some s') : Alive s' := by
  refine ⟨hs.invariant.step h, ?_⟩
  cases Controller.step_change h with
  | ignored | testing | reconnecting | replacing | creating | camera | testOver | crashed =>
    exact hs.alive
  | connecting c hidle hactive hf hp =>
    obtain ⟨h, heq, -⟩ := s.connectCamera_eq _
    rw [heq]
    exact hs.alive
  | flagged c hf hg =>
    exact fun k t n pc ht htask hpc => hs.after hf hg.deleted ht htask hpc
  | @started ans o f hhandler hf =>
    intro k t n pc ht htask hpc
    rcases getElem?_concat_eq_some_iff.mp ht with ht | ⟨-, rfl⟩
    · exact hs.after hf (g := { f with started := true }) rfl ht htask hpc
    · refine ⟨{ f with started := true }, ?_, ?_⟩
      · exact getElem?_set_self_of_some hf
      · obtain ⟨hactive, -⟩ := hs.invariant.starting o (by rw [hhandler]; rfl)
        have halive := hs.invariant.active_alive hactive hf (by simp [hhandler])
        exact halive
  | tested ans hhandler =>
    intro k t n pc ht htask hpc
    rcases getElem?_concat_eq_some_iff.mp ht with ht | ⟨-, rfl⟩
    · exact hs.alive k t n pc ht htask hpc
    · cases htask
  | @deleted ans cfg o f hhandler hactive hf =>
    intro k t n pc ht htask hpc
    have hother : o ≠ t.object := by
      intro ho
      have htouches := ha cfg ans o hhandler rfl hactive k t n pc ht ho.symm htask
      -- only inside `capture` is there nothing to touch, and then `delete` is not reached
      have hin : pc.inRun = true := by
        cases pc <;> first | exact absurd rfl hpc | rfl | cases htouches
      have hex := (hs.invariant.of_inRun ht htask hin).2
      rw [hhandler] at hex
      cases hex
    rw [List.getElem?_set_ne hother]
    exact hs.alive k t n pc ht htask hpc
  | created ans hhandler =>
    intro k t n pc ht htask hpc
    obtain ⟨f, hf, hdeleted⟩ := hs.alive k t n pc ht htask hpc
    exact ⟨f, getElem?_concat_eq_some_iff.mpr (Or.inl hf), hdeleted⟩
  | @ran k ans t f g shots shots' pc pc' ht htask hf hstep =>
    intro i u n p hu hutask hp
    obtain ⟨htouched, -, hcases⟩ := RunPc.step_spec hstep
    rcases (getElem?_set_eq_some_iff ht).mp hu with ⟨-, rfl⟩ | ⟨-, hu⟩
    · have hpc : pc ≠ .exited := by
        rintro rfl
        rcases hcases with ⟨hin, -⟩ | ⟨hfin, -⟩ | ⟨hrep, -⟩ <;> contradiction
      have halive := hs.after hf htouched.deleted ht htask hpc
      exact halive
    · exact hs.after hf htouched.deleted hu hutask hp
  | @testRan k ans t f g pc pc' ht htask hf hstep =>
    intro i u n p hu hutask hp
    obtain ⟨htouched, -⟩ := TestPc.step_spec hstep
    rcases (getElem?_set_eq_some_iff ht).mp hu with ⟨-, rfl⟩ | ⟨-, hu⟩
    · cases hutask
    · exact hs.after hf htouched.deleted hu hutask hp

/-- A step that deletes an object in use leaves its thread about to touch it. -/
theorem not_membersAlive {s s' : Controller} {a : Action} (ha : ¬ DeletesUntouched s a)
    (h : s.step a = some s') : ¬ MembersAlive s' := by
  unfold DeletesUntouched at ha
  push Not at ha
  obtain ⟨cfg, ans, o, hhandler, rfl, hactive, k, t, n, pc, ht, rfl, htask, htouches⟩ := ha
  intro halive
  cases Controller.step_change h with
  | camera ans hstep => rw [hhandler] at hstep; cases ans <;> cases hstep
  | started ans hhandler' => rw [hhandler] at hhandler'; cases hhandler'
  | tested ans hhandler' => rw [hhandler] at hhandler'; cases hhandler'
  | testOver ans hhandler' => rw [hhandler] at hhandler'; cases hhandler'
  | created ans hhandler' => rw [hhandler] at hhandler'; cases hhandler'
  | deleted ans hhandler' hactive' hf =>
    obtain rfl := Option.some.inj (hactive'.symm.trans hactive)
    obtain ⟨y, hy, hdeleted⟩ := halive k t n pc ht htask (by simpa using htouches)
    rw [getElem?_set_self_of_some hf] at hy
    rw [← Option.some.inj hy] at hdeleted
    cases hdeleted

/-- **No thread touches a deleted object, all along a run, exactly when every
`delete` of the run finds the object's thread done with it.** -/
theorem members_alive_iff (as : List Action) :
    Always Controller.step MembersAlive {} as ↔ EachStep Controller.step DeletesUntouched {} as :=
  always_iff_eachStep Alive.membersAlive Alive.step (fun _ => not_membersAlive) alive_init as

/-- A sequencer without a shot to take finishes; a second setup deletes it while
the last line of its log is still to come. -/
def deleteReporting : List Action :=
  [.command (.sequencerSetup 20 0 100 false), .handler .nothing, .command (.command 5),
    .handler (.newCamera .created), .handler (.result true), .handler (.serial "1"),
    .handler .nothing, .thread 0 .nothing, .thread 0 .nothing,
    .command (.sequencerSetup 20 3 100 false), .handler .nothing]

/-- The program after that. -/
def reporting : Controller where
  camera := { camera := some 0, connected := true, serial := "1", created := 1 }
  functions := [{ CameraFunction.new ⟨.sequencer, 0, 0, 100, false⟩ with
    started := true, finished := true, deleted := true }]
  activeFunction := some 0
  threads := [⟨0, .run 0 .report⟩]
  handler := .setupCreate ⟨.sequencer, 3, 0, 100, false⟩

/-- The thread then reads `num_shots` of the deleted object. -/
theorem not_members_alive_deleteReporting :
    ¬ Always Controller.step MembersAlive {} deleteReporting := by
  intro h
  have hrun : run Controller.step {} deleteReporting = some reporting := rfl
  obtain ⟨f, hf, hdeleted⟩ := h.of_run hrun 0 ⟨0, .run 0 .report⟩ 0 .report rfl rfl rfl
  rw [← Option.some.inj hf] at hdeleted
  cases hdeleted

end CameraController
