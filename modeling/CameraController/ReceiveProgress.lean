import CameraController.CommandService
import CameraController.HandlerProgress

/-! # The receive thread is never stuck

The thread that reads from the clients is the one that executes their commands.  While it
does, it reads nothing.  `receive_never_stuck`: in every state of every run it can go on, if
the program has not ended, and the steps it takes itself between two reads are bounded.  The
one thing it may wait for is a test capture, which can go on then, but may do so for ever:
`waitForCapture` waits as long as the camera has other events to tell. -/
namespace CameraController.CommandService

open MessageDecoder StateMachine

variable {parse : List UInt8 → Except JsonException Json} {target : Target} {s : CommandService}

/-- How many steps of the receive thread may be left before it reads again: a turn may take
up a command, which is ten steps of the handler at most. -/
def rank (s : CommandService) : Nat :=
  if s.controller.terminated then 0
  else 11 * s.decoder.rank s.data s.index + s.controller.handler.rank

/-- The receive thread's own steps, up to the next `read`. -/
def Action.IsOwn : Action → Prop
  | .turn | .handler _ => True
  | _ => False

instance (a : Action) : Decidable a.IsOwn := by
  cases a <;> unfold Action.IsOwn <;> infer_instance

theorem rank_controller_le {next : Controller} (s : CommandService)
    (h : s.controller.terminated = false)
    (hle : next.handler.rank ≤ s.controller.handler.rank) :
    rank { s with controller := next } ≤ s.rank := by
  simp only [rank, h, Bool.false_eq_true, if_false]
  split <;> omega

/-- **Each step of the receive thread brings the next `read` nearer.** -/
theorem rank_lt {s' : CommandService} {a : Action} (hs : Sound s) (ha : a.IsOwn)
    (h : step parse target s a = some s') : s'.rank < s.rank := by
  cases step_changed parse target h with
  | received | thread => exact absurd ha id
  | @handler ans next hstep =>
    have hrunning := running_of_step hstep
    have hhandler : s.controller.handlerStep ans = some next := by
      simpa [Controller.step, hrunning] using hstep
    have hlt := Controller.handlerStep_rank_lt hhandler
    simp only [rank, hrunning, Bool.false_eq_true, if_false]
    split <;> omega
  | turned hreceiving hi =>
    have hturned := hs.turned h
    generalize taken parse target s = commands at hturned
    have hrank : s.rank = 11 * s.decoder.rank s.data s.index + s.controller.handler.rank := by
      simp [rank, hreceiving.1]
    rw [hrank]
    cases hturned with
    | quiet hadvances =>
      have hlt := hadvances.rank_lt
      simp only [rank, hreceiving.1, Bool.false_eq_true, if_false]
      omega
    | @commanded r j c next hadvances hcommand hstep =>
      have hlt := hadvances.rank_lt
      have hle := next.handler.rank_le
      simp only [rank]
      split <;> omega
    | crashed =>
      have hpos : 0 < s.decoder.rank s.data s.index := by
        unfold MessageDecoder.rank
        omega
      simp only [rank, if_true]
      omega

/-- What the threads do meanwhile does not put it off. -/
theorem rank_le {s' : CommandService} {a : Action} (hs : Sound s)
    (ha : ∀ bytes, a ≠ .received bytes) (h : step parse target s a = some s') :
    s'.rank ≤ s.rank := by
  by_cases hown : a.IsOwn
  · exact Nat.le_of_lt (rank_lt hs hown h)
  · cases step_changed parse target h with
    | received => exact absurd rfl (ha _)
    | handler | turned => exact absurd trivial hown
    | thread hstep =>
      exact rank_controller_le s (running_of_step hstep)
        (Nat.le_of_eq (congrArg _ (Controller.handler_of_thread hstep)))

variable (parse target)

/-- The receive thread can do its next step: it reads whatever comes, takes the next turn or
goes on with its command; or else the test capture it waits for can go on. -/
inductive CanGoOn (s : CommandService) : Prop
  | reads (hover : s.index = s.data.length) (h : ∀ bytes : List UInt8, 1 ≤ bytes.length →
      bytes.length ≤ recvBufSize → ∃ s', step parse target s (.received bytes) = some s')
  | turns {s' : CommandService} (h : step parse target s .turn = some s')
  | handles {ans : Answer} {s' : CommandService} (h : step parse target s (.handler ans) = some s')
  | awaits {k : Nat} (hhandler : s.controller.handler = .awaitTest k) {ans : Answer}
      {s' : CommandService} (h : step parse target s (.thread k ans) = some s')

/-- **The receive thread is never stuck.** -/
theorem canGoOn_of_reachable (h : Reachable (step parse target) {} s)
    (hrunning : s.controller.terminated = false) : CanGoOn parse target s := by
  have hs := sound_of_reachable h
  have hprogram := hs.program hrunning
  have hinv := invariant_of_reachable hprogram
  by_cases hidle : s.controller.handler = .idle
  · rcases Nat.eq_or_lt_of_le hs.index_le with hover | hi
    · refine .reads hover fun bytes hpos hle => ⟨_, if_pos ⟨⟨hrunning, hidle⟩, hover, hpos, hle⟩⟩
    · obtain ⟨s', hs', -⟩ := exists_turned parse target hs.decoder hs.fits hinv ⟨hrunning, hidle⟩ hi
      exact .turns hs'
  · rcases Controller.exists_progress hinv (Controller.placed_of_reachable hprogram) hrunning hidle
      with ⟨ans, next, hnext⟩ | ⟨k, ans, next, hawait, hnext⟩
    · exact .handles (show step parse target s (.handler ans) = some _ by
        simp only [step, hnext]; rfl)
    · exact .awaits hawait (show step parse target s (.thread k ans) = some _ by
        simp only [step, hnext]; rfl)

/-- **The receive thread is never stuck**, unless the program has ended, and up to its next
`read` it takes no more than eleven steps for each turn that may be left of the chunk in
hand, whatever the other threads do and libgphoto2 answers.  How long it waits for a test
capture between them is not bounded. -/
theorem receive_never_stuck (h : Reachable (step parse target) {} s)
    (hrunning : s.controller.terminated = false) :
    CanGoOn parse target s ∧ ∀ (actions : List Action) (t : CommandService),
      (∀ bytes, Action.received bytes ∉ actions) → run (step parse target) s actions = some t →
        actions.countP (fun a => a.IsOwn) ≤ 11 * (2 * (s.data.length - s.index) + 1) + 10 := by
  refine ⟨canGoOn_of_reachable parse target h hrunning, fun actions t hquiet hrun => ?_⟩
  have hlower {s s' : CommandService} {a : Action} (hs : Sound s) (ha : a.IsOwn)
      (hstep : step parse target s a = some s') : s'.rank < s.rank := rank_lt hs ha hstep
  have hkeeps {s s' : CommandService} {a : Action} (hs : Sound s)
      (ha : ∀ bytes, a ≠ .received bytes) (hstep : step parse target s a = some s') :
      s'.rank ≤ s.rank := rank_le hs ha hstep
  have hcount := run_countP_le (fun hs hstep => Sound.step hs hstep) hlower hkeeps
    (sound_of_reachable h) (fun a ha bytes heq => hquiet bytes (by rwa [← heq])) hrun
  have hdecoder := s.decoder.rank_le s.data s.index
  have hhandler := s.controller.handler.rank_le
  have hrank : s.rank = 11 * s.decoder.rank s.data s.index + s.controller.handler.rank := by
    simp [rank, hrunning]
  omega

/-- A telecommand has come, and the loop of `decode` is about to go through it. -/
theorem receive_never_stuck_start :
    let parse := fun _ => .ok startJson
    let target : Target := ⟨fun _ => 0, fun _ => 0⟩
    CanGoOn parse target { data := startSent } ∧ ∀ (actions : List Action) (t : CommandService),
      (∀ bytes, Action.received bytes ∉ actions) →
        run (step parse target) { data := startSent } actions = some t →
          actions.countP (fun a => a.IsOwn) ≤ 11 * (2 * (startSent.length - 0) + 1) + 10 :=
  receive_never_stuck _ _ ⟨[.received startSent], by decide +kernel⟩ rfl

end CameraController.CommandService
