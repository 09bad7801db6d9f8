import CameraController.ServerThreads

/-! # Is the sender woken up?

`fn_sender` reads `client_connected`, and then waits.  `fn_server` writes it and
notifies without the mutex, so both can happen in between: the notification wakes
nobody, and the sender sleeps with a client connected and bytes to send.

`awake_iff`: that is the only way.  `awake_of_undisturbed`: it takes a
notification of `fn_server` between the read and the wait. -/
namespace CameraController.TCPServer.Threads

open StateMachine

/-- The sender is parked with something to do, and nobody is about to notify it. -/
structure Stalled (s : Threads) : Prop where
  parked : s.sender = .parked
  unnoticed : s.notifying = 0 ∧ s.server.notifies = false
  connected : s.clientConnected = true
  pending : s.sendBuf.contents ≠ []

/-- There is nothing to do, or somebody is about to notify. -/
def Minded (s : Threads) : Prop :=
  s.clientConnected = false ∨ s.sendBuf.contents = [] ∨ s.notifying ≠ 0 ∨
    s.server.notifies = true

theorem Minded.not_stalled {s : Threads} (h : s.Minded) : ¬ s.Stalled := by
  rintro ⟨-, ⟨hproducers, hserver⟩, hconnected, hpending⟩
  rcases h with h | h | h | h
  · simp [h] at hconnected
  · exact hpending h
  · exact h hproducers
  · simp [h] at hserver

/-- A sender that has seen no client when it parks has missed nothing. -/
def ParksMinded (s : Threads) (a : Action) : Prop :=
  a = .sender → s.sender = .wait false → s.Minded

/-- What steps keep in which a sender parks minded. -/
structure Heard (s : Threads) : Prop where
  buffer : s.BufferOk
  /-- Nothing is put while the sender holds the mutex. -/
  waiting : s.sender = .wait true → s.sendBuf.contents = []
  parked : s.sender = .parked → s.Minded

theorem Heard.awake {s : Threads} (hs : s.Heard) : ¬ s.Stalled :=
  fun h => (hs.parked h.parked).not_stalled h

theorem init_heard : ({} : Threads).Heard := ⟨init_bufferOk, nofun, nofun⟩

theorem SenderStage.notified_ne_parked (pc : SenderStage) : pc.notified ≠ .parked := by
  cases pc <;> simp [notified]

theorem SenderStage.notified_eq_wait {pc : SenderStage} {sawClient : Bool}
    (h : pc.notified = .wait sawClient) : pc = .wait sawClient := by
  cases pc <;> simp_all [notified]

theorem step_heard {s s' : Threads} {a : Action} (hs : s.Heard) (ha : ParksMinded s a)
    (h : step s a = some s') : s'.Heard := by
  have hchange := step_change hs.buffer h
  have hbuffer := hchange.bufferOk hs.buffer
  have hwaiting := hs.waiting
  have hparked := hs.parked
  cases hchange with
  | put values hfree =>
    refine ⟨hbuffer, fun hw => ?_, fun _ => Or.inr (Or.inr (Or.inl (Nat.succ_ne_zero _)))⟩
    -- the mutex is free
    have hsender : s.sender = .wait true := hw
    rw [hsender] at hfree
    cases hfree
  | notify | notifyConnected | notifyCleared =>
    refine ⟨hbuffer, fun hw => hwaiting (SenderStage.notified_eq_wait hw), fun hp => ?_⟩
    exact absurd hp (SenderStage.notified_ne_parked _)
  | lock | get | load | spurious | sent => exact ⟨hbuffer, nofun, nofun⟩
  | testConnected =>
    cases hc : s.clientConnected <;> rw [hc] at hbuffer <;> exact ⟨hbuffer, nofun, nofun⟩
  | testSize =>
    by_cases hempty : s.sendBuf.contents = []
    · exact ⟨hbuffer, fun _ => hempty, fun hp => by simp [hempty] at hp⟩
    · exact ⟨hbuffer, fun hw => by simp [hempty] at hw, fun hp => by simp [hempty] at hp⟩
  | @park sawClient hpc =>
    refine ⟨hbuffer, nofun, fun _ => ?_⟩
    cases sawClient with
    | true => exact Or.inr (Or.inl (hwaiting hpc))
    | false => exact ha rfl hpc
  | setConnected => exact ⟨hbuffer, hwaiting, fun _ => Or.inr (Or.inr (Or.inr rfl))⟩
  | clearConnected => exact ⟨hbuffer, hwaiting, fun _ => Or.inl rfl⟩
  | acceptFails | receives => exact ⟨hbuffer, hwaiting, hparked⟩
  | accepts hpc | receiveEnds hpc =>
    refine ⟨hbuffer, hwaiting, fun hp => ?_⟩
    simpa [Minded, hpc, ServerStage.notifies] using hparked hp

/-- A sender that parks otherwise is stalled. -/
theorem stalled_of_unminded {s s' : Threads} {a : Action} (ha : ¬ ParksMinded s a)
    (h : step s a = some s') : s'.Stalled := by
  simp only [ParksMinded, not_forall] at ha
  obtain ⟨rfl, hpc, hmissed⟩ := ha
  simp only [step, senderStep, hpc, Option.some.injEq] at h
  subst h
  simp only [Minded, not_or] at hmissed
  obtain ⟨hconnected, hpending, hproducers, hserver⟩ := hmissed
  exact ⟨rfl, ⟨not_not.mp hproducers, by simpa using hserver⟩, by simpa using hconnected, hpending⟩

/-- **The sender is never stalled exactly when it never parks on a `client_connected`
that has changed since, with nobody left to notify.** -/
theorem awake_iff (actions : List Action) :
    Always step (fun s => ¬ s.Stalled) {} actions ↔ EachStep step ParksMinded {} actions :=
  always_iff_eachStep Heard.awake step_heard
    (fun _ ha h => not_not_intro (stalled_of_unminded ha h)) init_heard actions

/-- A byte is logged, the sender finds no client, and a client comes before it
waits. -/
theorem stalled_between :
    ¬ ∀ actions : List Action, Always step (fun s => ¬ s.Stalled) {} actions := by
  intro h
  obtain ⟨cb, hput, -, -, hcontents⟩ := exists_put 0x41
  have hrun : run step {} [.put [0x41], .notify, .sender, .sender, .accepted 5, .server, .server,
      .sender] = some (oneClient cb .parked) := by
    rw [run, hput]
    rfl
  refine (h _).of_run hrun ⟨rfl, ⟨rfl, rfl⟩, rfl, ?_⟩
  rw [show (oneClient cb .parked).sendBuf = cb from rfl, hcontents]
  exact List.cons_ne_nil _ _

/-! ## A condition on the schedule -/

/-- `fn_server` does not notify of a client between the read and the wait. -/
def Undisturbed (s : Threads) (a : Action) : Prop :=
  a = .server → s.server = .notifyConnected → s.sender ≠ .wait false

/-- What undisturbed steps keep: a sender about to wait has seen what is still so, or
it will be told. -/
structure Aware (s : Threads) : Prop extends Heard s where
  seen : s.sender = .wait false → s.clientConnected = false ∨ s.server = .notifyConnected

theorem Aware.parksMinded {s : Threads} (hs : s.Aware) (a : Action) : ParksMinded s a := by
  intro _ hpc
  rcases hs.seen hpc with h | h
  · exact Or.inl h
  · exact Or.inr (Or.inr (Or.inr (by rw [h]; rfl)))

theorem step_aware {s s' : Threads} {a : Action} (hs : s.Aware) (ha : Undisturbed s a)
    (h : step s a = some s') : s'.Aware := by
  refine ⟨step_heard hs.toHeard (hs.parksMinded a) h, ?_⟩
  have hseen := hs.seen
  cases step_change hs.buffer h with
  | put | acceptFails | receives => exact hseen
  | notify => exact fun hw => hseen (SenderStage.notified_eq_wait hw)
  | lock | get | load | spurious | sent | park => nofun
  | testConnected =>
    cases hc : s.clientConnected
    · exact fun _ => Or.inl rfl
    · nofun
  | testSize =>
    by_cases hempty : s.sendBuf.contents = [] <;> simp [hempty]
  | setConnected => exact fun _ => Or.inr rfl
  | clearConnected => exact fun _ => Or.inl rfl
  | notifyConnected hpc => exact fun hw => absurd (SenderStage.notified_eq_wait hw) (ha rfl hpc)
  | notifyCleared hpc =>
    intro hw
    have hbefore := hseen (SenderStage.notified_eq_wait hw)
    rw [hpc] at hbefore
    exact Or.inl (hbefore.resolve_right nofun)
  | accepts hpc | receiveEnds hpc =>
    intro hw
    have hbefore := hseen hw
    rw [hpc] at hbefore
    exact Or.inl (hbefore.resolve_right nofun)

/-- **Without a notification of `fn_server` between the read and the wait the sender is
never stalled.** -/
theorem awake_of_undisturbed {actions : List Action} (h : EachStep step Undisturbed {} actions) :
    Always step (fun s => ¬ s.Stalled) {} actions :=
  always_of_eachStep (fun hs => hs.toHeard.awake) step_aware
    ⟨init_heard, nofun⟩ h

end CameraController.TCPServer.Threads
