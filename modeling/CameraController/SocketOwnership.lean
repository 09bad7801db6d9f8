import CameraController.ServerThreads

/-! # Who owns a client's socket?

`accept` gives `fn_server` a socket, which nothing closes: the next one overwrites
it in `sck_client`.  `fn_sender` reads `client_connected` under the mutex and
`sck_client` behind it, so what it took for one client can go to a socket whose
receive loop has ended, or to the next client.

`socketsOwned_iff`: in a run one session owns one socket, and every `send` goes to
the session it was taken for, exactly when no session comes to an end and nothing
is sent once a receive loop has ended. -/
namespace CameraController.TCPServer.Threads

open StateMachine

/-- The receive loop has ended. -/
def ServerStage.ended : ServerStage → Bool
  | clearConnected | notifyCleared => true
  | _ => false

/-- It has written that there is a client, and is not back in `accept`. -/
def ServerStage.announced : ServerStage → Bool
  | notifyConnected | receiving | clearConnected | notifyCleared => true
  | _ => false

/-- It has read that there is a client, and not sent to it yet. -/
def SenderStage.engaged : SenderStage → Bool
  | testSize | get | load _ | send _ _ => true
  | _ => false

/-- What it has taken. -/
def SenderStage.chunk? : SenderStage → Option Chunk
  | load chunk | send chunk _ => some chunk
  | _ => none

/-- Where it is about to send. -/
def SenderStage.socket? : SenderStage → Option Int
  | send _ socket => some socket
  | _ => none

/-- **Sockets are owned by one session.** -/
structure SocketsOwned (s : Threads) : Prop where
  single : s.openSockets.length ≤ 1
  idle : s.server = .accept → s.openSockets = []
  /-- Everything sent went to the client it was taken for, which was there. -/
  sends : ∀ e ∈ s.sends, e.client = some e.socket ∧ e.receiving = true

/-- `fn_server` does not go back to `accept`, and nothing is sent once the receive
loop has ended. -/
def WithinSession (s : Threads) (a : Action) : Prop :=
  (a = .server → s.server ≠ .notifyCleared) ∧ ∀ result, a = .sent result → s.server.ended = false

/-- What steps within the first session keep. -/
structure FirstSession (s : Threads) : Prop where
  buffer : s.BufferOk
  sockets : s.openSockets = if s.server = .accept then [] else [s.sckClient]
  connected : s.clientConnected = true → s.server.announced = true
  engaged : s.sender.engaged = true → s.server.announced = true
  /-- Until the receive loop ends, the chunk is the client's. -/
  chunk : ∀ chunk, s.sender.chunk? = some chunk → s.server.ended = false →
    chunk.client = some s.sckClient
  socket : ∀ socket, s.sender.socket? = some socket → socket = s.sckClient
  sends : ∀ e ∈ s.sends, e.client = some e.socket ∧ e.receiving = true

theorem FirstSession.owned {s : Threads} (hs : s.FirstSession) : s.SocketsOwned where
  single := by
    rw [hs.sockets]
    split <;> simp
  idle h := by rw [hs.sockets, if_pos h]
  sends := hs.sends

theorem init_firstSession : ({} : Threads).FirstSession :=
  ⟨init_bufferOk, rfl, nofun, nofun, nofun, nofun, nofun⟩

/-- A session that is announced and has not ended is running. -/
theorem session_eq {s : Threads} (hannounced : s.server.announced = true)
    (hgoing : s.server.ended = false) : s.session = some s.sckClient := by
  unfold session
  cases hpc : s.server <;> simp_all [ServerStage.announced, ServerStage.ended,
    ServerStage.inSession]

/-- A notification changes nothing but whether the sender is parked. -/
theorem SenderStage.notified_spec (pc : SenderStage) :
    pc.notified.engaged = pc.engaged ∧ pc.notified.chunk? = pc.chunk? ∧
      pc.notified.socket? = pc.socket? := by
  cases pc <;> exact ⟨rfl, rfl, rfl⟩

theorem SenderStage.engaged_of_chunk {pc : SenderStage} {chunk : Chunk}
    (h : pc.chunk? = some chunk) : pc.engaged = true := by
  cases pc <;> first | rfl | cases h

theorem SenderStage.engaged_of_socket {pc : SenderStage} {socket : Int}
    (h : pc.socket? = some socket) : pc.engaged = true := by
  cases pc <;> first | rfl | cases h

namespace FirstSession

variable {s : Threads} (hs : s.FirstSession)
include hs

/-- A notification keeps it, wherever the server goes within the session. -/
theorem notify {server : ServerStage} (notifying : Nat)
    (haccept : server = .accept ↔ s.server = .accept)
    (hannounced : s.server.announced = true → server.announced = true)
    (hended : server.ended = false → s.server.ended = false) :
    FirstSession { s.notifyOne with server, notifying } := by
  obtain ⟨hengaged, hchunk, hsocket⟩ := s.sender.notified_spec
  refine ⟨⟨hs.buffer.valid, hs.buffer.size⟩, ?_, fun h => hannounced (hs.connected h),
    fun h => hannounced (hs.engaged (hengaged ▸ h)),
    fun chunk h he => hs.chunk chunk (hchunk ▸ h) (hended he),
    fun socket h => hs.socket socket (hsocket ▸ h), hs.sends⟩
  simp only [haccept]
  exact hs.sockets

/-- The server goes on within the session. -/
theorem goOn {server : ServerStage} (clientConnected : Bool) (hpc : s.server ≠ .accept)
    (hserver : server ≠ .accept) (hannounced : server.announced = true)
    (hended : server.ended = false → s.server.ended = false) :
    FirstSession { s with server, clientConnected } := by
  refine ⟨⟨hs.buffer.valid, hs.buffer.size⟩, ?_, fun _ => hannounced, fun _ => hannounced,
    fun chunk h he => hs.chunk chunk h (hended he), hs.socket, hs.sends⟩
  have hsockets := hs.sockets
  rw [if_neg hpc] at hsockets
  simp only [if_neg hserver]
  exact hsockets

/-- The sender goes where it holds nothing. -/
theorem release (pc : SenderStage) (hengaged : pc.engaged = true → s.server.announced = true)
    (hchunk : pc.chunk? = none) (hsocket : pc.socket? = none) :
    FirstSession { s with sender := pc } :=
  { hs with
    buffer := ⟨hs.buffer.valid, hs.buffer.size⟩
    engaged := hengaged
    chunk := by simp [hchunk]
    socket := by simp [hsocket] }

/-- In `accept` the sender holds nothing. -/
theorem idle (hpc : s.server = .accept) : s.sender.engaged = false ∧ s.clientConnected = false := by
  have hannounced : s.server.announced = false := by rw [hpc]; rfl
  constructor
  · by_contra h
    simp [hs.engaged (by simpa using h)] at hannounced
  · by_contra h
    simp [hs.connected (by simpa using h)] at hannounced

/-- Before a client is there, `accept` may answer anything. -/
theorem accept (hpc : s.server = .accept) {result : Int} {sockets : List Int}
    {server : ServerStage} (hsockets : sockets = if server = .accept then [] else [result]) :
    FirstSession { s with sckClient := result, openSockets := sockets, server } := by
  obtain ⟨hsender, hconnected⟩ := hs.idle hpc
  refine ⟨⟨hs.buffer.valid, hs.buffer.size⟩, hsockets, fun h => ?_, fun h => ?_,
    fun chunk h => ?_, fun socket h => ?_, hs.sends⟩
  · simp [hconnected] at h
  · simp [hsender] at h
  · simp [SenderStage.engaged_of_chunk h] at hsender
  · simp [SenderStage.engaged_of_socket h] at hsender

end FirstSession

theorem step_firstSession {s s' : Threads} {a : Action} (hs : s.FirstSession)
    (ha : WithinSession s a) (h : step s a = some s') : s'.FirstSession := by
  have hchange := step_change hs.buffer h
  have hbuffer := hchange.bufferOk hs.buffer
  have hengaged := hs.engaged
  cases hchange with
  | put | receives => exact { hs with buffer := hbuffer }
  | notify => exact hs.notify _ Iff.rfl id id
  | lock | park | spurious => exact hs.release _ nofun rfl rfl
  | testConnected hpc =>
    by_cases hc : s.clientConnected = true
    · simpa only [if_pos hc] using hs.release .testSize (fun _ => hs.connected hc) rfl rfl
    · simpa only [if_neg hc] using hs.release (.wait false) nofun rfl rfl
  | testSize hpc =>
    rw [hpc] at hengaged
    by_cases hempty : s.sendBuf.contents = []
    · simpa only [if_pos hempty] using hs.release (.wait true) nofun rfl rfl
    · simpa only [if_neg hempty] using hs.release .get (fun _ => hengaged rfl) rfl rfl
  | get hpc =>
    rw [hpc] at hengaged
    refine { hs with
      buffer := hbuffer
      engaged := fun _ => hengaged rfl
      chunk := fun chunk hchunk hgoing => ?_
      socket := nofun }
    obtain rfl := Option.some.inj hchunk
    exact session_eq (hengaged rfl) hgoing
  | @load chunk hpc =>
    rw [hpc] at hengaged
    have hchunk := hs.chunk chunk (by rw [hpc]; rfl)
    refine { hs with
      buffer := hbuffer
      engaged := fun _ => hengaged rfl
      chunk := fun c hc hgoing => ?_
      socket := fun socket hsocket => (Option.some.inj hsocket).symm }
    obtain rfl := Option.some.inj hc
    exact hchunk hgoing
  | @sent result chunk socket hpc hlo hhi =>
    rw [hpc] at hengaged
    have hgoing := ha.2 result rfl
    have hchunk := hs.chunk chunk (by rw [hpc]; rfl) hgoing
    have hsocket := hs.socket socket (by rw [hpc]; rfl)
    have hsession := session_eq (hengaged rfl) hgoing
    refine { hs.release .lock nofun rfl rfl with
      buffer := hbuffer
      sends := List.forall_mem_append.mpr ⟨hs.sends, ?_⟩ }
    simp [hchunk, hsocket, hsession]
  | setConnected hpc =>
    exact hs.goOn true (by simp [hpc]) (by simp) rfl fun _ => by rw [hpc]; rfl
  | notifyConnected hpc =>
    exact hs.notify _ (by simp [hpc]) (fun _ => rfl) (fun _ => by rw [hpc]; rfl)
  | clearConnected hpc => exact hs.goOn false (by simp [hpc]) (by simp) rfl nofun
  | notifyCleared hpc => exact absurd hpc (ha.1 rfl)
  | acceptFails hpc => exact hs.accept hpc (by rw [hs.sockets, hpc]; rfl)
  | accepts hpc =>
    have hsockets := hs.sockets
    rw [if_pos hpc] at hsockets
    exact hs.accept hpc (by rw [hsockets]; rfl)
  | receiveEnds hpc => exact hs.goOn s.clientConnected (by simp [hpc]) (by simp) rfl nofun

/-- The end of a session leaves its socket open, and a `send` behind its receive loop
goes to a client that has left. -/
theorem not_socketsOwned_of_ended {s s' : Threads} {a : Action} (hs : s.FirstSession)
    (ha : ¬ WithinSession s a) (h : step s a = some s') : ¬ s'.SocketsOwned := by
  intro howned
  rw [WithinSession, not_and_or] at ha
  rcases ha with ha | ha
  · simp only [not_forall, not_not] at ha
    obtain ⟨rfl, hpc⟩ := ha
    have hopen := hs.sockets
    rw [hpc] at hopen
    simp only [step, serverStep, hpc, Option.some.injEq] at h
    subst h
    have hnone := howned.idle rfl
    exact absurd (hopen.symm.trans hnone) (by simp)
  · simp only [not_forall] at ha
    obtain ⟨result, rfl, hended⟩ := ha
    cases step_change hs.buffer h with
    | @sent _ chunk socket hpc hlo hhi =>
      have hevent := (howned.sends _ (List.mem_append_right _ (List.mem_singleton_self _))).2
      have hgone : s.session = none := by
        unfold session
        cases hst : s.server <;> simp_all [ServerStage.ended, ServerStage.inSession]
      simp [hgone] at hevent

/-- **Sockets are owned by one session exactly when the first session does not end, and
nothing is sent behind its receive loop.** -/
theorem socketsOwned_iff (actions : List Action) :
    Always step SocketsOwned {} actions ↔ EachStep step WithinSession {} actions :=
  always_iff_eachStep FirstSession.owned step_firstSession
    not_socketsOwned_of_ended init_firstSession actions

/-- A client that leaves and another that comes: both sockets are open. -/
theorem not_socketsOwned_reconnect :
    ¬ ∀ actions : List Action, Always step SocketsOwned {} actions := by
  intro h
  have hrun : run step {} [.accepted 5, .server, .server, .received 0, .server, .server,
      .accepted 6] = some { sckClient := 6, server := .setConnected, openSockets := [6, 5] } := rfl
  exact absurd ((h _).of_run hrun).single (by simp)

end CameraController.TCPServer.Threads
