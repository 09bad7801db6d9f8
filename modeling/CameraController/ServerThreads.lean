import CameraController.SendSide

/-! # The server's threads, one access at a time

`fn_sender`, `fn_server` and the callers of `sendData` once more, cut at every
access to what they share: the mutex, `client_connected`, `sck_client`, the waiting
and the notifications of `cv_sender`, and the sockets.  Only `send_buf` is used
under the mutex.  `fn_sender` evaluates its condition in two reads and may wake up
for no reason; `fn_server` writes `client_connected` and notifies without the mutex.

What a run is judged by is recorded on the way: the bytes passed to `sendData`,
which of them a `put` overwrote, which ones `send` accepted, and where each `send`
went.

`step_change` says once what each step does (`Change`). -/
namespace CameraController

namespace TCPServer

/-- What `fn_sender` took, and the socket of the client that was connected then. -/
structure Chunk where
  bytes : List UInt8
  client : Option Int
  deriving DecidableEq, Repr

/-- A call of `send`: the socket it was given, the client its chunk was taken for,
and whether the receive loop of that socket's client was still running. -/
structure Sent where
  socket : Int
  client : Option Int
  receiving : Bool
  deriving DecidableEq, Repr

namespace Threads

/-- Where `fn_sender` is. -/
inductive SenderStage where
  /-- Before `unique_lock`. -/
  | lock
  /-- Before it reads `client_connected`. -/
  | testConnected
  /-- Before it reads `currentSize()`. -/
  | testSize
  /-- Its condition was true, `client_connected` having been `sawClient`. -/
  | wait (sawClient : Bool)
  | parked
  | woken
  | get
  /-- Before it reads `sck_client`. -/
  | load (chunk : Chunk)
  | send (chunk : Chunk) (socket : Int)
  deriving DecidableEq, Repr

/-- It holds `mtx_sender`. -/
def SenderStage.locked : SenderStage → Bool
  | testConnected | testSize | wait _ | get => true
  | _ => false

/-- The bytes it has taken and not sent. -/
def SenderStage.inHand : SenderStage → List UInt8
  | load chunk | send chunk _ => chunk.bytes
  | _ => []

/-- After a notification. -/
def SenderStage.notified : SenderStage → SenderStage
  | parked => woken
  | pc => pc

@[simp] theorem SenderStage.inHand_notified (pc : SenderStage) :
    pc.notified.inHand = pc.inHand := by
  cases pc <;> rfl

/-- Where `fn_server` is. -/
inductive ServerStage where
  | accept
  | setConnected
  | notifyConnected
  | receiving
  | clearConnected
  | notifyCleared
  deriving DecidableEq, Repr

/-- It is about to notify. -/
def ServerStage.notifies : ServerStage → Bool
  | notifyConnected | notifyCleared => true
  | _ => false

/-- It has accepted a client and `receive` still answers `true`. -/
def ServerStage.inSession : ServerStage → Bool
  | setConnected | notifyConnected | receiving => true
  | _ => false

end Threads

open Threads

structure Threads where
  sendBuf : CircularBuffer := .new sendBufSize
  clientConnected : Bool := false
  sckClient : Int := -1
  sender : SenderStage := .lock
  server : ServerStage := .accept
  /-- The calls of `sendData` that have put and not yet notified. -/
  notifying : Nat := 0
  /-- What `accept` gave and nobody closed. -/
  openSockets : List Int := []
  /-- The bytes passed to `sendData`, oldest first. -/
  data : List UInt8 := []
  /-- The positions in `data` that a `put` overwrote. -/
  overwritten : List Nat := []
  /-- The bytes that `send` accepted, oldest first. -/
  accepted : List UInt8 := []
  sends : List Sent := []
  deriving DecidableEq, Repr

namespace Threads

/-- Whose turn it is, and what the outside answers. -/
inductive Action where
  /-- `sendData` puts, under the mutex. -/
  | put (values : List UInt8)
  /-- `sendData` notifies. -/
  | notify
  /-- `fn_sender` goes on. -/
  | sender
  /-- `wait` returns for no reason. -/
  | spurious
  /-- `send` answers. -/
  | sent (result : Int)
  /-- `fn_server` goes on. -/
  | server
  /-- `accept` answers. -/
  | accepted (result : Int)
  /-- `read` answers. -/
  | received (result : Int)
  deriving DecidableEq, Repr

/-- `cv_sender.notify_one()`. -/
def notifyOne (s : Threads) : Threads := { s with sender := s.sender.notified }

/-- The socket of the client whose receive loop is running. -/
def session (s : Threads) : Option Int := if s.server.inSession then some s.sckClient else none

/-- `sendData`, up to its notification.  What does not fit is overwritten, oldest
first. -/
def put (s : Threads) (values : List UInt8) : Option Threads :=
  if s.sender.locked then none
  else do
    let sendBuf ← s.sendBuf.put values
    let size := s.sendBuf.currentSize
    return { s with
      sendBuf
      notifying := s.notifying + 1
      data := s.data ++ values
      overwritten := s.overwritten ++
        List.range' (s.data.length - size) (size + values.length - s.sendBuf.size) }

/-- The next access of `fn_sender`, other than `send`. -/
def senderStep (s : Threads) : Option Threads :=
  match s.sender with
  | .lock => some { s with sender := .testConnected }
  | .testConnected =>
    some { s with sender := if s.clientConnected then .testSize else .wait false }
  | .testSize => some { s with sender := if s.sendBuf.currentSize = 0 then .wait true else .get }
  | .wait _ => some { s with sender := .parked }
  | .parked => none
  | .woken => some { s with sender := .testConnected }
  | .get => do
    let (len, buf, sendBuf) ← s.sendBuf.get bufSize
    return { s with sendBuf, sender := .load ⟨buf.take len, s.session⟩ }
  | .load chunk => some { s with sender := .send chunk s.sckClient }
  | .send _ _ => none

/-- The next access of `fn_server`, other than `accept` and `read`. -/
def serverStep (s : Threads) : Option Threads :=
  match s.server with
  | .setConnected => some { s with clientConnected := true, server := .notifyConnected }
  | .notifyConnected => some { s.notifyOne with server := .receiving }
  | .clearConnected => some { s with clientConnected := false, server := .notifyCleared }
  | .notifyCleared => some { s.notifyOne with server := .accept }
  | .accept => none
  | .receiving => none

/-- One step.  A socket that is open is not given to another client, and `send`
accepts some of its bytes, or answers -1. -/
def step (s : Threads) : Action → Option Threads
  | .put values => s.put values
  | .notify => if s.notifying = 0 then none else
    some { s.notifyOne with notifying := s.notifying - 1 }
  | .sender => s.senderStep
  | .spurious => if s.sender = .parked then some { s with sender := .woken } else none
  | .sent result =>
    match s.sender with
    | .send chunk socket =>
      if -1 ≤ result ∧ result ≤ chunk.bytes.length then
        some { s with
          sender := .lock
          accepted := s.accepted ++ chunk.bytes.take result.toNat
          sends := s.sends ++ [⟨socket, chunk.client, decide (s.session = some socket)⟩] }
      else none
    | _ => none
  | .server => s.serverStep
  | .accepted result =>
    if s.server = .accept then
      if result < 0 then some { s with sckClient := result }
      else if result ∈ s.openSockets then none
      else some { s with
        sckClient := result
        openSockets := result :: s.openSockets
        server := .setConnected }
    else none
  | .received result =>
    if s.server = .receiving then
      if result > 0 then some s else some { s with server := .clearConnected }
    else none

/-! ## What a step does -/

/-- The ring is valid, and of the size it was constructed with. -/
structure BufferOk (s : Threads) : Prop where
  valid : s.sendBuf.Valid
  size : s.sendBuf.size = sendBufSize

theorem init_bufferOk : ({} : Threads).BufferOk :=
  ⟨CircularBuffer.new_valid (by decide) (by decide), rfl⟩

/-- What a step can do. -/
inductive Change (s : Threads) : Action → Threads → Prop
  | put (values : List UInt8) {cb : CircularBuffer} (hfree : s.sender.locked = false)
      (hvalid : cb.Valid) (hsize : cb.size = sendBufSize)
      (hcontents : cb.contents = RingBuffer.push sendBufSize s.sendBuf.contents values) :
      Change s (.put values) { s with
        sendBuf := cb
        notifying := s.notifying + 1
        data := s.data ++ values
        overwritten := s.overwritten ++
          List.range' (s.data.length - s.sendBuf.contents.length)
            (s.sendBuf.contents.length + values.length - sendBufSize) }
  | notify (hpos : s.notifying ≠ 0) :
      Change s .notify { s.notifyOne with notifying := s.notifying - 1 }
  | lock (hpc : s.sender = .lock ∨ s.sender = .woken) :
      Change s .sender { s with sender := .testConnected }
  | testConnected (hpc : s.sender = .testConnected) :
      Change s .sender
        { s with sender := if s.clientConnected then .testSize else .wait false }
  | testSize (hpc : s.sender = .testSize) :
      Change s .sender
        { s with sender := if s.sendBuf.contents = [] then .wait true else .get }
  | park {sawClient : Bool} (hpc : s.sender = .wait sawClient) :
      Change s .sender { s with sender := .parked }
  | get {cb : CircularBuffer} (hpc : s.sender = .get) (hvalid : cb.Valid)
      (hsize : cb.size = sendBufSize) (hcontents : cb.contents = s.sendBuf.contents.drop bufSize) :
      Change s .sender { s with
        sendBuf := cb
        sender := .load ⟨s.sendBuf.contents.take bufSize, s.session⟩ }
  | load {chunk : Chunk} (hpc : s.sender = .load chunk) :
      Change s .sender { s with sender := .send chunk s.sckClient }
  | spurious (hpc : s.sender = .parked) : Change s .spurious { s with sender := .woken }
  | sent {result : Int} {chunk : Chunk} {socket : Int} (hpc : s.sender = .send chunk socket)
      (hlo : -1 ≤ result) (hhi : result ≤ chunk.bytes.length) :
      Change s (.sent result) { s with
        sender := .lock
        accepted := s.accepted ++ chunk.bytes.take result.toNat
        sends := s.sends ++ [⟨socket, chunk.client, decide (s.session = some socket)⟩] }
  | setConnected (hpc : s.server = .setConnected) :
      Change s .server { s with clientConnected := true, server := .notifyConnected }
  | notifyConnected (hpc : s.server = .notifyConnected) :
      Change s .server { s.notifyOne with server := .receiving }
  | clearConnected (hpc : s.server = .clearConnected) :
      Change s .server { s with clientConnected := false, server := .notifyCleared }
  | notifyCleared (hpc : s.server = .notifyCleared) :
      Change s .server { s.notifyOne with server := .accept }
  | acceptFails {result : Int} (hpc : s.server = .accept) (hneg : result < 0) :
      Change s (.accepted result) { s with sckClient := result }
  | accepts {result : Int} (hpc : s.server = .accept) (hpos : 0 ≤ result)
      (hnew : result ∉ s.openSockets) :
      Change s (.accepted result) { s with
        sckClient := result
        openSockets := result :: s.openSockets
        server := .setConnected }
  | receives {result : Int} (hpc : s.server = .receiving) (hpos : 0 < result) :
      Change s (.received result) s
  | receiveEnds {result : Int} (hpc : s.server = .receiving) (hend : result ≤ 0) :
      Change s (.received result) { s with server := .clearConnected }

variable {s s' : Threads}

/-- A `put` is defined when nobody has the mutex. -/
theorem put_spec (hs : s.BufferOk) (hfree : s.sender.locked = false) (values : List UInt8) :
    ∃ cb : CircularBuffer, s.put values = some { s with
        sendBuf := cb
        notifying := s.notifying + 1
        data := s.data ++ values
        overwritten := s.overwritten ++
          List.range' (s.data.length - s.sendBuf.contents.length)
            (s.sendBuf.contents.length + values.length - sendBufSize) } ∧
      cb.Valid ∧ cb.size = sendBufSize ∧
      cb.contents = RingBuffer.push sendBufSize s.sendBuf.contents values := by
  obtain ⟨cb, hput, hvalid, hsize, hcontents⟩ := CircularBuffer.put_spec hs.valid values
  rw [hs.size] at hsize hcontents
  refine ⟨cb, ?_, hvalid, hsize, hcontents⟩
  simp only [put, hfree, hput, hs.size, CircularBuffer.currentSize_eq hs.valid,
    Option.bind_eq_bind, Option.bind_some, Bool.false_eq_true, if_false]
  rfl

/-- A `get` is defined. -/
theorem get_spec (hs : s.BufferOk) (hpc : s.sender = .get) :
    ∃ cb : CircularBuffer, s.senderStep = some { s with
        sendBuf := cb
        sender := .load ⟨s.sendBuf.contents.take bufSize, s.session⟩ } ∧
      cb.Valid ∧ cb.size = sendBufSize ∧ cb.contents = s.sendBuf.contents.drop bufSize := by
  obtain ⟨cb, hget, hvalid, hsize, hcontents⟩ := CircularBuffer.get_spec hs.valid bufSize
  have hall : (s.sendBuf.contents.take bufSize).take (min bufSize s.sendBuf.contents.length) =
      s.sendBuf.contents.take bufSize := List.take_of_length_le (Nat.le_of_eq List.length_take)
  refine ⟨cb, ?_, hvalid, hsize.trans hs.size, hcontents⟩
  simp only [senderStep, hpc, hget, hall, Option.bind_eq_bind, Option.bind_some]
  rfl

theorem senderStep_change (hs : s.BufferOk) (h : s.senderStep = some s') :
    Change s .sender s' := by
  cases hpc : s.sender with
  | lock =>
    rw [senderStep, hpc] at h
    obtain rfl := Option.some.inj h
    exact .lock (Or.inl hpc)
  | woken =>
    rw [senderStep, hpc] at h
    obtain rfl := Option.some.inj h
    exact .lock (Or.inr hpc)
  | testConnected =>
    rw [senderStep, hpc] at h
    obtain rfl := Option.some.inj h
    exact .testConnected hpc
  | testSize =>
    rw [senderStep, hpc, CircularBuffer.currentSize_eq hs.valid] at h
    simp only [List.length_eq_zero_iff] at h
    obtain rfl := Option.some.inj h
    exact .testSize hpc
  | wait sawClient =>
    rw [senderStep, hpc] at h
    obtain rfl := Option.some.inj h
    exact .park hpc
  | get =>
    obtain ⟨cb, hget, hvalid, hsize, hcontents⟩ := get_spec hs hpc
    obtain rfl := Option.some.inj (hget.symm.trans h)
    exact .get hpc hvalid hsize hcontents
  | load chunk =>
    rw [senderStep, hpc] at h
    obtain rfl := Option.some.inj h
    exact .load hpc
  | parked | send _ _ => simp [senderStep, hpc] at h

theorem serverStep_change (h : s.serverStep = some s') : Change s .server s' := by
  unfold serverStep at h
  cases hpc : s.server <;> rw [hpc] at h <;> cases h
  · exact .setConnected hpc
  · exact .notifyConnected hpc
  · exact .clearConnected hpc
  · exact .notifyCleared hpc

theorem put_change (hs : s.BufferOk) {values : List UInt8} (h : s.put values = some s') :
    Change s (.put values) s' := by
  have hfree : s.sender.locked = false := by
    by_contra hlocked
    simp [put, hlocked] at h
  obtain ⟨cb, hput, hvalid, hsize, hcontents⟩ := put_spec hs hfree values
  obtain rfl := Option.some.inj (hput.symm.trans h)
  exact .put values hfree hvalid hsize hcontents

theorem sent_change {result : Int} (h : step s (.sent result) = some s') :
    Change s (.sent result) s' := by
  cases hpc : s.sender with
  | send chunk socket =>
    simp only [step, hpc] at h
    obtain ⟨⟨hlo, hhi⟩, h⟩ := Option.ite_none_right_eq_some.mp h
    obtain rfl := Option.some.inj h
    exact .sent hpc hlo hhi
  | _ => simp [step, hpc] at h

/-- **What each step does.** -/
theorem step_change (hs : s.BufferOk) {a : Action} (h : step s a = some s') : Change s a s' := by
  cases a with
  | put values => exact put_change hs h
  | sender => exact senderStep_change hs h
  | server => exact serverStep_change h
  | notify =>
    obtain ⟨hpos, h⟩ := Option.ite_none_left_eq_some.mp h
    obtain rfl := Option.some.inj h
    exact .notify hpos
  | spurious =>
    obtain ⟨hpc, h⟩ := Option.ite_none_right_eq_some.mp h
    obtain rfl := Option.some.inj h
    exact .spurious hpc
  | sent result => exact sent_change h
  | accepted result =>
    obtain ⟨hpc, h⟩ := Option.ite_none_right_eq_some.mp h
    by_cases hneg : result < 0
    · rw [if_pos hneg] at h
      obtain rfl := Option.some.inj h
      exact .acceptFails hpc hneg
    · rw [if_neg hneg] at h
      obtain ⟨hnew, h⟩ := Option.ite_none_left_eq_some.mp h
      obtain rfl := Option.some.inj h
      exact .accepts hpc (Int.not_lt.mp hneg) hnew
  | received result =>
    obtain ⟨hpc, h⟩ := Option.ite_none_right_eq_some.mp h
    by_cases hmore : result > 0
    · rw [if_pos hmore] at h
      obtain rfl := Option.some.inj h
      exact .receives hpc hmore
    · rw [if_neg hmore] at h
      obtain rfl := Option.some.inj h
      exact .receiveEnds hpc (Int.not_lt.mp hmore)

theorem Change.bufferOk {a : Action} (hs : s.BufferOk) (h : Change s a s') : s'.BufferOk := by
  cases h with
  | put values hfree hvalid hsize hcontents => exact ⟨hvalid, hsize⟩
  | get hpc hvalid hsize hcontents => exact ⟨hvalid, hsize⟩
  | _ => exact ⟨hs.valid, hs.size⟩

/-- A byte was logged, and a client is connected to socket 5. -/
def oneClient (sendBuf : CircularBuffer) (sender : SenderStage) : Threads where
  sendBuf := sendBuf
  clientConnected := true
  sckClient := 5
  sender := sender
  server := .receiving
  openSockets := [5]
  data := [0x41]

/-- A byte put into the empty buffer. -/
theorem exists_put (b : UInt8) :
    ∃ cb : CircularBuffer, step {} (.put [b]) =
        some { sendBuf := cb, notifying := 1, data := [b] } ∧
      cb.Valid ∧ cb.size = sendBufSize ∧ cb.contents = [b] := by
  obtain ⟨cb, hput, hvalid, hsize, hcontents⟩ := put_spec init_bufferOk rfl [b]
  have hempty : ({} : Threads).sendBuf.contents = [] := CircularBuffer.new_contents _
  rw [hempty] at hput hcontents
  refine ⟨cb, Eq.trans hput ?_, hvalid, hsize, ?_⟩
  · simp [sendBufSize]
  rw [hcontents, RingBuffer.push_of_length_le (by simp [sendBufSize]), List.nil_append]

end Threads
end TCPServer
end CameraController
