import CameraController.CircularBufferRefinement
import CameraController.MessageEncoder
import CameraController.StateMachine

/-! # Logs on their way to the clients

Three threads take turns.  Whoever logs calls `sendLog`, whose frames
`sendData` puts into `send_buf` one by one; `fn_sender` takes up to 512 bytes out
of it and sends them; `fn_server` accepts a client, calls `receive` until `read`
answers nothing more, and accepts the next.  `send_buf` is only used under
`mtx_sender`, so a `put`, and a test of the sender's condition with the `get`
behind it, are one step each; `send` comes later, outside the lock, and goes to
whichever client `sck_client` then names.

The state ends with what is observed of a run: the frames put, and what each
client was sent.  A byte is recorded with its position among all bytes put, which
for the oldest byte stored is what was put less what is stored.

`Sound` is what every step keeps: everything sent, then what `fn_sender` holds,
then what is stored, are bytes that were put, each once and in order
(`step_sound`).  That it allows the buffer's operations shows that no thread is
ever stuck in one (`step_sendLog`, `step_put`, `step_take`). -/
namespace CameraController

open StateMachine

namespace TCPServer

def sendBufSize : Nat := 1024 * 1024

/-- `buf_size` of `fn_sender`. -/
def bufSize : Nat := 512

/-- Where `fn_server` is: in `accept`, before `client_connected = true`, in
`while (receive())`, and before `client_connected = false`. -/
inductive ServerPc where
  | accept
  | accepted
  | receiving
  | left
  deriving DecidableEq, Repr

/-- A byte and its position among all bytes put. -/
abbrev Placed := UInt8 × Nat

structure SendSide where
  /-- The encoder's buffer. -/
  encoderBuf : List UInt8
  /-- What the running `sendLog` has yet to pass to `sendData`. -/
  pending : List (List UInt8)
  sendBuf : CircularBuffer
  clientConnected : Bool
  server : ServerPc
  /-- Whether the client that `sck_client` names is connected. -/
  online : Bool
  /-- What `fn_sender` has taken and not sent. -/
  taken : Option (List Placed)
  /-- The frames put, oldest first. -/
  frames : List (List UInt8)
  /-- What each client was sent, the latest client first. -/
  connections : List (List Placed)
  deriving DecidableEq, Repr

namespace SendSide

/-- The server as it is constructed; the encoder's buffer is not initialised. -/
def init (encoderBuf : List UInt8) : SendSide where
  encoderBuf := encoderBuf
  pending := []
  sendBuf := CircularBuffer.new sendBufSize
  clientConnected := false
  server := .accept
  online := false
  taken := none
  frames := []
  connections := []

/-- A turn of one of the threads, or of a client. -/
inductive Action where
  /-- `sendLog` is called. -/
  | sendLog (str : List UInt8)
  /-- `sendData` puts the next frame. -/
  | put
  /-- `fn_sender` finds its condition false and takes bytes. -/
  | take
  /-- `fn_sender` sends them. -/
  | send
  /-- `accept` answers with a client. -/
  | accept
  /-- `accept` answers with an error, which `sck_client` takes as its value. -/
  | acceptFails
  /-- `client_connected = true`. -/
  | connected
  /-- The client closes its connection. -/
  | hangUp
  /-- `read` answers that there is nothing more. -/
  | readEnds
  /-- `client_connected = false`. -/
  | disconnected
  deriving DecidableEq, Repr

/-- `bytes` are sent to the latest client. -/
def sendTo (bytes : List Placed) : List (List Placed) → List (List Placed)
  | [] => []
  | client :: earlier => (client ++ bytes) :: earlier

/-- One step.  The frames of a `sendLog` are computed when it is called: nobody
else uses the encoder's buffer. -/
def step (s : SendSide) : Action → Option SendSide
  | .sendLog str =>
    if s.pending = [] ∧ str.length < 2 ^ 64 then do
      let (encoderBuf, pending) ← MessageEncoder.sendLog s.encoderBuf str
      return { s with encoderBuf, pending }
    else
      none
  | .put =>
    match s.pending with
    | [] => none
    | frame :: pending => do
      let sendBuf ← s.sendBuf.put frame
      return { s with pending, sendBuf, frames := s.frames ++ [frame] }
  | .take =>
    if s.taken = none ∧ s.clientConnected = true ∧ s.sendBuf.currentSize ≠ 0 then do
      let (len, buf, sendBuf) ← s.sendBuf.get bufSize
      let position := s.frames.flatten.length - s.sendBuf.currentSize
      return { s with sendBuf, taken := some ((buf.take len).zipIdx position) }
    else
      none
  | .send =>
    match s.taken with
    | none => none
    | some bytes =>
      if s.online then
        some { s with taken := none, connections := sendTo bytes s.connections }
      else
        -- the client is gone, and the bytes with it
        some { s with taken := none }
  | .accept =>
    if s.server = .accept then
      some { s with server := .accepted, online := true, connections := [] :: s.connections }
    else
      none
  | .acceptFails => if s.server = .accept then some { s with online := false } else none
  | .connected =>
    if s.server = .accepted then
      some { s with server := .receiving, clientConnected := true }
    else
      none
  | .hangUp => if s.online then some { s with online := false } else none
  | .readEnds => if s.server = .receiving then some { s with server := .left } else none
  | .disconnected =>
    if s.server = .left then
      some { s with server := .accept, clientConnected := false }
    else
      none

/-! ## What a run keeps -/

/-- The bytes sent to anyone, in the order they were sent. -/
def sent (s : SendSide) : List Placed := s.connections.reverse.flatten

/-- What `fn_sender` holds. -/
def inHand (s : SendSide) : List Placed := s.taken.getD []

/-- These are frames of log messages with data. -/
def LogFrames (frames : List (List UInt8)) : Prop :=
  ∃ pieces : List (List UInt8), frames = pieces.map (frame MessageType.log.code) ∧
    ∀ p ∈ pieces, 1 ≤ p.length ∧ p.length ≤ 0xFFFF

theorem logFrames_nil : LogFrames [] := ⟨[], rfl, by simp⟩

theorem logFrames_append {frames frames' : List (List UInt8)} :
    LogFrames (frames ++ frames') ↔ LogFrames frames ∧ LogFrames frames' := by
  constructor
  · rintro ⟨pieces, heq, hbounds⟩
    obtain ⟨ps, ps', rfl, rfl, rfl⟩ := List.map_eq_append_iff.mp heq.symm
    exact ⟨⟨ps, rfl, fun p hp => hbounds p (by simp [hp])⟩,
      ⟨ps', rfl, fun p hp => hbounds p (by simp [hp])⟩⟩
  · rintro ⟨⟨ps, rfl, hps⟩, ⟨ps', rfl, hps'⟩⟩
    exact ⟨ps ++ ps', List.map_append.symm, List.forall_mem_append.mpr ⟨hps, hps'⟩⟩

/-- **What every step keeps.**  `past` are the bytes put that are not stored any
more. -/
structure Sound (s : SendSide) : Prop where
  encoderBuf : s.encoderBuf.length = msgMaxLength
  pending : LogFrames s.pending
  frames : LogFrames s.frames
  sendBuf : s.sendBuf.Valid
  size : s.sendBuf.size = sendBufSize
  inOrder : ∃ past, s.frames.flatten = past ++ s.sendBuf.contents ∧
    (s.sent ++ s.inHand).Sublist past.zipIdx

theorem init_sound {buf : List UInt8} (hbuf : buf.length = msgMaxLength) : (init buf).Sound where
  encoderBuf := hbuf
  pending := logFrames_nil
  frames := logFrames_nil
  sendBuf := CircularBuffer.new_valid (by decide) (by decide)
  size := rfl
  inOrder := ⟨[], by simp [init], by simp [init, sent, inHand]⟩

variable {s s' : SendSide}

/-- `currentSize()` tells how long the past is. -/
theorem Sound.position_eq (h : s.Sound) {past : List UInt8}
    (hpast : s.frames.flatten = past ++ s.sendBuf.contents) :
    s.frames.flatten.length - s.sendBuf.currentSize = past.length := by
  rw [CircularBuffer.currentSize_eq h.sendBuf, hpast, List.length_append, Nat.add_sub_cancel]

/-! ## What a step does -/

/-- `sendLog` is defined, and its text is put in pieces. -/
theorem step_sendLog (h : s.Sound) (hidle : s.pending = []) (str : List UInt8)
    (hstr : str.length < 2 ^ 64) :
    ∃ buf pieces, step s (.sendLog str) =
        some { s with encoderBuf := buf, pending := pieces.map (frame MessageType.log.code) } ∧
      buf.length = msgMaxLength ∧ MessageEncoder.IsSplit str pieces := by
  obtain ⟨buf, pieces, hsend, hbuf, hsplit⟩ := MessageEncoder.sendLog_spec h.encoderBuf hstr
  refine ⟨buf, pieces, ?_, hbuf, hsplit⟩
  simp only [step, if_pos (And.intro hidle hstr), hsend]
  rfl

/-- A `put` is defined, and pushes the frame. -/
theorem step_put (h : s.Sound) {f : List UInt8} {rest : List (List UInt8)}
    (hpending : s.pending = f :: rest) :
    ∃ cb : CircularBuffer, step s .put =
        some { s with pending := rest, sendBuf := cb, frames := s.frames ++ [f] } ∧
      cb.Valid ∧ cb.size = sendBufSize ∧
      cb.contents = RingBuffer.push sendBufSize s.sendBuf.contents f := by
  obtain ⟨cb, hput, hvalid, hsize, hcontents⟩ := CircularBuffer.put_spec h.sendBuf f
  rw [h.size] at hsize hcontents
  exact ⟨cb, by simp [step, hpending, hput], hvalid, hsize, hcontents⟩

/-- A `get` is defined, and takes the oldest bytes. -/
theorem step_take (h : s.Sound) (hfree : s.taken = none) (hconn : s.clientConnected = true)
    (hne : s.sendBuf.currentSize ≠ 0) :
    ∃ cb : CircularBuffer, step s .take =
        some { s with
          sendBuf := cb
          taken := some ((s.sendBuf.contents.take bufSize).zipIdx
            (s.frames.flatten.length - s.sendBuf.currentSize)) } ∧
      cb.Valid ∧ cb.size = sendBufSize ∧ cb.contents = s.sendBuf.contents.drop bufSize := by
  obtain ⟨cb, hget, hvalid, hsize, hcontents⟩ := CircularBuffer.get_spec h.sendBuf bufSize
  rw [h.size] at hsize
  have hall : (s.sendBuf.contents.take bufSize).take (min bufSize s.sendBuf.contents.length) =
      s.sendBuf.contents.take bufSize := List.take_of_length_le (Nat.le_of_eq List.length_take)
  refine ⟨cb, ?_, hvalid, hsize, hcontents⟩
  simp only [step, hfree, hconn, hne, hget, hall, ne_eq, not_false_eq_true, and_self, if_true,
    Option.bind_eq_bind, Option.bind_some]
  rfl

/-- A client comes and is sent a chunk. -/
def serveChunk : List Action := [.accept, .connected, .take, .send]

/-- **A client that comes is sent the oldest bytes.** -/
theorem run_serveChunk (h : s.Sound) (hserver : s.server = .accept) (hfree : s.taken = none)
    (hne : s.sendBuf.contents ≠ []) :
    ∃ cb : CircularBuffer, run step s serveChunk = some { s with
        sendBuf := cb
        clientConnected := true
        server := .receiving
        online := true
        taken := none
        connections := (s.sendBuf.contents.take bufSize).zipIdx
          (s.frames.flatten.length - s.sendBuf.contents.length) :: s.connections } ∧
      cb.contents = s.sendBuf.contents.drop bufSize := by
  have haccept : step s .accept = some { s with
      server := .accepted, online := true, connections := [] :: s.connections } := by
    simp [step, hserver]
  have hconnected : step { s with
        server := .accepted, online := true, connections := [] :: s.connections } .connected =
      some { s with
        server := .receiving, online := true, clientConnected := true,
        connections := [] :: s.connections } := rfl
  have hready : Sound { s with
      server := .receiving, online := true, clientConnected := true,
      connections := [] :: s.connections } := by
    obtain ⟨past, hpast, horder⟩ := h.inOrder
    exact { h with inOrder := ⟨past, hpast, by simpa [sent, inHand] using horder⟩ }
  have hsize := CircularBuffer.currentSize_eq h.sendBuf
  obtain ⟨cb, htake, -, -, hcontents⟩ := step_take hready hfree rfl (by
    rw [hsize]
    exact fun h0 => hne (List.length_eq_zero_iff.mp h0))
  rw [hsize] at htake
  refine ⟨cb, ?_, hcontents⟩
  simp only [serveChunk, run, haccept, hconnected, htake, Option.bind_some]
  rfl

/-! ## Every step keeps it -/

theorem sound_sendLog (h : s.Sound) {str : List UInt8} (hs : step s (.sendLog str) = some s') :
    s'.Sound := by
  obtain ⟨⟨hidle, hstr⟩, -⟩ := Option.ite_none_right_eq_some.mp hs
  obtain ⟨buf, pieces, hstep, hbuf, hsplit⟩ := step_sendLog h hidle str hstr
  obtain rfl := Option.some.inj (hstep.symm.trans hs)
  exact { h with encoderBuf := hbuf, pending := ⟨pieces, rfl, hsplit.bounds⟩ }

theorem sound_put (h : s.Sound) (hs : step s .put = some s') : s'.Sound := by
  cases hpending : s.pending with
  | nil => simp [step, hpending] at hs
  | cons f rest =>
    obtain ⟨cb, hstep, hvalid, hsize, hcontents⟩ := step_put h hpending
    obtain rfl := Option.some.inj (hstep.symm.trans hs)
    obtain ⟨past, hpast, horder⟩ := h.inOrder
    -- what the push drops is past now
    obtain ⟨dropped, hdropped⟩ := RingBuffer.rtake_suffix (s.sendBuf.contents ++ f) sendBufSize
    have hlog := h.pending
    rw [hpending, ← List.singleton_append, logFrames_append] at hlog
    refine ⟨h.encoderBuf, hlog.2, logFrames_append.mpr ⟨h.frames, hlog.1⟩, hvalid, hsize,
      past ++ dropped, ?_, ?_⟩
    · rw [List.flatten_append, List.flatten_singleton, hpast, hcontents, RingBuffer.push,
        List.append_assoc, List.append_assoc, hdropped]
    · rw [List.zipIdx_append]
      exact horder.trans (List.sublist_append_left _ _)

theorem sound_take (h : s.Sound) (hs : step s .take = some s') : s'.Sound := by
  obtain ⟨⟨hfree, hconn, hne⟩, -⟩ := Option.ite_none_right_eq_some.mp hs
  obtain ⟨cb, hstep, hvalid, hsize, hcontents⟩ := step_take h hfree hconn hne
  obtain rfl := Option.some.inj (hstep.symm.trans hs)
  obtain ⟨past, hpast, horder⟩ := h.inOrder
  rw [inHand, hfree, Option.getD_none, List.append_nil] at horder
  refine { h with
    sendBuf := hvalid
    size := hsize
    inOrder := ⟨past ++ s.sendBuf.contents.take bufSize, ?_, ?_⟩ }
  · rw [hcontents, List.append_assoc, List.take_append_drop, hpast]
  · simp only [inHand, Option.getD_some, h.position_eq hpast]
    rw [List.zipIdx_append, Nat.zero_add]
    exact horder.append_right _

theorem sendTo_sublist (bytes : List Placed) (connections : List (List Placed)) :
    ((sendTo bytes connections).reverse.flatten).Sublist
      (connections.reverse.flatten ++ bytes) := by
  cases connections with
  | nil => exact List.nil_sublist _
  | cons client earlier => simp [sendTo]

theorem sound_send (h : s.Sound) (hs : step s .send = some s') : s'.Sound := by
  cases htaken : s.taken with
  | none => simp [step, htaken] at hs
  | some bytes =>
    obtain ⟨past, hpast, horder⟩ := h.inOrder
    rw [inHand, htaken, Option.getD_some] at horder
    simp only [step, htaken] at hs
    split at hs <;> obtain rfl := Option.some.inj hs <;>
      refine { h with inOrder := ⟨past, hpast, ?_⟩ } <;>
      rw [inHand, Option.getD_none, List.append_nil]
    · exact (sendTo_sublist bytes s.connections).trans horder
    · exact (List.sublist_append_left _ _).trans horder

/-- **Every step keeps what was put in order.** -/
theorem step_sound {a : Action} (h : s.Sound) (hs : step s a = some s') : s'.Sound := by
  cases a with
  | sendLog str => exact sound_sendLog h hs
  | put => exact sound_put h hs
  | take => exact sound_take h hs
  | send => exact sound_send h hs
  | accept =>
    obtain ⟨-, hs⟩ := Option.ite_none_right_eq_some.mp hs
    obtain rfl := Option.some.inj hs
    obtain ⟨past, hpast, horder⟩ := h.inOrder
    exact { h with inOrder := ⟨past, hpast, by simpa [sent, inHand] using horder⟩ }
  | acceptFails | connected | hangUp | readEnds | disconnected =>
    obtain ⟨-, hs⟩ := Option.ite_none_right_eq_some.mp hs
    obtain rfl := Option.some.inj hs
    exact { h with }

end SendSide
end TCPServer
end CameraController
