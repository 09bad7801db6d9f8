import CameraController.Framing
import CameraController.LossyStream
import CameraController.Resynchronisation
import CameraController.SendSide

/-! # What a client makes of the logs

A client that reads with a decoder of its own gets, of the frames put, what the
ring buffer has kept and no earlier client was sent.  Neither stops at the
borders of frames, so a client can be sent the end of a frame whose beginning is
lost, and take log data for a frame (`not_genuine_disguised`).

`genuine_of_covered`: a client to which each frame comes whole, or in a part that the
decoder skips, or cut short at the very end, decodes messages that were sent, each
once and in order.  The decoder skips a part when every run of first magic words that
stands in front of a second one, or at the end, is even (`Skippable`). -/
namespace CameraController

open StateMachine LossyStream MessageDecoder

namespace TCPServer
namespace SendSide

/-! ## One chunk for each client -/

/-- The turns of a client that is sent one chunk and leaves. -/
def oneChunk : List Action :=
  [.accept, .connected, .take, .send, .hangUp, .readEnds, .disconnected]

/-- **A client that is sent one chunk and leaves takes it out of the buffer.** -/
theorem run_oneChunk {s : SendSide} (h : s.Sound) (hserver : s.server = .accept)
    (hfree : s.taken = none) (hne : s.sendBuf.contents ≠ []) :
    ∃ s', run step s oneChunk = some s' ∧ s'.server = .accept ∧ s'.taken = none ∧
      s'.frames = s.frames ∧ s'.sendBuf.contents = s.sendBuf.contents.drop bufSize ∧
      s'.connections = (s.sendBuf.contents.take bufSize).zipIdx
        (s.frames.flatten.length - s.sendBuf.contents.length) :: s.connections := by
  obtain ⟨cb, hrun, hcontents⟩ := run_serveChunk h hserver hfree hne
  refine ⟨{ s with
    sendBuf := cb, taken := none, clientConnected := false, server := .accept, online := false,
    connections := (s.sendBuf.contents.take bufSize).zipIdx
      (s.frames.flatten.length - s.sendBuf.contents.length) :: s.connections }, ?_, rfl, rfl, rfl,
    hcontents, rfl⟩
  rw [show oneChunk = serveChunk ++ [.hangUp, .readEnds, .disconnected] from rfl, run_append, hrun]
  rfl

/-- A log, put into the empty buffer. -/
theorem exists_put {buf : List UInt8} (hbuf : buf.length = msgMaxLength) (text : List UInt8)
    (hpos : 1 ≤ text.length) (hle : text.length ≤ 0xFFFF) :
    ∃ s, Reachable step (init buf) s ∧ s.server = .accept ∧ s.taken = none ∧
      s.connections = [] ∧ s.frames = [frame MessageType.log.code text] ∧
      s.sendBuf.contents = frame MessageType.log.code text := by
  have hinit := init_sound hbuf
  obtain ⟨buf', pieces, hlog, -, hsplit⟩ := step_sendLog hinit rfl text (by omega)
  have hone : pieces = [text] := hsplit.eq_singleton hpos hle
  subst hone
  have hsound := step_sound hinit hlog
  obtain ⟨cb, hput, -, -, hcontents⟩ := step_put hsound rfl
  refine ⟨{ init buf with
    encoderBuf := buf', sendBuf := cb, frames := [frame MessageType.log.code text] },
    ⟨[.sendLog text, .put], ?_⟩, rfl, rfl, rfl, rfl, ?_⟩
  · simp only [run, hlog, Option.bind_some]
    exact congrArg (Option.bind · _) hput
  · have hempty : (init buf).sendBuf.contents = [] := CircularBuffer.new_contents _
    have hfit : ([] : List UInt8).length + (frame MessageType.log.code text).length ≤
        sendBufSize := by
      rw [length_frame, List.length_nil, msgHeaderSize, sendBufSize]
      omega
    rw [hcontents]
    show RingBuffer.push sendBufSize (init buf).sendBuf.contents _ = _
    rw [hempty, RingBuffer.push_of_length_le hfit, List.nil_append]

/-! ## Frames got whole -/

/-- However the bytes sent to `client` are cut into reads, a fresh decoder makes of
them the messages of some of the frames, in order. -/
def Genuine (frames : List (List UInt8)) (client : List Placed) : Prop :=
  ∃ pieces : List (List UInt8), frames = pieces.map (frame MessageType.log.code) ∧
    ∀ chunks : List (List UInt8), (∀ chunk ∈ chunks, chunk.length < 2 ^ 64) →
      chunks.flatten = client.map Prod.fst →
      ∃ d messages, decodeAll record {} chunks = .ok (d, messages) ∧
        messages.Sublist (pieces.map (Message.complete MessageType.log.code))

/-- Everything sent was put, and was sent in the order it was put. -/
theorem Sound.sent_sublist {s : SendSide} (h : s.Sound) :
    (s.sent).Sublist s.frames.flatten.zipIdx := by
  obtain ⟨past, hpast, horder⟩ := h.inOrder
  rw [hpast, List.zipIdx_append]
  exact ((List.sublist_append_left _ _).trans horder).trans (List.sublist_append_left _ _)

theorem Sound.connection_sublist {s : SendSide} (h : s.Sound) {client : List Placed}
    (hclient : client ∈ s.connections) : client.Sublist s.frames.flatten.zipIdx :=
  (List.sublist_flatten_of_mem (List.mem_reverse.mpr hclient)).trans h.sent_sublist

/-- A log frame dispatches one message. -/
theorem message_of_frame (pieces : List (List UInt8))
    (hbounds : ∀ p ∈ pieces, 1 ≤ p.length ∧ p.length ≤ 0xFFFF) (d : MessageDecoder)
    (hd : d.state = .start) :
    ∀ f ∈ pieces.map (frame MessageType.log.code),
      (d.consume f).1.state = .start ∧
        (d.consume f).2 = [Message.complete MessageType.log.code (f.drop msgHeaderSize)] := by
  intro f hf
  obtain ⟨p, hp, rfl⟩ := List.mem_map.mp hf
  obtain ⟨hpos, hle⟩ := hbounds p hp
  rw [consume_frame hd MessageType.log.code hpos (by omega)]
  exact ⟨rfl, rfl⟩

/-- **A client to which the frames come covered decodes only messages sent.** -/
theorem Sound.genuine {s : SendSide} (h : s.Sound) {client : List Placed}
    (hclient : client ∈ s.connections)
    (hcover : Covered Skippable Headerless s.frames client) :
    Genuine s.frames client := by
  have hsublist := h.connection_sublist hclient
  obtain ⟨pieces, hframes, hbounds⟩ := h.frames
  rw [hframes] at hcover hsublist ⊢
  refine ⟨pieces, rfl, fun chunks hfit hbytes => ?_⟩
  have hdecoded := feed_covered accept (fun d => d.state = .start)
    (fun f => Message.complete MessageType.log.code (f.drop msgHeaderSize))
    (fun d hd => message_of_frame pieces hbounds d hd)
    (fun d hd part hpart => by
      rw [← consume, consume_headerless hd hpart.1, afterGarbage, if_pos hpart.2]
      exact ⟨rfl, rfl⟩)
    (fun d hd part hpart => by rw [← consume, consume_headerless hd hpart])
    hsublist hcover (show ({} : MessageDecoder).state = .start from rfl)
  refine ⟨_, _, decodeAll_record new_valid hfit, ?_⟩
  rw [hbytes]
  rwa [List.map_map] at hdecoded

/-- **Only logs that were sent**: whatever is logged, and in whatever order the
threads and the clients take their turns, what the clients are sent are bytes of
the frames put, each once and in order; and a client to which each frame comes
whole, or in a part that is skipped, or at the very end cut short or in a part
without a header, decodes messages of frames put, in order. -/
theorem genuine_of_covered {buf : List UInt8} (hbuf : buf.length = msgMaxLength) {s : SendSide}
    (hreach : Reachable step (init buf) s) :
    (s.sent).Sublist s.frames.flatten.zipIdx ∧
      ∀ client ∈ s.connections, Covered Skippable Headerless s.frames client →
        Genuine s.frames client := by
  have hsound : s.Sound := hreach.invariant step_sound (init_sound hbuf)
  exact ⟨hsound.sent_sublist, fun client hclient => hsound.genuine hclient⟩

/-- A short log, sent to one client. -/
theorem genuine_of_covered_short :
    ∃ s, Reachable step (init (List.replicate msgMaxLength 0)) s ∧
      s.connections.map (List.map Prod.fst) = [frame MessageType.log.code [0x41]] ∧
      ∀ client ∈ s.connections, Genuine s.frames client := by
  have hbuf : (List.replicate msgMaxLength (0 : UInt8)).length = msgMaxLength :=
    List.length_replicate
  obtain ⟨s₀, hreach₀, hserver₀, hfree₀, hconnections₀, hframes₀, hcontents₀⟩ :=
    exists_put hbuf [0x41] (by decide) (by decide)
  obtain ⟨s₁, hrun₁, -, -, hframes₁, -, hconnections₁⟩ :=
    run_oneChunk (hreach₀.invariant step_sound (init_sound hbuf)) hserver₀ hfree₀
      (by rw [hcontents₀]; decide)
  have hsent : s₁.connections = [s₁.frames.flatten.zipIdx] := by
    rw [hconnections₁, hconnections₀, hframes₁, hframes₀, hcontents₀]
    rfl
  refine ⟨s₁, hreach₀.run hrun₁, ?_, fun client hclient => ?_⟩
  · rw [hsent, hframes₁, hframes₀]
    rfl
  · refine (genuine_of_covered hbuf (hreach₀.run hrun₁)).2 client hclient ?_
    rw [hsent, List.mem_singleton] at hclient
    exact hclient ▸ covered_of_prefix (List.prefix_refl _)

/-! ## A frame cut in two -/

/-- **A long log, sent to two clients**: the second is sent what the first was not. -/
theorem exists_cut {buf : List UInt8} (hbuf : buf.length = msgMaxLength) (text : List UInt8)
    (hlong : bufSize < (frame MessageType.log.code text).length) (hle : text.length ≤ 0xFFFF) :
    ∃ s, Reachable step (init buf) s ∧ s.frames = [frame MessageType.log.code text] ∧
      ∃ client ∈ s.connections, client.map Prod.fst =
        ((frame MessageType.log.code text).drop bufSize).take bufSize := by
  have hlen := length_frame MessageType.log.code text
  simp only [bufSize, msgHeaderSize] at hlong hlen
  obtain ⟨s₀, hreach₀, hserver₀, hfree₀, -, hframes₀, hcontents₀⟩ :=
    exists_put hbuf text (by omega) hle
  obtain ⟨s₁, hrun₁, hserver₁, hfree₁, hframes₁, hcontents₁, -⟩ :=
    run_oneChunk (hreach₀.invariant step_sound (init_sound hbuf)) hserver₀ hfree₀ (by
      rw [hcontents₀]
      exact List.ne_nil_of_length_pos (by omega))
  have hreach₁ := hreach₀.run hrun₁
  rw [hcontents₀] at hcontents₁
  obtain ⟨s₂, hrun₂, -, -, hframes₂, -, hconnections₂⟩ :=
    run_oneChunk (hreach₁.invariant step_sound (init_sound hbuf)) hserver₁ hfree₁ (by
      rw [hcontents₁]
      exact List.ne_nil_of_length_pos (by simp only [List.length_drop, bufSize]; omega))
  refine ⟨s₂, hreach₁.run hrun₂, by rw [hframes₂, hframes₁, hframes₀], _,
    by rw [hconnections₂]; exact List.mem_cons_self, ?_⟩
  rw [List.zipIdx_map_fst, hcontents₁]

/-- A text that ends in the bytes of a frame. -/
def disguised : List UInt8 := List.replicate 507 0x61 ++ frame MessageType.log.code [0x41]

/-- **A client can decode a log that was never sent**, if an earlier one leaves in
the middle of a frame. -/
theorem not_genuine_disguised :
    ¬ ∀ s, Reachable step (init (List.replicate msgMaxLength 0)) s →
      ∀ client ∈ s.connections, Genuine s.frames client := by
  intro hall
  have hbuf : (List.replicate msgMaxLength (0 : UInt8)).length = msgMaxLength :=
    List.length_replicate
  have hlen : disguised.length = 513 := by
    rw [disguised, List.length_append, List.length_replicate, length_frame]
    rfl
  obtain ⟨s, hreach, hframes, client, hclient, hbytes⟩ :=
    exists_cut hbuf disguised (by rw [length_frame, hlen]; decide) (by rw [hlen]; decide)
  -- the second chunk is the end of the text
  have hrest : (frame MessageType.log.code disguised).drop bufSize =
      frame MessageType.log.code [0x41] := by
    rw [frame, disguised, ← List.append_assoc]
    exact List.drop_left' (by rw [List.length_append, List.length_replicate]; rfl)
  rw [hrest] at hbytes
  obtain ⟨pieces, hpieces, hdecodes⟩ := hall s hreach client hclient
  obtain ⟨d, messages, hdecoded, hsublist⟩ := hdecodes [frame MessageType.log.code [0x41]]
    (by decide) (by rw [hbytes]; rfl)
  have hmessages : [Message.complete MessageType.log.code [0x41]] = messages := by
    rw [decodeAll_record new_valid (by decide), Except.ok.injEq] at hdecoded
    exact congrArg Prod.snd hdecoded
  obtain ⟨p, rfl, hp⟩ := List.map_eq_singleton_iff.mp (hpieces.symm.trans hframes)
  -- one byte of data, against all of the text
  rw [← hmessages, List.singleton_sublist, List.map_singleton, List.mem_singleton] at hsublist
  have hsize : 1 = p.length := congrArg Message.size hsublist
  have hwhole := congrArg List.length hp
  rw [length_frame, length_frame, hlen] at hwhole
  omega

end SendSide
end TCPServer
end CameraController
