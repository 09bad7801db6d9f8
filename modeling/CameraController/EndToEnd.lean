import CameraController.Framing
import CameraController.SendSide
import CameraController.TCPStream

/-! # Logs, from the stream to the client

Whoever logs writes characters to a `NetStream` and flushes it; its buffer goes to
`sendLog`, the frames of `sendLog` into `send_buf`, and `fn_sender` sends them to
the client in chunks of up to 512 bytes.

As long as no put overflows `send_buf` and the client stays, everything put is
sent, held by `fn_sender` or stored (`Lossless`, `step_lossless`), and the frames
put are those of the texts written (`InOrder`, `step_inOrder`).  So when nothing
is left on the way, the client has all of it (`decode_written`). -/
namespace CameraController

open StateMachine MessageDecoder

namespace TCPServer
namespace SendSide

/-! ## Nothing is lost -/

/-- The step neither overflows `send_buf` nor ends the connection. -/
def LosesNothing (s : SendSide) : Action → Prop
  | .put => ∀ f ∈ s.pending.head?, s.sendBuf.contents.length + f.length ≤ sendBufSize
  | .hangUp | .readEnds => False
  | _ => True

/-- What such steps keep. -/
structure Lossless (s : SendSide) : Prop where
  sound : s.Sound
  stays : s.server ≠ .left
  online : s.server ≠ .accept → s.online = true ∧ s.connections ≠ []
  idle : s.server ≠ .receiving → s.clientConnected = false ∧ s.taken = none
  conserved : (s.sent ++ s.inHand).map Prod.fst ++ s.sendBuf.contents = s.frames.flatten

theorem init_lossless {buf : List UInt8} (hbuf : buf.length = msgMaxLength) :
    (init buf).Lossless where
  sound := init_sound hbuf
  stays := by simp [init]
  online := by simp [init]
  idle := by simp [init]
  conserved := by simp [init, sent, inHand, CircularBuffer.new_contents]

variable {s s' : SendSide}

theorem lossless_put (h : s.Lossless) (hfit : LosesNothing s .put) (hs : step s .put = some s') :
    s'.Lossless := by
  have hsound := step_sound h.sound hs
  cases hpending : s.pending with
  | nil => simp [step, hpending] at hs
  | cons f rest =>
    obtain ⟨cb, hstep, -, -, hcontents⟩ := step_put h.sound hpending
    obtain rfl := Option.some.inj (hstep.symm.trans hs)
    rw [RingBuffer.push_of_length_le (hfit f (by simp [hpending]))] at hcontents
    refine { h with sound := hsound, conserved := ?_ }
    rw [List.flatten_append, List.flatten_singleton, ← h.conserved, List.append_assoc]
    exact congrArg _ hcontents

theorem lossless_take (h : s.Lossless) (hs : step s .take = some s') : s'.Lossless := by
  have hsound := step_sound h.sound hs
  obtain ⟨⟨hfree, hconn, hne⟩, -⟩ := Option.ite_none_right_eq_some.mp hs
  have hreceiving : s.server = .receiving := by
    by_contra hnot
    simp [(h.idle hnot).1] at hconn
  obtain ⟨cb, hstep, -, -, hcontents⟩ := step_take h.sound hfree hconn hne
  obtain rfl := Option.some.inj (hstep.symm.trans hs)
  refine { h with
    sound := hsound
    idle := fun hnot => absurd hreceiving hnot
    conserved := ?_ }
  have hconserved := h.conserved
  rw [inHand, hfree, Option.getD_none, List.append_nil] at hconserved
  rw [inHand, Option.getD_some, hcontents, List.map_append, List.zipIdx_map_fst,
    List.append_assoc, List.take_append_drop]
  exact hconserved

theorem flatten_sendTo (bytes : List Placed) {connections : List (List Placed)}
    (hne : connections ≠ []) :
    (sendTo bytes connections).reverse.flatten = connections.reverse.flatten ++ bytes := by
  obtain ⟨client, earlier, rfl⟩ := List.exists_cons_of_ne_nil hne
  simp [sendTo]

theorem lossless_send (h : s.Lossless) (hs : step s .send = some s') : s'.Lossless := by
  have hsound := step_sound h.sound hs
  cases htaken : s.taken with
  | none => simp [step, htaken] at hs
  | some bytes =>
    have hreceiving : s.server = .receiving := by
      by_contra hnot
      simp [(h.idle hnot).2] at htaken
    obtain ⟨honline, hconnections⟩ := h.online (by rw [hreceiving]; decide)
    simp only [step, htaken, honline, if_true] at hs
    obtain rfl := Option.some.inj hs
    have hflat := flatten_sendTo bytes hconnections
    refine { h with
      sound := hsound
      online := fun _ => ⟨rfl, fun hnil => ?_⟩
      idle := fun hnot => absurd hreceiving hnot
      conserved := ?_ }
    · obtain ⟨client, earlier, heq⟩ := List.exists_cons_of_ne_nil hconnections
      simp [heq, sendTo] at hnil
    · rw [← h.conserved, sent, inHand, hflat, sent, inHand, htaken]
      simp

/-- **Every such step keeps all that was put.** -/
theorem step_lossless {a : Action} (h : s.Lossless) (ha : LosesNothing s a)
    (hs : step s a = some s') : s'.Lossless := by
  have hsound := step_sound h.sound hs
  cases a with
  | sendLog str =>
    obtain ⟨-, hs⟩ := Option.ite_none_right_eq_some.mp hs
    obtain ⟨⟨buf, pieces⟩, -, hsome⟩ := Option.bind_eq_some_iff.mp hs
    obtain rfl := Option.some.inj hsome
    exact { h with sound := hsound }
  | put => exact lossless_put h ha hs
  | take => exact lossless_take h hs
  | send => exact lossless_send h hs
  | accept =>
    obtain ⟨haccept, hs⟩ := Option.ite_none_right_eq_some.mp hs
    obtain rfl := Option.some.inj hs
    obtain ⟨hconn, hfree⟩ := h.idle (by rw [haccept]; decide)
    refine ⟨hsound, by simp, by simp, fun _ => ⟨hconn, hfree⟩, ?_⟩
    rw [← h.conserved]
    simp [sent, inHand]
  | acceptFails =>
    obtain ⟨haccept, hs⟩ := Option.ite_none_right_eq_some.mp hs
    obtain rfl := Option.some.inj hs
    exact { h with sound := hsound, online := fun hnot => absurd haccept hnot }
  | connected =>
    obtain ⟨haccepted, hs⟩ := Option.ite_none_right_eq_some.mp hs
    obtain rfl := Option.some.inj hs
    exact { h with
      sound := hsound
      stays := by simp
      online := fun _ => h.online (by rw [haccepted]; decide)
      idle := by simp }
  | hangUp | readEnds => exact absurd ha id
  | disconnected => exact absurd (Option.ite_none_right_eq_some.mp hs).1 h.stays

/-- Nothing is left to put, in `send_buf` or in the hands of `fn_sender`. -/
def Drained (s : SendSide) : Prop :=
  s.pending = [] ∧ s.sendBuf.contents = [] ∧ s.taken = none

/-- The only client has got everything put. -/
theorem Lossless.received (h : s.Lossless) (hdrained : s.Drained) {client : List Placed}
    (hclient : s.connections = [client]) : client.map Prod.fst = s.frames.flatten := by
  obtain ⟨-, hempty, hfree⟩ := hdrained
  rw [← h.conserved, hempty, inHand, hfree, sent, hclient]
  simp

theorem eachStep_serveChunk (s : SendSide) : EachStep step LosesNothing s serveChunk :=
  fun _ _ => ⟨trivial, fun _ _ => ⟨trivial, fun _ _ => ⟨trivial, fun _ _ => ⟨trivial, trivial⟩⟩⟩⟩

/-- A frame is put, and the first client gets it in one chunk. -/
def oneFrame : List Action := .put :: serveChunk

theorem run_oneFrame (h : s.Lossless) (hserver : s.server = .accept)
    (hconnections : s.connections = []) (hempty : s.sendBuf.contents = []) {f : List UInt8}
    (hpending : s.pending = [f]) (hne : f ≠ []) (hshort : f.length ≤ bufSize) :
    ∃ s' client, run step s oneFrame = some s' ∧ EachStep step LosesNothing s oneFrame ∧
      s'.Drained ∧ s'.connections = [client] ∧ client.map Prod.fst = f := by
  have hfree := (h.idle (by rw [hserver]; decide)).2
  have hfit : ([] : List UInt8).length + f.length ≤ sendBufSize := by
    rw [List.length_nil, Nat.zero_add]
    exact Nat.le_trans hshort (by decide)
  obtain ⟨cb, hput, -, -, hcontents⟩ := step_put h.sound hpending
  rw [hempty, RingBuffer.push_of_length_le hfit, List.nil_append] at hcontents
  obtain ⟨rest, hrun, hrest⟩ := run_serveChunk (step_sound h.sound hput) hserver hfree (by
    rw [hcontents]
    exact hne)
  refine ⟨_, _, (run_cons_eq_some step).mpr ⟨_, hput, hrun⟩, ?_, ⟨rfl, ?_, rfl⟩,
    congrArg (List.cons _) hconnections, ?_⟩
  · refine .cons (fun g hg => ?_) hput (eachStep_serveChunk _)
    rw [hpending] at hg
    obtain rfl := Option.some.inj hg
    rw [hempty]
    exact hfit
  · rw [hrest, hcontents]
    exact List.drop_of_length_le hshort
  · rw [List.zipIdx_map_fst, hcontents]
    exact List.take_of_length_le hshort

end SendSide

/-! ## The stream and the server -/

/-- A `NetStream` and the server that its logs are sent by. -/
structure LogPath where
  stream : NetStreamBuf
  server : SendSide
  deriving DecidableEq, Repr

namespace LogPath

/-- Neither the encoder's buffer nor the stream's is initialised. -/
def init (encoderBuf streamBuf : List UInt8) : LogPath where
  stream := NetStreamBuf.new streamBuf
  server := SendSide.init encoderBuf

inductive Action where
  /-- A character is written to the stream. -/
  | write (c : UInt8)
  /-- The stream is flushed. -/
  | flush
  /-- A turn of the server's threads, of its clients, or of `sendData` within a
  write or a flush. -/
  | server (a : SendSide.Action)
  deriving DecidableEq, Repr

/-- One step.  A write or a flush ends when all frames of its text are put, and only
the stream calls `sendLog`. -/
def step (s : LogPath) : Action → Option LogPath
  | .write c =>
    if s.server.pending = [] then do
      let (stream, passed, _) ← s.stream.sputc c
      match passed with
      | none => return { s with stream }
      | some str =>
        let server ← SendSide.step s.server (.sendLog str)
        return { stream, server }
    else
      none
  | .flush =>
    if s.server.pending = [] then do
      let (stream, str, _) ← s.stream.sync
      let server ← SendSide.step s.server (.sendLog str)
      return { stream, server }
    else
      none
  | .server (.sendLog _) => none
  | .server a => do
    let server ← SendSide.step s.server a
    return { s with server }

/-- No put overflows `send_buf`, and the client stays. -/
def LosesNothing (s : LogPath) : Action → Prop
  | .write _ | .flush => True
  | .server a => SendSide.LosesNothing s.server a

/-! ## What was written -/

/-- What was written up to each flush, and since the last one. -/
structure Text where
  flushed : List (List UInt8)
  since : List UInt8
  deriving DecidableEq, Repr

def Text.add (text : Text) : Action → Text
  | .write c => { text with since := text.since ++ [c] }
  | .flush => { flushed := text.flushed ++ [text.since], since := [] }
  | .server _ => text

/-- What is written by a list of actions. -/
def written (actions : List Action) : Text := actions.foldl Text.add ⟨[], []⟩

/-- `groups` are the pieces that each flushed part was sent in, `pushed` those that
`overflow` has sent since the last flush; `held` is still in the stream. -/
structure Cut (text : Text) (held : List UInt8) (groups : List (List (List UInt8)))
    (pushed : List (List UInt8)) : Prop where
  parts : List.Forall₂ (fun group part => group.flatten = part) groups text.flushed
  since : pushed.flatten ++ held = text.since
  bounds : ∀ p ∈ groups.flatten ++ pushed, 1 ≤ p.length ∧ p.length ≤ streamBufSize

section Cut

variable {text : Text} {held : List UInt8} {groups : List (List (List UInt8))}
  {pushed pieces : List (List UInt8)}

/-- A character is written, and `overflow` may push out what the stream held. -/
theorem Cut.write (h : Cut text held groups pushed) {c : UInt8} {held' : List UInt8}
    (hheld : pieces.flatten ++ held' = held ++ [c])
    (hbounds : ∀ p ∈ pieces, 1 ≤ p.length ∧ p.length ≤ streamBufSize) :
    Cut (text.add (.write c)) held' groups (pushed ++ pieces) := by
  refine ⟨h.parts, ?_, ?_⟩
  · rw [List.flatten_append, List.append_assoc, hheld, ← List.append_assoc, h.since]
    rfl
  · rw [← List.append_assoc]
    exact List.forall_mem_append.mpr ⟨h.bounds, hbounds⟩

/-- A flush ends a part. -/
theorem Cut.flush (h : Cut text held groups pushed) (hheld : pieces.flatten = held)
    (hbounds : ∀ p ∈ pieces, 1 ≤ p.length ∧ p.length ≤ streamBufSize) :
    Cut (text.add .flush) [] (groups ++ [pushed ++ pieces]) [] := by
  refine ⟨List.rel_append h.parts (.cons ?_ .nil), rfl, ?_⟩
  · rw [List.flatten_append, hheld, h.since]
  · rw [List.append_nil, List.flatten_append, List.flatten_singleton, ← List.append_assoc]
    exact List.forall_mem_append.mpr ⟨h.bounds, hbounds⟩

end Cut

/-- What the steps that lose nothing keep. -/
structure InOrder (s : LogPath) (text : Text) : Prop where
  stream : s.stream.Valid
  server : s.server.Lossless
  cut : ∃ groups pushed, Cut text s.stream.held groups pushed ∧
    s.server.frames ++ s.server.pending =
      (groups.flatten ++ pushed).map (frame MessageType.log.code)

theorem init_inOrder {encoderBuf streamBuf : List UInt8}
    (hencoder : encoderBuf.length = msgMaxLength) (hstream : streamBuf.length = streamBufSize) :
    (init encoderBuf streamBuf).InOrder ⟨[], []⟩ where
  stream := NetStreamBuf.new_valid hstream
  server := SendSide.init_lossless hencoder
  cut := ⟨[], [], ⟨.nil, by simp [init], by simp⟩, rfl⟩

variable {s s' : LogPath} {text : Text}

/-! ## What a step does -/

/-- A text that fits the stream's buffer is passed on in pieces that fit it. -/
theorem exists_pieces {server : SendSide} (h : server.Lossless) (hidle : server.pending = [])
    {str : List UInt8} (hle : str.length ≤ streamBufSize) :
    ∃ (server' : SendSide) (pieces : List (List UInt8)),
      SendSide.step server (.sendLog str) = some server' ∧ server'.Lossless ∧
      server'.frames = server.frames ∧
      server'.pending = pieces.map (frame MessageType.log.code) ∧ pieces.flatten = str ∧
      ∀ p ∈ pieces, 1 ≤ p.length ∧ p.length ≤ streamBufSize := by
  have hlt : str.length < 2 ^ 64 := by
    rw [streamBufSize] at hle
    omega
  obtain ⟨buf, pieces, hstep, -, hsplit⟩ := SendSide.step_sendLog h.sound hidle str hlt
  have hlossless := SendSide.step_lossless (a := .sendLog str) h trivial hstep
  refine ⟨_, pieces, hstep, hlossless, rfl, rfl, hsplit.flatten_eq,
    fun p hp => ⟨(hsplit.bounds p hp).1, ?_⟩⟩
  have hpart := (List.sublist_flatten_of_mem hp).length_le
  rw [hsplit.flatten_eq] at hpart
  exact Nat.le_trans hpart hle

/-- A write is defined when `sendData` has put all frames. -/
theorem exists_write (h : s.InOrder text) (hidle : s.server.pending = []) (c : UInt8) :
    ∃ t : LogPath, step s (.write c) = some t ∧ t.InOrder (text.add (.write c)) := by
  obtain ⟨groups, pushed, hcut, hframes⟩ := h.cut
  rw [hidle, List.append_nil] at hframes
  obtain ⟨stream, passed, hsputc, hvalid, hheld, hfull⟩ := NetStreamBuf.sputc_spec h.stream c
  cases passed with
  | none =>
    refine ⟨{ s with stream }, by simp [step, hidle, hsputc], hvalid, h.server, groups,
      pushed ++ [], hcut.write hheld (by simp), ?_⟩
    rw [hidle, List.append_nil, List.append_nil]
    exact hframes
  | some str =>
    obtain ⟨server, pieces, hstep, hlossless, hsame, hpending, hflat, hbounds⟩ :=
      exists_pieces h.server hidle (Nat.le_of_eq (hfull str rfl))
    rw [Option.getD_some, ← hflat] at hheld
    refine ⟨{ stream, server }, by simp [step, hidle, hsputc, hstep], hvalid, hlossless, groups,
      pushed ++ pieces, hcut.write hheld hbounds, ?_⟩
    rw [hsame, hpending, hframes, ← List.append_assoc, ← List.map_append]

/-- A flush is defined when `sendData` has put all frames. -/
theorem exists_flush (h : s.InOrder text) (hidle : s.server.pending = []) :
    ∃ t : LogPath, step s .flush = some t ∧ t.InOrder (text.add .flush) := by
  obtain ⟨groups, pushed, hcut, hframes⟩ := h.cut
  rw [hidle, List.append_nil] at hframes
  obtain ⟨stream, hsync, hvalid, hheld⟩ := NetStreamBuf.sync_spec h.stream
  obtain ⟨server, pieces, hstep, hlossless, hsame, hpending, hflat, hbounds⟩ :=
    exists_pieces h.server hidle (Nat.le_of_lt h.stream.length_held_lt)
  refine ⟨{ stream, server }, by simp [step, hidle, hsync, hstep], hvalid, hlossless,
    groups ++ [pushed ++ pieces], [], ?_, ?_⟩
  · rw [hheld]
    exact hcut.flush hflat hbounds
  · rw [hsame, hpending, hframes, List.append_nil, List.flatten_append, List.flatten_singleton,
      ← List.append_assoc, ← List.map_append]

/-- The frames that are put or still to be put only change with a write or a
flush. -/
theorem frames_pending {server server' : SendSide} {a : SendSide.Action}
    (ha : ∀ str, a ≠ .sendLog str) (hs : SendSide.step server a = some server') :
    server'.frames ++ server'.pending = server.frames ++ server.pending := by
  cases a with
  | sendLog str => exact absurd rfl (ha str)
  | put =>
    cases hpending : server.pending with
    | nil => simp [SendSide.step, hpending] at hs
    | cons f rest =>
      simp only [SendSide.step, hpending] at hs
      obtain ⟨sendBuf, -, hsome⟩ := Option.bind_eq_some_iff.mp hs
      obtain rfl := Option.some.inj hsome
      rw [List.append_assoc, List.singleton_append]
  | take =>
    obtain ⟨-, hs⟩ := Option.ite_none_right_eq_some.mp hs
    obtain ⟨got, -, hsome⟩ := Option.bind_eq_some_iff.mp hs
    obtain rfl := Option.some.inj hsome
    rfl
  | send =>
    cases htaken : server.taken with
    | none => simp [SendSide.step, htaken] at hs
    | some bytes =>
      simp only [SendSide.step, htaken] at hs
      split at hs <;> obtain rfl := Option.some.inj hs <;> rfl
  | accept | acceptFails | connected | hangUp | readEnds | disconnected =>
    obtain ⟨-, hs⟩ := Option.ite_none_right_eq_some.mp hs
    obtain rfl := Option.some.inj hs
    rfl

/-- The server steps on its own, except that only the stream calls `sendLog`. -/
theorem step_server_iff {a : SendSide.Action} :
    step s (.server a) = some s' ↔ (∀ str, a ≠ .sendLog str) ∧
      ∃ server, SendSide.step s.server a = some server ∧ s' = { s with server } := by
  constructor
  · intro hs
    cases a with
    | sendLog str => cases hs
    | _ =>
      obtain ⟨server, hserver, hsome⟩ := Option.bind_eq_some_iff.mp hs
      exact ⟨by simp, server, hserver, (Option.some.inj hsome).symm⟩
  · rintro ⟨hother, server, hserver, rfl⟩
    cases a with
    | sendLog str => exact absurd rfl (hother str)
    | _ => exact Option.bind_eq_some_iff.mpr ⟨server, hserver, rfl⟩

/-- A run of the server alone. -/
theorem run_server {turns : List SendSide.Action} (hother : ∀ a ∈ turns, ∀ str, a ≠ .sendLog str)
    {server : SendSide} (hrun : run SendSide.step s.server turns = some server)
    (hlose : EachStep SendSide.step SendSide.LosesNothing s.server turns) :
    run step s (turns.map .server) = some { s with server } ∧
      EachStep step LosesNothing s (turns.map .server) := by
  induction turns generalizing s with
  | nil =>
    obtain rfl := Option.some.inj hrun
    exact ⟨rfl, trivial⟩
  | cons a turns ih =>
    obtain ⟨next, hnext, hrest⟩ := (run_cons_eq_some SendSide.step).mp hrun
    obtain ⟨ha, hturns⟩ := hlose next hnext
    have hstep : step s (.server a) = some { s with server := next } :=
      step_server_iff.mpr ⟨hother a (by simp), next, hnext, rfl⟩
    obtain ⟨hrun', hlose'⟩ := ih (s := { s with server := next })
      (fun a ha => hother a (by simp [ha])) hrest hturns
    exact ⟨(run_cons_eq_some step).mpr ⟨_, hstep, hrun'⟩, .cons ha hstep hlose'⟩

/-- **Every step keeps the order of what was written.** -/
theorem step_inOrder {a : Action} (h : s.InOrder text) (ha : LosesNothing s a)
    (hs : step s a = some s') : s'.InOrder (text.add a) := by
  cases a with
  | write c =>
    have hidle := (Option.ite_none_right_eq_some.mp hs).1
    obtain ⟨t, hstep, ht⟩ := exists_write h hidle c
    obtain rfl := Option.some.inj (hstep.symm.trans hs)
    exact ht
  | flush =>
    have hidle := (Option.ite_none_right_eq_some.mp hs).1
    obtain ⟨t, hstep, ht⟩ := exists_flush h hidle
    obtain rfl := Option.some.inj (hstep.symm.trans hs)
    exact ht
  | server a =>
    obtain ⟨hother, server, hserver, rfl⟩ := step_server_iff.mp hs
    obtain ⟨groups, pushed, hcut, hframes⟩ := h.cut
    refine ⟨h.stream, SendSide.step_lossless h.server ha hserver, groups, pushed, hcut, ?_⟩
    rw [frames_pending hother hserver]
    exact hframes

/-! ## What the client makes of it -/

/-- **What was written is what the client reads**, whatever is written and flushed
and in whatever order the threads take their turns, as long as no put overflows
`send_buf` and the client stays: once nothing is left on the way, the messages
that a fresh decoder dispatches are the pieces of what was written. -/
theorem decode_written {encoderBuf streamBuf : List UInt8}
    (hencoder : encoderBuf.length = msgMaxLength) (hstream : streamBuf.length = streamBufSize)
    {actions : List Action} (hlose : EachStep step LosesNothing (init encoderBuf streamBuf) actions)
    {s : LogPath} (hrun : run step (init encoderBuf streamBuf) actions = some s)
    (hdrained : s.server.Drained) {client : List Placed} (hclient : s.server.connections = [client])
    {chunks : List (List UInt8)} (hfit : ∀ chunk ∈ chunks, chunk.length < 2 ^ 64)
    (hbytes : chunks.flatten = client.map Prod.fst) :
    ∃ d groups pushed,
      decodeAll record {} chunks =
        .ok (d, (groups.flatten ++ pushed).map (Message.complete MessageType.log.code)) ∧
      Cut (written actions) s.stream.held groups pushed := by
  have hinOrder : s.InOrder (written actions) :=
    run_foldl step_inOrder (init_inOrder hencoder hstream) hlose hrun
  obtain ⟨groups, pushed, hcut, hframes⟩ := hinOrder.cut
  rw [hdrained.1, List.append_nil] at hframes
  have hsizes : ∀ p ∈ groups.flatten ++ pushed, 1 ≤ p.length ∧ p.length ≤ 0xFFFF := by
    intro p hp
    obtain ⟨hpos, hle⟩ := hcut.bounds p hp
    exact ⟨hpos, Nat.le_trans hle (by decide)⟩
  have hread := consume_frames (show ({} : MessageDecoder).state = .start from rfl)
    MessageType.log.code hsizes
  refine ⟨(({} : MessageDecoder).consume chunks.flatten).1, groups, pushed, ?_, hcut⟩
  rw [decodeAll_record new_valid hfit, hbytes, hinOrder.server.received hdrained hclient, hframes,
    ← hread.2]

/-- **One character, written and flushed**: its frame is to be put. -/
theorem step_oneCharacter {encoderBuf streamBuf : List UInt8}
    (hencoder : encoderBuf.length = msgMaxLength) (hstream : streamBuf.length = streamBufSize)
    (c : UInt8) :
    ∃ s₁ s₂ : LogPath, step (init encoderBuf streamBuf) (.write c) = some s₁ ∧
      step s₁ .flush = some s₂ ∧ s₂.server.Lossless ∧ s₂.server.server = .accept ∧
      s₂.server.connections = [] ∧ s₂.server.sendBuf.contents = [] ∧
      s₂.server.pending = [frame MessageType.log.code [c]] := by
  obtain ⟨b₁, passed, hsputc, hb₁, hheld, hfull⟩ :=
    NetStreamBuf.sputc_spec (NetStreamBuf.new_valid hstream) c
  -- one character does not fill the stream
  obtain rfl : passed = none := by
    by_contra hsome
    obtain ⟨str, rfl⟩ := Option.ne_none_iff_exists'.mp hsome
    have hlong := congrArg List.length hheld
    simp only [Option.getD_some, List.length_append, hfull str rfl, NetStreamBuf.held_new,
      List.length_nil, List.length_singleton, streamBufSize] at hlong
    omega
  rw [Option.getD_none, List.nil_append, NetStreamBuf.held_new, List.nil_append] at hheld
  obtain ⟨b₂, hsync, -, -⟩ := NetStreamBuf.sync_spec hb₁
  rw [hheld] at hsync
  have hinit := SendSide.init_lossless hencoder
  obtain ⟨buf, pieces, hlog, -, hsplit⟩ := SendSide.step_sendLog hinit.sound rfl [c] (by simp)
  obtain rfl : pieces = [[c]] := hsplit.eq_singleton (Nat.le_refl _) (by simp)
  refine ⟨⟨b₁, SendSide.init encoderBuf⟩, ⟨b₂, _⟩, ?_, ?_,
    SendSide.step_lossless (a := .sendLog [c]) hinit trivial hlog, rfl, rfl,
    CircularBuffer.new_contents _, rfl⟩
  · simp only [step, init, SendSide.init, if_true, hsputc]
    rfl
  · simp only [step, hsync, bind, Option.bind_some, hlog]
    rfl

/-- A character is written and flushed, and a client gets its frame. -/
def oneCharacter (c : UInt8) : List Action :=
  .write c :: .flush :: SendSide.oneFrame.map .server

/-- **One character is delivered**, from any contents of the two buffers. -/
theorem run_oneCharacter {encoderBuf streamBuf : List UInt8}
    (hencoder : encoderBuf.length = msgMaxLength) (hstream : streamBuf.length = streamBufSize)
    (c : UInt8) :
    ∃ s client, run step (init encoderBuf streamBuf) (oneCharacter c) = some s ∧
      EachStep step LosesNothing (init encoderBuf streamBuf) (oneCharacter c) ∧
      s.server.Drained ∧ s.server.connections = [client] ∧
      client.map Prod.fst = frame MessageType.log.code [c] := by
  obtain ⟨s₁, s₂, hwrite, hflush, hlossless, hserver, hconnections, hempty, hpending⟩ :=
    step_oneCharacter hencoder hstream c
  have hshort : (frame MessageType.log.code [c]).length ≤ bufSize := by
    rw [length_frame, List.length_singleton]
    decide
  obtain ⟨server, client, hrun, hlose, hdrained, hclient, hbytes⟩ :=
    SendSide.run_oneFrame hlossless hserver hconnections hempty hpending (by simp [frame]) hshort
  have hother : ∀ a ∈ SendSide.oneFrame, ∀ str, a ≠ .sendLog str := by
    simp [SendSide.oneFrame, SendSide.serveChunk]
  obtain ⟨hrun', hlose'⟩ := run_server hother hrun hlose
  refine ⟨{ s₂ with server }, client, ?_, .cons trivial hwrite (.cons trivial hflush hlose'),
    hdrained, hclient, hbytes⟩
  exact (run_cons_eq_some step).mpr ⟨_, hwrite, (run_cons_eq_some step).mpr ⟨_, hflush, hrun'⟩⟩

/-- One character, delivered: the run, what the client has got, and what it makes of it. -/
theorem decode_written_one :
    ∃ s client d groups pushed,
      run step (init (List.replicate msgMaxLength 0) (List.replicate streamBufSize 0))
        (oneCharacter 0x41) = some s ∧
      s.server.Drained ∧ s.server.connections = [client] ∧
      client.map Prod.fst = frame MessageType.log.code [0x41] ∧
      decodeAll record {} [client.map Prod.fst] =
        .ok (d, (groups.flatten ++ pushed).map (Message.complete MessageType.log.code)) ∧
      (groups.flatten ++ pushed).map (Message.complete MessageType.log.code) =
        [Message.complete MessageType.log.code [0x41]] ∧
      Cut (written (oneCharacter 0x41)) s.stream.held groups pushed := by
  have hencoder : (List.replicate msgMaxLength (0 : UInt8)).length = msgMaxLength :=
    List.length_replicate
  have hstream : (List.replicate streamBufSize (0 : UInt8)).length = streamBufSize :=
    List.length_replicate
  obtain ⟨s, client, hrun, hlose, hdrained, hclient, hbytes⟩ :=
    run_oneCharacter hencoder hstream 0x41
  have hfit : ∀ chunk ∈ [client.map Prod.fst], chunk.length < 2 ^ 64 := by
    rw [hbytes]
    decide
  obtain ⟨d, groups, pushed, hdecoded, hcut⟩ :=
    decode_written hencoder hstream hlose hrun hdrained hclient hfit (List.append_nil _)
  obtain ⟨_, hone⟩ : ∃ d, decodeAll record {} [frame MessageType.log.code [0x41]] =
      .ok (d, [Message.complete MessageType.log.code [0x41]]) := ⟨_, rfl⟩
  refine ⟨s, client, d, groups, pushed, hrun, hdrained, hclient, hbytes, hdecoded, ?_, hcut⟩
  rw [hbytes, hone] at hdecoded
  exact (Prod.mk.inj (Except.ok.inj hdecoded)).2.symm

end LogPath
end TCPServer
end CameraController
