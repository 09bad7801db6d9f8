import CameraController.Framing

/-! # One client after another

`fn_server` serves its clients one after the other: it accepts a connection,
calls `receive` until `read` answers nothing more, and accepts the next.  It hands
everything it receives to the one decoder it was built with, and nothing resets
that decoder between two clients.

`isolated_iff`: the next client's messages are framed as a fresh decoder frames
them, whatever it sends, exactly when what the clients before it have sent, taken
together, ends outside a frame. -/
namespace CameraController

open Streaming MessageDecoder

def recvBufSize : Nat := 512

/-- What `read` answered on a connection, up to the call that answered nothing
more. -/
structure Connection where
  reads : List (List UInt8)
  bounds : ∀ r ∈ reads, 1 ≤ r.length ∧ r.length ≤ recvBufSize

namespace Connection

/-- The bytes received. -/
def bytes (c : Connection) : List UInt8 := c.reads.flatten

theorem reads_fit (c : Connection) : ∀ r ∈ c.reads, r.length < 2 ^ 64 := by
  intro r hr
  have hle := (c.bounds r hr).2
  rw [recvBufSize] at hle
  omega

/-- A connection on which every byte came alone. -/
def bytewise (data : List UInt8) : Connection where
  reads := data.map fun b => [b]
  bounds r hr := by
    obtain ⟨b, -, rfl⟩ := List.mem_map.mp hr
    simp [recvBufSize]

theorem bytes_bytewise (data : List UInt8) : (bytewise data).bytes = data := by
  induction data with
  | nil => rfl
  | cons b data ih => exact congrArg (b :: ·) ih

end Connection

namespace TCPServer

variable {ε ω : Type} (handler : Message → Except (Fault ε) ω)

/-- `receive()` when `read` answered `bytes`: whether to go on, the decoder
afterwards, and what the handler answered. -/
def receive (d : MessageDecoder) (bytes : List UInt8) :
    Except (Fault ε) (Bool × MessageDecoder × List ω) :=
  if bytes.length > 0 then do
    let (d, answers) ← decode handler d bytes
    return (true, d, answers)
  else
    return (false, d, [])

/-- `while (receive())`, for as long as `read` answers with bytes; the call after
those answers with none. -/
def receiveAll : MessageDecoder → List (List UInt8) →
    Except (Fault ε) (MessageDecoder × List ω)
  | d, [] => do
    let (_, d, answers) ← receive handler d []
    return (d, answers)
  | d, bytes :: reads => do
    let (more, d, answers) ← receive handler d bytes
    if more then
      let (d, rest) ← receiveAll d reads
      return (d, answers ++ rest)
    else
      return (d, answers)

/-- `fn_server`: what the handler answered on each connection, in turn. -/
def fnServer : MessageDecoder → List Connection →
    Except (Fault ε) (MessageDecoder × List (List ω))
  | d, [] => return (d, [])
  | d, client :: clients => do
    let (d, answers) ← receiveAll handler d client.reads
    let (d, rest) ← fnServer d clients
    return (d, answers :: rest)

/-! ## A connection is a stream -/

theorem receiveAll_eq (d : MessageDecoder) {reads : List (List UInt8)}
    (h : ∀ r ∈ reads, 1 ≤ r.length) : receiveAll handler d reads = decodeAll handler d reads := by
  induction reads generalizing d with
  | nil => rfl
  | cons r reads ih =>
    have hr : r.length > 0 := h r (by simp)
    simp only [receiveAll, receive, decodeAll, if_pos hr]
    cases decode handler d r with
    | error f => rfl
    | ok v => simp only [bind, Except.bind, pure, Except.pure, if_true, ih v.1 fun r hr =>
        h r (List.mem_cons_of_mem _ hr)]

theorem receiveAll_record {d : MessageDecoder} (hd : d.Valid) (client : Connection) :
    receiveAll record d client.reads = .ok (d.consume client.bytes) := by
  rw [receiveAll_eq _ _ fun r hr => (client.bounds r hr).1, decodeAll_record hd client.reads_fit]
  rfl

/-- The decoder as some clients leave it. -/
def leftBy (earlier : List Connection) (d : MessageDecoder) : MessageDecoder :=
  (d.consume (earlier.map Connection.bytes).flatten).1

theorem leftBy_cons (client : Connection) (earlier : List Connection) (d : MessageDecoder) :
    leftBy (client :: earlier) d = leftBy earlier (d.consume client.bytes).1 := by
  rw [leftBy, List.map_cons, List.flatten_cons, consume_append]
  rfl

theorem leftBy_valid {d : MessageDecoder} (hd : d.Valid) (earlier : List Connection) :
    (leftBy earlier d).Valid := consume_valid hd _

/-- **A client's bytes are read by the decoder the clients before it have left.** -/
theorem fnServer_record {d : MessageDecoder} (hd : d.Valid) (earlier : List Connection)
    (next : Connection) :
    ∃ before, fnServer record d (earlier ++ [next]) =
      .ok (((leftBy earlier d).consume next.bytes).1,
        before ++ [((leftBy earlier d).consume next.bytes).2]) := by
  induction earlier generalizing d with
  | nil =>
    refine ⟨[], ?_⟩
    simp [fnServer, receiveAll_record hd next, leftBy, bind, Except.bind, pure, Except.pure]
  | cons client earlier ih =>
    obtain ⟨before, hrest⟩ := ih (consume_valid hd client.bytes)
    refine ⟨(d.consume client.bytes).2 :: before, ?_⟩
    simp [fnServer, receiveAll_record hd client, hrest, leftBy_cons, bind, Except.bind, pure,
      Except.pure]

/-- Whatever the next client sends, its messages are those a fresh decoder
dispatches on it. -/
def Isolated (earlier : List Connection) : Prop :=
  ∀ next : Connection, ∃ d before messages fresh,
    fnServer record {} (earlier ++ [next]) = .ok (d, before ++ [messages]) ∧
      decodeAll record {} next.reads = .ok (fresh, messages)

theorem isolated_iff_consume (earlier : List Connection) :
    Isolated earlier ↔ ∀ next : Connection,
      ((leftBy earlier {}).consume next.bytes).2 =
        (({} : MessageDecoder).consume next.bytes).2 := by
  refine forall_congr' fun next => ?_
  obtain ⟨before, hrun⟩ := fnServer_record new_valid earlier next
  have hfresh := decodeAll_record new_valid next.reads_fit
  constructor
  · rintro ⟨d, before', messages, fresh, hrun', hfresh'⟩
    rw [hrun, Except.ok.injEq, Prod.mk.injEq] at hrun'
    rw [hfresh, Except.ok.injEq] at hfresh'
    rw [List.append_inj_right' hrun'.2 rfl |> List.singleton_inj.mp]
    exact (congrArg Prod.snd hfresh').symm
  · intro h
    exact ⟨_, before, _, _, hrun, hfresh.trans (by rw [h]; rfl)⟩

end TCPServer

namespace MessageDecoder

/-! ## What a decoder shows of its past -/

/-- The decoder without the members its state does not use. -/
def visible (d : MessageDecoder) : MessageDecoder :=
  match d.state with
  | .start | .magic1Found | .magic2Found => { state := d.state }
  | .typeReceived => { state := d.state, tempType := d.tempType }
  | .size1Received => { state := d.state, tempType := d.tempType, tempSize1 := d.tempSize1 }
  | .receivingData =>
    { state := d.state, receivedData := d.receivedData, message := d.message }

/-- A byte does to a decoder what it does to what is visible of it. -/
theorem accept_visible (d : MessageDecoder) (b : UInt8) :
    (d.visible.accept b).2 = (d.accept b).2 ∧
      (d.visible.accept b).1.visible = (d.accept b).1.visible := by
  cases hs : d.state with
  | receivingData =>
    cases hm : d.message with
    | none => simp [accept, visible, hs, hm]
    | some m =>
      by_cases hfull : d.receivedData = m.size
      · by_cases hb : b = magicWord1 <;> simp [accept, visible, hs, hm, hfull, header, hb]
      · by_cases hlast : d.receivedData + 1 = m.size <;>
          simp [accept, visible, hs, hm, hfull, hlast]
  | start => by_cases hb : b = magicWord1 <;> simp [accept, visible, hs, header, hb]
  | magic1Found => by_cases hb : b = magicWord2 <;> simp [accept, visible, hs, header, hb]
  | magic2Found | typeReceived | size1Received => simp [accept, visible, hs, header]

/-- **Decoders that show the same dispatch the same.** -/
theorem consume_congr {d d' : MessageDecoder} (h : d.visible = d'.visible) (data : List UInt8) :
    (d.consume data).2 = (d'.consume data).2 := by
  refine feed_congr accept (R := fun d d' => d.visible = d'.visible) ?_ h data
  intro d d' b h
  obtain ⟨hout, hnext⟩ := accept_visible d b
  obtain ⟨hout', hnext'⟩ := accept_visible d' b
  rw [h] at hout hnext
  exact ⟨hout.symm.trans hout', hnext.symm.trans hnext'⟩

/-! ## A frame begun swallows what comes next -/

/-- Enough zeros make the decoder dispatch something. -/
def Swallows (d : MessageDecoder) : Prop := ∃ n, (d.consume (List.replicate n 0)).2 ≠ []

theorem swallows_of_accept {d : MessageDecoder} (h : (d.accept 0).1.Swallows) : d.Swallows := by
  obtain ⟨n, hn⟩ := h
  refine ⟨n + 1, ?_⟩
  rw [List.replicate_succ, consume_cons]
  exact List.append_ne_nil_of_right_ne_nil _ hn

theorem swallows_receiving {d : MessageDecoder} (hd : d.Valid) (hs : d.state = .receivingData) :
    d.Swallows := by
  obtain ⟨type, size, got, he, -, hgot⟩ := hd hs
  rw [he]
  rcases hgot with hgot | ⟨rfl, rfl⟩
  · refine ⟨size - got.length, ?_⟩
    have hsome : List.replicate (size - got.length) (0 : UInt8) ≠ [] :=
      List.ne_nil_of_length_pos (by rw [List.length_replicate]; omega)
    have hrest := consume_rest d type got hsome
    rw [List.length_replicate, Nat.add_sub_of_le (Nat.le_of_lt hgot)] at hrest
    simp [hrest]
  · refine ⟨1, ?_⟩
    rw [List.replicate_one, consume_cons, accept_empty]
    simp

/-- Zeros lead from behind the magic words to the end of some message. -/
theorem swallows {d : MessageDecoder} (hd : d.Valid) (hstart : d.state ≠ .start)
    (hmagic : d.state ≠ .magic1Found) : d.Swallows := by
  have hsize : ∀ d : MessageDecoder, d.state = .size1Received → d.Swallows := fun d hs =>
    swallows_of_accept (swallows_receiving (accept_valid (valid_of_state (by simp [hs])) 0)
      (by simp [accept, header, hs]))
  have htype : ∀ d : MessageDecoder, d.state = .typeReceived → d.Swallows := fun d hs =>
    swallows_of_accept (hsize _ (by simp [accept, header, hs]))
  cases hs : d.state with
  | start => exact absurd hs hstart
  | magic1Found => exact absurd hs hmagic
  | magic2Found => exact swallows_of_accept (htype _ (by simp [accept, header, hs]))
  | typeReceived => exact htype d hs
  | size1Received => exact hsize d hs
  | receivingData => exact swallows_receiving hd hs

/-- **Outside `START`, some stream is framed otherwise than by a fresh decoder**:
one without a magic word, of which a fresh decoder makes nothing. -/
theorem exists_swallowed {d : MessageDecoder} (hd : d.Valid) (hs : d.state ≠ .start) :
    ∃ data, (d.consume data).2 ≠ [] ∧ (({} : MessageDecoder).consume data).2 = [] := by
  by_cases hmagic : d.state = .magic1Found
  · obtain ⟨n, hn⟩ := swallows (accept_valid hd magicWord2)
      (by simp [accept, header, hmagic]) (by simp [accept, header, hmagic])
    refine ⟨magicWord2 :: List.replicate n 0, ?_, ?_⟩
    · rw [consume_cons]
      exact List.append_ne_nil_of_right_ne_nil _ hn
    · rw [consume_garbage rfl (by simp [magicWord1, magicWord2])]
  · obtain ⟨n, hn⟩ := swallows hd hs hmagic
    exact ⟨List.replicate n 0, hn, by rw [consume_garbage rfl (by simp [magicWord1])]⟩

end MessageDecoder

namespace TCPServer

/-! ## When sessions are isolated -/

/-- A client is isolated from the clients before it exactly when they leave the
decoder in `START`. -/
theorem isolated_iff_start (earlier : List Connection) :
    Isolated earlier ↔ (leftBy earlier {}).state = .start := by
  rw [isolated_iff_consume]
  constructor
  · intro h
    by_contra hs
    obtain ⟨data, hsome, hnone⟩ := exists_swallowed (leftBy_valid new_valid earlier) hs
    have hsame := h (Connection.bytewise data)
    rw [Connection.bytes_bytewise, hnone] at hsame
    exact hsome hsame
  · intro hs next
    exact consume_congr (by simp [visible, hs]) next.bytes

/-- **A client is isolated from the clients before it exactly when their bytes end
outside a frame.** -/
theorem isolated_iff (earlier : List Connection) :
    Isolated earlier ↔ Delimited (earlier.map Connection.bytes).flatten := by
  rw [isolated_iff_start, leftBy, consume_start_iff rfl]

/-- A first client that is cut off in a telecommand of five bytes. -/
def cutOff : Connection := ⟨[[0x54, 0xF0, 0x02, 0x05, 0x00]], by decide⟩

/-- The telecommand `{}`. -/
def telecommand : Connection := ⟨[[0x54, 0xF0, 0x02, 0x02, 0x00, 0x7B, 0x7D]], by decide⟩

/-- After a client cut off in a frame, the next client's telecommand is lost. -/
theorem not_isolated_cutOff : ¬ Isolated [cutOff] := by
  rw [isolated_iff_consume]
  intro h
  exact absurd (h telecommand) (by decide)

end TCPServer
end CameraController
