import CameraController.Framing

/-! # What was dispatched was in the stream

`Framed messages data`: the frames of the messages lie in `data` one after the
other, with anything between them.

A decoder holds the beginning of the frame it is reading, in its fields and its
message (`Holds`).  A byte lengthens that beginning, shows that it was none, or
completes the frame (`Holds.accept`), so whatever a decoder dispatches was framed
in what it held and what it was fed (`framed_consume`). -/
namespace CameraController

open Streaming

/-- The frames of the messages, in order, with anything around them. -/
inductive Framed : List Message → List UInt8 → Prop
  | nil (gap : List UInt8) : Framed [] gap
  | cons (gap : List UInt8) (type : UInt8) {payload : List UInt8} (hlt : payload.length < 2 ^ 16)
      {messages : List Message} {data : List UInt8} (h : Framed messages data) :
      Framed (Message.complete type payload :: messages) (gap ++ frame type payload ++ data)

namespace Framed

variable {messages : List Message} {data : List UInt8}

/-- More bytes in front only widen the first gap. -/
theorem prepend (gap : List UInt8) (h : Framed messages data) : Framed messages (gap ++ data) := by
  cases h with
  | nil gap' => exact .nil _
  | @cons gap' type payload hlt messages data h =>
    rw [← List.append_assoc, ← List.append_assoc]
    exact .cons (gap ++ gap') type hlt h

/-- There is room for the frame of every message. -/
theorem length_le (h : Framed messages data) {m : Message} (hm : m ∈ messages) :
    msgHeaderSize + m.size ≤ data.length := by
  induction h with
  | nil gap => exact absurd hm List.not_mem_nil
  | cons gap type hlt h ih =>
    rw [List.length_append, List.length_append, length_frame]
    rcases List.mem_cons.mp hm with rfl | hm
    · exact Nat.le_trans (Nat.le_add_left _ _) (Nat.le_add_right _ _)
    · have := ih hm
      omega

end Framed

namespace MessageDecoder

/-- `tail` is the beginning of a frame that the decoder has read. -/
def Holds (d : MessageDecoder) (tail : List UInt8) : Prop :=
  match d.state with
  | .start => tail = []
  | .magic1Found => tail = [magicWord1]
  | .magic2Found => tail = [magicWord1, magicWord2]
  | .typeReceived => tail = [magicWord1, magicWord2, d.tempType]
  | .size1Received => tail = [magicWord1, magicWord2, d.tempType, d.tempSize1]
  | .receivingData => ∃ type low high got,
      d = d.receiving type (announcedSize low high) got ∧
      (got.length < announcedSize low high ∨ announcedSize low high = 0 ∧ got = []) ∧
      tail = [magicWord1, magicWord2, type, low, high] ++ got

theorem holds_start {d : MessageDecoder} (hs : d.state = .start) : d.Holds [] := by
  simp [Holds, hs]

theorem holds_receiving (d : MessageDecoder) (type : UInt8) {low high : UInt8} {got : List UInt8}
    (h : got.length < announcedSize low high ∨ announcedSize low high = 0 ∧ got = []) :
    (d.receiving type (announcedSize low high) got).Holds
      ([magicWord1, magicWord2, type, low, high] ++ got) :=
  ⟨type, low, high, got, rfl, h, rfl⟩

/-- In a header state the byte lengthens what is held, or leads back to `START`. -/
theorem Holds.header_cases {d : MessageDecoder} {tail : List UInt8} (h : d.Holds tail)
    (hs : d.state ≠ .receivingData) (b : UInt8) :
    (d.header b).state = .start ∨ (d.header b).Holds (tail ++ [b]) := by
  unfold Holds at h
  cases hst : d.state with
  | start =>
    simp only [hst] at h
    by_cases hb : b = magicWord1
    · exact Or.inr (by simp [Holds, MessageDecoder.header, hst, hb, h])
    · exact Or.inl (by simp [MessageDecoder.header, hst, hb])
  | magic1Found =>
    simp only [hst] at h
    by_cases hb : b = magicWord2
    · exact Or.inr (by simp [Holds, MessageDecoder.header, hst, hb, h])
    · exact Or.inl (by simp [MessageDecoder.header, hst, hb])
  | magic2Found | typeReceived =>
    simp only [hst] at h
    exact Or.inr (by simp [Holds, MessageDecoder.header, hst, h])
  | size1Received =>
    simp only [hst] at h
    have hgot : ([] : List UInt8).length < announcedSize d.tempSize1 b ∨
        announcedSize d.tempSize1 b = 0 ∧ ([] : List UInt8) = [] := by
      rcases Nat.eq_zero_or_pos (announcedSize d.tempSize1 b) with h0 | hpos
      · exact Or.inr ⟨h0, rfl⟩
      · exact Or.inl hpos
    have heq : d.header b =
        MessageDecoder.receiving d d.tempType (announcedSize d.tempSize1 b) [] := by
      simp [MessageDecoder.header, hst, receiving]
    rw [heq, h]
    exact Or.inr (holds_receiving d d.tempType hgot)
  | receivingData => exact absurd hst hs

/-- In a header state the byte lengthens what is held, or what is held was no
frame. -/
theorem Holds.header {d : MessageDecoder} {tail : List UInt8} (h : d.Holds tail)
    (hs : d.state ≠ .receivingData) (b : UInt8) :
    ∃ gap tail', (d.header b).Holds tail' ∧ tail ++ [b] = gap ++ tail' := by
  rcases h.header_cases hs b with hstart | hholds
  · exact ⟨tail ++ [b], [], holds_start hstart, by simp⟩
  · exact ⟨[], tail ++ [b], hholds, rfl⟩

/-- **What a byte does to what is held**: it stays, in part, or it was a frame and
its message is dispatched. -/
theorem Holds.accept {d : MessageDecoder} {tail : List UInt8} (h : d.Holds tail) (b : UInt8) :
    ∃ gap tail', (d.accept b).1.Holds tail' ∧
      ((d.accept b).2 = [] ∧ tail ++ [b] = gap ++ tail' ∨
        ∃ type payload, payload.length < 2 ^ 16 ∧
          (d.accept b).2 = [Message.complete type payload] ∧
          tail ++ [b] = frame type payload ++ (gap ++ tail')) := by
  by_cases hs : d.state = .receivingData
  · simp only [Holds, hs] at h
    obtain ⟨type, low, high, got, he, hgot, rfl⟩ := h
    have hlt := announcedSize_lt low high
    rw [he]
    rcases hgot with hgot | ⟨hzero, rfl⟩
    · by_cases hlast : got.length + 1 < announcedSize low high
      · rw [accept_receiving d type hlast]
        exact ⟨[], _, holds_receiving d type (Or.inl (by simpa using hlast)),
          Or.inl ⟨rfl, by simp⟩⟩
      · have hsize : announcedSize low high = got.length + 1 := by omega
        rw [hsize, accept_last]
        refine ⟨[], [], holds_start rfl, Or.inr ⟨type, got ++ [b], ?_, rfl, ?_⟩⟩
        · rw [List.length_append, List.length_singleton, ← hsize]
          exact hlt
        · have hlen : (got ++ [b]).length = announcedSize low high := by simp [hsize]
          rw [frame_eq type hlen]
          simp
    · -- a message without data goes out on the byte behind it
      rw [hzero, accept_empty]
      have hstart : (d.finished type []).Holds [] := holds_start rfl
      obtain ⟨gap, tail', htail', hb⟩ := hstart.header (by simp [finished]) b
      refine ⟨gap, tail', htail', Or.inr ⟨type, [], by decide, rfl, ?_⟩⟩
      have hsize : ([] : List UInt8).length = announcedSize low high := by simp [hzero]
      rw [← hb, frame_eq type hsize]
      simp
  · obtain ⟨gap, tail', htail', hb⟩ := h.header hs b
    rw [accept_header hs]
    exact ⟨gap, tail', htail', Or.inl ⟨rfl, hb⟩⟩

/-- Whatever is dispatched was framed in what was held and what came then. -/
theorem framed_consume {d : MessageDecoder} {tail : List UInt8} (h : d.Holds tail)
    (data : List UInt8) : Framed (d.consume data).2 (tail ++ data) := by
  induction data generalizing d tail with
  | nil => exact .nil _
  | cons b data ih =>
    obtain ⟨gap, tail', htail', hb⟩ := h.accept b
    have hrest := (ih htail').prepend gap
    rw [consume_cons, ← List.singleton_append, ← List.append_assoc]
    rcases hb with ⟨hnone, htail⟩ | ⟨type, payload, hlt, hone, htail⟩
    · rw [hnone, htail, List.append_assoc]
      exact hrest
    · rw [hone, htail, List.append_assoc, List.append_assoc]
      exact .cons [] type hlt hrest

/-- **Every dispatched message was framed in the stream**, in the order of the
stream and apart from the others, whatever else it contains and however it is
cut. -/
theorem decodeAll_framed {ε ω : Type} (h : Message → ω) {chunks : List (List UInt8)}
    (hfit : ∀ chunk ∈ chunks, chunk.length < 2 ^ 64) :
    ∃ d messages,
      decodeAll (ε := ε) (fun m => .ok (h m)) {} chunks = .ok (d, messages.map h) ∧
      Framed messages chunks.flatten := by
  have hframed := framed_consume (holds_start (d := {}) rfl) chunks.flatten
  refine ⟨(consume {} chunks.flatten).1, (consume {} chunks.flatten).2, ?_, hframed⟩
  rw [decodeAll_eq _ new_valid chunks hfit, deliver_ok]

/-- A message without data, dispatched on the magic word of the next, which is
cut. -/
theorem decodeAll_framed_empty :
    ∃ d,
      decodeAll (ε := Empty) (fun m => .ok (id m)) {}
          [[0x07, 0x54, 0xF0, 0x01, 0x00], [0x00, 0x54], [0xF0, 0x02, 0x01]] =
        .ok (d, [Message.complete 0x01 []]) ∧
      Framed [Message.complete 0x01 []]
        ([[0x07, 0x54, 0xF0, 0x01, 0x00], [0x00, 0x54], [0xF0, 0x02, 0x01]] :
          List (List UInt8)).flatten := by
  obtain ⟨d, messages, hrun, hframed⟩ := decodeAll_framed (ε := Empty) id
    (show ∀ chunk ∈ ([[0x07, 0x54, 0xF0, 0x01, 0x00], [0x00, 0x54], [0xF0, 0x02, 0x01]] :
      List (List UInt8)), chunk.length < 2 ^ 64 by decide)
  have hone : (decodeAll (ε := Empty) (fun m => .ok (id m)) {}
      [[0x07, 0x54, 0xF0, 0x01, 0x00], [0x00, 0x54], [0xF0, 0x02, 0x01]]).toOption.map Prod.snd =
        some [Message.complete 0x01 []] := by
    decide +kernel
  rw [hrun] at hone
  have hmessages : messages.map id = [Message.complete 0x01 []] := Option.some.inj hone
  rw [hmessages] at hrun
  rw [List.map_id] at hmessages
  rw [hmessages] at hframed
  exact ⟨d, hrun, hframed⟩

end MessageDecoder
end CameraController
