import CameraController.Framing
import CameraController.MessageEncoder

/-! # Decoding undoes encoding

Whatever texts are sent, and however the bytes of their frames are cut on the
way, a fresh decoder dispatches the pieces of each text in order and is back in
`START` (`decode_sendLogs`). -/
namespace CameraController

open MessageEncoder MessageDecoder

/-- `messages` are the log messages a text arrives as. -/
structure Carries (str : List UInt8) (messages : List Message) : Prop where
  type_eq : ∀ m ∈ messages, m.type = MessageType.log.code
  bounds : ∀ m ∈ messages, 1 ≤ m.size ∧ m.size ≤ 65535
  payloads : ∃ ps, messages.mapM Message.payload = some ps ∧
    messages.map Message.size = ps.map List.length ∧ ps.flatten = str
  count : messages.length = (str.length + 65534) / 65535

theorem mapM_payload_complete (type : UInt8) (ps : List (List UInt8)) :
    (ps.map (Message.complete type)).mapM Message.payload = some ps := by
  induction ps with
  | nil => rfl
  | cons p ps ih => simp [List.mapM_cons, ih]

theorem carries_of_isSplit {str : List UInt8} {pieces : List (List UInt8)}
    (h : IsSplit str pieces) :
    Carries str (pieces.map (Message.complete MessageType.log.code)) := by
  refine ⟨?_, ?_, ⟨pieces, mapM_payload_complete _ _, ?_, h.flatten_eq⟩, ?_⟩
  · intro m hm
    obtain ⟨p, -, rfl⟩ := List.mem_map.mp hm
    rfl
  · intro m hm
    obtain ⟨p, hp, rfl⟩ := List.mem_map.mp hm
    exact h.bounds p hp
  · rw [List.map_map]
    rfl
  · rw [List.length_map, h.count]

/-- **Decoding undoes encoding**, for every list of texts and every cut. -/
theorem decode_sendLogs {buf : List UInt8} (hbuf : buf.length = msgMaxLength)
    {strs : List (List UInt8)} (hstrs : ∀ str ∈ strs, str.length < 2 ^ 64) :
    ∃ buf' sent, sendLogs buf strs = some (buf', sent) ∧
      ∀ chunks : List (List UInt8), (∀ chunk ∈ chunks, chunk.length < 2 ^ 64) →
        chunks.flatten = sent.flatten.flatten →
        ∃ d groups, decodeAll record {} chunks = .ok (d, groups.flatten) ∧
          d.state = .start ∧ List.Forall₂ Carries strs groups := by
  obtain ⟨buf', splits, hsend, hsplits⟩ := sendLogs_spec hbuf hstrs
  refine ⟨buf', _, hsend, fun chunks hfit hflat => ?_⟩
  have hbytes : chunks.flatten = (splits.flatten.map (frame MessageType.log.code)).flatten := by
    rw [hflat, List.map_flatten]
  have hbounds : ∀ p ∈ splits.flatten, 1 ≤ p.length ∧ p.length ≤ 0xFFFF := by
    intro p hp
    obtain ⟨pieces, hpieces, hp⟩ := List.mem_flatten.mp hp
    obtain ⟨i, hi, rfl⟩ := List.getElem_of_mem hpieces
    exact (List.Forall₂.get hsplits (hsplits.length_eq ▸ hi) hi).bounds p hp
  obtain ⟨hstate, hmsgs⟩ := consume_frames (d := {}) rfl MessageType.log.code hbounds
  rw [← hbytes] at hstate hmsgs
  refine ⟨_, splits.map (List.map (Message.complete MessageType.log.code)), ?_, hstate, ?_⟩
  · rw [decodeAll_record new_valid hfit, ← List.map_flatten, ← hmsgs]
  · rw [List.forall₂_map_right_iff]
    exact hsplits.imp fun _ _ h => carries_of_isSplit h

/-- An empty text, and one with a magic word in it. -/
theorem decode_sendLogs_magic :
    ∃ buf' sent, sendLogs (List.replicate msgMaxLength 0) [[], [0x54, 0xF0, 0x41]] =
        some (buf', sent) ∧
      ∀ chunks : List (List UInt8), (∀ chunk ∈ chunks, chunk.length < 2 ^ 64) →
        chunks.flatten = sent.flatten.flatten →
        ∃ d groups, decodeAll record {} chunks = .ok (d, groups.flatten) ∧
          d.state = .start ∧ List.Forall₂ Carries [[], [0x54, 0xF0, 0x41]] groups :=
  decode_sendLogs List.length_replicate (by decide)

end CameraController
