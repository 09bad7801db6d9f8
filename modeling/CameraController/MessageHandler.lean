import CameraController.CommandFidelity
import CameraController.Framing

/-! # The handler, and what escapes it

`MessageHandler::handleMessage` parses the data of a telecommand, decodes the
JSON value and passes the command to its listener.  Decoding answers every
exception with `false`, but the text is parsed outside any `try` block: what
`json::parse` throws leaves the handler, the decoder and the thread that called
it.

`parse` is a parameter here, a function from texts to values or exceptions.
`decode_survives_iff` says for which streams nothing escapes. -/
namespace CameraController

open MessageDecoder Streaming

/-- What a call of `handleMessage` did: the command the listener was called with,
and the lines logged. -/
structure Handled where
  command : Option Command
  log : List LogLine
  deriving DecidableEq, Repr

variable (parse : List UInt8 → Except JsonException Json) (target : Target)

/-- `MessageHandler::handleMessage`; `c` points to no command at first. -/
def handleMessage (msg : Message) : Except (Fault JsonException) Handled :=
  if msg.type = MessageType.telecommand.code then
    match msg.payload with
    | none => .error .undefined
    | some s =>
      match parse s with
      | .error e => .error (.thrown e)
      | .ok j =>
        match JsonCommandDecoder.decode target none j with
        | ⟨true, some c, log⟩ => .ok ⟨some c, log⟩
        | ⟨true, none, _⟩ => .error .undefined
        | ⟨false, _, log⟩ => .ok ⟨none, log ++ [(.error, "Couldn't decode telecommand.")]⟩
  else
    .ok ⟨none, [(.error, "Unknown message received.")]⟩

/-- **A message is handled normally** unless it is a telecommand whose text does
not parse. -/
theorem handleMessage_isOk_iff (type : UInt8) (payload : List UInt8) :
    (∃ handled, handleMessage parse target (Message.complete type payload) = .ok handled) ↔
      (type = MessageType.telecommand.code → ∃ j, parse payload = .ok j) := by
  by_cases htype : type = MessageType.telecommand.code
  · rw [handleMessage, Message.complete_type, if_pos htype, Message.payload_complete]
    cases hparse : parse payload with
    | error e => simp [hparse, htype]
    | ok j =>
      -- `decode` answers `false`, or `true` with a command stored
      have hdecode : (JsonCommandDecoder.decode target none j).decoded = true →
          ∃ c, JsonCommandDecoder.decode target none j = .accepted c :=
        JsonCommandDecoder.decode_decoded target
      refine ⟨fun _ _ => ⟨j, rfl⟩, fun _ => ?_⟩
      simp only [hparse]
      generalize JsonCommandDecoder.decode target none j = r at hdecode ⊢
      obtain ⟨decoded, cmd, log⟩ := r
      cases decoded with
      | false => exact ⟨_, rfl⟩
      | true =>
        obtain ⟨c, hc⟩ := hdecode rfl
        simp only [Decoding.accepted, Decoding.mk.injEq] at hc
        obtain ⟨-, rfl, rfl⟩ := hc
        exact ⟨_, rfl⟩
  · rw [handleMessage, Message.complete_type, if_neg htype]
    exact ⟨fun _ h => absurd h htype, fun _ => ⟨_, rfl⟩⟩

/-- Every frame the chunks complete is handled normally, `decode` returns, and the
decoder goes on with the next frame. -/
def Survives (d : MessageDecoder) (chunks : List (List UInt8)) : Prop :=
  ∃ d' handled, decodeAll (handleMessage parse target) d chunks = .ok (d', handled) ∧
    List.Forall₂ (fun m r => handleMessage parse target m = .ok r)
      (d.consume chunks.flatten).2 handled ∧
    (d'.state = .start → ∀ (type : UInt8) (payload : List UInt8), 1 ≤ payload.length →
      payload.length < 2 ^ 16 → ∃ d'', d''.state = .start ∧
        decode record d' (frame type payload) = .ok (d'', [Message.complete type payload]))

/-- A decoder in `START` decodes the next frame. -/
theorem decode_frame {d : MessageDecoder} (hd : d.Valid) (hs : d.state = .start) (type : UInt8)
    {payload : List UInt8} (hpos : 1 ≤ payload.length) (hlt : payload.length < 2 ^ 16) :
    ∃ d', d'.state = .start ∧
      decode record d (frame type payload) = .ok (d', [Message.complete type payload]) := by
  have hfit : (frame type payload).length < 2 ^ 64 := by rw [length_frame, msgHeaderSize]; omega
  have hrun := decode_eq record hd hfit
  rw [deliver_record, consume_frame hs type hpos hlt] at hrun
  exact ⟨_, rfl, hrun⟩

/-- **Nothing escapes exactly when every telecommand of the stream parses.** -/
theorem decode_survives_iff {d : MessageDecoder} (hd : d.Reachable) {chunks : List (List UInt8)}
    (hfit : ∀ chunk ∈ chunks, chunk.length < 2 ^ 64) :
    Survives parse target d chunks ↔
      ∀ payload, Message.complete MessageType.telecommand.code payload ∈
        (d.consume chunks.flatten).2 → ∃ j, parse payload = .ok j := by
  have hv := hd.valid
  have hcomplete := consume_complete hv chunks.flatten
  constructor
  · rintro ⟨d', handled, -, hall, -⟩ payload hmem
    obtain ⟨r, hr⟩ := exists_forall₂_iff.mp ⟨handled, hall⟩ _ hmem
    exact (handleMessage_isOk_iff parse target _ payload).mp ⟨r, hr⟩ rfl
  · intro hparse
    obtain ⟨handled, hall⟩ : ∃ handled, List.Forall₂
        (fun m r => handleMessage parse target m = .ok r) (d.consume chunks.flatten).2 handled := by
      refine exists_forall₂_iff.mpr fun m hm => ?_
      obtain ⟨type, payload, rfl⟩ := hcomplete m hm
      exact (handleMessage_isOk_iff parse target type payload).mpr
        fun htype => hparse payload (htype ▸ hm)
    refine ⟨(d.consume chunks.flatten).1, handled, ?_, hall, ?_⟩
    · rw [decodeAll_eq _ hv chunks hfit, deliver_eq_ok_iff]
      exact ⟨rfl, hall⟩
    · intro hs type payload hpos hlt
      exact decode_frame (consume_valid hv _) hs type hpos hlt

/-- The text `null` is parsed, and no telecommand. -/
theorem decode_survives_null :
    Survives (fun _ => .ok .null) ⟨fun _ => 0, fun _ => 0⟩ {}
        [[0x54, 0xF0, 0x02, 0x04, 0x00, 0x6E, 0x75], [0x6C, 0x6C]] ↔
      ∀ payload, Message.complete MessageType.telecommand.code payload ∈
          (({} : MessageDecoder).consume
            [[0x54, 0xF0, 0x02, 0x04, 0x00, 0x6E, 0x75], [0x6C, 0x6C]].flatten).2 →
        ∃ j, (.ok .null : Except JsonException Json) = .ok j :=
  decode_survives_iff _ _ new_reachable (by decide)

/-- The text `x` is not JSON, and its parse error leaves `decode`. -/
theorem not_survives_x :
    ¬ Survives
      (fun _ => .error (.parseError 101 1 "syntax error - invalid literal; last read: 'x'"))
      ⟨fun _ => 0, fun _ => 0⟩ {} [[0x54, 0xF0, 0x02, 0x01, 0x00, 0x78]] := by
  rintro ⟨d', handled, hrun, -⟩
  cases hrun

end CameraController
