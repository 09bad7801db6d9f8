import CameraController.CommandObjects
import CameraController.MessageHandler

/-! # The handler and the commands it deletes

`handleMessage` once more, with the command objects: `c` is not initialised, the decoder
makes it point to an object if it answers `true`, and the object is deleted behind the call
of the listener.

`handleAll_objects`: whatever the messages are, the handler does with objects what it does
with values, and none of the objects outlives the message it was made for. -/
namespace CameraController

open JsonCommandDecoder

namespace CommandStore

variable (parse : List UInt8 → Except JsonException Json) (target : Target)

/-- `MessageHandler::handleMessage`: the objects afterwards, and the command the listener
was called with. -/
def handleMessage (s : CommandStore) (msg : Message) :
    Except (Fault JsonException) (CommandStore × Option Command) :=
  if msg.type = MessageType.telecommand.code then
    match msg.payload with
    | none => .error .undefined
    | some text =>
      match parse text with
      | .error e => .error (.thrown e)
      | .ok j =>
        match decode target j { s with cmd := none } with
        | .error e _ => .error (.thrown e)
        | .ok false s =>
          .ok ({ s with log := s.log ++ [(.error, "Couldn't decode telecommand.")] }, none)
        | .ok true s =>
          match s.cmd with
          | none => .error .undefined
          | some p =>
            match s.objects[p]? with
            | some (some c) => .ok ({ s with objects := s.objects.set p none }, some c)
            | _ => .error .undefined
  else
    .ok ({ s with log := s.log ++ [(.error, "Unknown message received.")] }, none)

/-- One call of `handleMessage` for each message. -/
def handleAll : CommandStore → List Message →
    Except (Fault JsonException) (CommandStore × List (Option Command))
  | s, [] => return (s, [])
  | s, msg :: msgs => do
    let (s, command) ← handleMessage parse target s msg
    let (s, commands) ← handleAll s msgs
    return (s, command :: commands)

/-- The store behind calls that did these things: more objects were made, none of which is
left, and the lines were logged. -/
structure Handles (s s' : CommandStore) (handled : List Handled) : Prop where
  objects : ∃ gone, (∀ o ∈ gone, o = none) ∧ s'.objects = s.objects ++ gone
  log : s'.log = s.log ++ (handled.map Handled.log).flatten

theorem handles_nil (s : CommandStore) : Handles s s [] where
  objects := ⟨[], by simp, (List.append_nil _).symm⟩
  log := (List.append_nil _).symm

theorem Handles.trans {s s' s'' : CommandStore} {handled handled' : List Handled}
    (h : Handles s s' handled) (h' : Handles s' s'' handled') :
    Handles s s'' (handled ++ handled') := by
  obtain ⟨gone, hgone, hobjects⟩ := h.objects
  obtain ⟨gone', hgone', hobjects'⟩ := h'.objects
  refine ⟨⟨gone ++ gone', ?_, ?_⟩, ?_⟩
  · intro o ho
    rcases List.mem_append.mp ho with ho | ho
    · exact hgone o ho
    · exact hgone' o ho
  · rw [hobjects', hobjects, List.append_assoc]
  · rw [h'.log, h.log, List.map_append, List.flatten_append, List.append_assoc]

/-- **Each message** is handled as it is without objects. -/
theorem handleMessage_handles (s : CommandStore) (msg : Message) :
    match CameraController.handleMessage parse target msg with
    | .error f => handleMessage parse target s msg = .error f
    | .ok handled => ∃ s', handleMessage parse target s msg = .ok (s', handled.command) ∧
      Handles s s' [handled] := by
  unfold CameraController.handleMessage handleMessage
  by_cases htype : msg.type = MessageType.telecommand.code
  · rw [if_pos htype, if_pos htype]
    cases msg.payload with
    | none => rfl
    | some text =>
      cases hparse : parse text with
      | error e => simp only [hparse]
      | ok j =>
        simp only [hparse]
        -- what `decode` does with its object is what its result says
        have hreturns := decode_returns target j { s with cmd := none }
        cases hdecoded : (JsonCommandDecoder.decode target none j).decoded with
        | false =>
          obtain ⟨gone, hgone, hrun⟩ := hreturns.of_rejected hdecoded
          generalize JsonCommandDecoder.decode target none j = r at hdecoded hrun ⊢
          obtain ⟨decoded, cmd, log⟩ := r
          obtain rfl : decoded = false := hdecoded
          simp only [hrun]
          exact ⟨_, rfl, ⟨gone, hgone, rfl⟩, by simp⟩
        | true =>
          obtain ⟨c, hc⟩ := JsonCommandDecoder.decode_decoded target hdecoded
          rw [hc] at hreturns ⊢
          have hrun : decode target j { s with cmd := none } =
              .ok true ⟨s.objects ++ [some c], some s.objects.length, s.log ++ []⟩ := hreturns
          simp only [hrun, Decoding.accepted, List.getElem?_concat_length]
          exact ⟨_, rfl, ⟨[none], by simp, by simp⟩, by simp⟩
  · rw [if_neg htype, if_neg htype]
    exact ⟨_, rfl, ⟨[], by simp, by simp⟩, by simp⟩

/-- **No command outlives its message**: for every sequence of messages the handler calls the
listener with the commands that it calls it with when nothing is made or deleted, it never
follows a pointer to nothing, and all the objects made are deleted again. -/
theorem handleAll_objects (s : CommandStore) (msgs : List Message) :
    match msgs.mapM (CameraController.handleMessage parse target) with
    | .error f => handleAll parse target s msgs = .error f
    | .ok handled => ∃ s', handleAll parse target s msgs = .ok (s', handled.map Handled.command) ∧
      Handles s s' handled := by
  induction msgs generalizing s with
  | nil => exact ⟨s, rfl, handles_nil s⟩
  | cons msg msgs ih =>
    have hfirst := handleMessage_handles parse target s msg
    rw [List.mapM_cons]
    simp only [handleAll]
    cases hmsg : CameraController.handleMessage parse target msg with
    | error f =>
      rw [hmsg] at hfirst
      simp [hfirst, bind, Except.bind]
    | ok handled =>
      rw [hmsg] at hfirst
      obtain ⟨s', hrun, hhandles⟩ := hfirst
      have hrest := ih s'
      cases hmsgs : msgs.mapM (CameraController.handleMessage parse target) with
      | error f =>
        rw [hmsgs] at hrest
        simp [hrun, hrest, bind, Except.bind]
      | ok rest =>
        rw [hmsgs] at hrest
        obtain ⟨s'', hrun', hhandles'⟩ := hrest
        refine ⟨s'', ?_, hhandles.trans hhandles'⟩
        simp [hrun, hrun', bind, Except.bind, pure, Except.pure]

end CommandStore
end CameraController
