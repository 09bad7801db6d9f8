import CameraController.CommandObjects
import CameraController.MessageHandler
import CameraController.Sessions

/-! # From the bytes of the clients to commands

`fn_server`'s thread reads up to `RECV_BUF_SIZE` bytes, and `decode` goes through them;
a message that is complete goes to `handleMessage`, and the command it carries to
`onCommandReceived`, all in that thread.  So the loop of `decode` stands still while a
command is executed, and the next bytes are read when it is over.  Meanwhile the threads
of the functions go on.

Here this is one machine: the decoder, the bytes in `recv_buf` and the index of the loop,
and the program (`Controller`).  A turn of the loop is a step while the handler is idle; if
it completes a telecommand, it takes the command up.  What the first client leaves
behind in the decoder the next one goes on with, so that reads of several clients are
one sequence.  A text that does not parse ends the program. -/
namespace CameraController

open Streaming MessageDecoder StateMachine TCPServer RawMemory

structure CommandService where
  decoder : MessageDecoder := {}
  /-- `recv_buf`, as far as `read` has filled it. -/
  data : List UInt8 := []
  /-- The index of the loop of `decode`. -/
  index : Nat := 0
  controller : Controller := {}
  deriving DecidableEq, Repr

namespace CommandService

variable (parse : List UInt8 → Except JsonException Json) (target : Target)

inductive Action where
  /-- `read` answers, on any connection. -/
  | received (bytes : List UInt8)
  /-- A turn of the loop of `decode`. -/
  | turn
  /-- The handler goes on with its command. -/
  | handler (ans : Answer)
  /-- A thread of a function goes on. -/
  | thread (k : Nat) (ans : Answer)
  deriving DecidableEq, Repr

/-- The receive thread is in the loop of `decode`, or in `read`. -/
def Receiving (s : CommandService) : Prop :=
  s.controller.terminated = false ∧ s.controller.handler = .idle

instance (s : CommandService) : Decidable s.Receiving :=
  inferInstanceAs (Decidable (_ ∧ _))

/-- What a turn of the loop comes to. -/
def turned (s : CommandService) :
    Except (Fault JsonException) (MessageDecoder × List Handled × Nat) :=
  body (handleMessage parse target) s.decoder s.data s.index

/-- The commands a turn takes up. -/
def taken (s : CommandService) : List Command :=
  match turned parse target s with
  | .ok (_, handled, _) => handled.filterMap Handled.command
  | .error _ => []

/-- One step. -/
def step (s : CommandService) : Action → Option CommandService
  | .received bytes =>
    if s.Receiving ∧ s.index = s.data.length ∧ 1 ≤ bytes.length ∧ bytes.length ≤ recvBufSize then
      some { s with data := bytes, index := 0 }
    else
      none
  | .turn =>
    if s.Receiving ∧ s.index < s.data.length then
      match turned parse target s with
      | .ok (decoder, handled, i) => do
        let controller ← run Controller.step s.controller
          ((handled.filterMap Handled.command).map .command)
        return { s with decoder, index := u64 (i + 1), controller }
      | .error (.thrown _) => some { s with controller := { s.controller with terminated := true } }
      | .error _ => none
    else
      none
  | .handler ans => do
    let controller ← s.controller.step (.handler ans)
    return { s with controller }
  | .thread k ans => do
    let controller ← s.controller.step (.thread k ans)
    return { s with controller }

/-- What a run is judged by. -/
inductive Event where
  | received (bytes : List UInt8)
  | commanded (c : Command)
  deriving DecidableEq, Repr

def event (s : CommandService) : Action → List Event
  | .received bytes => [.received bytes]
  | .turn => (taken parse target s).map .commanded
  | _ => []

namespace Event

def bytes : Event → List UInt8
  | received bytes => bytes
  | commanded _ => []

def command? : Event → Option Command
  | received _ => none
  | commanded c => some c

end Event

/-- The bytes received. -/
def received (events : List Event) : List UInt8 := events.flatMap Event.bytes

/-- The commands taken up. -/
def commanded (events : List Event) : List Command := events.filterMap Event.command?

/-- The command that a message carries, if it is handled and has one. -/
def commandOf (m : Message) : Option Command :=
  match handleMessage parse target m with
  | .ok handled => handled.command
  | .error _ => none

/-- The commands framed in a stream. -/
def framed (stream : List UInt8) : List Command :=
  (({} : MessageDecoder).consume stream).2.filterMap (commandOf parse target)

/-! ## What a message comes to -/

/-- **A message that is complete is handled**, or what `json::parse` throws ends it. -/
theorem handleMessage_cases (type : UInt8) (payload : List UInt8) :
    (∃ handled, handleMessage parse target (Message.complete type payload) = .ok handled) ∨
      ∃ e, handleMessage parse target (Message.complete type payload) = .error (.thrown e) := by
  by_cases h : type = MessageType.telecommand.code → ∃ j, parse payload = .ok j
  · exact Or.inl ((handleMessage_isOk_iff parse target type payload).mpr h)
  · obtain ⟨htype, hnone⟩ := Classical.not_imp.mp h
    right
    rw [handleMessage, Message.complete_type, if_pos htype, Message.payload_complete]
    cases hparse : parse payload with
    | ok j => exact absurd ⟨j, hparse⟩ hnone
    | error e => exact ⟨e, by simp only [hparse]⟩

variable {parse target}

/-- The commands handed over are those the messages carry. -/
theorem filterMap_command {messages : List Message} {handled : List Handled}
    (h : List.Forall₂ (fun m r => handleMessage parse target m = .ok r) messages handled) :
    handled.filterMap Handled.command = messages.filterMap (commandOf parse target) := by
  induction h with
  | nil => rfl
  | @cons m r messages handled hm _ ih =>
    have hcommand : commandOf parse target m = r.command := by rw [commandOf, hm]
    rw [List.filterMap_cons, List.filterMap_cons, hcommand, ih]

/-- **A command carried by a message** is one that its text was decoded to. -/
theorem decode_of_commandOf {type : UInt8} {payload : List UInt8} {c : Command}
    (h : commandOf parse target (Message.complete type payload) = some c) :
    type = MessageType.telecommand.code ∧ ∃ j, parse payload = .ok j ∧
      JsonCommandDecoder.decode target none j = .accepted c := by
  rw [commandOf, handleMessage, Message.complete_type, Message.payload_complete] at h
  by_cases htype : type = MessageType.telecommand.code
  · rw [if_pos htype] at h
    cases hparse : parse payload with
    | error e => simp [hparse] at h
    | ok j =>
      refine ⟨htype, j, rfl, ?_⟩
      simp only [hparse] at h
      have hdecoded : (JsonCommandDecoder.decode target none j).decoded = true →
          ∃ c, JsonCommandDecoder.decode target none j = .accepted c :=
        JsonCommandDecoder.decode_decoded target
      generalize JsonCommandDecoder.decode target none j = r at h hdecoded ⊢
      obtain ⟨decoded, cmd, log⟩ := r
      cases decoded with
      | false => simp at h
      | true =>
        obtain ⟨c', hc'⟩ := hdecoded rfl
        simp only [Decoding.accepted, Decoding.mk.injEq] at hc'
        obtain ⟨-, rfl, rfl⟩ := hc'
        obtain rfl := Option.some.inj h
        rfl
  · simp [if_neg htype] at h

/-- The controller takes up whatever a message carries. -/
theorem isSome_onCommandReceived {s : Controller} (hs : Invariant s) {type : UInt8}
    {payload : List UInt8} {c : Command}
    (h : commandOf parse target (Message.complete type payload) = some c) :
    (s.onCommandReceived c).isSome := by
  obtain ⟨-, j, -, hdecode⟩ := decode_of_commandOf h
  obtain ⟨id, hcode, hkind, -⟩ := (JsonCommandDecoder.decode_accepted_iff target).mp hdecode
  refine (onCommandReceived_isSome_iff hs c).mpr fun k hk => ?_
  rw [kind_eq_castTo hcode hkind, hk, Option.getD_some]

variable (parse target)

/-- A turn completes one message at most. -/
theorem messages_of_advances {data : List UInt8} {d : MessageDecoder} {i j : Nat}
    {r : MessageDecoder × List Message} (h : Advances data d i r j) :
    r.2 = [] ∨ ∃ type payload, r.2 = [Message.complete type payload] := by
  cases h with
  | header => exact Or.inl rfl
  | empty d type => exact Or.inr ⟨type, [], rfl⟩
  | @copies d type size n i got hsize hgot hi hn =>
    have hlen : ((data.drop i).take n).length = n := by
      rw [List.length_take, List.length_drop]; omega
    by_cases hall : got.length + n = size
    · have hne : (data.drop i).take n ≠ [] := List.ne_nil_of_length_pos (by omega)
      have hrest := consume_rest d type got hne
      rw [hlen, hall] at hrest
      exact Or.inr ⟨type, _, congrArg Prod.snd hrest⟩
    · exact Or.inl (congrArg Prod.snd (consume_receiving d type size _ got (by omega)))

/-! ## What a turn does -/

/-- **What a turn can do.** -/
inductive Turned (s : CommandService) : CommandService → List Command → Prop
  /-- No message is completed, or one that carries no command. -/
  | quiet {r : MessageDecoder × List Message} {j : Nat}
      (hadvances : Advances s.data s.decoder s.index r j)
      (hnone : r.2.filterMap (commandOf parse target) = []) :
      Turned s { s with decoder := r.1, index := j } []
  /-- A command is taken up. -/
  | commanded {r : MessageDecoder × List Message} {j : Nat} {c : Command} {next : Controller}
      (hadvances : Advances s.data s.decoder s.index r j)
      (hcommand : r.2.filterMap (commandOf parse target) = [c])
      (hstep : s.controller.step (.command c) = some next) :
      Turned s { s with decoder := r.1, index := j, controller := next } [c]
  /-- What `json::parse` throws ends the program. -/
  | crashed (hreceiving : s.Receiving) :
      Turned s { s with controller := { s.controller with terminated := true } } []

variable {s : CommandService}

/-- **A turn advances the loop**, or something is thrown. -/
theorem turned_cases (hd : s.decoder.Valid) (hfit : s.data.length ≤ recvBufSize)
    (hi : s.index < s.data.length) :
    (∃ r handled i, Advances s.data s.decoder s.index r (u64 (i + 1)) ∧
      turned parse target s = .ok (r.1, handled, i) ∧
      handled.filterMap Handled.command = r.2.filterMap (commandOf parse target)) ∨
      ∃ e, turned parse target s = .error (.thrown e) := by
  have hlt : s.data.length < 2 ^ 64 := Nat.lt_of_le_of_lt hfit (by decide)
  obtain ⟨r, i, hadvances, hbody⟩ := hd.advances (handleMessage parse target) hlt hi
  have hdelivered : (∃ v, deliver (handleMessage parse target) r = .ok v) ∨
      ∃ e, deliver (handleMessage parse target) r = .error (.thrown e) := by
    obtain ⟨d, messages⟩ := r
    rcases messages_of_advances hadvances with hnone | ⟨type, payload, hone⟩
    · obtain rfl : messages = [] := hnone
      exact Or.inl ⟨_, rfl⟩
    · obtain rfl : messages = [Message.complete type payload] := hone
      rw [deliver_singleton]
      rcases handleMessage_cases parse target type payload with
        ⟨handled, h⟩ | ⟨e, h⟩
      · exact Or.inl ⟨_, by rw [h]; rfl⟩
      · exact Or.inr ⟨e, by rw [h]; rfl⟩
  rcases hdelivered with ⟨⟨d, handled⟩, hv⟩ | ⟨e, he⟩
  · obtain ⟨hsame, hall⟩ := (deliver_eq_ok_iff _).mp hv
    obtain rfl : d = r.1 := hsame
    exact Or.inl ⟨r, handled, i, hadvances, by rw [turned, hbody, hv]; rfl,
      filterMap_command hall⟩
  · exact Or.inr ⟨e, by rw [turned, hbody, he]; rfl⟩

/-- **A turn is possible**, and does one of these things. -/
theorem exists_turned (hd : s.decoder.Valid) (hfit : s.data.length ≤ recvBufSize)
    (hs : Invariant s.controller) (hreceiving : s.Receiving) (hi : s.index < s.data.length) :
    ∃ s', step parse target s .turn = some s' ∧
      Turned parse target s s' (taken parse target s) := by
  have hguard : s.Receiving ∧ s.index < s.data.length := ⟨hreceiving, hi⟩
  rcases turned_cases parse target hd hfit hi with
    ⟨r, handled, i, hadvances, hturned, hcommands⟩ | ⟨e, hthrown⟩
  · have htaken : taken parse target s = r.2.filterMap (commandOf parse target) := by
      rw [← hcommands]
      simp only [taken, hturned]
    have hstep : step parse target s .turn =
        (run Controller.step s.controller
          ((r.2.filterMap (commandOf parse target)).map .command)).map fun next =>
            { s with decoder := r.1, index := u64 (i + 1), controller := next } := by
      simp only [step, if_pos hguard, hturned, hcommands]
      cases run Controller.step s.controller _ <;> rfl
    rw [htaken, hstep]
    -- the message completed, if there is one, and the command it carries, if there is one
    cases hmessages : r.2.filterMap (commandOf parse target) with
    | nil => exact ⟨_, rfl, .quiet hadvances hmessages⟩
    | cons c rest =>
      obtain ⟨type, payload, hone⟩ : ∃ type payload, r.2 = [Message.complete type payload] := by
        refine (messages_of_advances hadvances).resolve_left fun hnone => ?_
        simp [hnone] at hmessages
      rw [hone] at hmessages
      obtain ⟨hc, rfl⟩ : commandOf parse target (Message.complete type payload) = some c ∧
          rest = [] := by
        cases hm : commandOf parse target (Message.complete type payload) <;>
          simp_all
      obtain ⟨next, hnext⟩ := Option.isSome_iff_exists.mp (isSome_onCommandReceived hs hc)
      have hcommand : s.controller.step (.command c) = some next := by
        simp [Controller.step, hreceiving.1, hreceiving.2, hnext]
      refine ⟨_, ?_, .commanded hadvances (hone ▸ hmessages) hcommand⟩
      simp [run, hcommand]
  · refine ⟨{ s with controller := { s.controller with terminated := true } },
      by simp only [step, if_pos hguard, hthrown], ?_⟩
    simp only [taken, hthrown]
    exact .crashed hreceiving

/-! ## What every run keeps -/

/-- A step other than a turn. -/
inductive Changed (s : CommandService) : Action → CommandService → Prop
  | received {bytes : List UInt8} (hreceiving : s.Receiving) (hover : s.index = s.data.length)
      (hpos : 1 ≤ bytes.length) (hle : bytes.length ≤ recvBufSize) :
      Changed s (.received bytes) { s with data := bytes, index := 0 }
  | turned {s' : CommandService} (hreceiving : s.Receiving) (hi : s.index < s.data.length)
      (hs' : step parse target s .turn = some s') : Changed s .turn s'
  | handler {ans : Answer} {next : Controller}
      (hstep : s.controller.step (.handler ans) = some next) :
      Changed s (.handler ans) { s with controller := next }
  | thread {k : Nat} {ans : Answer} {next : Controller}
      (hstep : s.controller.step (.thread k ans) = some next) :
      Changed s (.thread k ans) { s with controller := next }

theorem step_changed {s' : CommandService} {a : Action} (h : step parse target s a = some s') :
    Changed parse target s a s' := by
  cases a with
  | received bytes =>
    obtain ⟨⟨hreceiving, hover, hpos, hle⟩, hs'⟩ := Option.ite_none_right_eq_some.mp h
    obtain rfl := Option.some.inj hs'
    exact .received hreceiving hover hpos hle
  | turn =>
    obtain ⟨⟨hreceiving, hi⟩, -⟩ := Option.ite_none_right_eq_some.mp h
    exact .turned hreceiving hi h
  | handler ans =>
    obtain ⟨next, hstep, hs'⟩ := Option.bind_eq_some_iff.mp h
    obtain rfl := Option.some.inj hs'
    exact .handler hstep
  | thread k ans =>
    obtain ⟨next, hstep, hs'⟩ := Option.bind_eq_some_iff.mp h
    obtain rfl := Option.some.inj hs'
    exact .thread hstep

/-- **What every step keeps.** -/
structure Sound (s : CommandService) : Prop where
  decoder : s.decoder.Valid
  index_le : s.index ≤ s.data.length
  fits : s.data.length ≤ recvBufSize
  /-- The program is one that commands and threads have led to. -/
  program : s.controller.terminated = false → Reachable Controller.step {} s.controller

theorem init_sound : Sound {} where
  decoder := new_valid
  index_le := Nat.le_refl _
  fits := Nat.zero_le _
  program _ := ⟨[], rfl⟩

variable {parse target}

theorem running_of_step {c next : Controller} {a : CameraController.Action}
    (h : c.step a = some next) : c.terminated = false := by
  by_contra hterminated
  simp [Controller.step, hterminated] at h

/-- A step of the program leads to a program that steps have led to. -/
theorem Sound.reachable (hs : Sound s) {a : CameraController.Action} {next : Controller}
    (h : s.controller.step a = some next) : Reachable Controller.step {} next := by
  have hrun : run Controller.step s.controller [a] = some next := by simp [run, h]
  exact (hs.program (running_of_step h)).run hrun

/-- What a turn does from a sound state. -/
theorem Sound.turned {s' : CommandService} (hs : Sound s)
    (h : step parse target s .turn = some s') :
    Turned parse target s s' (taken parse target s) := by
  obtain ⟨⟨hreceiving, hi⟩, -⟩ := Option.ite_none_right_eq_some.mp h
  obtain ⟨s'', hs'', hturned⟩ := exists_turned parse target hs.decoder hs.fits
    (invariant_of_reachable (hs.program hreceiving.1)) hreceiving hi
  obtain rfl := Option.some.inj (h.symm.trans hs'')
  exact hturned

theorem Sound.step {s' : CommandService} {a : Action} (hs : Sound s)
    (h : step parse target s a = some s') : Sound s' := by
  cases step_changed parse target h with
  | received _ _ _ hle => exact { hs with index_le := Nat.zero_le _, fits := hle }
  | handler hstep | thread hstep => exact { hs with program := fun _ => hs.reachable hstep }
  | turned hreceiving hi _ =>
    have hturned := hs.turned h
    generalize taken parse target s = commands at hturned
    cases hturned with
    | quiet hadvances =>
      exact { hs with decoder := hadvances.valid, index_le := hadvances.le_length }
    | commanded hadvances _ hstep =>
      exact ⟨hadvances.valid, hadvances.le_length, hs.fits, fun _ => hs.reachable hstep⟩
    | crashed => exact { hs with program := fun hrunning => by cases hrunning }

theorem sound_of_reachable (h : Reachable (step parse target) {} s) : Sound s :=
  h.invariant (fun hs hstep => hs.step hstep) init_sound

/-! ## The commands of a stream are taken up in order -/

theorem received_append (events more : List Event) :
    received (events ++ more) = received events ++ received more :=
  List.flatMap_append

theorem commanded_append (events more : List Event) :
    commanded (events ++ more) = commanded events ++ commanded more :=
  List.filterMap_append

theorem received_commands (commands : List Command) :
    received (commands.map .commanded) = [] := by
  simp [received, List.flatMap_map, Event.bytes]

theorem commanded_commands (commands : List Command) :
    commanded (commands.map .commanded) = commands := by
  simp [commanded, List.filterMap_map, Function.comp_def, Event.command?]

variable (parse target)

/-- What has been received has been read, up to what is left of `recv_buf`, and the commands
of the messages dispatched on the way have been taken up. -/
def Obeyed (s : CommandService) (events : List Event) : Prop :=
  ∃ dispatched, ({} : MessageDecoder).consume (received events) =
      ((s.decoder.consume (s.data.drop s.index)).1,
        dispatched ++ (s.decoder.consume (s.data.drop s.index)).2) ∧
    commanded events = dispatched.filterMap (commandOf parse target)

variable {parse target}

/-- A step that reads nothing and takes nothing up. -/
theorem Obeyed.idle {events : List Event} (h : Obeyed parse target s events) (next : Controller) :
    Obeyed parse target { s with controller := next } (events ++ []) := by
  rw [List.append_nil]
  exact h

/-- **More bytes** are read behind those that have been read. -/
theorem Obeyed.received {events : List Event} (h : Obeyed parse target s events)
    (hover : s.index = s.data.length) (bytes : List UInt8) :
    Obeyed parse target { s with data := bytes, index := 0 } (events ++ [.received bytes]) := by
  obtain ⟨dispatched, hread, hcommands⟩ := h
  rw [hover, List.drop_length, consume_nil, List.append_nil] at hread
  refine ⟨dispatched, ?_, ?_⟩
  · rw [received_append, consume_append, hread, List.drop_zero]
    simp [CommandService.received, Event.bytes]
  · rw [commanded_append, hcommands]
    simp [commanded, Event.command?]

/-- **A turn** dispatches what comes next in the stream. -/
theorem Obeyed.advances {events : List Event} (h : Obeyed parse target s events)
    {r : MessageDecoder × List Message} {j : Nat}
    (hadvances : Advances s.data s.decoder s.index r j) (next : Controller) :
    Obeyed parse target { s with decoder := r.1, index := j, controller := next }
      (events ++ (r.2.filterMap (commandOf parse target)).map .commanded) := by
  obtain ⟨dispatched, hread, hcommands⟩ := h
  refine ⟨dispatched ++ r.2, ?_, ?_⟩
  · rw [received_append, received_commands, List.append_nil, hread, hadvances.consume_eq,
      List.append_assoc]
  · rw [commanded_append, commanded_commands, hcommands, List.filterMap_append]

theorem step_obeyed {s' : CommandService} {events : List Event} {a : Action} (hs : Sound s)
    (h : Obeyed parse target s events) (hstep : step parse target s a = some s') :
    Obeyed parse target s' (events ++ event parse target s a) := by
  cases step_changed parse target hstep with
  | received _ hover => exact h.received hover _
  | handler | thread => exact h.idle _
  | turned =>
    have hturned := hs.turned hstep
    simp only [event]
    generalize taken parse target s = commands at hturned ⊢
    cases hturned with
    | quiet hadvances hnone => exact hnone ▸ h.advances hadvances s.controller
    | commanded hadvances hcommand => exact hcommand ▸ h.advances hadvances _
    | crashed => exact h.idle _

variable (parse target)

/-- **Every run obeys** the messages it dispatches. -/
theorem obeyed_of_run {events : List Event} {actions : List Action}
    (h : run (recording (step parse target) (event parse target)) ({}, []) actions =
      some (s, events)) : Obeyed parse target s events := by
  have hinit : Sound {} ∧ Obeyed parse target {} [] := ⟨init_sound, [], rfl, rfl⟩
  exact (run_recording (P := fun s events => Sound s ∧ Obeyed parse target s events)
    (fun hs hstep => ⟨hs.1.step hstep, step_obeyed hs.1 hs.2 hstep⟩) hinit h).2

/-- What has been taken up is what is framed in what has been received, up to what is left
of `recv_buf`. -/
theorem commanded_of_obeyed {events : List Event} (h : Obeyed parse target s events) :
    commanded events <+: framed parse target (received events) ∧
      (s.index = s.data.length →
        commanded events = framed parse target (received events)) := by
  obtain ⟨dispatched, hread, hcommands⟩ := h
  rw [framed, hread, List.filterMap_append, ← hcommands]
  refine ⟨List.prefix_append _ _, fun hover => ?_⟩
  rw [hover, List.drop_length]
  exact (List.append_nil _).symm

/-- **The commands taken up are those of the stream**, in its order, none twice: in every
run they are the first commands framed in what has been received, however it was cut and
whatever the threads did meanwhile, and all of them once `decode` is through with it. -/
theorem commands_obeyed {events : List Event} {actions : List Action}
    (h : run (recording (step parse target) (event parse target)) ({}, []) actions =
      some (s, events)) :
    commanded events <+: framed parse target (received events) ∧
      (s.index = s.data.length →
        commanded events = framed parse target (received events)) :=
  commanded_of_obeyed parse target (obeyed_of_run parse target h)

/-- `{"cmd_id":5}`, which starts the function. -/
def startText : List UInt8 :=
  [0x7B, 0x22, 0x63, 0x6D, 0x64, 0x5F, 0x69, 0x64, 0x22, 0x3A, 0x35, 0x7D]

/-- What is parsed of it. -/
def startJson : Json := .object [(keyCmdId, .numberUnsigned 5)]

/-- A client sends one telecommand. -/
def startSent : List UInt8 := frame MessageType.telecommand.code startText

theorem commands_obeyed_start :
    let parse := fun _ => .ok startJson
    let target : Target := ⟨fun _ => 0, fun _ => 0⟩
    let events : List Event := [.received startSent, .commanded (.command 5)]
    commanded events <+: framed parse target (received events) ∧
      (startSent.length = startSent.length →
        commanded events = framed parse target (received events)) := by
  intro parse target events
  have h : run (recording (step parse target) (event parse target)) ({}, [])
      (.received startSent :: List.replicate 6 .turn) =
      some ({
        decoder := ({ tempType := 2, tempSize1 := 12 } : MessageDecoder).finished 2 startText
        data := startSent
        index := startSent.length
        controller := {} }, events) := by
    decide +kernel
  exact commands_obeyed parse target h

end CommandService
end CameraController
