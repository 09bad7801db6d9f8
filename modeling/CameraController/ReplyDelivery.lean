import CameraController.RemoteControl

/-! # A client is told what became of its commands

`client_answered`: if no put overflows `send_buf` and the client stays, then what it is sent
are the lines of the log, whole and in order, and among them the answers to the commands
it has sent (`Exchange`): to each its own, in the order of the commands.  This holds
whatever else is logged in between, and however the threads take turns.

Each part has been proved of one of the two machines; `Spoken` is what brings them
together. -/
namespace CameraController

open StateMachine Streaming MessageDecoder TCPServer

namespace RemoteControl

variable {parse : List UInt8 → Except JsonException Json} {target : Target}
  {s s' : RemoteControl} {es : List Event} {a : Action}

/-! ## What each machine keeps -/

variable (parse target)

/-- **What holds of commands and replies**, from the bytes received to the calls of `log`. -/
structure Kept (s : RemoteControl) (es : List Event) : Prop where
  sound : s.service.Sound
  obeyed : CommandService.Obeyed parse target s.service (serviceEvents es)
  recorded : Recorded s.service.controller (handledEvents es)
  commands : (handledEvents es).filterMap HandlerEvent.command? =
    CommandService.commanded (serviceEvents es)
  spoken : Spoken s es

/-- Nothing is lost on the way to the client. -/
def LosesNothing (s : RemoteControl) : Action → Prop
  | .logging a => Logging.LosesNothing s.logging a
  | _ => True

/-- The streams that `main` adds. -/
def setUp : List Logging.Event := [.added .ofs .debug, .added .netstream .info]

/-- **What holds of the lines** on their way from the calls to the client. -/
structure Passed (s : RemoteControl) (es : List Event) : Prop where
  lines : ∃ done, Logging.Linear s.logging (setUp ++ loggingEvents es) done ∧
    s.logging.netstream.Exact (Logging.netText done)
  /-- No other stream is added. -/
  streams : ∀ e ∈ loggingEvents es, ∀ stream minlevel, e ≠ .added stream minlevel

variable {parse target}

theorem kept_init (encoderBuf streamBuf : List UInt8) :
    Kept parse target (init encoderBuf streamBuf) [] where
  sound := CommandService.init_sound
  obeyed := ⟨[], rfl, rfl⟩
  recorded := ⟨[], by simp, Or.inl ⟨rfl, rfl⟩⟩
  commands := rfl
  spoken := ⟨trivial, [], rfl, .nil⟩

/-- A step of the logger. -/
theorem Kept.logging (h : Kept parse target s es) {t : RemoteControl} {own : Bool}
    {events : List Logging.Event} (hservice : t.service = s.service)
    (hspoken : Spoken t (es ++ events.map (.logging own))) :
    Kept parse target t (es ++ events.map (.logging own)) := by
  obtain ⟨hserved, hhandled, -⟩ := events_logging own events
  refine ⟨?_, ?_, ?_, ?_, hspoken⟩
  · rw [hservice]
    exact h.sound
  · rw [hservice, serviceEvents_append, hserved, List.append_nil]
    exact h.obeyed
  · rw [hservice, handledEvents_append, hhandled, List.append_nil]
    exact h.recorded
  · rw [handledEvents_append, hhandled, List.append_nil, serviceEvents_append, hserved,
      List.append_nil]
    exact h.commands

/-- **Every step.** -/
theorem Kept.step (h : Kept parse target s es) (hstep : step parse target s a = some s') :
    Kept parse target s' (es ++ event parse target s a) := by
  have hspoken := h.spoken.step hstep
  cases step_change hstep with
  | @serves a results service hmay hserves =>
    obtain ⟨hserved, hhandled, -⟩ := events_service parse target s a results
    refine ⟨h.sound.step hserves, ?_, ?_, ?_, hspoken⟩
    · rw [serviceEvents_append, hserved]
      exact CommandService.step_obeyed h.sound h.obeyed hserves
    · rw [handledEvents_append, hhandled]
      exact h.sound.recorded_step h.recorded hserves results
    · rw [handledEvents_append, hhandled, List.filterMap_append, h.commands, serviceEvents_append,
        hserved, CommandService.commanded_append, CommandService.filterMap_command_handled]
  | @speaks time level text rest str hplace hleft htext =>
    rw [event_say parse target hleft htext] at hspoken ⊢
    exact h.logging rfl hspoken
  | logs => exact h.logging rfl hspoken

theorem passed_init {encoderBuf streamBuf : List UInt8}
    (hencoder : encoderBuf.length = msgMaxLength) (hstream : streamBuf.length = streamBufSize) :
    Passed (init encoderBuf streamBuf) [] where
  lines := ⟨[], ⟨rfl, rfl, rfl, rfl, .refl []⟩, LogPath.init_exact hencoder hstream⟩
  streams := by simp [loggingEvents]

/-- A step of the logger, made by whomever. -/
theorem Passed.logging (h : Passed s es) {b : Logging.Action} {logging : Logging}
    (hstep : Logging.step s.logging b = some logging) (hb : Logging.LosesNothing s.logging b)
    (hnone : ∀ stream minlevel, b ≠ .addStream stream minlevel) (own : Bool) (t : RemoteControl)
    (ht : t.logging = logging) :
    Passed t (es ++ (Logging.event s.logging b).map (.logging own)) := by
  obtain ⟨done, hlinear, hexact⟩ := h.lines
  obtain ⟨-, -, hlogged⟩ := events_logging own (Logging.event s.logging b)
  refine ⟨⟨done ++ Logging.emitted s.logging b, ?_, ?_⟩, ?_⟩
  · rw [ht, loggingEvents_append, hlogged, ← List.append_assoc]
    exact hlinear.step hstep
  · rw [ht]
    exact Logging.exact_step hexact hb hstep
  · intro e he
    rw [loggingEvents_append, hlogged] at he
    rcases List.mem_append.mp he with he | he
    · exact h.streams e he
    · cases b with
      | addStream stream minlevel => exact absurd rfl (hnone stream minlevel)
      | call c =>
        obtain rfl := List.mem_singleton.mp he
        simp
      | enter i =>
        obtain ⟨c, -, rfl⟩ := List.mem_map.mp he
        simp
      | output | leave | server => cases he

/-- **Every step.** -/
theorem Passed.step (h : Passed s es) (ha : LosesNothing s a)
    (hstep : step parse target s a = some s') :
    Passed s' (es ++ event parse target s a) := by
  cases step_change hstep with
  | @serves a results service hmay hserves =>
    obtain ⟨-, -, hlogged, -⟩ := events_service parse target s a results
    refine ⟨?_, ?_⟩
    · rw [loggingEvents_append, hlogged, List.append_nil]
      exact h.lines
    · rw [loggingEvents_append, hlogged, List.append_nil]
      exact h.streams
  | @speaks time level text rest str hplace hleft htext =>
    rw [event_say parse target hleft htext]
    exact h.logging (b := .call ⟨time, level, str⟩) rfl trivial (by simp) true _ rfl
  | logs hmay hlogs =>
    refine h.logging hlogs ha ?_ _ _ rfl
    rintro stream minlevel rfl
    exact hmay

/-! ## What the client is told -/

/-- A line that the client is sent. -/
def Audible (c : LogCall) : Prop := LogLevel.info.value ≤ c.level.value

instance (c : LogCall) : Decidable (Audible c) := inferInstanceAs (Decidable (_ ≤ _))

/-- The text of a line. -/
def text (c : LogCall) : String := Logger.line c.time c.level c.str

/-- **What the client hears**: of each line its messages. -/
def heard (es : List Event) : List Message :=
  ((transcript es).filter fun l => Audible l.2).flatMap fun l =>
    (LogPath.pieces (lineBytes (text l.2))).map (Message.complete MessageType.log.code)

/-- The client's lines are those of the levels from `info` on. -/
theorem log_mainLogger (c : LogCall) :
    ((mainLogger.log c.time c.level c.str).filter fun l => l.1 = .netstream).map Prod.snd =
      if Audible c then [text c] else [] := by
  have hdebug : LogLevel.debug.value ≤ c.level.value := Nat.zero_le _
  by_cases h : LogLevel.info.value ≤ c.level.value <;>
    simp [Logger.log, mainLogger, startedLogger, Logger.addStream, Audible, text, hdebug, h]

/-- The lines of some calls, when no stream is added. -/
theorem sequential_mainLogger {events : List Logging.Event}
    (h : ∀ e ∈ events, ∀ stream minlevel, e ≠ .added stream minlevel) :
    ((Logging.sequential mainLogger events).filter fun l => l.1 = .netstream).map Prod.snd =
      ((events.filterMap Logging.Event.logged?).filter fun c => Audible c).map text := by
  induction events with
  | nil => rfl
  | cons e events ih =>
    have hrest := ih fun e he => h e (List.mem_cons_of_mem _ he)
    cases e with
    | called c => exact hrest
    | added stream minlevel => exact absurd rfl (h _ List.mem_cons_self stream minlevel)
    | logged c =>
      have hcons : (Logging.Event.logged c :: events).filterMap Logging.Event.logged? =
          c :: events.filterMap Logging.Event.logged? := rfl
      rw [Logging.sequential, List.filter_append, List.map_append, log_mainLogger, hrest, hcons]
      by_cases hc : Audible c <;> simp [hc]

/-- The calls of the record are those of the logger. -/
theorem filterMap_logged (es : List Event) :
    (loggingEvents es).filterMap Logging.Event.logged? = (transcript es).map Prod.snd := by
  rw [loggingEvents, transcript, List.filterMap_filterMap, List.map_filterMap]
  congr 1
  funext e
  cases e with
  | service | handler => rfl
  | logging own e => cases e <;> rfl

/-- **The client hears the lines of the record.** -/
theorem Passed.heard_eq (h : Passed s es) :
    ((Logging.linesOn .netstream (setUp ++ loggingEvents es)).flatMap fun line =>
      LogPath.pieces (lineBytes line)).map (Message.complete MessageType.log.code) = heard es := by
  have hlines : Logging.linesOn .netstream (setUp ++ loggingEvents es) =
      (((transcript es).filter fun l => Audible l.2).map Prod.snd).map text := by
    rw [Logging.linesOn_eq]
    refine (sequential_mainLogger h.streams).trans ?_
    rw [filterMap_logged, List.filter_map]
    rfl
  rw [hlines, heard, List.map_flatMap, List.flatMap_map, List.flatMap_map]

/-- **What has become of the commands** that a client has sent. -/
structure Served (s : RemoteControl) (es : List Event) (sent : List Command)
    (past : List Dialogue) (current : List HandlerEvent) (printed : List Reply) : Prop where
  answered : Answered s.service.controller (handledEvents es) past current
  /-- The dialogues are about the commands sent, in their order. -/
  commands : past.map Dialogue.command <+: sent
  /-- What is said in them is logged, but for what is left to log. -/
  said : past.flatMap Dialogue.replies ++ current.filterMap HandlerEvent.reply? =
    printed ++ s.left
  /-- The lines about commands, among all lines of the log. -/
  logged : List.Forall₂ Reply.LoggedBy printed (ownLines es)

/-- The commands of some dialogues. -/
theorem commands_dialogues {past : List Dialogue} (h : ∀ d ∈ past, d.Own) :
    (past.flatMap Dialogue.events).filterMap HandlerEvent.command? =
      past.map Dialogue.command := by
  induction past with
  | nil => rfl
  | cons d past ih =>
    rw [List.flatMap_cons, List.filterMap_append, Dialogue.filterMap_command (h d (by simp)),
      ih fun e he => h e (List.mem_cons_of_mem _ he)]
    rfl

/-- What is said in some dialogues. -/
theorem replies_dialogues (past : List Dialogue) :
    (past.flatMap Dialogue.events).filterMap HandlerEvent.reply? =
      past.flatMap Dialogue.replies := by
  induction past with
  | nil => rfl
  | cons d past ih =>
    rw [List.flatMap_cons, List.filterMap_append, ih, List.flatMap_cons]
    rfl

/-- The receive thread is not inside when nobody is. -/
theorem Spoken.unlogged_eq (h : Spoken s es) (hfree : s.logging.inside = none) :
    s.unlogged = s.left := by
  have hstanding := h.standing
  refine if_neg fun hplace => ?_
  rw [Standing, hplace, hfree] at hstanding
  simp at hstanding

/-- **Commands are served** in every state in which no call is inside. -/
theorem Kept.served (h : Kept parse target s es) {sent : List (List UInt8 × Command)}
    (hsent : ∀ p ∈ sent, CommandService.Carries parse p.1 p.2)
    (hreceived : CommandService.received (serviceEvents es) <+: CommandService.sentStream sent)
    (hfree : s.logging.inside = none) :
    ∃ past current printed, Served s es (sent.map Prod.snd) past current printed ∧
      (CommandService.received (serviceEvents es) = CommandService.sentStream sent → s.Free →
        past.map Dialogue.command = sent.map Prod.snd ∧ current = [] ∧ s.left = []) := by
  obtain ⟨past, current, hanswered⟩ := h.recorded.answered
  obtain ⟨printed, hsaid, hlogged⟩ := h.spoken.lines
  obtain ⟨hfirst, hall⟩ := CommandService.sent_of_obeyed parse target hsent h.obeyed hreceived
  have hcommands : past.map Dialogue.command ++ current.filterMap HandlerEvent.command? =
      CommandService.commanded (serviceEvents es) := by
    rw [← h.commands, hanswered.events, List.filterMap_append,
      commands_dialogues fun d hd => (hanswered.proper d hd).own]
  rw [hanswered.events, List.filterMap_append, replies_dialogues,
    h.spoken.unlogged_eq hfree] at hsaid
  refine ⟨past, current, printed, ⟨hanswered, ?_, hsaid, hlogged⟩, ?_⟩
  · exact (List.prefix_append _ _).trans (hcommands ▸ hfirst)
  · rintro hwhole ⟨hleft, hidle, hover⟩
    have hnone := hanswered.ended hidle
    rw [hnone, List.filterMap_nil, List.append_nil] at hcommands
    exact ⟨hcommands.trans (hall hwhole hover), hnone, hleft⟩

variable (parse target)

/-- **A client is told what became of its commands.**  In every run in which no more comes in
than the telecommands sent, no put overflows `send_buf` and the client stays: once no call is
inside and nothing is left on the way, the messages that a fresh decoder dispatches from what
the client has read are the lines of the log; those about commands are what has been said in
dialogues (`Answered`) about the commands sent, in their order; and when everything sent is
received and done, in one dialogue about each. -/
theorem client_answered {encoderBuf streamBuf : List UInt8}
    (hencoder : encoderBuf.length = msgMaxLength) (hstream : streamBuf.length = streamBufSize)
    {sent : List (List UInt8 × Command)}
    (hsent : ∀ p ∈ sent, CommandService.Carries parse p.1 p.2) {actions : List Action}
    (hlose : EachStep (step parse target) LosesNothing (init encoderBuf streamBuf) actions)
    (hrun : run (recording (step parse target) (event parse target))
      (init encoderBuf streamBuf, []) actions = some (s, es))
    (hreceived : CommandService.received (serviceEvents es) <+: CommandService.sentStream sent)
    (hfree : s.logging.inside = none) (hdrained : s.logging.netstream.server.Drained)
    {client : List Placed} (hclient : s.logging.netstream.server.connections = [client])
    {chunks : List (List UInt8)} (hfit : ∀ chunk ∈ chunks, chunk.length < 2 ^ 64)
    (hbytes : chunks.flatten = client.map Prod.fst) :
    (∃ d, decodeAll record {} chunks = .ok (d, heard es)) ∧
      ∃ past current printed, Served s es (sent.map Prod.snd) past current printed ∧
        (CommandService.received (serviceEvents es) = CommandService.sentStream sent → s.Free →
          past.map Dialogue.command = sent.map Prod.snd ∧ current = [] ∧ s.left = []) := by
  have hkeep : ∀ {r : RemoteControl × List Event} {a r'},
      Kept parse target r.1 r.2 ∧ Passed r.1 r.2 → LosesNothing r.1 a →
      recording (step parse target) (event parse target) r a = some r' →
      Kept parse target r'.1 r'.2 ∧ Passed r'.1 r'.2 := by
    rintro r a r' ⟨hkept, hpassed⟩ ha hs
    obtain ⟨t, ht, rfl⟩ := Option.map_eq_some_iff.mp hs
    exact ⟨hkept.step ht, hpassed.step ha ht⟩
  have halways := always_of_eachStep (fun h => h) hkeep
    ⟨kept_init encoderBuf streamBuf, passed_init hencoder hstream⟩ (hlose.recording [])
  obtain ⟨hkept, hpassed⟩ := halways.of_run hrun
  refine ⟨?_, hkept.served hsent hreceived hfree⟩
  obtain ⟨done, hlinear, hexact⟩ := hpassed.lines
  rw [← hpassed.heard_eq]
  exact hlinear.decoded hexact hfree hdrained hclient hfit hbytes

end RemoteControl

/-! ## A command, and its answer -/

namespace TCPServer.SendSide

/-- A client that has got nothing yet gets what `fn_sender` has taken. -/
theorem step_send {s : SendSide} {bytes : List Placed} (htaken : s.taken = some bytes)
    (honline : s.online = true) (hconnections : s.connections = [[]]) :
    step s .send = some { s with taken := none, connections := [bytes] } := by
  simp [step, htaken, honline, hconnections, sendTo]

/-- A frame is put, and the client that is there gets it in one chunk. -/
def nextFrame : List Action := [.put, .take, .send]

theorem run_nextFrame {s : SendSide} (h : s.Lossless)
    (hconnected : s.clientConnected = true) (hfree : s.taken = none)
    (hconnections : s.connections = [[]]) (hempty : s.sendBuf.contents = []) {f : List UInt8}
    (hpending : s.pending = [f]) (hne : f ≠ []) (hshort : f.length ≤ TCPServer.bufSize) :
    ∃ s' client, run step s nextFrame = some s' ∧ EachStep step LosesNothing s nextFrame ∧
      s'.Drained ∧ s'.connections = [client] ∧ client.map Prod.fst = f := by
  have hreceiving : s.server = .receiving := by
    by_contra hnot
    simp [(h.idle hnot).1] at hconnected
  obtain ⟨honline, -⟩ := h.online (by rw [hreceiving]; decide)
  have hfit : ([] : List UInt8).length + f.length ≤ sendBufSize := by
    rw [List.length_nil, Nat.zero_add]
    exact Nat.le_trans hshort (by decide)
  obtain ⟨cb, hput, -, -, hcontents⟩ := step_put h.sound hpending
  rw [hempty, RingBuffer.push_of_length_le hfit, List.nil_append] at hcontents
  have hsound := step_sound h.sound hput
  obtain ⟨rest, htake, -, -, hrest⟩ := step_take hsound hfree hconnected (by
    rw [CircularBuffer.currentSize_eq hsound.sendBuf, hcontents]
    exact fun h0 => hne (List.length_eq_zero_iff.mp h0))
  refine ⟨_, _, (run_cons_eq_some step).mpr ⟨_, hput, (run_cons_eq_some step).mpr
    ⟨_, htake, (run_cons_eq_some step).mpr ⟨_, step_send rfl honline hconnections, rfl⟩⟩⟩, ?_,
    ⟨rfl, ?_, rfl⟩, rfl, ?_⟩
  · refine .cons (fun g hg => ?_) hput (fun _ _ => ⟨trivial, fun _ _ => ⟨trivial, trivial⟩⟩)
    rw [hpending] at hg
    obtain rfl := Option.some.inj hg
    rw [hempty]
    exact hfit
  · rw [hrest, hcontents]
    exact List.drop_of_length_le hshort
  · rw [List.zipIdx_map_fst, hcontents]
    exact List.take_of_length_le hshort

end TCPServer.SendSide

namespace RemoteControl

/-- Nobody but the logger and `fn_sender` is concerned. -/
def Passive : Logging.Action → Prop
  | .output | .server .put | .server .take | .server .send => True
  | _ => False

/-- **The logger and `fn_sender` by themselves.** -/
theorem run_passive (parse : List UInt8 → Except JsonException Json) (target : Target)
    {s : RemoteControl} (hrunning : s.service.controller.terminated = false)
    {actions : List Logging.Action} (hpassive : ∀ a ∈ actions, Passive a) {logging : Logging}
    (hrun : run Logging.step s.logging actions = some logging)
    (hlose : EachStep Logging.step Logging.LosesNothing s.logging actions) (es : List Event) :
    run (recording (step parse target) (event parse target)) (s, es) (actions.map .logging) =
        some ({ s with logging }, es) ∧
      EachStep (step parse target) LosesNothing s (actions.map .logging) := by
  induction actions generalizing s with
  | nil =>
    obtain rfl := Option.some.inj hrun
    exact ⟨rfl, trivial⟩
  | cons a actions ih =>
    obtain ⟨next, hnext, hrest⟩ := (run_cons_eq_some Logging.step).mp hrun
    obtain ⟨ha, hlater⟩ := hlose next hnext
    have hone := hpassive a List.mem_cons_self
    have hstep : step parse target s (.logging a) = some { s with logging := next } ∧
        event parse target s (.logging a) = [] := by
      cases a with
      | output => simp [step, hrunning, MayLog, leftAfter, placeAfter, hnext, event, Logging.event]
      | server b =>
        cases b with
        | put | take | send =>
          simp [step, hrunning, MayLog, leftAfter, placeAfter, hnext, event, Logging.event]
        | _ => exact absurd hone id
      | _ => exact absurd hone id
    obtain ⟨hactions, heach⟩ := ih (s := { s with logging := next }) hrunning
      (fun b hb => hpassive b (List.mem_cons_of_mem _ hb)) hrest hlater
    refine ⟨(run_cons_eq_some _).mpr ⟨({ s with logging := next }, es), ?_, hactions⟩,
      heach.cons ha hstep.1⟩
    simp [recording, hstep]

/-- The outputs of a line of `mainLogger`. -/
theorem emitLines_main (line : String) :
    emitLines [(.cout, line), (.ofs, line), (.netstream, line)] =
      (emitLine line).map (fun e => (.cout, e)) ++
        ((emitLine line).map (fun e => (.ofs, e)) ++ Logging.netLine line) := by
  simp [emitLines, Logging.netLine, emitLine]

/-- **A short line reaches the client that is there**, in one message. -/
theorem exists_passive {s : Logging} {line : String}
    (hinside : s.inside = some (emitLines [(.cout, line), (.ofs, line), (.netstream, line)]))
    (hnet : s.netstream.Exact ⟨[], []⟩) (hidle : s.netstream.server.pending = [])
    (hconnected : s.netstream.server.clientConnected = true)
    (htaken : s.netstream.server.taken = none)
    (hconnections : s.netstream.server.connections = [[]])
    (hempty : s.netstream.server.sendBuf.contents = []) (hne : lineBytes line ≠ [])
    (hshort : (frame MessageType.log.code (lineBytes line)).length ≤ TCPServer.bufSize) :
    ∃ actions t client, run Logging.step s actions = some t ∧ (∀ a ∈ actions, Passive a) ∧
      EachStep Logging.step Logging.LosesNothing s actions ∧ t.inside = some [] ∧
      t.netstream.server.Drained ∧ t.netstream.server.connections = [client] ∧
      client.map Prod.fst = frame MessageType.log.code (lineBytes line) := by
  rw [emitLines_main] at hinside
  obtain ⟨cout, ofs, hcout⟩ := Logging.exists_run_text (show LogStream.cout ≠ .netstream by decide)
    (emitLine line) hinside
  obtain ⟨cout', ofs', hofs⟩ := Logging.exists_run_text (show LogStream.ofs ≠ .netstream by decide)
    (emitLine line) (s := { s with
      inside := some ((emitLine line).map (fun e => (.ofs, e)) ++ Logging.netLine line)
      cout
      ofs }) rfl
  obtain ⟨netstream, client, hpassed, heach, hdrained, hclient, hbytes⟩ :=
    Logging.exists_run_netLine
      (s := { s with inside := some (Logging.netLine line), cout := cout', ofs := ofs' })
      rfl hnet hidle hne (Logging.length_lt_of_frame hshort) SendSide.nextFrame
      (by simp [SendSide.nextFrame])
      fun _ hserver => SendSide.run_nextFrame hserver hconnected htaken hconnections hempty rfl
        (by simp [frame]) hshort
  refine ⟨List.replicate (emitLine line).length .output ++
    (List.replicate (emitLine line).length .output ++
      (List.replicate ((lineBytes line).length + 1) .output ++
        (SendSide.nextFrame.map .server ++ [.output]))),
    { s with inside := some [], cout := cout', ofs := ofs', netstream }, client, ?_, ?_, ?_, rfl,
    hdrained, hclient, hbytes⟩
  · rw [run_append, hcout, Option.bind_some, run_append, hofs, Option.bind_some]
    exact hpassed
  · intro a ha
    simp only [SendSide.nextFrame, List.mem_append, List.mem_replicate, List.map_cons,
      List.map_nil, List.mem_cons, List.not_mem_nil, or_false] at ha
    rcases ha with ⟨-, rfl⟩ | ⟨-, rfl⟩ | ⟨-, rfl⟩ | (rfl | rfl | rfl) | rfl <;> trivial
  · apply (EachStep.of_forall (Logging.losesNothing_output _) _).append hcout
    exact (EachStep.of_forall (Logging.losesNothing_output _) _).append hofs heach

/-- **The program by itself**, whatever the logger does. -/
theorem run_service {parse : List UInt8 → Except JsonException Json} {target : Target}
    {actions : List (CommandService.Action × CallResults)} {s t : RemoteControl}
    {es es' : List Event}
    (hrun : run (recording (step parse target) (event parse target)) (s, es)
      (actions.map fun a => .service a.1 a.2) = some (t, es')) {logging : Logging}
    (hserver : logging.netstream.server.server = s.logging.netstream.server.server) :
    run (recording (step parse target) (event parse target)) ({ s with logging }, es)
      (actions.map fun a => .service a.1 a.2) = some ({ t with logging }, es') := by
  induction actions generalizing s es with
  | nil =>
    obtain ⟨rfl, rfl⟩ := Prod.mk.inj (Option.some.inj hrun)
    rfl
  | cons a actions ih =>
    obtain ⟨⟨a, results⟩, rfl⟩ : ∃ b, a = b := ⟨a, rfl⟩
    obtain ⟨r, hone, hrest⟩ := (run_cons_eq_some _).mp hrun
    obtain ⟨next, hnext, rfl⟩ := Option.map_eq_some_iff.mp hone
    have hrunning : ¬ s.service.controller.terminated = true :=
      (Option.ite_none_left_eq_some.mp hnext).1
    have hsame : next.logging = s.logging ∧
        step parse target { s with logging } (.service a results) = some { next with logging } := by
      cases step_change hnext with
      | serves hmay hstep =>
        have hmay' : MayServe { s with logging } a := by
          cases a with
          | received => exact ⟨hmay.1, hserver.trans hmay.2⟩
          | _ => exact hmay
        exact ⟨rfl, by simp [step, hrunning, hmay', hstep]⟩
    refine (run_cons_eq_some _).mpr ⟨({ next with logging }, _), ?_,
      ih hrest (by rw [hsame.1]; exact hserver)⟩
    simp only [recording, hsame.2, Option.map_some]
    rfl

/-- The line that refuses a command when there is no function. -/
def refusal : LogCall := ⟨"12:00:00", .warning, "No function configured."⟩

/-- A client is there, and `send_buf` is small. -/
def smallLogging : Logging where
  logger := mainLogger
  waiting := []
  inside := none
  cout := []
  ofs := []
  netstream :=
    ⟨NetStreamBuf.new [], { SendSide.init [] with
      sendBuf := CircularBuffer.new 1, server := .receiving }⟩

/-- A client sends a START, which `decode` goes through. -/
def startReceived : List (CommandService.Action × CallResults) :=
  (.received CommandService.startSent, {}) :: List.replicate 6 (.turn, {})

/-- What is recorded of that. -/
def startEvents : List Event :=
  [.service (.received CommandService.startSent), .service (.commanded (.command 5)),
    .handler (.took {} (.command 5)), .handler (.said Refusal.notConfigured.reply)]

def startService : CommandService where
  decoder := ({ tempType := 2, tempSize1 := 12 } : MessageDecoder).finished 2
    CommandService.startText
  data := CommandService.startSent
  index := CommandService.startSent.length
  controller := {}

theorem run_startReceived :
    let parse := fun _ => .ok CommandService.startJson
    let target : Target := ⟨fun _ => 0, fun _ => 0⟩
    run (recording (step parse target) (event parse target))
        (⟨{}, smallLogging, [], .outside⟩, []) (startReceived.map fun a => .service a.1 a.2) =
      some (⟨startService, smallLogging, [Refusal.notConfigured.reply], .outside⟩,
        startEvents) := by
  decide +kernel

/-- A client has come. -/
def met (encoderBuf streamBuf : List UInt8) : Logging :=
  { (init encoderBuf streamBuf).logging with
    netstream := ⟨NetStreamBuf.new streamBuf, { SendSide.init encoderBuf with
      server := .receiving, online := true, clientConnected := true, connections := [[]] }⟩ }

/-- The call of the line is inside. -/
def told (logging : Logging) : Logging :=
  { logging with
    inside := some (emitLines
      [(.cout, text refusal), (.ofs, text refusal), (.netstream, text refusal)]) }

/-- What is recorded up to there. -/
def toldEvents : List Event :=
  startEvents ++ [.logging true (.called refusal), .logging true (.logged refusal)]

theorem length_refusal : (lineBytes (text refusal)).length = 44 := by decide

theorem lineBytes_refusal_ne : lineBytes (text refusal) ≠ [] :=
  List.ne_nil_of_length_pos (by rw [length_refusal]; decide)

theorem heard_told :
    heard toldEvents = [Message.complete MessageType.log.code (lineBytes (text refusal))] := by
  have hone : heard toldEvents = (LogPath.pieces (lineBytes (text refusal))).map
      (Message.complete MessageType.log.code) := List.append_nil _
  rw [hone, LogPath.pieces_of_short lineBytes_refusal_ne (by rw [length_refusal]; decide)]
  rfl

/-- A client comes, its START is taken up, and the line that refuses it is being logged. -/
def startTold : List Action :=
  [.logging (.server .accept), .logging (.server .connected)] ++
    ((startReceived.map fun a => .service a.1 a.2) ++ [.say refusal.time, .logging (.enter 0)])

theorem run_startTold (encoderBuf streamBuf : List UInt8) :
    let parse := fun _ => .ok CommandService.startJson
    let target : Target := ⟨fun _ => 0, fun _ => 0⟩
    run (recording (step parse target) (event parse target)) (init encoderBuf streamBuf, [])
        startTold =
      some (⟨startService, told (met encoderBuf streamBuf), [Refusal.notConfigured.reply], .inside⟩,
        toldEvents) := by
  intro parse target
  have hmet : run (recording (step parse target) (event parse target))
      (init encoderBuf streamBuf, []) [.logging (.server .accept), .logging (.server .connected)] =
        some (⟨{}, met encoderBuf streamBuf, [], .outside⟩, []) := rfl
  have hserved : run (recording (step parse target) (event parse target))
      (⟨{}, met encoderBuf streamBuf, [], .outside⟩, [])
      (startReceived.map fun a => .service a.1 a.2) =
        some (⟨startService, met encoderBuf streamBuf, [Refusal.notConfigured.reply], .outside⟩,
          startEvents) := run_service run_startReceived rfl
  rw [startTold, run_append, hmet, Option.bind_some, run_append, hserved]
  rfl

theorem exact_met {encoderBuf streamBuf : List UInt8}
    (hencoder : encoderBuf.length = msgMaxLength) (hstream : streamBuf.length = streamBufSize) :
    (met encoderBuf streamBuf).netstream.Exact ⟨[], []⟩ := by
  have haccept : LogPath.step (LogPath.init encoderBuf streamBuf) (.server .accept) =
      some ⟨NetStreamBuf.new streamBuf, { SendSide.init encoderBuf with
        server := .accepted, online := true, connections := [[]] }⟩ := rfl
  have haccepted := LogPath.step_exact (LogPath.init_exact hencoder hstream)
    (show LogPath.LosesNothing _ (.server .accept) from trivial) haccept
  exact LogPath.step_exact haccepted
    (show LogPath.LosesNothing _ (.server .connected) from trivial) rfl

/-- **The whole run**: the client is told that its START is refused. -/
theorem exists_run_refused {encoderBuf streamBuf : List UInt8}
    (hencoder : encoderBuf.length = msgMaxLength) (hstream : streamBuf.length = streamBufSize)
    (hshort : (frame MessageType.log.code (lineBytes (text refusal))).length ≤
      TCPServer.bufSize) :
    let parse := fun _ => .ok CommandService.startJson
    let target : Target := ⟨fun _ => 0, fun _ => 0⟩
    ∃ actions logging client,
      run (recording (step parse target) (event parse target)) (init encoderBuf streamBuf, [])
          actions = some (⟨startService, logging, [], .outside⟩, toldEvents) ∧
        EachStep (step parse target) LosesNothing (init encoderBuf streamBuf) actions ∧
        logging.inside = none ∧ logging.netstream.server.Drained ∧
        logging.netstream.server.connections = [client] ∧
        client.map Prod.fst = frame MessageType.log.code (lineBytes (text refusal)) := by
  intro parse target
  obtain ⟨actions, logging, client, hactions, hpassive, heach, hinside, hdrained, hclient,
    hbytes⟩ := exists_passive (s := told (met encoderBuf streamBuf)) rfl
      (exact_met hencoder hstream) rfl rfl rfl rfl (CircularBuffer.new_contents _)
      lineBytes_refusal_ne hshort
  have hfirst := run_startTold encoderBuf streamBuf
  obtain ⟨hlogged, hlose⟩ := run_passive parse target
    (s := ⟨startService, told (met encoderBuf streamBuf), [Refusal.notConfigured.reply], .inside⟩)
    rfl hpassive hactions heach toldEvents
  have hleave : step parse target
      ⟨startService, logging, [Refusal.notConfigured.reply], .inside⟩ (.logging .leave) =
        some ⟨startService, { logging with inside := none }, [], .outside⟩ := by
    simp [step, startService, MayLog, leftAfter, placeAfter, Logging.step, hinside]
  refine ⟨startTold ++ (actions.map .logging ++ [.logging .leave]),
    { logging with inside := none }, client, ?_, ?_, rfl, hdrained, hclient, hbytes⟩
  · rw [run_append, hfirst, Option.bind_some, run_append, hlogged, Option.bind_some]
    exact (run_cons_eq_some _).mpr ⟨_, congrArg (Option.map _) hleave, rfl⟩
  · have hquiet : ∀ a ∈ startTold, ∀ s, LosesNothing s a := by
      simp [startTold, startReceived, LosesNothing, Logging.LosesNothing, SendSide.LosesNothing]
    apply (EachStep.of_forall hquiet _).append (run_of_recording hfirst)
    apply hlose.append (run_of_recording hlogged)
    exact EachStep.of_forall (by simp [LosesNothing, Logging.LosesNothing]) _

/-- A START without a function, refused to the client. -/
theorem client_answered_start :
    ∃ s es past current printed d chunk,
      decodeAll record {} [chunk] =
        .ok (d, [Message.complete MessageType.log.code (lineBytes (text refusal))]) ∧
      Served s es [.command 5] past current printed ∧
      past.map Dialogue.command = [.command 5] := by
  let encoderBuf : List UInt8 := List.replicate msgMaxLength 0
  let streamBuf : List UInt8 := List.replicate streamBufSize 0
  have hencoder : encoderBuf.length = msgMaxLength := List.length_replicate
  have hstream : streamBuf.length = streamBufSize := List.length_replicate
  have hshort : (frame MessageType.log.code (lineBytes (text refusal))).length ≤
      TCPServer.bufSize := by
    rw [length_frame, length_refusal]
    decide
  obtain ⟨actions, logging, client, hrun, hlose, hfree, hdrained, hclient, hbytes⟩ :=
    exists_run_refused hencoder hstream hshort
  have hsent : ∀ p ∈ [(CommandService.startText, Command.command 5)],
      CommandService.Carries (fun _ => .ok CommandService.startJson) p.1 p.2 := by
    intro p hp
    obtain rfl := List.mem_singleton.mp hp
    exact CommandService.carries_start
  have hfit : ∀ chunk ∈ [client.map Prod.fst], chunk.length < 2 ^ 64 := by
    intro chunk hchunk
    rw [List.mem_singleton.mp hchunk, hbytes]
    exact Nat.lt_of_le_of_lt hshort (by decide)
  obtain ⟨⟨d, hdecoded⟩, past, current, printed, hserved, hall⟩ :=
    client_answered _ _ hencoder hstream hsent hlose hrun (List.prefix_refl _) hfree hdrained
      hclient hfit (List.append_nil _)
  rw [heard_told] at hdecoded
  exact ⟨_, _, past, current, printed, d, _, hdecoded, hserved, (hall rfl ⟨rfl, rfl, rfl⟩).1⟩

end RemoteControl
end CameraController
