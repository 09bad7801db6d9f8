import CameraController.LogCalls
import Mathlib.Data.List.Perm.Basic

/-! # Lines are written one after the other

In every run, what the streams have got are the outputs of calls that come one after
the other, in the order in which they got `mtx_streams`, less what the call inside has
still to do (`Linear`); `Exact` adds what became of it on the way to the clients.
Each step keeps both.

`logged_in_turn` and `decode_logged` say what that means: no line is torn or lost, all
streams have their lines in the same order, and the client gets each line in messages
of its own. -/
namespace CameraController.Logging

open StateMachine Streaming TCPServer MessageDecoder

/-- What a step does to a stream. -/
def emitted (s : Logging) : Action → List (LogStream × Emit)
  | .output => (s.inside.getD []).take 1
  | _ => []

/-- **The streams have got what is done one after the other**, as far as it is done. -/
structure Linear (s : Logging) (events : List Event) (done : List (LogStream × Emit)) : Prop where
  logger : s.logger = loggerAfter startedLogger events
  all : done ++ s.inside.getD [] = emitLines (sequential startedLogger events)
  cout : s.cout = charsOn .cout done
  ofs : s.ofs = charsOn .ofs done
  calls : (events.filterMap Event.called?).Perm (events.filterMap Event.logged? ++ s.waiting)

variable {s s' : Logging} {events : List Event} {done : List (LogStream × Emit)} {a : Action}

theorem init_linear (encoderBuf streamBuf : List UInt8) :
    Linear (init encoderBuf streamBuf) [] [] where
  logger := rfl
  all := rfl
  cout := rfl
  ofs := rfl
  calls := .refl []

theorem emitLines_append (xs ys : List (LogStream × String)) :
    emitLines (xs ++ ys) = emitLines xs ++ emitLines ys := by
  simp [emitLines]

/-- What an output does to the first two streams. -/
theorem emit_texts {t : Logging} {stream : LogStream} {e : Emit} (h : s.emit stream e = some t) :
    t.logger = s.logger ∧ t.waiting = s.waiting ∧ t.cout = s.cout ++ charsOn .cout [(stream, e)] ∧
      t.ofs = s.ofs ++ charsOn .ofs [(stream, e)] := by
  cases stream with
  | cout =>
    obtain rfl := Option.some.inj h
    simp [charsOn]
  | ofs =>
    obtain rfl := Option.some.inj h
    simp [charsOn]
  | netstream =>
    obtain ⟨netstream, -, h⟩ := Option.bind_eq_some_iff.mp h
    obtain rfl := Option.some.inj h
    simp [charsOn]

/-- **Every step keeps the lines in their order.** -/
theorem Linear.step (h : Linear s events done) (hs : step s a = some s') :
    Linear s' (events ++ event s a) (done ++ emitted s a) := by
  have hall := h.all
  cases step_change hs with
  | calls c =>
    simp only [event, emitted, List.append_nil]
    refine ⟨?_, ?_, h.cout, h.ofs, ?_⟩
    · rw [loggerAfter_append]
      exact h.logger
    · rw [sequential_append, sequential, sequential, List.append_nil]
      exact hall
    · rw [List.filterMap_append, List.filterMap_append]
      have hmore := h.calls.append_right [c]
      simpa [List.filterMap_cons, Event.called?, Event.logged?] using hmore
  | adds stream minlevel hfree =>
    simp only [event, emitted, List.append_nil]
    refine ⟨?_, ?_, h.cout, h.ofs, ?_⟩
    · rw [loggerAfter_append, ← h.logger]
      rfl
    · rw [sequential_append, sequential, sequential, List.append_nil]
      exact hall
    · simpa [List.filterMap_cons, Event.called?, Event.logged?] using h.calls
  | @enters i c hfree hc =>
    simp only [event, emitted, List.append_nil, hc, Option.toList_some, List.map_cons,
      List.map_nil]
    rw [hfree, Option.getD_none, List.append_nil] at hall
    refine ⟨?_, ?_, h.cout, h.ofs, ?_⟩
    · rw [loggerAfter_append]
      exact h.logger
    · rw [sequential_append, sequential, sequential, List.append_nil, emitLines_append, ← hall,
        ← h.logger, Option.getD_some]
    · obtain ⟨hi, rfl⟩ := List.getElem?_eq_some_iff.mp hc
      have hwaiting := (List.getElem_cons_eraseIdx_perm hi).symm
      have hmoved := h.calls.trans (hwaiting.append_left _)
      simpa [List.filterMap_cons, Event.called?, Event.logged?] using hmoved
  | @outputs stream e rest t hinside hemit =>
    obtain ⟨hlogger, hwaiting, hcout, hofs⟩ := emit_texts hemit
    simp only [event, emitted, List.append_nil, hinside, Option.getD_some, List.take_succ_cons,
      List.take_zero]
    rw [hinside, Option.getD_some] at hall
    refine ⟨hlogger.trans h.logger, ?_, ?_, ?_, ?_⟩
    · rw [← hall, List.append_assoc]
      rfl
    · rw [charsOn_append, ← h.cout]
      exact hcout
    · rw [charsOn_append, ← h.ofs]
      exact hofs
    · rw [hwaiting]
      exact h.calls
  | leaves hinside =>
    simp only [event, emitted, List.append_nil]
    rw [hinside] at hall
    exact ⟨h.logger, hall, h.cout, h.ofs, h.calls⟩
  | serves a hstep =>
    simp only [event, emitted, List.append_nil]
    exact ⟨h.logger, h.all, h.cout, h.ofs, h.calls⟩

/-- **What became of it on the way to the clients**, where nothing is lost. -/
theorem exact_step (h : s.netstream.Exact (netText done)) (ha : LosesNothing s a)
    (hs : step s a = some s') : s'.netstream.Exact (netText (done ++ emitted s a)) := by
  cases step_change hs with
  | @outputs stream e rest t hinside hemit =>
    simp only [emitted, hinside, Option.getD_some, List.take_succ_cons, List.take_zero]
    rw [netText_append]
    cases stream with
    | cout | ofs =>
      obtain rfl := Option.some.inj hemit
      exact h
    | netstream =>
      obtain ⟨netstream, hstep, hemit⟩ := Option.bind_eq_some_iff.mp hemit
      obtain rfl := Option.some.inj hemit
      have hlose : LogPath.LosesNothing s.netstream e.action := by
        cases e <;> trivial
      exact LogPath.step_exact h hlose hstep
  | serves a hstep =>
    have hlose : LogPath.LosesNothing s.netstream (.server a) := ha
    simp only [emitted, List.append_nil]
    exact LogPath.step_exact h hlose hstep
  | calls | adds | enters | leaves =>
    simp only [emitted, List.append_nil]
    exact h

/-! ## What is in the streams -/

theorem linear_of_run {encoderBuf streamBuf : List UInt8} {actions : List Action}
    {r : Logging × List Event}
    (hrun : run (recording step event) (init encoderBuf streamBuf, []) actions = some r) :
    ∃ done, Linear r.1 r.2 done :=
  run_recording (P := fun s events => ∃ done, Linear s events done)
    (fun ⟨_, h⟩ hs => ⟨_, h.step hs⟩) ⟨[], init_linear encoderBuf streamBuf⟩ hrun

/-- What some text is, as far as it has been written. -/
structure Written (s : Logging) (text : List UInt8) (lines : List String) : Prop where
  /-- It is the lines in order, the last one perhaps not to its end. -/
  begun : text <+: (lines.map lineBytes).flatten
  /-- While no call is inside, all of them are whole. -/
  whole : s.inside = none → text = (lines.map lineBytes).flatten

theorem Linear.written (h : Linear s events done) (stream : LogStream) :
    Written s (charsOn stream done) (linesOn stream events) := by
  have hall : charsOn stream done ++ charsOn stream (s.inside.getD []) =
      ((linesOn stream events).map lineBytes).flatten := by
    rw [← charsOn_append, h.all, charsOn_emitLines]
    rfl
  refine ⟨⟨_, hall⟩, fun hfree => ?_⟩
  rw [hfree, Option.getD_none] at hall
  rw [← hall]
  exact (List.append_nil _).symm

/-- What a run of calls by any number of threads comes to. -/
structure InTurn (s : Logging) (events : List Event) : Prop where
  cout : Written s s.cout (linesOn .cout events)
  ofs : Written s s.ofs (linesOn .ofs events)
  /-- Each call that was made is logged once, or waits. -/
  once : (events.filterMap Event.called?).Perm (events.filterMap Event.logged? ++ s.waiting)

/-- **Lines are written one after the other.**  However many threads log, and in whatever
order they and the server take their turns, each stream has the whole lines of the
levels it wants, in the one order in which the calls got `mtx_streams`, and behind them
what the call inside has written so far. -/
theorem logged_in_turn {encoderBuf streamBuf : List UInt8} {actions : List Action}
    {s : Logging} {events : List Event}
    (hrun : run (recording step event) (init encoderBuf streamBuf, []) actions =
      some (s, events)) : InTurn s events := by
  obtain ⟨done, h⟩ := linear_of_run hrun
  exact ⟨h.cout ▸ h.written .cout, h.ofs ▸ h.written .ofs, h.calls⟩

/-- The clients' stream is added, and a call gets the mutexes. -/
def oneCall (c : LogCall) : List Action := [.addStream .netstream .info, .call c, .enter 0]

/-- Behind `oneCall`. -/
def insideOne (encoderBuf streamBuf : List UInt8) (line : String) : Logging :=
  { init encoderBuf streamBuf with
    logger := ⟨[(.cout, .debug), (.netstream, .info)]⟩
    inside := some ((emitLine line).map (fun e => (.cout, e)) ++
      ((lineBytes line).map (fun c => (.netstream, .char c)) ++
        [(.netstream, .flush), (.netstream, .flush)])) }

theorem run_oneCall (encoderBuf streamBuf : List UInt8) {c : LogCall}
    (hlevel : LogLevel.info.value ≤ c.level.value) :
    run step (init encoderBuf streamBuf) (oneCall c) =
        some (insideOne encoderBuf streamBuf (Logger.line c.time c.level c.str)) ∧
      run (recording step event) (init encoderBuf streamBuf, []) (oneCall c) =
        some (insideOne encoderBuf streamBuf (Logger.line c.time c.level c.str),
          [.added .netstream .info, .called c, .logged c]) := by
  have hdebug : LogLevel.debug.value ≤ c.level.value := Nat.zero_le _
  simp [oneCall, run, recording, step, event, init, startedLogger, Logger.addStream, Logger.log,
    insideOne, emitLines, hlevel, hdebug, emitLine]

/-- The first line of the program's loop. -/
def heartbeat : LogCall := ⟨"12:00:00", .info, "Heartbeat"⟩

/-- A line of another thread. -/
def notConfigured : LogCall := ⟨"12:00:01", .warning, "No function configured."⟩

/-- Two threads log at a time.  The one that comes last gets the mutexes first, and the other
has not written all of its line when the run ends. -/
def twoCalls : List Action :=
  [.call heartbeat, .call notConfigured, .enter 1] ++ List.replicate 46 .output ++
    [.leave, .enter 0] ++ List.replicate 12 .output

theorem logged_in_turn_twoCalls :
    ∃ s events, run (recording step event) (init [] [], []) twoCalls = some (s, events) ∧
      events = [.called heartbeat, .called notConfigured, .logged notConfigured,
        .logged heartbeat] ∧
      s.cout = lineBytes "[12:00:01][WARNING] No function configured.\n[12:00:00][I" ∧
      InTurn s events := by
  have hrun : run (recording step event) (init [] [], []) twoCalls = some (_, _) := rfl
  exact ⟨_, _, hrun, rfl, by decide +kernel, logged_in_turn hrun⟩

/-! ## What the client gets -/

theorem linesOn_eq (stream : LogStream) (events : List Event) :
    linesOn stream events =
      ((sequential startedLogger events).filter fun l => l.1 = stream).map Prod.snd := rfl

theorem flatMap_pieces (lines : List String) :
    (lines.flatMap fun line => [lineBytes line, []]).flatMap LogPath.pieces =
      lines.flatMap fun line => LogPath.pieces (lineBytes line) := by
  induction lines with
  | nil => rfl
  | cons line lines ih =>
    rw [List.flatMap_cons, List.flatMap_append, ih, List.flatMap_cons]
    simp [LogPath.pieces_nil]

/-- The frames put are those of the lines, each in pieces of its own. -/
theorem Linear.frames (h : Linear s events done) (hnet : s.netstream.Exact (netText done))
    (hfree : s.inside = none) :
    s.netstream.server.frames ++ s.netstream.server.pending =
      ((linesOn .netstream events).flatMap fun line => LogPath.pieces (lineBytes line)).map
        (frame MessageType.log.code) := by
  have hall := h.all
  rw [hfree, Option.getD_none, List.append_nil] at hall
  rw [hnet.frames, hall, netText_emitLines, flatMap_pieces]
  simp [linesOn_eq]

/-- **The client has the lines**, each in messages of its own. -/
theorem Linear.decoded (h : Linear s events done) (hnet : s.netstream.Exact (netText done))
    (hfree : s.inside = none) (hdrained : s.netstream.server.Drained) {client : List Placed}
    (hclient : s.netstream.server.connections = [client]) {chunks : List (List UInt8)}
    (hfit : ∀ chunk ∈ chunks, chunk.length < 2 ^ 64)
    (hbytes : chunks.flatten = client.map Prod.fst) :
    ∃ d, decodeAll record {} chunks =
      .ok (d, ((linesOn .netstream events).flatMap fun line =>
        LogPath.pieces (lineBytes line)).map (Message.complete MessageType.log.code)) := by
  have hframes := h.frames hnet hfree
  rw [hdrained.1, List.append_nil] at hframes
  have hsizes : ∀ p ∈ (linesOn .netstream events).flatMap
      fun line => LogPath.pieces (lineBytes line), 1 ≤ p.length ∧ p.length ≤ 0xFFFF := by
    intro p hp
    obtain ⟨line, -, hp⟩ := List.mem_flatMap.mp hp
    obtain ⟨hpos, hle⟩ := LogPath.pieces_bounds _ p hp
    exact ⟨hpos, Nat.le_trans hle (by decide)⟩
  have hread := consume_frames (show ({} : MessageDecoder).state = .start from rfl)
    MessageType.log.code hsizes
  refine ⟨(({} : MessageDecoder).consume chunks.flatten).1, ?_⟩
  rw [decodeAll_record new_valid hfit, hbytes, hnet.server.received hdrained hclient, hframes,
    ← hread.2]

/-- **Each line reaches the client in messages of its own.**  However many threads log
and in whatever order everybody takes their turns: if no put overflows `send_buf` and
the client stays, then once no call is inside and nothing is left on the way, the
messages that a fresh decoder dispatches are the lines of the levels the client is
sent, in the order in which the calls got `mtx_streams`, each of them cut only where it
is longer than the stream's buffer. -/
theorem decode_logged {encoderBuf streamBuf : List UInt8}
    (hencoder : encoderBuf.length = msgMaxLength) (hstream : streamBuf.length = streamBufSize)
    {actions : List Action}
    (hlose : EachStep step LosesNothing (init encoderBuf streamBuf) actions)
    {s : Logging} {events : List Event}
    (hrun : run (recording step event) (init encoderBuf streamBuf, []) actions = some (s, events))
    (hfree : s.inside = none) (hdrained : s.netstream.server.Drained) {client : List Placed}
    (hclient : s.netstream.server.connections = [client]) {chunks : List (List UInt8)}
    (hfit : ∀ chunk ∈ chunks, chunk.length < 2 ^ 64)
    (hbytes : chunks.flatten = client.map Prod.fst) :
    ∃ d, decodeAll record {} chunks =
      .ok (d, ((linesOn .netstream events).flatMap fun line =>
        LogPath.pieces (lineBytes line)).map (Message.complete MessageType.log.code)) := by
  have hstart : ∃ done, Linear (init encoderBuf streamBuf) [] done ∧
      (init encoderBuf streamBuf).netstream.Exact (netText done) :=
    ⟨[], init_linear encoderBuf streamBuf, LogPath.init_exact hencoder hstream⟩
  have hkeep : ∀ {r : Logging × List Event} {a r'},
      (∃ done, Linear r.1 r.2 done ∧ r.1.netstream.Exact (netText done)) →
      LosesNothing r.1 a → recording step event r a = some r' →
      ∃ done, Linear r'.1 r'.2 done ∧ r'.1.netstream.Exact (netText done) := by
    rintro r a r' ⟨done, h, hnet⟩ ha hs
    obtain ⟨t, ht, rfl⟩ := Option.map_eq_some_iff.mp hs
    exact ⟨_, h.step ht, exact_step hnet ha ht⟩
  have halways := always_of_eachStep (fun h => h) hkeep hstart (hlose.recording [])
  obtain ⟨done, h, hnet⟩ := halways.of_run hrun
  exact h.decoded hnet hfree hdrained hclient hfit hbytes

/-! ## A line on its way -/

/-- The outputs to a stream that is not the clients'. -/
theorem exists_run_text {stream : LogStream} (hstream : stream ≠ .netstream) :
    ∀ (es : List Emit) {s : Logging} {rest : List (LogStream × Emit)},
      s.inside = some (es.map (fun e => (stream, e)) ++ rest) →
        ∃ cout ofs, run step s (List.replicate es.length .output) =
          some { s with inside := some rest, cout, ofs }
  | [], s, rest, h => by
      have hinside : s.inside = some rest := h
      exact ⟨s.cout, s.ofs, by simp [run, ← hinside]⟩
  | e :: es, s, rest, h => by
      obtain ⟨cout, ofs, hstep⟩ : ∃ cout ofs, step s .output = some { s with
          inside := some (es.map (fun e => (stream, e)) ++ rest), cout, ofs } := by
        cases stream with
        | cout | ofs => exact ⟨_, _, by simp only [step, h, List.map_cons, List.cons_append]; rfl⟩
        | netstream => exact absurd rfl hstream
      obtain ⟨cout', ofs', hrest⟩ := exists_run_text hstream es (s := { s with
        inside := some (es.map (fun e => (stream, e)) ++ rest), cout, ofs }) rfl
      exact ⟨cout', ofs', (run_cons_eq_some step).mpr ⟨_, hstep, hrest⟩⟩

/-- Characters written to the clients' stream, which has room for them. -/
theorem run_netChars : ∀ (cs : List UInt8) {s : Logging} {rest : List (LogStream × Emit)}
    {text : LogPath.Text},
    s.inside = some (cs.map (fun c => (.netstream, .char c)) ++ rest) →
      s.netstream.Exact text → s.netstream.server.pending = [] →
      text.since.length + cs.length < streamBufSize →
      ∃ netstream : LogPath, run step s (List.replicate cs.length .output) =
          some { s with inside := some rest, netstream } ∧
        netstream.server = s.netstream.server ∧
        netstream.Exact { text with since := text.since ++ cs }
  | [], s, rest, text, h, hnet, _, _ => by
      have hinside : s.inside = some rest := h
      refine ⟨s.netstream, by simp [run, ← hinside], rfl, ?_⟩
      rwa [List.append_nil]
  | c :: cs, s, rest, text, h, hnet, hidle, hroom => by
      rw [List.length_cons] at hroom
      obtain ⟨stream, hwrite, hnext⟩ := LogPath.exists_write_short hnet hidle c (by omega)
      have hstep : step s .output = some { s with
          inside := some (cs.map (fun c => (.netstream, .char c)) ++ rest)
          netstream := { s.netstream with stream } } := by
        simp [step, h, emit, Emit.action, hwrite]
      obtain ⟨netstream, hrun, hserver, hexact⟩ := run_netChars cs (s := { s with
          inside := some (cs.map (fun c => (.netstream, .char c)) ++ rest)
          netstream := { s.netstream with stream } }) rfl hnext hidle
        (by simp only [LogPath.Text.add, List.length_append, List.length_singleton]; omega)
      refine ⟨netstream, (run_cons_eq_some step).mpr ⟨_, hstep, hrun⟩, hserver, ?_⟩
      rw [← List.singleton_append, ← List.append_assoc]
      exact hexact

/-- A run of the server and its clients. -/
theorem run_server {s : Logging} {turns : List SendSide.Action} {netstream : LogPath}
    (hrun : run LogPath.step s.netstream (turns.map .server) = some netstream)
    (hlose : EachStep LogPath.step LogPath.LosesNothing s.netstream (turns.map .server)) :
    run step s (turns.map .server) = some { s with netstream } ∧
      EachStep step LosesNothing s (turns.map .server) := by
  induction turns generalizing s with
  | nil =>
    obtain rfl := Option.some.inj hrun
    exact ⟨rfl, trivial⟩
  | cons a turns ih =>
    obtain ⟨next, hnext, hrest⟩ := (run_cons_eq_some LogPath.step).mp hrun
    obtain ⟨ha, hturns⟩ := hlose next hnext
    have hstep : step s (.server a) = some { s with netstream := next } := by
      simp [step, hnext]
    obtain ⟨hactions, heach⟩ := ih (s := { s with netstream := next }) hrest hturns
    exact ⟨(run_cons_eq_some step).mpr ⟨_, hstep, hactions⟩, heach.cons ha hstep⟩

theorem losesNothing_output (n : Nat) :
    ∀ a ∈ List.replicate n Action.output, ∀ s, LosesNothing s a := by
  intro a ha s
  rw [List.eq_of_mem_replicate ha]
  trivial

/-- A frame that one chunk has room for is that of a line that the stream has room for. -/
theorem length_lt_of_frame {text : List UInt8}
    (h : (frame MessageType.log.code text).length ≤ TCPServer.bufSize) :
    text.length < streamBufSize := by
  rw [length_frame] at h
  exact Nat.lt_of_lt_of_le (Nat.lt_of_lt_of_le (Nat.lt_add_of_pos_left (by decide)) h) (by decide)

/-- The clients' stream is flushed, and has passed on what it held. -/
theorem exists_step_flush {s : Logging} {rest : List (LogStream × Emit)} {text : LogPath.Text}
    (hinside : s.inside = some ((.netstream, .flush) :: rest)) (hnet : s.netstream.Exact text)
    (hidle : s.netstream.server.pending = []) :
    ∃ stream encoderBuf, step s .output = some { s with
        inside := some rest
        netstream := { stream, server := { s.netstream.server with
          encoderBuf
          pending := (if s.netstream.stream.held = [] then [] else [s.netstream.stream.held]).map
            (frame MessageType.log.code) } } } ∧
      LogPath.Exact { stream, server := { s.netstream.server with
          encoderBuf
          pending := (if s.netstream.stream.held = [] then [] else [s.netstream.stream.held]).map
            (frame MessageType.log.code) } } (text.add .flush) := by
  obtain ⟨stream, encoderBuf, hflush, hexact⟩ := LogPath.exists_flush_exact hnet hidle
  exact ⟨stream, encoderBuf, by simp [step, hinside, emit, Emit.action, hflush], hexact⟩

/-- What the clients get of a line, while a call is inside. -/
def netLine (line : String) : List (LogStream × Emit) :=
  (lineBytes line).map (fun c => (.netstream, .char c)) ++
    [(.netstream, .flush), (.netstream, .flush)]

/-- **A short line is passed on** by the flush that belongs to `endl`. -/
theorem exists_passed {s : Logging} {flushed : List (List UInt8)} {line : String}
    (hinside : s.inside = some (netLine line)) (hnet : s.netstream.Exact ⟨flushed, []⟩)
    (hidle : s.netstream.server.pending = []) (hne : lineBytes line ≠ [])
    (hroom : (lineBytes line).length < streamBufSize) :
    ∃ netstream : LogPath, run step s (List.replicate ((lineBytes line).length + 1) .output) =
        some { s with inside := some [(.netstream, .flush)], netstream } ∧
      (∃ encoderBuf, netstream.server = { s.netstream.server with
        encoderBuf
        pending := [frame MessageType.log.code (lineBytes line)] }) ∧
      netstream.Exact ⟨flushed ++ [lineBytes line], []⟩ := by
  obtain ⟨net, hchars, hserver, hwritten⟩ :=
    run_netChars (lineBytes line) hinside hnet hidle (by rwa [List.length_nil, Nat.zero_add])
  rw [List.nil_append] at hwritten
  have hheld : net.stream.held = lineBytes line := by
    rw [hwritten.held]
    exact congrArg Prod.fst (LogPath.feed_hold_of_short (by rwa [List.length_nil, Nat.zero_add]))
  obtain ⟨stream, encoderBuf, hflush, hexact⟩ := exists_step_flush
    (s := { s with inside := some [(.netstream, .flush), (.netstream, .flush)], netstream := net })
    rfl hwritten (by rw [hserver]; exact hidle)
  simp only [hheld, if_neg hne, List.map_cons, List.map_nil, hserver] at hflush hexact
  refine ⟨_, ?_, ⟨encoderBuf, rfl⟩, hexact⟩
  rw [List.replicate_succ', run_append, hchars, Option.bind_some, run, hflush]
  rfl

/-- **The second flush** has nothing to pass on. -/
theorem exists_second_flush {s : Logging} {flushed : List (List UInt8)}
    (hinside : s.inside = some [(.netstream, .flush)]) (hnet : s.netstream.Exact ⟨flushed, []⟩)
    (hidle : s.netstream.server.pending = []) :
    ∃ stream encoderBuf, step s .output = some { s with
      inside := some []
      netstream := ⟨stream, { s.netstream.server with encoderBuf, pending := [] }⟩ } := by
  have hnone : s.netstream.stream.held = [] := hnet.held
  obtain ⟨stream, encoderBuf, hflush, -⟩ := exists_step_flush hinside hnet hidle
  simp only [hnone, if_true, List.map_nil] at hflush
  exact ⟨stream, encoderBuf, hflush⟩

/-- The server writes nothing. -/
theorem foldl_server (text : LogPath.Text) (turns : List SendSide.Action) :
    (turns.map LogPath.Action.server).foldl LogPath.Text.add text = text := by
  induction turns with
  | nil => rfl
  | cons a turns ih => exact ih

/-- **A short line reaches a client**, if the server gets its frame there. -/
theorem exists_run_netLine {s : Logging} {flushed : List (List UInt8)} {line : String}
    (hinside : s.inside = some (netLine line)) (hnet : s.netstream.Exact ⟨flushed, []⟩)
    (hidle : s.netstream.server.pending = []) (hne : lineBytes line ≠ [])
    (hroom : (lineBytes line).length < streamBufSize) (turns : List SendSide.Action)
    (hturns : ∀ a ∈ turns, ∀ str, a ≠ .sendLog str)
    (hserve : ∀ encoderBuf, let server := { s.netstream.server with
        encoderBuf
        pending := [frame MessageType.log.code (lineBytes line)] }
      server.Lossless → ∃ server' client, run SendSide.step server turns = some server' ∧
        EachStep SendSide.step SendSide.LosesNothing server turns ∧ server'.Drained ∧
        server'.connections = [client] ∧
        client.map Prod.fst = frame MessageType.log.code (lineBytes line)) :
    ∃ netstream client,
      let actions := List.replicate ((lineBytes line).length + 1) .output ++
        (turns.map .server ++ [.output])
      run step s actions = some { s with inside := some [], netstream } ∧
        EachStep step LosesNothing s actions ∧ netstream.server.Drained ∧
        netstream.server.connections = [client] ∧
        client.map Prod.fst = frame MessageType.log.code (lineBytes line) := by
  obtain ⟨⟨stream, server⟩, hpassed, ⟨encoderBuf, rfl⟩, hexact⟩ :=
    exists_passed hinside hnet hidle hne hroom
  obtain ⟨server', client, hrun, heach, hdrained, hclient, hbytes⟩ :=
    hserve encoderBuf hexact.server
  obtain ⟨hrun', heach'⟩ := LogPath.run_server (s := ⟨stream, _⟩) hturns hrun heach
  obtain ⟨hrun'', heach''⟩ := run_server (s := { s with
    inside := some [(.netstream, .flush)], netstream := ⟨stream, _⟩ }) hrun' heach'
  have hserved := run_foldl LogPath.step_exact hexact heach' hrun'
  rw [foldl_server] at hserved
  obtain ⟨stream', encoderBuf', hflush⟩ := exists_second_flush (s := { s with
    inside := some [(.netstream, .flush)], netstream := ⟨stream, server'⟩ }) rfl hserved hdrained.1
  refine ⟨⟨stream', { server' with encoderBuf := encoderBuf', pending := [] }⟩, client, ?_, ?_,
    ⟨rfl, hdrained.2⟩, hclient, hbytes⟩
  · rw [run_append, hpassed, Option.bind_some, run_append]
    erw [hrun'']
    exact (run_cons_eq_some step).mpr ⟨_, hflush, rfl⟩
  · apply (EachStep.of_forall (losesNothing_output _) _).append hpassed
    apply heach''.append hrun''
    exact EachStep.of_forall (by simp [LosesNothing]) _

/-- A line is written, a client comes, and its frame is sent. -/
def delivery (line : String) : List Action :=
  List.replicate (emitLine line).length .output ++
    ((List.replicate ((lineBytes line).length + 1) .output ++
      (SendSide.oneFrame.map .server ++ [.output])) ++ [.leave])

/-- **A short line reaches a client**, in one message. -/
theorem run_delivery {encoderBuf streamBuf : List UInt8}
    (hencoder : encoderBuf.length = msgMaxLength) (hstream : streamBuf.length = streamBufSize)
    {line : String} (hne : lineBytes line ≠ [])
    (hshort : (frame MessageType.log.code (lineBytes line)).length ≤ TCPServer.bufSize) :
    ∃ s client, run step (insideOne encoderBuf streamBuf line) (delivery line) = some s ∧
      (∀ a ∈ delivery line, ∀ s, event s a = []) ∧
      EachStep step LosesNothing (insideOne encoderBuf streamBuf line) (delivery line) ∧
      s.inside = none ∧ s.netstream.server.Drained ∧
      s.netstream.server.connections = [client] ∧
      client.map Prod.fst = frame MessageType.log.code (lineBytes line) := by
  obtain ⟨cout, ofs, hcout⟩ := exists_run_text (show LogStream.cout ≠ .netstream by decide)
    (emitLine line) (s := insideOne encoderBuf streamBuf line) rfl
  obtain ⟨netstream, client, hnet, heach, hdrained, hclient, hbytes⟩ := exists_run_netLine
    (s := { insideOne encoderBuf streamBuf line with inside := some (netLine line), cout, ofs })
    rfl (LogPath.init_exact hencoder hstream) rfl hne (length_lt_of_frame hshort)
    SendSide.oneFrame (by simp [SendSide.oneFrame, SendSide.serveChunk])
    fun _ hserver => SendSide.run_oneFrame hserver rfl rfl (CircularBuffer.new_contents _) rfl
      (by simp [frame]) hshort
  refine ⟨{ insideOne encoderBuf streamBuf line with inside := none, cout, ofs, netstream },
    client, ?_, ?_, ?_, rfl, hdrained, hclient, hbytes⟩
  · rw [delivery, run_append, hcout, Option.bind_some, run_append]
    erw [hnet]
    rfl
  · intro a ha u
    simp only [delivery, List.mem_append, List.mem_replicate, List.mem_map, List.mem_cons,
      List.not_mem_nil, or_false] at ha
    rcases ha with ⟨-, rfl⟩ | (⟨-, rfl⟩ | ⟨b, -, rfl⟩ | rfl) | rfl <;> rfl
  · apply (EachStep.of_forall (losesNothing_output _) _).append hcout
    apply heach.append hnet
    exact EachStep.of_forall (by simp [LosesNothing]) _

/-- The bytes of that line. -/
def heartbeatBytes : List UInt8 :=
  lineBytes (Logger.line heartbeat.time heartbeat.level heartbeat.str)

theorem linesOn_heartbeat :
    linesOn .netstream [.added .netstream .info, .called heartbeat, .logged heartbeat] =
      [Logger.line heartbeat.time heartbeat.level heartbeat.str] := by
  simp [linesOn, sequential, startedLogger, Logger.addStream, Logger.log, LogLevel.value, heartbeat]

/-- That line, delivered: the run, what the client has got, and what it makes of it. -/
theorem decode_logged_heartbeat :
    ∃ s client d,
      run (recording step event) (init (List.replicate msgMaxLength 0)
          (List.replicate streamBufSize 0), [])
          (oneCall heartbeat ++ delivery
            (Logger.line heartbeat.time heartbeat.level heartbeat.str)) =
        some (s, [.added .netstream .info, .called heartbeat, .logged heartbeat]) ∧
      s.inside = none ∧ s.netstream.server.Drained ∧
      s.netstream.server.connections = [client] ∧
      client.map Prod.fst = frame MessageType.log.code heartbeatBytes ∧
      decodeAll record {} [client.map Prod.fst] =
        .ok (d, [Message.complete MessageType.log.code heartbeatBytes]) := by
  have hencoder : (List.replicate msgMaxLength (0 : UInt8)).length = msgMaxLength :=
    List.length_replicate
  have hstream : (List.replicate streamBufSize (0 : UInt8)).length = streamBufSize :=
    List.length_replicate
  have hlength : heartbeatBytes.length = 30 := by decide
  have hne : heartbeatBytes ≠ [] := by
    intro hnil
    rw [hnil] at hlength
    cases hlength
  have hshort : (frame MessageType.log.code heartbeatBytes).length ≤ TCPServer.bufSize := by
    rw [length_frame, hlength]
    decide
  obtain ⟨s, client, hrun, hsilent, heach, hfree, hdrained, hclient, hbytes⟩ :=
    run_delivery hencoder hstream hne hshort
  obtain ⟨hcall, hrecorded⟩ := run_oneCall (List.replicate msgMaxLength 0)
    (List.replicate streamBufSize 0) (c := heartbeat) (by decide)
  have hcalled : ∀ a ∈ oneCall heartbeat, ∀ s, LosesNothing s a := by
    simp [oneCall, LosesNothing]
  have hlose := (EachStep.of_forall hcalled _).append hcall heach
  have hall : run (recording step event) (init (List.replicate msgMaxLength 0)
      (List.replicate streamBufSize 0), []) (oneCall heartbeat ++ delivery
        (Logger.line heartbeat.time heartbeat.level heartbeat.str)) =
        some (s, [.added .netstream .info, .called heartbeat, .logged heartbeat]) := by
    rw [run_append, hrecorded, Option.bind_some]
    exact run_recording_of_silent hsilent _ hrun
  have hfit : ∀ chunk ∈ [client.map Prod.fst], chunk.length < 2 ^ 64 := by
    intro chunk hchunk
    rw [List.mem_singleton.mp hchunk, hbytes]
    exact Nat.lt_of_le_of_lt hshort (by decide)
  obtain ⟨d, hdecoded⟩ := decode_logged hencoder hstream hlose hall hfree hdrained hclient hfit
    (List.append_nil _)
  refine ⟨s, client, d, hall, hfree, hdrained, hclient, hbytes, ?_⟩
  rw [hdecoded, linesOn_heartbeat, List.flatMap_singleton]
  have hpieces : LogPath.pieces heartbeatBytes = [heartbeatBytes] :=
    LogPath.pieces_of_short hne (by rw [hlength]; decide)
  rw [show LogPath.pieces (lineBytes _) = _ from hpieces]
  rfl

end CameraController.Logging
