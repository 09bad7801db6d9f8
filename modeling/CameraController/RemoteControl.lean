import CameraController.CommandAnswers
import CameraController.LogTurns
import CameraController.SentCommands

/-! # The program and its client

A client sends telecommands and is sent the lines of the log.  `CommandService` is the
program from the bytes received to what its threads do, `Logging` the way of a line from
a call of `log` to the client; here they are one machine.

The receive thread has a part in both.  It logs the lines of a command one by one
(`left`), waits for the mutexes as everybody does, and goes on with its command behind
the last of them.  It calls `accept`, and the `read` that ends a connection, when it has
nothing else to do.  All other lines, its own about its clients and messages among them,
are calls of `log` at any time. -/
namespace CameraController

open StateMachine Streaming MessageDecoder TCPServer

/-! ## The handler -/

/-- What is recorded holds as well when the program has ended. -/
theorem Recorded.terminated {s : Controller} {es : List HandlerEvent} (h : Recorded s es) :
    Recorded { s with terminated := true } es := by
  obtain ⟨past, hpast, h⟩ := h
  refine ⟨past, hpast, ?_⟩
  rcases h with hidle | ⟨d, hbusy, hes, hown, hunderway⟩
  · exact Or.inl hidle
  · exact Or.inr ⟨d, hbusy, hes, hown, hunderway.asked, hunderway.accepted, hunderway.calm,
      hunderway.done, hunderway.seen, hunderway.aimed⟩

/-- The command that is taken up. -/
def HandlerEvent.command? : HandlerEvent → Option Command
  | took _ c => some c
  | _ => none

/-- What is done is no command. -/
theorem Controller.filterMap_command_outcome (s : Controller) (a : CameraController.Action) :
    (s.outcome a).filterMap HandlerEvent.command? = [] := by
  unfold Controller.outcome
  split
  · rfl
  · split
    · simp [HandlerEvent.command?]
    · rfl

/-- What is said and done is no command. -/
theorem filterMap_command_rest (s : Controller) (replies : List Reply)
    (a : CameraController.Action) :
    (replies.map HandlerEvent.said ++ s.outcome a).filterMap HandlerEvent.command? = [] := by
  rw [List.filterMap_append, s.filterMap_command_outcome a]
  simp [List.filterMap_map, HandlerEvent.command?]

/-- A dialogue is about one command. -/
theorem Dialogue.filterMap_command {d : Dialogue} (h : d.Own) :
    d.events.filterMap HandlerEvent.command? = [d.command] := by
  have hrest : d.rest.filterMap HandlerEvent.command? = [] := by
    rw [List.filterMap_eq_nil_iff]
    intro e he
    rcases h e he with ⟨l, rfl⟩ | ⟨deed, rfl⟩ <;> rfl
  exact congrArg (d.command :: ·) hrest

/-- What the handler does in a step. -/
def CommandService.handled (parse : List UInt8 → Except JsonException Json) (target : Target)
    (s : CommandService) (results : CallResults) : CommandService.Action → List HandlerEvent
  | .turn =>
    (taken parse target s).flatMap fun c => handlerEvents s.controller (.command c, results)
  | .handler ans => handlerEvents s.controller (.handler ans, results)
  | .received _ | .thread _ _ => []

namespace CommandService

variable {parse : List UInt8 → Except JsonException Json} {target : Target}
  {s s' : CommandService} {a : Action}

/-- **The handler takes up the commands of the stream.** -/
theorem filterMap_command_handled (s : CommandService) (results : CallResults) (a : Action) :
    (s.handled parse target results a).filterMap HandlerEvent.command? =
      commanded (event parse target s a) := by
  cases a with
  | received | thread => rfl
  | handler ans => exact filterMap_command_rest _ _ _
  | turn =>
    have hone : ∀ c, (handlerEvents s.controller (.command c, results)).filterMap
        HandlerEvent.command? = [c] := by
      intro c
      exact congrArg (c :: ·) (filterMap_command_rest _ _ _)
    rw [handled, List.filterMap_flatMap, event, commanded_commands]
    simp only [hone, List.flatMap_singleton']

/-- **The record**, with the bytes that lead to commands. -/
theorem Sound.recorded_step {es : List HandlerEvent} (hs : s.Sound)
    (h : Recorded s.controller es) (hstep : CommandService.step parse target s a = some s')
    (results : CallResults) :
    Recorded s'.controller (es ++ s.handled parse target results a) := by
  have hprogram {b : CameraController.Action} {next : Controller}
      (hb : s.controller.step b = some next) :
      Recorded next (es ++ handlerEvents s.controller (b, results)) :=
    h.step (invariant_of_reachable (hs.program (running_of_step hb))) hb
  cases step_changed parse target hstep with
  | received =>
    rw [handled, List.append_nil]
    exact h
  | handler hb | thread hb => exact hprogram hb
  | turned =>
    have hturned := hs.turned hstep
    rw [handled]
    generalize taken parse target s = commands at hturned
    cases hturned with
    | quiet =>
      rw [List.flatMap_nil, List.append_nil]
      exact h
    | commanded _ _ hb =>
      rw [List.flatMap_singleton]
      exact hprogram hb
    | crashed =>
      rw [List.flatMap_nil, List.append_nil]
      exact h.terminated

end CommandService

/-! ## The machine -/

/-- The text that `log` is called with; a formatted one may not fit its buffer. -/
def LoggedText.text? : LoggedText → Option String
  | plain text => some text
  | printed line => formatted line.format line.args

/-- The line is logged by this call. -/
def Reply.LoggedBy (l : Reply) (c : LogCall) : Prop := c.level = l.1 ∧ l.2.text? = some c.str

/-- Where the receive thread is with the line that is next. -/
inductive LogPlace where
  | outside
  /-- It waits for `mtx_streams`, at place `i`. -/
  | waiting (i : Nat)
  | inside
  deriving DecidableEq, Repr

structure RemoteControl where
  service : CommandService
  logging : Logging
  /-- The lines that the receive thread has yet to log. -/
  left : List Reply
  place : LogPlace
  deriving DecidableEq, Repr

namespace RemoteControl

/-- `main` adds two streams before the threads are started. -/
def mainLogger : Logger LogStream :=
  (startedLogger.addStream .ofs .debug).addStream .netstream .info

def init (encoderBuf streamBuf : List UInt8) : RemoteControl where
  service := {}
  logging := { Logging.init encoderBuf streamBuf with logger := mainLogger }
  left := []
  place := .outside

inductive Action where
  /-- A step of the receive thread or of a function's; `results` is what libgphoto2
  returns to the handler. -/
  | service (a : CommandService.Action) (results : CallResults)
  /-- The receive thread calls `log` with its next line. -/
  | say (time : String)
  /-- A step of the logger, of `fn_sender` or of the client, or one of `fn_server`. -/
  | logging (a : Logging.Action)
  deriving DecidableEq, Repr

/-- The receive thread is neither in `decode` nor in a command. -/
def Free (s : RemoteControl) : Prop :=
  s.left = [] ∧ s.service.controller.handler = .idle ∧ s.service.index = s.service.data.length

instance (s : RemoteControl) : Decidable s.Free := inferInstanceAs (Decidable (_ ∧ _ ∧ _))

/-- What the receive thread does, it does behind its lines; `read` answers while a client is
there. -/
def MayServe (s : RemoteControl) : CommandService.Action → Prop
  | .received _ => s.left = [] ∧ s.logging.netstream.server.server = .receiving
  | .turn | .handler _ => s.left = []
  | .thread _ _ => True

instance (s : RemoteControl) : (a : CommandService.Action) → Decidable (s.MayServe a)
  | .received _ => inferInstanceAs (Decidable (_ ∧ _))
  | .turn | .handler _ => inferInstanceAs (Decidable (_ = _))
  | .thread _ _ => inferInstanceAs (Decidable True)

/-- No stream is added any more, and `fn_server` is the receive thread. -/
def MayLog (s : RemoteControl) : Logging.Action → Prop
  | .addStream _ _ => False
  | .server .accept | .server .acceptFails | .server .connected | .server .readEnds
  | .server .disconnected => s.Free
  | _ => True

instance (s : RemoteControl) : (a : Logging.Action) → Decidable (s.MayLog a)
  | .addStream _ _ => inferInstanceAs (Decidable False)
  | .server .accept | .server .acceptFails | .server .connected | .server .readEnds
  | .server .disconnected => inferInstanceAs (Decidable s.Free)
  | .server (.sendLog _) | .server .put | .server .take | .server .send | .server .hangUp
  | .call _ | .enter _ | .output | .leave => inferInstanceAs (Decidable True)

/-- The receive thread gets the mutexes, or moves up, or has given them back. -/
def placeAfter (s : RemoteControl) : Logging.Action → LogPlace
  | .enter i =>
    match s.place with
    | .waiting j => if j = i then .inside else .waiting (if i < j then j - 1 else j)
    | place => place
  | .leave => if s.place = .inside then .outside else s.place
  | _ => s.place

/-- A line is over when its call is. -/
def leftAfter (s : RemoteControl) : Logging.Action → List Reply
  | .leave => if s.place = .inside then s.left.tail else s.left
  | _ => s.left

variable (parse : List UInt8 → Except JsonException Json) (target : Target)

/-- One step. -/
def step (s : RemoteControl) (a : Action) : Option RemoteControl :=
  if s.service.controller.terminated then none
  else
    match a with
    | .service a results =>
      if s.MayServe a then do
        let service ← CommandService.step parse target s.service a
        let replies := (s.service.handled parse target results a).filterMap HandlerEvent.reply?
        return { s with service, left := s.left ++ replies }
      else
        none
    | .say time =>
      match s.place, s.left with
      | .outside, (level, text) :: _ => do
        let str ← text.text?
        let logging ← Logging.step s.logging (.call ⟨time, level, str⟩)
        return { s with logging, place := .waiting s.logging.waiting.length }
      | _, _ => none
    | .logging a =>
      if s.MayLog a then do
        let logging ← Logging.step s.logging a
        return { s with logging, left := s.leftAfter a, place := s.placeAfter a }
      else
        none

/-- **What a step can do.** -/
inductive Change (s : RemoteControl) : Action → RemoteControl → Prop
  | serves {a : CommandService.Action} {results : CallResults} {service : CommandService}
      (hmay : s.MayServe a) (hstep : CommandService.step parse target s.service a = some service) :
      Change s (.service a results) { s with
        service
        left := s.left ++
          (s.service.handled parse target results a).filterMap HandlerEvent.reply? }
  | speaks {time : String} {level : LogLevel} {text : LoggedText} {rest : List Reply} {str : String}
      (hplace : s.place = .outside) (hleft : s.left = (level, text) :: rest)
      (htext : text.text? = some str) : Change s (.say time) { s with
        logging := { s.logging with waiting := s.logging.waiting ++ [⟨time, level, str⟩] }
        place := .waiting s.logging.waiting.length }
  | logs {a : Logging.Action} {logging : Logging} (hmay : s.MayLog a)
      (hstep : Logging.step s.logging a = some logging) : Change s (.logging a) { s with
        logging
        left := s.leftAfter a
        place := s.placeAfter a }

variable {parse target} {s s' : RemoteControl}

theorem step_change {a : Action} (h : step parse target s a = some s') :
    Change parse target s a s' := by
  obtain ⟨-, h⟩ := Option.ite_none_left_eq_some.mp h
  cases a with
  | service a results =>
    obtain ⟨hmay, h⟩ := Option.ite_none_right_eq_some.mp h
    obtain ⟨service, hstep, h⟩ := Option.bind_eq_some_iff.mp h
    obtain rfl := Option.some.inj h
    exact .serves hmay hstep
  | say time =>
    dsimp only at h
    split at h
    · rename_i level text rest hplace hleft
      obtain ⟨str, htext, h⟩ := Option.bind_eq_some_iff.mp h
      obtain ⟨logging, hcall, h⟩ := Option.bind_eq_some_iff.mp h
      obtain rfl := Option.some.inj hcall
      obtain rfl := Option.some.inj h
      exact .speaks hplace hleft htext
    · cases h
  | logging a =>
    obtain ⟨hmay, h⟩ := Option.ite_none_right_eq_some.mp h
    obtain ⟨logging, hstep, h⟩ := Option.bind_eq_some_iff.mp h
    obtain rfl := Option.some.inj h
    exact .logs hmay hstep

/-! ## What is recorded -/

inductive Event where
  | service (e : CommandService.Event)
  | handler (e : HandlerEvent)
  /-- A line of the receive thread about a command is its own. -/
  | logging (own : Bool) (e : Logging.Event)
  deriving DecidableEq, Repr

variable (parse target)

def event (s : RemoteControl) : Action → List Event
  | .service a results =>
    (CommandService.event parse target s.service a).map .service ++
      (s.service.handled parse target results a).map .handler
  | .say time =>
    (s.left.head?.bind fun l => l.2.text?.map fun str => ⟨time, l.1, str⟩).toList.map fun c =>
      .logging true (.called c)
  | .logging a =>
    let own := match a with
      | .enter i => s.place = .waiting i
      | _ => false
    (Logging.event s.logging a).map (.logging own)

namespace Event

def service? : Event → Option CommandService.Event
  | service e => some e
  | _ => none

def handler? : Event → Option HandlerEvent
  | handler e => some e
  | _ => none

def logging? : Event → Option Logging.Event
  | logging _ e => some e
  | _ => none

/-- A call that has got the mutexes, and whether it is of the receive thread for a command. -/
def line? : Event → Option (Bool × LogCall)
  | logging own (.logged c) => some (own, c)
  | _ => none

end Event

def serviceEvents (es : List Event) : List CommandService.Event := es.filterMap Event.service?

def handledEvents (es : List Event) : List HandlerEvent := es.filterMap Event.handler?

def loggingEvents (es : List Event) : List Logging.Event := es.filterMap Event.logging?

/-- The lines of the log, in the order in which the calls got the mutexes. -/
def transcript (es : List Event) : List (Bool × LogCall) := es.filterMap Event.line?

/-- Those about commands. -/
def ownLines (es : List Event) : List LogCall := ((transcript es).filter Prod.fst).map Prod.snd

theorem serviceEvents_append (es fs : List Event) :
    serviceEvents (es ++ fs) = serviceEvents es ++ serviceEvents fs :=
  List.filterMap_append

theorem handledEvents_append (es fs : List Event) :
    handledEvents (es ++ fs) = handledEvents es ++ handledEvents fs :=
  List.filterMap_append

theorem loggingEvents_append (es fs : List Event) :
    loggingEvents (es ++ fs) = loggingEvents es ++ loggingEvents fs :=
  List.filterMap_append

theorem ownLines_append (es fs : List Event) :
    ownLines (es ++ fs) = ownLines es ++ ownLines fs := by
  simp [ownLines, transcript, List.filterMap_append]

/-- A step of the program has nothing to do with the logger. -/
theorem events_service (s : RemoteControl) (a : CommandService.Action) (results : CallResults) :
    serviceEvents (event parse target s (.service a results)) =
        CommandService.event parse target s.service a ∧
      handledEvents (event parse target s (.service a results)) =
        s.service.handled parse target results a ∧
      loggingEvents (event parse target s (.service a results)) = [] ∧
      ownLines (event parse target s (.service a results)) = [] := by
  simp [serviceEvents, handledEvents, loggingEvents, ownLines, transcript, event,
    List.filterMap_map, Function.comp_def, Event.service?, Event.handler?, Event.logging?,
    Event.line?]

/-- The call of a line is a step of the logger. -/
theorem event_say {s : RemoteControl} {time : String} {level : LogLevel} {text : LoggedText}
    {rest : List Reply} {str : String} (hleft : s.left = (level, text) :: rest)
    (htext : text.text? = some str) : event parse target s (.say time) =
      (Logging.event s.logging (.call ⟨time, level, str⟩)).map (.logging true) := by
  simp [event, Logging.event, hleft, htext]

/-- A step of the logger has nothing to do with the program. -/
theorem events_logging (own : Bool) (events : List Logging.Event) :
    serviceEvents (events.map (.logging own)) = [] ∧
      handledEvents (events.map (.logging own)) = [] ∧
      loggingEvents (events.map (.logging own)) = events := by
  simp [serviceEvents, handledEvents, loggingEvents, List.filterMap_map, Function.comp_def,
    Event.service?, Event.handler?, Event.logging?]

/-! ## The lines of the handler -/

variable {parse target} {es : List Event} {a : Action}

/-- The lines whose calls have not got the mutexes. -/
def unlogged (s : RemoteControl) : List Reply :=
  if s.place = .inside then s.left.tail else s.left

/-- **Where the receive thread stands**: its call is the one that waits at its place, or the
one inside. -/
def Standing (s : RemoteControl) : Prop :=
  match s.place with
  | .outside => True
  | .waiting i => ∃ c l, s.logging.waiting[i]? = some c ∧ s.left.head? = some l ∧ l.LoggedBy c
  | .inside => s.left ≠ [] ∧ s.logging.inside.isSome = true

/-- **The lines said are those logged**, up to those that are left. -/
structure Spoken (s : RemoteControl) (es : List Event) : Prop where
  standing : s.Standing
  lines : ∃ printed, (handledEvents es).filterMap HandlerEvent.reply? = printed ++ s.unlogged ∧
    List.Forall₂ Reply.LoggedBy printed (ownLines es)

variable (parse target) in
/-- While something is left, only the threads of the functions go on. -/
theorem left_or_handled {a : CommandService.Action} (h : s.MayServe a) (results : CallResults) :
    s.left = [] ∨ s.service.handled parse target results a = [] := by
  cases a with
  | received => exact Or.inl h.1
  | turn | handler => exact Or.inl h
  | thread => exact Or.inr rfl

/-- The receive thread is outside when it has nothing to log. -/
theorem Standing.outside (h : s.Standing) (hleft : s.left = []) : s.place = .outside := by
  unfold Standing at h
  split at h
  · assumption
  · obtain ⟨c, l, -, hl, -⟩ := h
    rw [hleft] at hl
    cases hl
  · exact absurd hleft h.1

/-- **A step of the program** may leave more to say. -/
theorem Spoken.serves (h : Spoken s es) {a : CommandService.Action} (hmay : s.MayServe a)
    (results : CallResults) (service : CommandService) :
    Spoken { s with
      service
      left := s.left ++ (s.service.handled parse target results a).filterMap HandlerEvent.reply? }
      (es ++ event parse target s (.service a results)) := by
  obtain ⟨printed, hsaid, hprinted⟩ := h.lines
  obtain ⟨-, hhandled, -, hown⟩ := events_service parse target s a results
  have hlines : ∀ t : RemoteControl, t.unlogged = s.unlogged ++
      (s.service.handled parse target results a).filterMap HandlerEvent.reply? →
      ∃ printed, (handledEvents (es ++ event parse target s (.service a results))).filterMap
          HandlerEvent.reply? = printed ++ t.unlogged ∧ List.Forall₂ Reply.LoggedBy printed
            (ownLines (es ++ event parse target s (.service a results))) := by
    intro t ht
    refine ⟨printed, ?_, ?_⟩
    · rw [handledEvents_append, List.filterMap_append, hsaid, hhandled, ht, List.append_assoc]
    · rw [ownLines_append, hown, List.append_nil]
      exact hprinted
  rcases left_or_handled parse target hmay results with hleft | hnone
  · have hplace := h.standing.outside hleft
    refine ⟨?_, hlines _ ?_⟩
    · simp [Standing, hplace]
    · simp [unlogged, hplace]
  · refine ⟨?_, hlines _ ?_⟩
    · rw [hnone, List.filterMap_nil, List.append_nil]
      exact h.standing
    · simp [unlogged, hnone]

/-- A step that says nothing and lets no line of a command in. -/
theorem Spoken.keep (h : Spoken s es) {t : RemoteControl} {more : List Event}
    (hstanding : t.Standing) (hleft : t.unlogged = s.unlogged) (hhandled : handledEvents more = [])
    (hown : ownLines more = []) : Spoken t (es ++ more) := by
  obtain ⟨printed, hsaid, hprinted⟩ := h.lines
  refine ⟨hstanding, printed, ?_, ?_⟩
  · rw [handledEvents_append, hhandled, List.append_nil, hleft]
    exact hsaid
  · rw [ownLines_append, hown, List.append_nil]
    exact hprinted

/-- **The next line is said.** -/
theorem Spoken.speaks (h : Spoken s es) {time : String} {level : LogLevel} {text : LoggedText}
    {rest : List Reply} {str : String} (hplace : s.place = .outside)
    (hleft : s.left = (level, text) :: rest) (htext : text.text? = some str) :
    Spoken { s with
      logging := { s.logging with waiting := s.logging.waiting ++ [⟨time, level, str⟩] }
      place := .waiting s.logging.waiting.length }
      (es ++ event parse target s (.say time)) := by
  rw [event_say parse target hleft htext]
  refine h.keep ⟨⟨time, level, str⟩, (level, text), ?_, ?_, rfl, htext⟩ ?_ rfl rfl
  · simp
  · simp [hleft]
  · simp [unlogged, hplace]

/-- The logger goes on, and the receive thread stays where it is. -/
theorem Standing.of_logging (h : s.Standing) {logging : Logging}
    (hwaiting : ∀ (i : Nat) c, s.logging.waiting[i]? = some c → logging.waiting[i]? = some c)
    (hinside : s.place = .inside → logging.inside.isSome = true) :
    Standing { s with logging } := by
  unfold Standing at h ⊢
  split at h
  · rename_i hplace
    simp only [hplace]
  · rename_i i hplace
    obtain ⟨c, l, hc, hl⟩ := h
    simp only [hplace]
    exact ⟨c, l, hwaiting i c hc, hl⟩
  · rename_i hplace
    simp only [hplace]
    exact ⟨h.1, hinside hplace⟩

/-- **A call gets the mutexes.** -/
theorem Spoken.enters (h : Spoken s es) {i : Nat} {c : LogCall} (hfree : s.logging.inside = none)
    (hc : s.logging.waiting[i]? = some c) (inside : List (LogStream × Emit)) :
    Spoken { s with
      logging := { s.logging with
        waiting := s.logging.waiting.eraseIdx i
        inside := some inside }
      place := s.placeAfter (.enter i) }
      (es ++ event parse target s (.logging (.enter i))) := by
  have hstanding := h.standing
  have hevent : event parse target s (.logging (.enter i)) =
      [.logging (s.place = .waiting i) (.logged c)] := by
    simp [event, Logging.event, hc]
  rw [hevent]
  unfold Standing at hstanding
  split at hstanding
  · -- the call is another thread's
    rename_i hplace
    simp only [hplace, placeAfter, reduceCtorEq, decide_false]
    exact h.keep trivial (by simp [unlogged, hplace]) rfl rfl
  · rename_i j hplace
    obtain ⟨c', l, hc', hl, hlogged⟩ := hstanding
    by_cases hij : j = i
    · -- the call is the one of the receive thread
      subst hij
      obtain rfl := Option.some.inj (hc.symm.trans hc')
      obtain ⟨rest, hrest⟩ := List.head?_eq_some_iff.mp hl
      obtain ⟨printed, hsaid, hprinted⟩ := h.lines
      simp only [hplace, placeAfter, if_true, decide_true]
      refine ⟨⟨by simp [hrest], rfl⟩, printed ++ [l], ?_, ?_⟩
      · rw [handledEvents_append, List.filterMap_append, hsaid]
        simp [unlogged, hplace, hrest, handledEvents, Event.handler?]
      · rw [ownLines_append]
        exact List.rel_append hprinted (.cons hlogged .nil)
    · -- the receive thread moves up if it has waited behind it
      have hne : LogPlace.waiting j ≠ .waiting i := fun heq => hij (LogPlace.waiting.inj heq)
      simp only [hplace, placeAfter, if_neg hij, hne, decide_false]
      refine h.keep ⟨c', l, ?_, hl, hlogged⟩ (by simp [unlogged, hplace]) rfl rfl
      by_cases hlt : i < j
      · simp only [if_pos hlt]
        rw [List.getElem?_eraseIdx_of_ge (by omega), Nat.sub_add_cancel (by omega)]
        exact hc'
      · simp only [if_neg hlt]
        rw [List.getElem?_eraseIdx_of_lt (by omega)]
        exact hc'
  · simp [hfree] at hstanding

/-- **A call is over.** -/
theorem Spoken.leaves (h : Spoken s es) : Spoken { s with
      logging := { s.logging with inside := none }
      left := s.leftAfter .leave
      place := s.placeAfter .leave } (es ++ event parse target s (.logging .leave)) := by
  refine h.keep ?_ ?_ rfl rfl
  · by_cases hplace : s.place = .inside
    · simp [Standing, placeAfter, hplace]
    · simp only [placeAfter, leftAfter, if_neg hplace]
      exact h.standing.of_logging (fun _ _ hc => hc) fun hinside => absurd hinside hplace
  · by_cases hplace : s.place = .inside <;> simp [unlogged, leftAfter, placeAfter, hplace]

/-- **Every step.** -/
theorem Spoken.step (h : Spoken s es) (hstep : step parse target s a = some s') :
    Spoken s' (es ++ event parse target s a) := by
  cases step_change hstep with
  | serves hmay _ => exact h.serves hmay _ _
  | speaks hplace hleft htext => exact h.speaks hplace hleft htext
  | logs hmay hlogs =>
    have hinside : s.place = .inside → s.logging.inside.isSome = true := by
      intro hplace
      have hstanding := h.standing
      rw [Standing, hplace] at hstanding
      exact hstanding.2
    cases Logging.step_change hlogs with
    | calls c =>
      refine h.keep (h.standing.of_logging (fun i c hc => ?_) hinside) rfl rfl rfl
      rw [List.getElem?_append_left (List.getElem?_eq_some_iff.mp hc).1]
      exact hc
    | adds => exact absurd hmay id
    | enters hfree hc => exact h.enters hfree hc _
    | outputs _ hemit =>
      obtain ⟨-, hwaiting, -⟩ := Logging.emit_texts hemit
      refine h.keep (h.standing.of_logging (fun i c hc => ?_) fun _ => rfl) rfl rfl rfl
      rw [hwaiting]
      exact hc
    | leaves => exact h.leaves
    | serves => exact h.keep (h.standing.of_logging (fun _ _ hc => hc) hinside) rfl rfl rfl

end RemoteControl
end CameraController
