import CameraController.LogPieces
import CameraController.Logger

/-! # Many threads log

All threads of the program use one `Logger`.  A call of `log` waits for `mtx_streams`,
takes `mtx_log` as well, which nobody else asks for without the first, and writes its
line to one stream after the other: its characters, then a flush that belongs to
`endl`, and one more.  `sendData` is called on the way, and the threads of the server
and the client take their turns in between.

What a run does is compared with calls that come one after the other (`sequential`):
the calls in the order in which they got `mtx_streams`.  `Linear` is what every step
keeps of that.  So each line is whole in every stream it goes to and the lines
stand in one order (`logged_in_turn`), and each reaches the client in messages of its
own (`decode_logged`). -/
namespace CameraController

open StateMachine TCPServer

/-- What the program's `Logger` writes to: standard output, the file
`cameracontroller_log.txt`, and the clients. -/
inductive LogStream where
  | cout
  | ofs
  | netstream
  deriving DecidableEq, Repr

/-- A call of `log`, and the time it has read before it waits for a mutex. -/
structure LogCall where
  time : String
  level : LogLevel
  str : String
  deriving DecidableEq, Repr

/-- What is done to a stream. -/
inductive Emit where
  | char (c : UInt8)
  | flush
  deriving DecidableEq, Repr

namespace Emit

/-- The character that comes with it. -/
def chars : Emit → List UInt8
  | char c => [c]
  | flush => []

/-- It is done to the stream for the clients. -/
def action : Emit → LogPath.Action
  | char c => .write c
  | flush => .flush

end Emit

/-- The bytes of a line. -/
def lineBytes (line : String) : List UInt8 := line.toUTF8.data.toList

/-- A line is written, `endl` flushes it, and `log` flushes it again. -/
def emitLine (line : String) : List Emit := (lineBytes line).map .char ++ [.flush, .flush]

/-- The outputs of some lines. -/
def emitLines (lines : List (LogStream × String)) : List (LogStream × Emit) :=
  lines.flatMap fun l => (emitLine l.2).map fun e => (l.1, e)

/-- `Log` as it is constructed. -/
def startedLogger : Logger LogStream := ⟨[(.cout, .debug)]⟩

/-- The logger, the calls that wait for `mtx_streams`, what the call that holds it still
has to do, what was written to the first two streams, and the way to the clients. -/
structure Logging where
  logger : Logger LogStream
  waiting : List LogCall
  inside : Option (List (LogStream × Emit))
  cout : List UInt8
  ofs : List UInt8
  netstream : LogPath
  deriving DecidableEq, Repr

namespace Logging

def init (encoderBuf streamBuf : List UInt8) : Logging where
  logger := startedLogger
  waiting := []
  inside := none
  cout := []
  ofs := []
  netstream := LogPath.init encoderBuf streamBuf

inductive Action where
  /-- A thread calls `log`. -/
  | call (c : LogCall)
  | addStream (stream : LogStream) (minlevel : LogLevel)
  /-- The call that has waited at place `i` gets both mutexes. -/
  | enter (i : Nat)
  /-- The call inside does the next thing to a stream. -/
  | output
  /-- It gives both mutexes back. -/
  | leave
  /-- A turn of the server's threads, of its clients, or of `sendData`. -/
  | server (a : SendSide.Action)
  deriving DecidableEq, Repr

/-- A stream is written to, or flushed. -/
def emit (s : Logging) : LogStream → Emit → Option Logging
  | .cout, e => some { s with cout := s.cout ++ e.chars }
  | .ofs, e => some { s with ofs := s.ofs ++ e.chars }
  | .netstream, e => do
    let netstream ← LogPath.step s.netstream e.action
    return { s with netstream }

/-- One step. -/
def step (s : Logging) : Action → Option Logging
  | .call c => some { s with waiting := s.waiting ++ [c] }
  | .addStream stream minlevel =>
    if s.inside = none then some { s with logger := s.logger.addStream stream minlevel } else none
  | .enter i =>
    if s.inside = none then do
      let c ← s.waiting[i]?
      return { s with
        waiting := s.waiting.eraseIdx i
        inside := some (emitLines (s.logger.log c.time c.level c.str)) }
    else
      none
  | .output =>
    match s.inside with
    | some ((stream, e) :: rest) => do
      let s ← s.emit stream e
      return { s with inside := some rest }
    | _ => none
  | .leave => if s.inside = some [] then some { s with inside := none } else none
  | .server a => do
    let netstream ← LogPath.step s.netstream (.server a)
    return { s with netstream }

/-- No put overflows `send_buf`, and the client stays. -/
def LosesNothing (s : Logging) : Action → Prop
  | .server a => SendSide.LosesNothing s.netstream.server a
  | _ => True

/-- **What a step can do.** -/
inductive Change (s : Logging) : Action → Logging → Prop
  | calls (c : LogCall) : Change s (.call c) { s with waiting := s.waiting ++ [c] }
  | adds (stream : LogStream) (minlevel : LogLevel) (hfree : s.inside = none) :
      Change s (.addStream stream minlevel) { s with logger := s.logger.addStream stream minlevel }
  | enters {i : Nat} {c : LogCall} (hfree : s.inside = none) (hc : s.waiting[i]? = some c) :
      Change s (.enter i) { s with
        waiting := s.waiting.eraseIdx i
        inside := some (emitLines (s.logger.log c.time c.level c.str)) }
  | outputs {stream : LogStream} {e : Emit} {rest : List (LogStream × Emit)} {t : Logging}
      (hinside : s.inside = some ((stream, e) :: rest)) (hemit : s.emit stream e = some t) :
      Change s .output { t with inside := some rest }
  | leaves (hinside : s.inside = some []) : Change s .leave { s with inside := none }
  | serves (a : SendSide.Action) {netstream : LogPath}
      (hstep : LogPath.step s.netstream (.server a) = some netstream) :
      Change s (.server a) { s with netstream }

theorem step_change {s s' : Logging} {a : Action} (h : step s a = some s') : Change s a s' := by
  cases a with
  | call c =>
    obtain rfl := Option.some.inj h
    exact .calls c
  | addStream stream minlevel =>
    obtain ⟨hfree, h⟩ := Option.ite_none_right_eq_some.mp h
    obtain rfl := Option.some.inj h
    exact .adds stream minlevel hfree
  | enter i =>
    obtain ⟨hfree, h⟩ := Option.ite_none_right_eq_some.mp h
    obtain ⟨c, hc, h⟩ := Option.bind_eq_some_iff.mp h
    obtain rfl := Option.some.inj h
    exact .enters hfree hc
  | output =>
    rw [step] at h
    split at h
    · rename_i stream e rest hinside
      obtain ⟨t, hemit, h⟩ := Option.bind_eq_some_iff.mp h
      obtain rfl := Option.some.inj h
      exact .outputs hinside hemit
    · cases h
  | leave =>
    obtain ⟨hinside, h⟩ := Option.ite_none_right_eq_some.mp h
    obtain rfl := Option.some.inj h
    exact .leaves hinside
  | server a =>
    obtain ⟨netstream, hstep, h⟩ := Option.bind_eq_some_iff.mp h
    obtain rfl := Option.some.inj h
    exact .serves a hstep

/-! ## One after the other -/

/-- What is recorded of a run: the calls made, and what `mtx_streams` puts in an order. -/
inductive Event where
  | called (c : LogCall)
  | added (stream : LogStream) (minlevel : LogLevel)
  | logged (c : LogCall)
  deriving DecidableEq, Repr

def event (s : Logging) : Action → List Event
  | .call c => [.called c]
  | .addStream stream minlevel => [.added stream minlevel]
  | .enter i => (s.waiting[i]?).toList.map .logged
  | _ => []

namespace Event

def called? : Event → Option LogCall
  | called c => some c
  | _ => none

def logged? : Event → Option LogCall
  | logged c => some c
  | _ => none

end Event

/-- The logger after some events. -/
def loggerAfter : Logger LogStream → List Event → Logger LogStream
  | l, [] => l
  | l, .added stream minlevel :: events => loggerAfter (l.addStream stream minlevel) events
  | l, _ :: events => loggerAfter l events

/-- **What calls that come one after the other write**, and to which stream. -/
def sequential : Logger LogStream → List Event → List (LogStream × String)
  | _, [] => []
  | l, .called _ :: events => sequential l events
  | l, .added stream minlevel :: events => sequential (l.addStream stream minlevel) events
  | l, .logged c :: events => l.log c.time c.level c.str ++ sequential l events

/-- The lines among them that come to one stream. -/
def linesOn (stream : LogStream) (events : List Event) : List String :=
  ((sequential startedLogger events).filter fun l => l.1 = stream).map Prod.snd

theorem loggerAfter_append (l : Logger LogStream) (es fs : List Event) :
    loggerAfter l (es ++ fs) = loggerAfter (loggerAfter l es) fs := by
  induction es generalizing l with
  | nil => rfl
  | cons e es ih => cases e <;> exact ih _

theorem sequential_append (l : Logger LogStream) (es fs : List Event) :
    sequential l (es ++ fs) = sequential l es ++ sequential (loggerAfter l es) fs := by
  induction es generalizing l with
  | nil => rfl
  | cons e es ih =>
    cases e with
    | called c => exact ih _
    | added stream minlevel => exact ih _
    | logged c =>
      rw [List.cons_append, sequential, sequential, ih, List.append_assoc]
      rfl

/-! ## What was done to each stream -/

/-- The characters among some outputs that come to a stream. -/
def charsOn (stream : LogStream) (done : List (LogStream × Emit)) : List UInt8 :=
  (done.filter fun o => o.1 = stream).flatMap fun o => o.2.chars

/-- What some outputs write to the stream for the clients, and where it is flushed. -/
def netText (done : List (LogStream × Emit)) : LogPath.Text :=
  LogPath.written ((done.filter fun o => o.1 = .netstream).map fun o => o.2.action)

theorem charsOn_append (stream : LogStream) (xs ys : List (LogStream × Emit)) :
    charsOn stream (xs ++ ys) = charsOn stream xs ++ charsOn stream ys := by
  simp [charsOn]

theorem netText_append (xs ys : List (LogStream × Emit)) :
    netText (xs ++ ys) =
      ((ys.filter fun o => o.1 = .netstream).map fun o => o.2.action).foldl LogPath.Text.add
        (netText xs) := by
  simp [netText, LogPath.written]

/-- The outputs of a line, seen from a stream. -/
theorem filter_emitLine (stream dest : LogStream) (line : String) :
    ((emitLine line).map fun e => (dest, e)).filter (fun o => o.1 = stream) =
      if dest = stream then (emitLine line).map fun e => (dest, e) else [] := by
  by_cases h : dest = stream
  · rw [if_pos h, List.filter_eq_self]
    intro o ho
    obtain ⟨e, -, rfl⟩ := List.mem_map.mp ho
    exact decide_eq_true h
  · rw [if_neg h, List.filter_eq_nil_iff]
    intro o ho
    obtain ⟨e, -, rfl⟩ := List.mem_map.mp ho
    simpa using h

theorem chars_emitLine (line : String) : (emitLine line).flatMap Emit.chars = lineBytes line := by
  have hchars : ∀ l : List UInt8, (l.map Emit.char).flatMap Emit.chars = l := by
    intro l
    induction l with
    | nil => rfl
    | cons c l ih => rw [List.map_cons, List.flatMap_cons, ih, Emit.chars, List.singleton_append]
  rw [emitLine, List.flatMap_append, hchars]
  simp [Emit.chars]

/-- **A stream gets the characters of its lines.** -/
theorem charsOn_emitLines (stream : LogStream) (lines : List (LogStream × String)) :
    charsOn stream (emitLines lines) =
      (((lines.filter fun l => l.1 = stream).map Prod.snd).map lineBytes).flatten := by
  induction lines with
  | nil => rfl
  | cons l lines ih =>
    obtain ⟨dest, line⟩ := l
    have hcons : emitLines ((dest, line) :: lines) =
        ((emitLine line).map fun e => (dest, e)) ++ emitLines lines := rfl
    rw [hcons, charsOn_append, ih, charsOn, filter_emitLine]
    by_cases h : dest = stream
    · simp [h, List.flatMap_map, chars_emitLine]
    · simp [h]

/-- A line is written and flushed twice: the second flush has nothing to pass on. -/
theorem add_emitLine (line : String) (flushed : List (List UInt8)) :
    ((emitLine line).map Emit.action).foldl LogPath.Text.add ⟨flushed, []⟩ =
      ⟨flushed ++ [lineBytes line, []], []⟩ := by
  have hwrite : ∀ (l since : List UInt8),
      ((l.map Emit.char).map Emit.action).foldl LogPath.Text.add ⟨flushed, since⟩ =
        ⟨flushed, since ++ l⟩ := by
    intro l
    induction l with
    | nil => simp
    | cons c l ih =>
      intro since
      rw [List.map_cons, List.map_cons, List.foldl_cons]
      exact (ih (since ++ [c])).trans (by rw [List.append_assoc, List.singleton_append])
  rw [emitLine, List.map_append, List.foldl_append, hwrite]
  simp [Emit.action, LogPath.Text.add]

/-- **The clients' stream is flushed behind each of its lines.** -/
theorem netText_emitLines (lines : List (LogStream × String)) :
    netText (emitLines lines) =
      ⟨((lines.filter fun l => l.1 = .netstream).map Prod.snd).flatMap
        fun line => [lineBytes line, []], []⟩ := by
  have hall : ∀ (lines : List (LogStream × String)) (flushed : List (List UInt8)),
      (((emitLines lines).filter fun o => o.1 = .netstream).map fun o => o.2.action).foldl
        LogPath.Text.add ⟨flushed, []⟩ =
      ⟨flushed ++ ((lines.filter fun l => l.1 = .netstream).map Prod.snd).flatMap
        fun line => [lineBytes line, []], []⟩ := by
    intro lines
    induction lines with
    | nil => simp [emitLines]
    | cons l lines ih =>
      intro flushed
      obtain ⟨dest, line⟩ := l
      have hcons : emitLines ((dest, line) :: lines) =
          ((emitLine line).map fun e => (dest, e)) ++ emitLines lines := rfl
      rw [hcons, List.filter_append, filter_emitLine, List.map_append, List.foldl_append]
      by_cases h : dest = .netstream
      · have hline := add_emitLine line flushed
        simp only [if_pos h, List.map_map, Function.comp_def] at hline ⊢
        rw [hline, ih]
        simp [h]
      · rw [if_neg h]
        simpa [h] using ih flushed
  have hnil := hall lines []
  rwa [List.nil_append] at hnil

end Logging
end CameraController
