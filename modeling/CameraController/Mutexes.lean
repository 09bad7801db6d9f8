import CameraController.LockOrder

/-! # The program's mutexes

The logger takes `mtx_streams` and then `mtx_log`, and writes to its streams with both
held; the stream for the client calls `sendData`, which takes `mtx_sender`.  A
sequencer writes to the log with its `mutex_run` held.  An intervalometer and
`fn_sender` wait on a condition variable, which gives the one mutex they hold back for
as long as they wait.

`Activity` are the parts of the program that take a mutex, each as a script of what it
does with mutexes.  How often a condition variable wakes up, to how many streams a
line goes and how many frames that makes is left open, and so is what a thread does one
after the other.  The mutexes are taken in the order of `Mutex.rank`, so no thread
waits for one in vain (`lock_granted`), and what they guard is used by one thread at a
time (`guarded`). -/
namespace CameraController

open StateMachine

inductive Mutex where
  /-- `mutex_run` of a function object. -/
  | run (o : Nat)
  /-- `mtx_streams`, for `streams`. -/
  | streams
  /-- `mtx_log`, for what the streams refer to. -/
  | log
  /-- `mtx_sender`, for `send_buf`. -/
  | sender
  deriving DecidableEq, Repr

namespace Mutex

/-- The order in which mutexes are taken. -/
def rank : Mutex → Nat
  | run _ => 0
  | streams => 1
  | log => 2
  | sender => 3

end Mutex

/-- A part of the program that takes a mutex. -/
inductive Activity where
  /-- `Logger::log`; for each stream written to, how often `sendData` is called. -/
  | log (writes : List Nat)
  /-- `Logger::addStream`, `removeStream` and `clearStreams`. -/
  | changeStreams
  /-- The block in the loop of `Sequencer::run`, and the two lines it logs. -/
  | registerShot (o : Nat) (shot stats : List Nat)
  /-- The block in the loop of `Intervalometer::run`. -/
  | waitNext (o : Nat) (wakes : Nat)
  /-- The block in the loop of `fn_sender`. -/
  | takeChunk (wakes : Nat)
  /-- What takes no mutex: captures, calls of the system, and the end of a test
  capture that the handler awaits. -/
  | other
  deriving DecidableEq, Repr

namespace Activity

open LockOrder

/-- `TCPServer::sendData`. -/
def sendData : List (Op Mutex) := [.lock .sender, .use .sender, .unlock .sender]

/-- A stream is written to. -/
def write (frames : Nat) : List (Op Mutex) :=
  [.use .streams, .use .log] ++ (List.replicate frames sendData).flatten

/-- `wait` and `wait_until`. -/
def wait (m : Mutex) : List (Op Mutex) := [.unlock m, .pause, .lock m]

def logScript (writes : List Nat) : List (Op Mutex) :=
  [.lock .streams, .lock .log] ++ (writes.flatMap write ++ [.unlock .log, .unlock .streams])

/-- What is done with mutexes. -/
def script : Activity → List (Op Mutex)
  | log writes => logScript writes
  | changeStreams => [.lock .streams, .use .streams, .unlock .streams]
  | registerShot o shot stats =>
    [.lock (.run o), .use (.run o)] ++
      (logScript shot ++ (.use (.run o) :: (logScript stats ++ [.unlock (.run o)])))
  | waitNext o wakes =>
    [.lock (.run o), .use (.run o)] ++
      ((List.replicate wakes (wait (.run o))).flatten ++ [.unlock (.run o)])
  | takeChunk wakes =>
    [.lock .sender] ++
      ((List.replicate wakes (.use .sender :: wait .sender)).flatten ++
        [.use .sender, .unlock .sender])
  | other => [.pause]

/-! ## They are taken in order -/

theorem sendData_ordered : Ordered Mutex.rank [] sendData := by
  simp [sendData, Ordered]

/-- What is done with both of the logger's mutexes held. -/
theorem writes_ordered (writes : List Nat) {rest : List (Op Mutex)}
    (hrest : Ordered Mutex.rank [.log, .streams] rest) :
    Ordered Mutex.rank [.log, .streams] (writes.flatMap write ++ rest) := by
  induction writes with
  | nil => exact hrest
  | cons frames writes ih =>
    have hsend : Ordered Mutex.rank [] (List.replicate frames sendData).flatten := by
      rw [← List.flatMap_id]
      apply ordered_flatMap
      intro ops hops
      rw [id_eq, List.eq_of_mem_replicate hops]
      exact sendData_ordered
    have hmem : ∀ op ∈ (List.replicate frames sendData).flatten, op ∈ sendData := by
      intro op hop
      obtain ⟨ops, hops, hop⟩ := List.mem_flatten.mp hop
      rwa [List.eq_of_mem_replicate hops] at hop
    rw [List.flatMap_cons, List.append_assoc]
    refine ⟨by simp, by simp, ?_⟩
    apply Ordered.within hsend
    · intro hpause
      simpa [sendData] using hmem _ hpause
    · intro m hm l hl
      obtain rfl : m = .sender := by simpa [sendData] using hmem _ hm
      rcases List.mem_cons.mp hl with rfl | hl
      · decide
      · obtain rfl := List.mem_singleton.mp hl
        decide
    · exact ih

theorem logScript_ordered (writes : List Nat) : Ordered Mutex.rank [] (logScript writes) := by
  refine ⟨by simp, by simp [Mutex.rank], ?_⟩
  apply writes_ordered
  simp [Ordered]

/-- A line is logged within a block of a sequencer. -/
theorem logScript_within (o : Nat) (writes : List Nat) {rest : List (Op Mutex)}
    (hrest : Ordered Mutex.rank [.run o] rest) :
    Ordered Mutex.rank [.run o] (logScript writes ++ rest) := by
  have hmem : ∀ op ∈ logScript writes, op ≠ .pause ∧ ∀ m, op = .lock m → 0 < m.rank := by
    intro op hop
    simp only [logScript, write, List.mem_append, List.mem_cons, List.mem_flatMap,
      List.mem_flatten, List.mem_replicate, List.not_mem_nil, or_false] at hop
    rcases hop with (rfl | rfl) | ⟨frames, -, (rfl | rfl) | ⟨ops, ⟨-, rfl⟩, hop⟩⟩ | rfl | rfl
    case inr.inl.inr =>
      simp only [sendData, List.mem_cons, List.not_mem_nil, or_false] at hop
      rcases hop with rfl | rfl | rfl <;> simp [Mutex.rank]
    all_goals simp [Mutex.rank]
  rw [← List.nil_append [Mutex.run o]]
  apply Ordered.within (logScript_ordered writes)
  · exact fun hpause => (hmem _ hpause).1 rfl
  · intro m hm l hl
    obtain rfl := List.mem_singleton.mp hl
    exact (hmem _ hm).2 m rfl
  · exact hrest

/-- A wait on a condition variable, with the one mutex held. -/
theorem waits_ordered (m : Mutex) (before : List (Op Mutex)) {rest : List (Op Mutex)} (wakes : Nat)
    (hbefore : ∀ tail, Ordered Mutex.rank [m] tail → Ordered Mutex.rank [m] (before ++ tail))
    (hrest : Ordered Mutex.rank [m] rest) :
    Ordered Mutex.rank [m] ((List.replicate wakes (before ++ wait m)).flatten ++ rest) := by
  induction wakes with
  | zero => exact hrest
  | succ wakes ih =>
    rw [List.replicate_succ, List.flatten_cons, List.append_assoc, List.append_assoc]
    apply hbefore
    refine ⟨List.mem_singleton_self m, ?_, ?_⟩
    · simp
    · exact ⟨by simp, by simpa using ih⟩

/-- **Every activity takes mutexes in order**, and ends with none. -/
theorem script_ordered (a : Activity) : Ordered Mutex.rank [] a.script := by
  cases a with
  | log writes => exact logScript_ordered writes
  | changeStreams => simp [script, Ordered]
  | registerShot o shot stats =>
    refine ⟨by simp, by simp, ?_⟩
    apply logScript_within
    refine ⟨by simp, ?_⟩
    apply logScript_within
    simp [Ordered]
  | waitNext o wakes =>
    refine ⟨by simp, by simp, ?_⟩
    apply waits_ordered (.run o) [] wakes (fun tail h => h)
    simp [Ordered]
  | takeChunk wakes =>
    refine ⟨by simp, ?_⟩
    apply waits_ordered .sender [.use .sender] wakes
    · exact fun tail h => ⟨by simp, h⟩
    · simp [Ordered]
  | other => exact ⟨rfl, rfl⟩

end Activity

open LockOrder

/-- Threads that each do some activities one after the other. -/
def launched (program : List (List Activity)) : List (LockOrder.Thread Mutex) :=
  start (program.map fun activities => activities.flatMap Activity.script)

theorem orderly_of_reachable {program : List (List Activity)} {s : List (LockOrder.Thread Mutex)}
    (h : Reachable LockOrder.step (launched program) s) : Orderly Mutex.rank s := by
  apply h.invariant (fun hs hstep => hs.step hstep)
  apply start_orderly
  intro ops hops
  obtain ⟨activities, -, rfl⟩ := List.mem_map.mp hops
  exact ordered_flatMap fun a _ => a.script_ordered

/-- Threads about to use what one mutex guards are the same, and hold it. -/
def Guarded (s : List (LockOrder.Thread Mutex)) : Prop :=
  ∀ (k k' : Nat) (t t' : LockOrder.Thread Mutex) (m : Mutex) (rest rest' : List (Op Mutex)),
    s[k]? = some t → s[k']? = some t' → t.script = .use m :: rest → t'.script = .use m :: rest' →
      k = k' ∧ m ∈ t.held

/-- **What the mutexes guard is used by one thread at a time**, whatever any number of
threads do and in whatever order they take their turns: `streams` and what it refers
to, `send_buf`, and the statistics of a run. -/
theorem guarded {program : List (List Activity)} {s : List (LockOrder.Thread Mutex)}
    (h : Reachable LockOrder.step (launched program) s) : Guarded s := by
  intro k k' ⟨held, _⟩ ⟨held', _⟩ m rest rest' hk hk' hscript hscript'
  obtain rfl := hscript
  obtain rfl := hscript'
  have hs := orderly_of_reachable h
  exact ⟨hs.use_unique hk hk', (hs.ordered _ (List.mem_of_getElem? hk)).1⟩

/-- Two threads log a line; the first has taken both mutexes and comes to its stream. -/
theorem guarded_twoLogging :
    Guarded [⟨[.log, .streams], (Activity.logScript [1]).drop 2⟩, ⟨[], Activity.logScript [1]⟩] :=
  have hreach : Reachable LockOrder.step (launched [[.log [1]], [.log [1]]]) _ := ⟨[0, 0], rfl⟩
  guarded hreach

/-- What holds of a thread that cannot go on. -/
structure Waits (s : List (LockOrder.Thread Mutex)) (k : Nat) (m : Mutex) : Prop where
  /-- Another thread holds the mutex. -/
  owner : ∃ j u, j ≠ k ∧ s[j]? = some u ∧ m ∈ u.held
  /-- Some steps of other threads, all of them taken with a mutex held, let it go on. -/
  granted : ∃ ks s' s'', run LockOrder.step s ks = some s' ∧ k ∉ ks ∧
    EachStep LockOrder.step Holding s ks ∧ s'[k]? = s[k]? ∧ LockOrder.step s' k = some s''

/-- **No thread waits for a mutex in vain.**  Whatever any number of threads do, and
in whatever order they take their turns: a thread that cannot go on is done, or it
waits for a mutex that another thread holds and that it can get without a step of its
own. -/
theorem lock_granted {program : List (List Activity)} {s : List (LockOrder.Thread Mutex)}
    (h : Reachable LockOrder.step (launched program) s) {k : Nat} {t : LockOrder.Thread Mutex}
    (ht : s[k]? = some t) (hnone : LockOrder.step s k = none) :
    t.script = [] ∨ ∃ m rest, t.script = .lock m :: rest ∧ Waits s k m := by
  have hs := orderly_of_reachable h
  rcases hs.blocked ht hnone with hdone | ⟨m, rest, hscript, howner⟩
  · exact Or.inl hdone
  obtain ⟨held, script⟩ := t
  obtain rfl : script = .lock m :: rest := hscript
  obtain ⟨ks, s', hrun, hnot, heach, -, hk', hfree⟩ := hs.exists_free ht
  have hnext := step_eq_some_iff.mpr ⟨_, _, hk', .locks hfree, rfl⟩
  exact Or.inr ⟨m, rest, rfl, howner, ks, s', _, hrun, hnot, heach, hk'.trans ht.symm, hnext⟩

/-- Two threads log a line each, and the first has taken `mtx_streams`. -/
def twoLogging : List (LockOrder.Thread Mutex) :=
  [⟨[.streams], (Activity.logScript [1]).tail⟩, ⟨[], Activity.logScript [1]⟩]

theorem reachable_twoLogging :
    Reachable LockOrder.step (launched [[.log [1]], [.log [1]]]) twoLogging :=
  ⟨[0], rfl⟩

theorem lock_granted_twoLogging :
    Activity.logScript [1] = [] ∨ ∃ m rest, Activity.logScript [1] = .lock m :: rest ∧
      Waits twoLogging 1 m :=
  lock_granted (t := ⟨[], Activity.logScript [1]⟩) reachable_twoLogging rfl (by decide)

end CameraController
