import CameraController.CommandHandlerInvariant
import Mathlib.Data.List.TakeWhile

/-! # How many exposures a function takes

A run of the program is recorded for one object: the captures its `run()` begins,
those that fail, and the times `abort()` sets `abort_cond` (`runEvent`).

`RunTally` is what the loop of `run()` keeps: its variable `i` counts the captures
begun, the one it is about to begin included.  `RunTally.step` goes through the
loop, `Tally` says it of the whole program, whatever else happens, and
`exposure_count` is what follows for the number of captures. -/
namespace CameraController

open StateMachine

/-- What a step is for one object. -/
inductive RunEvent where
  /-- `run()` calls `camera.capture`. -/
  | begins
  /-- `camera.capture` returns `false` to `run()`. -/
  | fails
  /-- `abort()` sets `abort_cond`. -/
  | aborts
  deriving DecidableEq, Repr

namespace RunPc

/-- The loop has been left. -/
def left : RunPc → Bool
  | finish | report | exited => true
  | _ => false

/-- What a step of `run()` is. -/
def event : RunPc → Answer → List RunEvent
  | enter, _ => [.begins]
  | capture c download, ans =>
    if captureStep download c ans = some (.returned false) then [.fails] else []
  | _, _ => []

end RunPc

/-- What a step of the program is for object `o`. -/
def runEvent (o : Nat) (s : Controller) : Action → List RunEvent
  | .command c =>
    match CommandId.ofCode c.cmdId, s.functions[o]? with
    | some .functionStop, some f =>
      if s.activeFunction = some o ∧ f.started = true ∧ f.finished = false then [.aborts] else []
    | _, _ => []
  | .thread k ans =>
    match s.threads[k]? with
    | some ⟨i, .run _ pc⟩ => if i = o then pc.event ans else []
    | _ => []
  | .handler _ => []

/-- The events from the first `e` on. -/
def since (e : RunEvent) (events : List RunEvent) : List RunEvent := events.dropWhile (· ≠ e)

theorem count_since_le (e : RunEvent) (events : List RunEvent) :
    (since e events).count .begins ≤ events.count .begins :=
  (List.dropWhile_sublist _).count_le _

section Since
variable {e : RunEvent} {events : List RunEvent}

theorem since_of_not_mem (h : e ∉ events) : since e events = [] := by
  rw [since, List.dropWhile_eq_nil_iff]
  intro x hx
  have hne : x ≠ e := fun hxe => h (hxe ▸ hx)
  simpa using hne

theorem since_append_of_mem (h : e ∈ events) (l : List RunEvent) :
    since e (events ++ l) = since e events ++ l := by
  have hne : events.dropWhile (· ≠ e) ≠ [] := by
    rw [Ne, List.dropWhile_eq_nil_iff]
    exact fun hall => by simpa using hall e h
  simp only [since, List.dropWhile_append, List.isEmpty_eq_false_iff.mpr hne, Bool.false_eq_true,
    if_false]

theorem since_append_of_not_mem (h : e ∉ events) (l : List RunEvent) :
    since e (events ++ l) = since e l := by
  have hnil : events.dropWhile (· ≠ e) = [] := since_of_not_mem h
  simp only [since, List.dropWhile_append, hnil, List.isEmpty_nil, if_true]

end Since

/-! ## The loop -/

/-- What `run()` keeps, with `n` exposures asked for and `i` being `shots`. -/
structure RunTally (n : Int) (shots : Nat) (pc : RunPc) (events : List RunEvent) : Prop where
  begun : events.count .begins + (if pc = .enter then 1 else 0) = shots
  bound : 0 ≤ n → (shots : Int) ≤ n
  negative : n < -1 → shots = 0
  /-- The loop was left because of its count, or there was a reason. -/
  ended : pc.left = true → .fails ∉ events → .aborts ∉ events → n ≤ shots ∧ n ≠ -1
  failed : .fails ∈ events → pc.left = true
  quiet : (since .fails events).count .begins = 0
  last : (since .aborts events).count .begins + (if pc = .enter then 1 else 0) ≤ 1

namespace RunTally

variable {n : Int} {shots : Nat} {pc : RunPc} {events : List RunEvent}

/-- The loop is yet to begin. -/
theorem fresh (hbegun : events.count .begins = 0) (hfails : .fails ∉ events) :
    RunTally n 0 .loopTest events where
  begun := by simpa using hbegun
  bound h := h
  negative _ := rfl
  ended := nofun
  failed hf := absurd hf hfails
  quiet := by
    rw [since_of_not_mem hfails]
    rfl
  last := by
    have hle := count_since_le .aborts events
    rw [hbegun] at hle
    exact Nat.le_trans hle (Nat.zero_le 1)

/-- A step on the way from the capture to the loop's condition, or behind the loop. -/
theorem go (h : RunTally n shots pc events) (pc' : RunPc) (hpc : pc ≠ .enter)
    (hpc' : pc' ≠ .enter) (hleft : pc'.left = pc.left) : RunTally n shots pc' events where
  begun := by simpa only [if_neg hpc, if_neg hpc'] using h.begun
  bound := h.bound
  negative := h.negative
  ended := hleft ▸ h.ended
  failed := hleft ▸ h.failed
  quiet := h.quiet
  last := by simpa only [if_neg hpc, if_neg hpc'] using h.last

/-- The loop goes on. -/
theorem enter (h : RunTally n shots .loopTest events) (habort : .aborts ∉ events)
    (hn : (shots : Int) < n ∨ n = -1) : RunTally n (shots + 1) .enter events where
  begun := by simpa using h.begun
  bound h0 := by omega
  negative h0 := by omega
  ended := nofun
  failed hf := by cases h.failed hf
  quiet := h.quiet
  last := by simp [since_of_not_mem habort]

/-- The loop's condition is false. -/
theorem leave (h : RunTally n shots .loopTest events)
    (hn : .aborts ∉ events → n ≤ shots ∧ n ≠ -1) : RunTally n shots .finish events where
  begun := h.begun
  bound := h.bound
  negative := h.negative
  ended _ _ := hn
  failed _ := rfl
  quiet := h.quiet
  last := h.last

/-- A capture begins. -/
theorem capture (h : RunTally n shots .enter events) (c : CapturePc) (download : Bool) :
    RunTally n shots (.capture c download) (events ++ [.begins]) where
  begun := by simpa using h.begun
  bound := h.bound
  negative := h.negative
  ended := nofun
  failed hf := by cases h.failed (by simpa using hf)
  quiet := by
    have hnone : RunEvent.fails ∉ events := fun hf => by cases h.failed hf
    rw [since_append_of_not_mem hnone]
    rfl
  last := by
    by_cases habort : RunEvent.aborts ∈ events
    · simpa [since_append_of_mem habort] using h.last
    · rw [since_append_of_not_mem habort]
      exact Nat.zero_le 1

/-- A capture fails. -/
theorem fail {c : CapturePc} {download : Bool}
    (h : RunTally n shots (.capture c download) events) :
    RunTally n shots .finish (events ++ [.fails]) where
  begun := by simpa using h.begun
  bound := h.bound
  negative := h.negative
  ended _ hf := absurd (by simp) hf
  failed _ := rfl
  quiet := by
    have hnone : RunEvent.fails ∉ events := fun hf => by cases h.failed hf
    rw [since_append_of_not_mem hnone]
    rfl
  last := by
    by_cases habort : RunEvent.aborts ∈ events
    · simpa [since_append_of_mem habort] using h.last
    · rw [since_append_of_not_mem habort]
      decide

/-- `abort()` comes in between. -/
theorem abort (h : RunTally n shots pc events) : RunTally n shots pc (events ++ [.aborts]) where
  begun := by simpa using h.begun
  bound := h.bound
  negative := h.negative
  ended _ _ ha := absurd (by simp) ha
  failed hf := h.failed (by simpa using hf)
  quiet := by
    by_cases hfail : RunEvent.fails ∈ events
    · simpa [since_append_of_mem hfail] using h.quiet
    · rw [since_append_of_not_mem hfail]
      rfl
  last := by
    by_cases habort : RunEvent.aborts ∈ events
    · simpa [since_append_of_mem habort] using h.last
    · rw [since_append_of_not_mem habort]
      split <;> decide

/-- **A step of `run()`** keeps its tally. -/
theorem step (h : RunTally n shots pc events) {f g : CameraFunction} (hn : f.numShots.toInt = n)
    (habort : f.abortCond = true ↔ .aborts ∈ events) {shots' : Nat} {pc' : RunPc} {ans : Answer}
    (hstep : pc.step f shots ans = some (.moved g shots' pc')) :
    RunTally n shots' pc' (events ++ pc.event ans) := by
  cases RunPc.step_moves hstep with
  | goesOn hgoes =>
    simp only [CameraFunction.goesOn, hn, Bool.and_eq_true, Bool.not_eq_true', Bool.or_eq_true,
      decide_eq_true_eq, beq_iff_eq] at hgoes
    simp only [RunPc.event, List.append_nil]
    exact h.enter (fun ha => by simp [habort.mpr ha] at hgoes) hgoes.2
  | leaves hends =>
    simp only [RunPc.event, List.append_nil]
    refine h.leave fun ha => ?_
    have hnot : f.abortCond = false := by simpa using fun hset => ha (habort.mp hset)
    simp only [CameraFunction.goesOn, hn, hnot, Bool.not_false, Bool.true_and, Bool.or_eq_false_iff,
      decide_eq_false_iff_not, beq_eq_false_iff_ne, Int.not_lt] at hends
    exact hends
  | enters => exact h.capture _ _
  | @captures _ c' download _ hnext =>
    simp only [RunPc.event, hnext]
    simpa using h.go (.capture c' download) (by simp) (by simp) rfl
  | captured hnext =>
    simp only [RunPc.event, hnext]
    simpa using h.go .register (by simp) (by simp) rfl
  | fails hnext =>
    simp only [RunPc.event, hnext]
    simpa using h.fail
  | registers =>
    simp only [RunPc.event, List.append_nil]
    cases f.id <;> exact h.go _ (by simp) (by simp) rfl
  | waits =>
    simp only [RunPc.event, List.append_nil]
    cases f.abortCond <;> exact h.go _ (by simp) (by simp) rfl
  | wakes timeout =>
    simp only [RunPc.event, List.append_nil]
    cases timeout <;> exact h.go _ (by simp) (by simp) rfl
  | finishes | exits =>
    simp only [RunPc.event, List.append_nil]
    exact h.go _ (by simp) (by simp) rfl

end RunTally

/-! ## The whole program -/

/-- Thread `k` runs `run()` of object `o`. -/
def Runs (s : Controller) (o k shots : Nat) (pc : RunPc) : Prop :=
  s.threads[k]? = some ⟨o, .run shots pc⟩

/-- What the program keeps of object `o`. -/
structure Tally (o : Nat) (s : Controller) (events : List RunEvent) : Prop where
  invariant : Invariant s
  absent : s.functions[o]? = none → events = []
  abort : ∀ f : CameraFunction, s.functions[o]? = some f →
    (f.abortCond = true ↔ .aborts ∈ events)
  begun : ∀ f : CameraFunction, s.functions[o]? = some f → f.started = true →
    ∃ k shots pc, Runs s o k shots pc
  idle : (∀ k shots pc, ¬ Runs s o k shots pc) →
    events.count .begins = 0 ∧ .fails ∉ events
  running : ∀ (k shots : Nat) pc (f : CameraFunction), Runs s o k shots pc →
    s.functions[o]? = some f → RunTally f.numShots.toInt shots pc events

theorem init_tally (o : Nat) : Tally o {} [] where
  invariant := invariant_init
  absent _ := rfl
  abort _ h := by cases h
  begun _ h := by cases h
  idle _ := ⟨rfl, List.not_mem_nil⟩
  running _ _ _ _ _ h := by cases h

/-- `g` is `f` as far as its run is concerned. -/
def SameRun (f g : CameraFunction) : Prop :=
  g.numShots = f.numShots ∧ g.started = f.started ∧ g.abortCond = f.abortCond

theorem SameRun.refl (f : CameraFunction) : SameRun f f := ⟨rfl, rfl, rfl⟩

/-! ## Commands -/

theorem connectCamera_functions (s : Controller) (p : Purpose) :
    (s.connectCamera p).functions = s.functions := by
  obtain ⟨h, heq, -⟩ := s.connectCamera_eq p
  rw [heq]

theorem setup_functions {s s' : Controller} {cfg : Setup} (h : s.setup cfg = some s') :
    s'.functions = s.functions := by
  unfold Controller.setup at h
  split at h
  · cases h
    rfl
  · obtain ⟨f, -, h⟩ := Option.bind_eq_some_iff.mp h
    split at h <;> cases h <;> rfl

/-- What a command does to the runs of the objects: nothing, or it is a
`CMD_ID_FUNCTIONSTOP` that sets `abort_cond`. -/
inductive RunChange (s : Controller) (c : Command) (s' : Controller) : Prop
  | none (hevent : ∀ o, runEvent o s (.command c) = []) (hsame : s'.functions = s.functions)
  | touched (hevent : ∀ o, runEvent o s (.command c) = []) {i : Nat} {f g : CameraFunction}
      (hf : s.functions[i]? = some f) (hg : SameRun f g)
      (hset : s'.functions = s.functions.set i g)
  | aborted {i : Nat} {f : CameraFunction} (hf : s.functions[i]? = some f)
      (hset : s'.functions = s.functions.set i { f with abortCond := true })
      (hevent : ∀ o, runEvent o s (.command c) = if i = o then [.aborts] else [])

theorem stop_runChange {s s' : Controller} {c : Command}
    (hstop : CommandId.ofCode c.cmdId = some .functionStop) (h : s.onCommandReceived c = some s') :
    RunChange s c s' := by
  simp only [Controller.onCommandReceived, hstop] at h
  cases hactive : s.activeFunction with
  | none =>
    simp only [hactive] at h
    cases h
    refine .none (fun o => ?_) rfl
    cases hf : s.functions[o]? <;> simp [runEvent, hstop, hactive, hf]
  | some i =>
    simp only [hactive] at h
    obtain ⟨f, hf, h⟩ := Option.bind_eq_some_iff.mp h
    have hother : ∀ o, i ≠ o → runEvent o s (.command c) = [] := by
      intro o hne
      cases hg : s.functions[o]? <;> simp [runEvent, hstop, hactive, hg, hne]
    have hthis : runEvent i s (.command c) =
        if f.started = true ∧ f.finished = false then [.aborts] else [] := by
      simp [runEvent, hstop, hactive, hf]
    by_cases hrunning : f.started = true ∧ f.finished = false
    · rw [if_pos hrunning] at hthis
      rw [if_pos hrunning.1] at h
      cases h
      refine .aborted hf ?_ fun o => ?_
      · simp [CameraFunction.abort, hrunning]
      · by_cases hio : i = o
        · rw [← hio, hthis, if_pos rfl]
        · rw [hother o hio, if_neg hio]
    · rw [if_neg hrunning] at hthis
      have hevent : ∀ o, runEvent o s (.command c) = [] := by
        intro o
        by_cases hio : i = o
        · rw [← hio, hthis]
        · exact hother o hio
      by_cases hstarted : f.started = true
      · rw [if_pos hstarted] at h
        cases h
        refine .touched hevent hf ?_ rfl
        have hfinished : f.finished = true := by simpa [hstarted] using hrunning
        simp [CameraFunction.abort, hfinished, SameRun.refl]
      · rw [if_neg hstarted] at h
        cases h
        exact .none hevent rfl

/-- **What a command does to the runs.** -/
theorem onCommandReceived_runChange {s s' : Controller} {c : Command}
    (h : s.onCommandReceived c = some s') : RunChange s c s' := by
  by_cases hstop : CommandId.ofCode c.cmdId = some .functionStop
  · exact stop_runChange hstop h
  · have hevent : ∀ o, runEvent o s (.command c) = [] := by
      intro o
      simp only [runEvent]
      split
      · rename_i hid _
        exact absurd hid hstop
      · rfl
    unfold Controller.onCommandReceived at h
    split at h
    case h_3 | h_5 => exact .none hevent (setup_functions h)
    case h_7 =>
      split at h
      · cases h
        exact .none hevent rfl
      · obtain ⟨f, hf, h⟩ := Option.bind_eq_some_iff.mp h
        cases h
        refine .touched hevent hf ?_ rfl
        exact ⟨rfl, rfl, rfl⟩
    case h_4 | h_6 | h_8 => cases h
    case h_9 | h_10 =>
      split at h
      · cases h
        exact .none hevent rfl
      · obtain ⟨f, hf, h⟩ := Option.bind_eq_some_iff.mp h
        split at h <;> cases h
        · exact .none hevent rfl
        · exact .none hevent (connectCamera_functions _ _)
    case h_11 hid => exact absurd hid hstop
    case h_1 | h_2 | h_12 | h_13 | h_14 =>
      cases h
      exact .none hevent rfl

/-- A command leaves the threads alone. -/
theorem command_threads {s s' : Controller} {c : Command} (h : s.Change (.command c) s') :
    s'.threads = s.threads := by
  cases h with
  | connecting =>
    obtain ⟨h, heq, -⟩ := s.connectCamera_eq _
    rw [heq]
  | _ => rfl

/-! ## Every step -/

namespace Tally

variable {o : Nat} {s s' : Controller} {events : List RunEvent} (hs : Tally o s events)
include hs

/-- Steps that have nothing to do with the object's run. -/
theorem frame (hinv : Invariant s')
    (hobject : ∀ g : CameraFunction, s'.functions[o]? = some g →
      ∃ f : CameraFunction, s.functions[o]? = some f ∧ SameRun f g)
    (habsent : s'.functions[o]? = none → s.functions[o]? = none)
    (hruns : ∀ k shots pc, Runs s' o k shots pc ↔ Runs s o k shots pc) : Tally o s' events where
  invariant := hinv
  absent h := hs.absent (habsent h)
  abort g hg := by
    obtain ⟨f, hf, -, -, habort⟩ := hobject g hg
    rw [habort]
    exact hs.abort f hf
  begun g hg hstarted := by
    obtain ⟨f, hf, -, hsame, -⟩ := hobject g hg
    simp only [hruns]
    exact hs.begun f hf (hsame ▸ hstarted)
  idle h := hs.idle fun k shots pc hk => h k shots pc ((hruns k shots pc).mpr hk)
  running k shots pc g hk hg := by
    obtain ⟨f, hf, hshots, -⟩ := hobject g hg
    rw [hshots]
    exact hs.running k shots pc f ((hruns k shots pc).mp hk) hf

/-- One object is touched, and no thread. -/
theorem set_object (hinv : Invariant s') {i : Nat} {f g : CameraFunction}
    (hf : s.functions[i]? = some f) (hsame : SameRun f g)
    (hfunctions : s'.functions = s.functions.set i g)
    (hruns : ∀ k shots pc, Runs s' o k shots pc ↔ Runs s o k shots pc) : Tally o s' events := by
  have hrefl : ∀ x, SameRun x x := fun _ => ⟨rfl, rfl, rfl⟩
  refine hs.frame hinv (fun y hy => ?_) (fun hnone => ?_) hruns
  · rw [hfunctions] at hy
    exact exists_before hf hrefl hsame hy
  · rw [hfunctions, List.getElem?_eq_none_iff, List.length_set] at hnone
    exact List.getElem?_eq_none_iff.mpr hnone

/-- **A command** keeps the tally. -/
theorem command {c : Command} (h : s.onCommandReceived c = some s')
    (hinv : Invariant s') (hthreads : s'.threads = s.threads) :
    Tally o s' (events ++ runEvent o s (.command c)) := by
  have hruns : ∀ k shots pc, Runs s' o k shots pc ↔ Runs s o k shots pc := by
    intro k shots pc
    rw [Runs, Runs, hthreads]
  cases onCommandReceived_runChange h with
  | none hevent hsame =>
    rw [hevent, List.append_nil]
    refine hs.frame hinv (fun g hg => ⟨g, hsame ▸ hg, .refl g⟩) (fun hg => hsame ▸ hg) hruns
  | touched hevent hf hg hset =>
    rw [hevent, List.append_nil]
    exact hs.set_object hinv hf hg hset hruns
  | @aborted i f hf hset hevent =>
    rw [hevent]
    by_cases hio : i = o
    · obtain rfl := hio
      rw [if_pos rfl]
      have hobject : ∀ g : CameraFunction, s'.functions[i]? = some g →
          g = { f with abortCond := true } := by
        intro g hg
        rw [hset, getElem?_set_self_of_some hf, Option.some.injEq] at hg
        exact hg.symm
      refine ⟨hinv, fun hg => ?_, fun g hg => ?_, fun g hg hstarted => ?_, fun hk => ?_,
        fun k shots pc g hk hg => ?_⟩
      · rw [hset, getElem?_set_self_of_some hf] at hg
        simp at hg
      · rw [hobject g hg]
        simp
      · rw [hobject g hg] at hstarted
        simp only [hruns]
        exact hs.begun f hf hstarted
      · simpa using hs.idle fun k shots pc h => hk k shots pc ((hruns k shots pc).mpr h)
      · rw [hobject g hg]
        exact (hs.running k shots pc f ((hruns k shots pc).mp hk) hf).abort
    · rw [if_neg hio, List.append_nil]
      have hother : s'.functions[o]? = s.functions[o]? := by
        rw [hset, List.getElem?_set_ne hio]
      exact hs.frame hinv (fun g hg => ⟨g, hother ▸ hg, .refl g⟩) (fun hg => hother ▸ hg) hruns

/-- An object is created. -/
theorem create {cfg : Setup} {h : HandlerPc} {active : Option Nat}
    (hinv : Invariant { s with
      functions := s.functions ++ [.new cfg], activeFunction := active, handler := h }) :
    Tally o { s with
      functions := s.functions ++ [.new cfg], activeFunction := active, handler := h } events := by
  -- the new object has no past
  have hnew : o = s.functions.length → s.functions[o]? = none := fun ho =>
    List.getElem?_eq_none_iff.mpr (Nat.le_of_eq ho.symm)
  refine ⟨hinv, fun hg => ?_, fun g hg => ?_, fun g hg hstarted => ?_, hs.idle,
    fun k shots pc g hk hg => ?_⟩
  · refine hs.absent (List.getElem?_eq_none_iff.mpr ?_)
    have hlen := List.getElem?_eq_none_iff.mp hg
    rw [List.length_append] at hlen
    exact Nat.le_of_add_right_le hlen
  · rcases getElem?_concat_eq_some_iff.mp hg with hg | ⟨ho, rfl⟩
    · exact hs.abort g hg
    · rw [hs.absent (hnew ho)]
      simp [CameraFunction.new]
  · rcases getElem?_concat_eq_some_iff.mp hg with hg | ⟨ho, rfl⟩
    · exact hs.begun g hg hstarted
    · cases hstarted
  · rcases getElem?_concat_eq_some_iff.mp hg with hg | ⟨ho, rfl⟩
    · exact hs.running k shots pc g hk hg
    · obtain ⟨f, hf, -⟩ := hs.invariant.running k _ shots pc hk rfl
      cases (hnew ho).symm.trans hf

/-- An object is started. -/
theorem start {i : Nat} {f : CameraFunction} (hhandler : s.handler = .connected (.start i))
    (hf : s.functions[i]? = some f)
    (hinv : Invariant { s with
      functions := s.functions.set i { f with started := true }
      threads := s.threads ++ [⟨i, .run 0 .loopTest⟩]
      handler := .idle }) :
    Tally o { s with
      functions := s.functions.set i { f with started := true }
      threads := s.threads ++ [⟨i, .run 0 .loopTest⟩]
      handler := .idle } events := by
  have hunstarted : f.started = false :=
    (hs.invariant.starting i (by rw [hhandler]; rfl)).2 f hf
  have hruns : ∀ k shots pc, ¬ Runs s i k shots pc := fun k shots pc hk =>
    hs.invariant.ne_of_unstarted hf hunstarted hk rfl rfl
  by_cases hio : i = o
  · obtain rfl := hio
    obtain ⟨hbegun, hfails⟩ := hs.idle hruns
    have hobject : ∀ g : CameraFunction,
        (s.functions.set i { f with started := true })[i]? = some g →
          g = { f with started := true } := by
      intro g hg
      rw [getElem?_set_self_of_some hf, Option.some.injEq] at hg
      exact hg.symm
    have hthread : Runs { s with
        functions := s.functions.set i { f with started := true }
        threads := s.threads ++ [⟨i, .run 0 .loopTest⟩]
        handler := .idle } i s.threads.length 0 .loopTest :=
      getElem?_concat_eq_some_iff.mpr (Or.inr ⟨rfl, rfl⟩)
    refine ⟨hinv, fun hg => ?_, fun g hg => ?_, fun g hg _ => ⟨_, _, _, hthread⟩,
      fun hk => absurd hthread (hk _ _ _), fun k shots pc g hk hg => ?_⟩
    · rw [getElem?_set_self_of_some hf] at hg
      simp at hg
    · rw [hobject g hg]
      exact hs.abort f hf
    · rcases getElem?_concat_eq_some_iff.mp hk with hk | ⟨-, hk⟩
      · exact absurd hk (hruns k shots pc)
      · cases hk
        exact .fresh hbegun hfails
  · have hother : (s.functions.set i { f with started := true })[o]? = s.functions[o]? := by
      rw [List.getElem?_set_ne hio]
    refine hs.frame hinv (fun g hg => ⟨g, hother ▸ hg, .refl g⟩) (fun hg => hother ▸ hg)
      fun k shots pc => ?_
    simp only [Runs, getElem?_concat_eq_some_iff, Thread.mk.injEq, Ne.symm hio, false_and,
      and_false, or_false]

/-- **A step of the handler** keeps the tally; it may start the object. -/
theorem handler {ans : Answer} (h : s.Change (.handler ans) s') (hinv : Invariant s') :
    Tally o s' events := by
  cases h with
  | camera | testOver =>
    exact hs.frame hinv (fun g hg => ⟨g, hg, .refl g⟩) (fun hg => hg) (fun _ _ _ => Iff.rfl)
  | deleted _ hhandler hactive hf =>
    refine hs.set_object hinv hf ?_ rfl fun _ _ _ => Iff.rfl
    exact ⟨rfl, rfl, rfl⟩
  | tested hhandler =>
    refine hs.frame hinv (fun g hg => ⟨g, hg, .refl g⟩) (fun hg => hg) fun k shots pc => ?_
    simp only [Runs, getElem?_concat_eq_some_iff]
    simp
  | created _ hhandler => exact hs.create hinv
  | started _ hhandler hf => exact hs.start hhandler hf hinv

end Tally

/-! ## Threads -/

theorem runStep_sameRun {f g : CameraFunction} {shots shots' : Nat} {pc pc' : RunPc}
    {ans : Answer} (h : pc.step f shots ans = some (.moved g shots' pc')) : SameRun f g := by
  cases RunPc.step_moves h <;> exact ⟨rfl, rfl, rfl⟩

theorem testStep_sameRun {f g : CameraFunction} {pc pc' : TestPc} {ans : Answer}
    (h : pc.step f ans = some (g, pc')) : SameRun f g := by
  cases TestPc.step_moves h <;> exact ⟨rfl, rfl, rfl⟩

/-- The program ends in a capture that has neither begun nor returned then. -/
theorem event_of_terminated {f : CameraFunction} {shots : Nat} {pc : RunPc} {ans : Answer}
    (h : pc.step f shots ans = some .terminated) : pc.event ans = [] := by
  obtain ⟨c, download, rfl, hthrown⟩ := RunPc.step_terminated h
  simp [RunPc.event, hthrown]

theorem aborts_not_mem_event (pc : RunPc) (ans : Answer) : .aborts ∉ pc.event ans := by
  cases pc with
  | capture c download =>
    simp only [RunPc.event]
    split <;> simp
  | _ => simp [RunPc.event]

namespace Tally

variable {o : Nat} {s s' : Controller} {events : List RunEvent} (hs : Tally o s events)
include hs

/-- A step of the object's own `run()`. -/
theorem run {k shots shots' : Nat} {pc pc' : RunPc} {f g : CameraFunction} {ans : Answer}
    (hk : Runs s o k shots pc) (hf : s.functions[o]? = some f)
    (hstep : pc.step f shots ans = some (.moved g shots' pc'))
    (hinv : Invariant { s with
      functions := s.functions.set o g
      threads := s.threads.set k ⟨o, .run shots' pc'⟩ }) :
    Tally o { s with
      functions := s.functions.set o g
      threads := s.threads.set k ⟨o, .run shots' pc'⟩ } (events ++ pc.event ans) := by
  obtain ⟨hshots, -, habort⟩ := runStep_sameRun hstep
  have hobject : ∀ g' : CameraFunction, (s.functions.set o g)[o]? = some g' → g' = g := by
    intro g' hg'
    rw [getElem?_set_self_of_some hf, Option.some.injEq] at hg'
    exact hg'.symm
  have hthread : (s.threads.set k ⟨o, .run shots' pc'⟩)[k]? = some ⟨o, .run shots' pc'⟩ :=
    getElem?_set_self_of_some hk
  have haborts : ∀ l, RunEvent.aborts ∈ l ++ pc.event ans ↔ RunEvent.aborts ∈ l := by
    simp [aborts_not_mem_event]
  refine ⟨hinv, fun hg => ?_, fun g' hg' => ?_, fun g' hg' _ => ⟨k, shots', pc', hthread⟩,
    fun hnone => absurd hthread (hnone _ _ _), fun k' n p g' hk' hg' => ?_⟩
  · rw [getElem?_set_self_of_some hf] at hg
    simp at hg
  · rw [hobject g' hg', habort, haborts]
    exact hs.abort f hf
  · rw [hobject g' hg', hshots]
    -- the object has no other thread
    rcases (getElem?_set_eq_some_iff hk).mp hk' with ⟨rfl, heq⟩ | ⟨hne, hk'⟩
    · cases heq
      exact (hs.running k shots pc f hk hf).step rfl (hs.abort f hf) hstep
    · exact absurd (hs.invariant.single k k' _ _ _ _ _ _ hk hk' rfl rfl rfl) hne

/-- **A step of a thread** keeps the tally. -/
theorem thread {k : Nat} {ans : Answer} (h : s.threadStep k ans = some s') (hinv : Invariant s') :
    Tally o s' (events ++ runEvent o s (.thread k ans)) := by
  obtain ⟨⟨i, task⟩, ht, h⟩ := Option.bind_eq_some_iff.mp h
  obtain ⟨f, hf, h⟩ := Option.bind_eq_some_iff.mp h
  cases task with
  | run shots pc =>
    simp only at h
    obtain ⟨r, hr, h⟩ := Option.bind_eq_some_iff.mp h
    have hevent : runEvent o s (.thread k ans) = if i = o then pc.event ans else [] := by
      simp only [runEvent, ht]
    rw [hevent]
    cases r with
    | moved g shots' pc' =>
      cases h
      by_cases hio : i = o
      · obtain rfl := hio
        rw [if_pos rfl]
        exact hs.run ht hf hr hinv
      · rw [if_neg hio, List.append_nil]
        refine hs.set_object hinv hf (runStep_sameRun hr) rfl fun k' n p => ?_
        simp only [Runs, getElem?_set_eq_some_iff ht, Thread.mk.injEq, Ne.symm hio, false_and,
          and_false, false_or]
        exact ⟨fun h => h.2, fun h => ⟨fun hkk => by simp_all, h⟩⟩
    | terminated =>
      cases h
      have hnone : (if i = o then pc.event ans else []) = [] := by
        rw [event_of_terminated hr, ite_self]
      rw [hnone, List.append_nil]
      exact hs.frame hinv (fun g hg => ⟨g, hg, .refl g⟩) (fun hg => hg) (fun _ _ _ => Iff.rfl)
  | test pc =>
    simp only at h
    obtain ⟨⟨g, pc'⟩, hr, h⟩ := Option.bind_eq_some_iff.mp h
    cases h
    have hevent : runEvent o s (.thread k ans) = [] := by simp only [runEvent, ht]
    rw [hevent, List.append_nil]
    refine hs.set_object hinv hf (testStep_sameRun hr) rfl fun k' n p => ?_
    simp only [Runs, getElem?_set_eq_some_iff ht, Thread.mk.injEq, reduceCtorEq, and_false,
      false_or]
    exact ⟨fun h => h.2, fun h => ⟨fun hkk => by simp_all, h⟩⟩

/-- **Every step of the program** keeps the tally. -/
theorem step {a : Action} (h : s.step a = some s') : Tally o s' (events ++ runEvent o s a) := by
  have hinv := hs.invariant.step h
  have hchange := Controller.step_change h
  obtain ⟨-, h⟩ := Option.ite_none_left_eq_some.mp h
  cases a with
  | command c =>
    obtain ⟨-, h⟩ := Option.ite_none_right_eq_some.mp h
    exact hs.command h hinv (command_threads hchange)
  | handler ans =>
    rw [show runEvent o s (.handler ans) = [] from rfl, List.append_nil]
    exact hs.handler hchange hinv
  | thread k ans => exact hs.thread h hinv

end Tally

/-! ## The count of exposures -/

/-- **The law of a function's captures**, with `events` what its whole life was. -/
structure CountLaw (f : CameraFunction) (events : List RunEvent) : Prop where
  bound : 0 ≤ f.numShots.toInt → (events.count .begins : Int) ≤ f.numShots.toInt
  negative : f.numShots.toInt < -1 → events.count .begins = 0
  /-- Without a bound, only a failure or `abort()` ends `run()`. -/
  unlimited : f.numShots.toInt = -1 → f.finished = true → .fails ∈ events ∨ .aborts ∈ events
  complete : 0 ≤ f.numShots.toInt → f.finished = true → .fails ∉ events → .aborts ∉ events →
    (events.count .begins : Int) = f.numShots.toInt
  failed : (since .fails events).count .begins = 0
  aborted : (since .aborts events).count .begins ≤ 1

theorem Tally.countLaw {o : Nat} {s : Controller} {events : List RunEvent} (hs : Tally o s events)
    {f : CameraFunction} (hf : s.functions[o]? = some f) : CountLaw f events := by
  by_cases hruns : ∃ k shots pc, Runs s o k shots pc
  · obtain ⟨k, shots, pc, hk⟩ := hruns
    have h := hs.running k shots pc f hk hf
    have hbegun := h.begun
    have hleft : f.finished = true → pc.left = true ∧ pc ≠ .enter := by
      intro hfinished
      obtain ⟨g, hg, -, hphase⟩ := hs.invariant.running k _ shots pc hk rfl
      obtain rfl := Option.some.inj (hf.symm.trans hg)
      cases pc <;> simp_all [RunPc.inRun, RunPc.left]
    refine ⟨fun h0 => ?_, fun h0 => ?_, fun h1 hfinished => ?_,
      fun h0 hfinished hfails haborts => ?_, h.quiet, Nat.le_trans (Nat.le_add_right _ _) h.last⟩
    · have := h.bound h0
      omega
    · have := h.negative h0
      omega
    · by_contra hneither
      rw [not_or] at hneither
      exact (h.ended (hleft hfinished).1 hneither.1 hneither.2).2 h1
    · obtain ⟨hover, -⟩ := h.ended (hleft hfinished).1 hfails haborts
      have hbound := h.bound h0
      rw [if_neg (hleft hfinished).2] at hbegun
      omega
  · have hidle : ∀ k shots pc, ¬ Runs s o k shots pc :=
      fun k shots pc hk => hruns ⟨k, shots, pc, hk⟩
    obtain ⟨hcount, hfails⟩ := hs.idle hidle
    have hunfinished : f.finished ≠ true := fun hfinished =>
      hruns (hs.begun f hf (hs.invariant.started_of_finished o f hf hfinished))
    refine ⟨fun h0 => by omega, fun _ => hcount, fun _ h => absurd h hunfinished,
      fun _ h => absurd h hunfinished, ?_, ?_⟩
    · have := count_since_le .fails events
      omega
    · have := count_since_le .aborts events
      omega

/-- **The exposure count law**, for every object there has been, in every run. -/
theorem exposure_count (o : Nat) {actions : List Action} {s : Controller}
    {events : List RunEvent}
    (hrun : run (recording Controller.step (runEvent o)) ({}, []) actions = some (s, events))
    {f : CameraFunction} (hf : s.functions[o]? = some f) : CountLaw f events := by
  have htally := run_recording (P := Tally o) (fun hs h => hs.step h) (init_tally o) hrun
  exact htally.countLaw hf

/-- A sequencer set up for one exposure, which it takes. -/
def oneExposure : List Action :=
  [.command (.sequencerSetup 20 1 1000 false), .handler .nothing, .command (.command 5),
    .handler (.newCamera .created), .handler (.result true), .handler (.serial "1"),
    .handler .nothing, .thread 0 .nothing, .thread 0 .nothing,
    .thread 0 (.exposureTime (some 1000)), .thread 0 (.result true), .thread 0 .nothing,
    .thread 0 .nothing, .thread 0 .nothing]

theorem exposure_count_one :
    ∃ s f, run (recording Controller.step (runEvent 0)) ({}, []) oneExposure =
        some (s, [.begins]) ∧
      s.functions[0]? = some f ∧ f.finished = true ∧ CountLaw f [.begins] :=
  ⟨_, _, rfl, rfl, rfl, exposure_count 0 (show run _ _ oneExposure = some _ from rfl) rfl⟩

end CameraController
