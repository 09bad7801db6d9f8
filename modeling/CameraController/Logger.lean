import CameraController.Commands

/-! # The logger's streams

`Logger` keeps pairs of a stream and the least level it wants, in a `vector`.  An
iterator is an index here; one that is moved or read behind `end()` is undefined.

`removeStream` erases while it iterates.  `erase` returns the iterator of what has
moved up, and the `for` moves on from there: the pair behind an erased one is never
looked at, and behind the last one there is nothing to move on to.
`removeStream_iff` says for which streams that does no harm. -/
namespace CameraController

namespace LogLevel

/-- The value of the enumerator. -/
def value : LogLevel → Nat
  | debug => 0
  | info => 1
  | warning => 2
  | error => 3

/-- `LEVEL_STRINGS`. -/
def string : LogLevel → String
  | debug => "DEBUG"
  | info => "INFO"
  | warning => "WARNING"
  | error => "ERROR"

end LogLevel

/-- `Logger`; what tells streams apart is their address. -/
structure Logger (σ : Type) where
  streams : List (σ × LogLevel)
  deriving DecidableEq, Repr

namespace Logger

variable {σ : Type}

/-- `getLogLevelString`. -/
def getLogLevelString (level : LogLevel) : String := "[" ++ level.string ++ "]"

/-- The line that `log` writes at `time`; the level is filled up to ten characters. -/
def line (time : String) (level : LogLevel) (str : String) : String :=
  "[" ++ time ++ "]" ++ (getLogLevelString level).rightpad 10 ++ str ++ "\n"

/-- `log`, as what it writes, and to which stream. -/
def log (l : Logger σ) (time : String) (level : LogLevel) (str : String) : List (σ × String) :=
  (l.streams.filter fun s => s.2.value ≤ level.value).map fun s => (s.1, line time level str)

/-- `addStream`. -/
def addStream (l : Logger σ) (stream : σ) (minlevel : LogLevel) : Logger σ :=
  ⟨l.streams ++ [(stream, minlevel)]⟩

variable [DecidableEq σ] (stream : σ)

/-- The body of the loop of `removeStream`, with `it` pointing to `s`. -/
def removeBody (streams : List (σ × LogLevel)) (it : Nat) (s : σ × LogLevel) :
    List (σ × LogLevel) :=
  if s.1 = stream then streams.eraseIdx it else streams

theorem length_removeBody_le (streams : List (σ × LogLevel)) (it : Nat) (s : σ × LogLevel) :
    (removeBody stream streams it s).length ≤ streams.length := by
  unfold removeBody
  split
  · exact (List.eraseIdx_sublist _ _).length_le
  · exact Nat.le_refl _

/-- The loop, from the iterator `it` on. -/
def removeLoop (streams : List (σ × LogLevel)) (it : Nat) : Option (List (σ × LogLevel)) :=
  if it = streams.length then some streams
  else
    match h : streams[it]? with
    | none => none
    | some s =>
      -- `it++`, of what `erase` returned if it was called
      if it < (removeBody stream streams it s).length then
        removeLoop (removeBody stream streams it s) (it + 1)
      else
        none
termination_by streams.length - it
decreasing_by
  obtain ⟨hlt, -⟩ := List.getElem?_eq_some_iff.mp h
  have hle := length_removeBody_le stream streams it s
  omega

/-- `removeStream`. -/
def removeStream (l : Logger σ) : Option (Logger σ) :=
  (removeLoop stream l.streams 0).map Logger.mk

/-! ## What is promised -/

/-- `removeStream` ends, and leaves the other streams as they were; nothing is written to
this one any more. -/
structure Removes (l : Logger σ) : Prop where
  left : l.removeStream stream = some ⟨l.streams.filter fun s => s.1 ≠ stream⟩
  unwritten : ∀ l', l.removeStream stream = some l' → ∀ time level str,
    stream ∉ (l'.log time level str).map Prod.fst

/-- Behind each pair of the stream stands one of another stream. -/
def Followed (streams : List (σ × LogLevel)) : Prop :=
  ∀ (i : Nat) (s : σ × LogLevel), streams[i]? = some s → s.1 = stream →
    ∃ s', streams[i + 1]? = some s' ∧ s'.1 ≠ stream

/-! ## The loop, from one pair to the next -/

/-- What the loop makes of the pairs it has before it: the one behind an erased pair
stays. -/
def unerased : List (σ × LogLevel) → Option (List (σ × LogLevel))
  | [] => some []
  | [s] => if s.1 = stream then none else some [s]
  | s :: s' :: rest =>
    if s.1 = stream then (unerased rest).map (s' :: ·)
    else (unerased (s' :: rest)).map (s :: ·)

variable {stream}

/-- **A turn of the loop**, with `s` before it. -/
theorem removeLoop_cons (done rest : List (σ × LogLevel)) (s : σ × LogLevel) :
    removeLoop stream (done ++ s :: rest) done.length =
      if s.1 = stream then
        if 0 < rest.length then removeLoop stream (done ++ rest) (done.length + 1) else none
      else removeLoop stream (done ++ s :: rest) (done.length + 1) := by
  have hget : (done ++ s :: rest)[done.length]? = some s := by simp
  rw [removeLoop, if_neg (by simp)]
  split
  · rename_i hnone
    cases hget.symm.trans hnone
  · rename_i s' hsome
    obtain rfl := Option.some.inj (hget.symm.trans hsome)
    by_cases hs : s.1 = stream
    · have herase : (done ++ s :: rest).eraseIdx done.length = done ++ rest := by
        simp [List.eraseIdx_append_of_length_le]
      simp only [removeBody, if_pos hs, herase, List.length_append, Nat.lt_add_right_iff_pos]
    · simp [removeBody, hs]

/-- **The loop makes of what is before it what `unerased` says.** -/
theorem removeLoop_eq : ∀ done rest : List (σ × LogLevel),
    removeLoop stream (done ++ rest) done.length = (unerased stream rest).map (done ++ ·)
  | done, [] => by
      rw [removeLoop, if_pos (by simp)]
      rfl
  | done, [s] => by
      rw [removeLoop_cons]
      by_cases hs : s.1 = stream
      · simp [unerased, hs]
      · have hend := removeLoop_eq (done ++ [s]) []
        simpa [unerased, hs] using hend
  | done, s :: s' :: rest => by
      rw [removeLoop_cons]
      by_cases hs : s.1 = stream
      · -- `s'` has moved up to where `s` was, and is passed over
        have hrest := removeLoop_eq (done ++ [s']) rest
        simpa [unerased, hs, Function.comp_def] using hrest
      · have hrest := removeLoop_eq (done ++ [s]) (s' :: rest)
        simpa [unerased, hs, Function.comp_def] using hrest
termination_by _ rest => rest.length

/-! ## When it leaves what it should -/

omit [DecidableEq σ] in
theorem followed_nil : Followed stream [] := fun _ _ h => by cases h

omit [DecidableEq σ] in
theorem followed_cons_of_ne {s : σ × LogLevel} (hs : s.1 ≠ stream) (rest : List (σ × LogLevel)) :
    Followed stream (s :: rest) ↔ Followed stream rest := by
  constructor
  · exact fun h i x hx => h (i + 1) x hx
  · intro h i x hx hstream
    cases i with
    | zero =>
      obtain rfl := Option.some.inj hx
      exact absurd hstream hs
    | succ i => exact h i x hx hstream

omit [DecidableEq σ] in
theorem followed_cons_of_eq {s : σ × LogLevel} (hs : s.1 = stream) (rest : List (σ × LogLevel)) :
    Followed stream (s :: rest) ↔
      (∃ s', rest[0]? = some s' ∧ s'.1 ≠ stream) ∧ Followed stream rest := by
  constructor
  · exact fun h => ⟨h 0 s rfl hs, fun i x hx => h (i + 1) x hx⟩
  · rintro ⟨hnext, hrest⟩ i x hx hstream
    cases i with
    | zero => exact hnext
    | succ i => exact hrest i x hx hstream

/-- **Just the pairs of the stream are erased exactly when each is followed by
another's.** -/
theorem unerased_eq_filter_iff : ∀ streams : List (σ × LogLevel),
    unerased stream streams = some (streams.filter fun s => s.1 ≠ stream) ↔
      Followed stream streams
  | [] => iff_of_true rfl followed_nil
  | [s] => by
      by_cases hs : s.1 = stream
      · simp [unerased, hs, followed_cons_of_eq hs]
      · rw [followed_cons_of_ne hs]
        exact iff_of_true (by simp [unerased, hs]) followed_nil
  | s :: s' :: rest => by
      by_cases hs : s.1 = stream
      · rw [followed_cons_of_eq hs]
        by_cases hs' : s'.1 = stream
        · -- the second one stays
          refine iff_of_false (fun h => ?_) (by simp [hs'])
          simp only [unerased, if_pos hs] at h
          obtain ⟨l, -, hl⟩ := Option.map_eq_some_iff.mp h
          have hmem : s' ∈ (s :: s' :: rest).filter fun s => s.1 ≠ stream := hl ▸ List.mem_cons_self
          simp [hs'] at hmem
        · have ih := unerased_eq_filter_iff rest
          rw [followed_cons_of_ne hs', ← ih]
          simp [unerased, hs, hs']
      · have ih := unerased_eq_filter_iff (s' :: rest)
        rw [followed_cons_of_ne hs, ← ih]
        simp [unerased, hs]

theorem removeStream_eq_filter_iff {l : Logger σ} :
    l.removeStream stream = some ⟨l.streams.filter fun s => s.1 ≠ stream⟩ ↔
      Followed stream l.streams := by
  have hloop : removeLoop stream l.streams 0 = unerased stream l.streams := by
    simpa using removeLoop_eq [] l.streams
  rw [removeStream, hloop, ← unerased_eq_filter_iff]
  simp

/-- **`removeStream` removes a stream exactly when no pair of it is the last, and no two
stand next to each other.** -/
theorem removeStream_iff (stream : σ) (l : Logger σ) :
    Removes stream l ↔ Followed stream l.streams := by
  constructor
  · exact fun h => removeStream_eq_filter_iff.mp h.left
  · intro h
    have hleft := removeStream_eq_filter_iff.mpr h
    refine ⟨hleft, fun l' hl' time level str hmem => ?_⟩
    obtain rfl := Option.some.inj (hleft.symm.trans hl')
    simp [log] at hmem

/-- The stream that was added last is never removed. -/
theorem not_removes_addStream (l : Logger σ) (stream : σ) (minlevel : LogLevel) :
    ¬ Removes stream (l.addStream stream minlevel) := by
  intro h
  obtain ⟨s, hs, -⟩ := removeStream_eq_filter_iff.mp h.left l.streams.length (stream, minlevel)
    (by simp [addStream]) rfl
  simp [addStream] at hs

theorem not_removes_lastAdded :
    ¬ Removes 1 (⟨[(0, .debug), (1, .info)]⟩ : Logger Nat) :=
  not_removes_addStream ⟨[(0, .debug)]⟩ 1 .info

end Logger
end CameraController
