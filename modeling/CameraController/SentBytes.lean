import CameraController.ServerThreads

/-! # What becomes of the bytes logged

`survive` takes the overwritten bytes out of what was passed to `sendData`.  The
bytes that `send` accepted, those in the chunk in hand and those still stored are
what survives, in order, as long as every `send` accepts its whole chunk: the
chunk has left `send_buf` by then, and `fn_sender` does not look at what `send`
answers (`conserved_iff`). -/
namespace CameraController.TCPServer

open StateMachine

/-! ## Taking positions out of a list -/

section Survive
variable {α : Type}

/-- The elements whose positions are not among `gone`. -/
def survive (gone : List Nat) (l : List α) : List α :=
  (l.zipIdx.filter fun x => x.2 ∉ gone).map Prod.fst

@[simp] theorem survive_nil (gone : List Nat) : survive gone ([] : List α) = [] := rfl

/-- What comes behind all the positions survives. -/
theorem survive_append {gone : List Nat} {l : List α} (h : ∀ i ∈ gone, i < l.length)
    (m : List α) : survive gone (l ++ m) = survive gone l ++ m := by
  have hback : (m.zipIdx (0 + l.length)).filter (fun x => x.2 ∉ gone) =
      m.zipIdx (0 + l.length) := by
    rw [List.filter_eq_self]
    rintro ⟨a, i⟩ hx
    have hi := List.le_snd_of_mem_zipIdx hx
    have hgone : i ∉ gone := fun hmem => Nat.not_lt.mpr (by simpa using hi) (h i hmem)
    simpa using hgone
  rw [survive, List.zipIdx_append, List.filter_append, hback, List.map_append,
    List.zipIdx_map_fst]
  rfl

/-- What is appended with its positions does not survive. -/
theorem survive_append_gone {gone : List Nat} {l : List α} (m : List α) :
    survive (gone ++ List.range' l.length m.length) (l ++ m) = survive gone l := by
  have hfront : l.zipIdx.filter (fun x => x.2 ∉ gone ++ List.range' l.length m.length) =
      l.zipIdx.filter (fun x => x.2 ∉ gone) := by
    refine List.filter_congr fun x hx => ?_
    have hi := List.snd_lt_of_mem_zipIdx hx
    have hrange : x.2 ∉ List.range' l.length m.length := by
      rw [List.mem_range'_1]
      omega
    simp [hrange]
  have hback : (m.zipIdx (0 + l.length)).filter
      (fun x => x.2 ∉ gone ++ List.range' l.length m.length) = [] := by
    rw [List.filter_eq_nil_iff]
    intro x hx
    have hlo := List.le_snd_of_mem_zipIdx hx
    have hhi := List.snd_lt_add_of_mem_zipIdx hx
    have hrange : x.2 ∈ List.range' l.length m.length := by
      rw [List.mem_range'_1]
      omega
    simp [hrange]
  rw [survive, List.zipIdx_append, List.filter_append, hfront, hback, List.append_nil]
  rfl

end Survive

namespace Threads

/-! ## Conservation -/

/-- **Nothing is lost but what was overwritten.** -/
def Conserved (s : Threads) : Prop :=
  s.accepted ++ s.sender.inHand ++ s.sendBuf.contents = survive s.overwritten s.data

/-- What steps keep in which `send` accepts everything.  `past` are the bytes that
are not stored any more. -/
structure Accounted (s : Threads) : Prop where
  buffer : s.BufferOk
  past : ∃ past, s.data = past ++ s.sendBuf.contents ∧ (∀ i ∈ s.overwritten, i < past.length) ∧
    survive s.overwritten past = s.accepted ++ s.sender.inHand

theorem Accounted.conserved {s : Threads} (hs : s.Accounted) : s.Conserved := by
  obtain ⟨past, hdata, hgone, hpast⟩ := hs.past
  rw [Conserved, hdata, survive_append hgone, hpast]

theorem init_accounted : ({} : Threads).Accounted :=
  ⟨init_bufferOk, [], by simp, by simp, rfl⟩

/-- A `send` accepts its whole chunk. -/
def AcceptsAll (s : Threads) (a : Action) : Prop :=
  ∀ result, a = .sent result → result.toNat = s.sender.inHand.length

/-- A `put` overwrites the oldest bytes. -/
theorem Accounted.put {s : Threads} (hs : s.Accounted) (values : List UInt8) {cb : CircularBuffer}
    (hvalid : cb.Valid) (hsize : cb.size = sendBufSize)
    (hcontents : cb.contents = RingBuffer.push sendBufSize s.sendBuf.contents values) :
    Accounted { s with
      sendBuf := cb
      notifying := s.notifying + 1
      data := s.data ++ values
      overwritten := s.overwritten ++
        List.range' (s.data.length - s.sendBuf.contents.length)
          (s.sendBuf.contents.length + values.length - sendBufSize) } := by
  obtain ⟨past, hdata, hgone, hpast⟩ := hs.past
  -- what is dropped of the stored bytes and the new ones
  obtain ⟨dropped, hdropped⟩ := RingBuffer.rtake_suffix (s.sendBuf.contents ++ values) sendBufSize
  have hcount : dropped.length = s.sendBuf.contents.length + values.length - sendBufSize := by
    have hlen := congrArg List.length hdropped
    rw [List.length_append, RingBuffer.length_rtake, List.length_append] at hlen
    omega
  have hstart : s.data.length - s.sendBuf.contents.length = past.length := by
    rw [hdata, List.length_append, Nat.add_sub_cancel]
  refine ⟨⟨hvalid, hsize⟩, past ++ dropped, ?_, ?_, ?_⟩
  · rw [hcontents, RingBuffer.push, List.append_assoc, hdropped, hdata, List.append_assoc]
  · rw [hstart, ← hcount]
    refine List.forall_mem_append.mpr ⟨fun i hi => ?_, fun i hi => ?_⟩
    · rw [List.length_append]
      exact Nat.lt_add_right _ (hgone i hi)
    · rw [List.length_append]
      exact (List.mem_range'_1.mp hi).2
  · rw [hstart, ← hcount, survive_append_gone, hpast]

theorem step_accounted {s s' : Threads} {a : Action} (hs : s.Accounted) (ha : AcceptsAll s a)
    (h : step s a = some s') : s'.Accounted := by
  have hchange := step_change hs.buffer h
  have hbuffer := hchange.bufferOk hs.buffer
  obtain ⟨past, hdata, hgone, hpast⟩ := hs.past
  cases hchange with
  | put values hfree hvalid hsize hcontents => exact hs.put values hvalid hsize hcontents
  | get hpc hvalid hsize hcontents =>
    rw [hpc] at hpast
    refine ⟨hbuffer, past ++ s.sendBuf.contents.take bufSize, ?_, fun i hi => ?_, ?_⟩
    · rw [hcontents, List.append_assoc, List.take_append_drop]
      exact hdata
    · rw [List.length_append]
      exact Nat.lt_add_right _ (hgone i hi)
    · rw [survive_append hgone, hpast]
      simp [SenderStage.inHand]
  | sent hpc hlo hhi =>
    have hall := ha _ rfl
    rw [hpc] at hall hpast
    refine ⟨hbuffer, past, hdata, hgone, ?_⟩
    rw [hpast, hall]
    simp [SenderStage.inHand]
  | notify | notifyConnected | notifyCleared =>
    exact ⟨hbuffer, past, hdata, hgone, by simpa [notifyOne] using hpast⟩
  | lock hpc =>
    refine ⟨hbuffer, past, hdata, hgone, hpast.trans ?_⟩
    rcases hpc with hpc | hpc <;> rw [hpc] <;> rfl
  | testConnected hpc =>
    refine ⟨hbuffer, past, hdata, hgone, hpast.trans ?_⟩
    rw [hpc]
    cases s.clientConnected <;> rfl
  | testSize hpc =>
    refine ⟨hbuffer, past, hdata, hgone, hpast.trans ?_⟩
    rw [hpc]
    simp only
    split <;> rfl
  | park hpc | load hpc | spurious hpc =>
    exact ⟨hbuffer, past, hdata, hgone, hpast.trans (by rw [hpc]; rfl)⟩
  | _ => exact ⟨hbuffer, past, hdata, hgone, hpast⟩

/-- What `send` did not accept is gone. -/
theorem not_conserved_of_short {s s' : Threads} {a : Action} (hs : s.Accounted)
    (ha : ¬ AcceptsAll s a) (h : step s a = some s') : ¬ s'.Conserved := by
  simp only [AcceptsAll, not_forall] at ha
  obtain ⟨result, rfl, hshort⟩ := ha
  have hbefore := hs.conserved
  cases step_change hs.buffer h with
  | @sent _ chunk socket hpc hlo hhi =>
    rw [Conserved, hpc] at hbefore
    rw [hpc] at hshort
    simp only [Conserved, SenderStage.inHand] at hshort hbefore ⊢
    intro hafter
    have hlen := congrArg List.length (hafter.trans hbefore.symm)
    simp only [List.length_append, List.length_take, List.length_nil] at hlen
    omega

/-- **The sender loses nothing but what is overwritten exactly when every `send`
accepts its whole chunk.** -/
theorem conserved_iff (actions : List Action) :
    Always step Conserved {} actions ↔ EachStep step AcceptsAll {} actions :=
  always_iff_eachStep Accounted.conserved step_accounted
    not_conserved_of_short init_accounted actions

/-- A byte is logged, a client accepted, and the byte taken for it. -/
def logOne : List Action :=
  [.put [0x41], .notify, .accepted 5, .server, .server, .sender, .sender, .sender, .sender,
    .sender]

theorem run_logOne :
    ∃ cb : CircularBuffer, run step {} logOne = some (oneClient cb (.send ⟨[0x41], some 5⟩ 5)) ∧
      cb.contents = [] := by
  obtain ⟨cb, hput, hvalid, hsize, hcontents⟩ := exists_put 0x41
  have hfull : cb.currentSize ≠ 0 := by
    rw [CircularBuffer.currentSize_eq hvalid, hcontents]
    decide
  have htest : step (oneClient cb .testSize) .sender = some (oneClient cb .get) := by
    simp [step, senderStep, oneClient, hfull]
  obtain ⟨cb', hget, -, -, hcontents'⟩ := get_spec (s := oneClient cb .get) ⟨hvalid, hsize⟩ rfl
  have hall : (oneClient cb .get).sendBuf.contents.take bufSize = [0x41] := by
    rw [show (oneClient cb .get).sendBuf = cb from rfl, hcontents]
    rfl
  have htake : step (oneClient cb .get) .sender =
      some (oneClient cb' (.load ⟨[0x41], some 5⟩)) := by
    rw [← hall]
    exact hget
  refine ⟨cb', ?_, ?_⟩
  · calc run step {} logOne
        = run step { sendBuf := cb, notifying := 1, data := [0x41] } logOne.tail := by
          rw [logOne, run, hput]
          rfl
      _ = run step (oneClient cb .testSize) [.sender, .sender, .sender] := rfl
      _ = run step (oneClient cb .get) [.sender, .sender] := by
          rw [run, htest]
          rfl
      _ = run step (oneClient cb' (.load ⟨[0x41], some 5⟩)) [.sender] := by
          rw [run, htake]
          rfl
      _ = some (oneClient cb' (.send ⟨[0x41], some 5⟩ 5)) := rfl
  · rw [hcontents', show (oneClient cb .get).sendBuf = cb from rfl, hcontents]
    rfl

/-- A `send` that fails loses its chunk. -/
theorem not_conserved_failed : ¬ ∀ actions : List Action, Always step Conserved {} actions := by
  intro h
  obtain ⟨cb, hrun, hcontents⟩ := run_logOne
  have hsend : run step {} (logOne ++ [.sent (-1)]) =
      some { oneClient cb .lock with sends := [⟨5, some 5, true⟩] } := by
    rw [run_append, hrun]
    rfl
  have hconserved := (h _).of_run hsend
  rw [Conserved, show Threads.sendBuf _ = cb from rfl, hcontents] at hconserved
  have hlost : ([] : List UInt8) = survive [] [0x41] := hconserved
  exact absurd hlost (by decide)

end Threads
end CameraController.TCPServer
