import CameraController.EndToEnd

/-! # The texts a stream passes on

What the stream makes of the characters written to it does not depend on who takes his
turn in between: they are passed on whenever `STREAM_BUF_SIZE` of them have come
together, and the rest when it is flushed (`hold`, `pieces`).  A text that is shorter is
passed on as it is (`pieces_of_short`).

`Exact` says so of the stream and of the frames put; `step_exact` shows that every step
keeps it as long as nothing is lost. -/
namespace CameraController.TCPServer.LogPath

open StateMachine Streaming

/-- A character comes to those held: they are passed on when the buffer is full. -/
def hold (held : List UInt8) (c : UInt8) : List UInt8 × List (List UInt8) :=
  if held.length + 1 = streamBufSize then ([], [held ++ [c]]) else (held ++ [c], [])

/-- The texts passed on when `text` is written to an empty stream and flushed. -/
def pieces (text : List UInt8) : List (List UInt8) :=
  (feed hold [] text).2 ++
    if (feed hold [] text).1 = [] then [] else [(feed hold [] text).1]

/-- There is room for a character. -/
def HasRoom (held : List UInt8) : Prop := held.length < streamBufSize

theorem hasRoom_nil : HasRoom [] := Nat.zero_lt_succ _

theorem hold_hasRoom {held : List UInt8} (h : HasRoom held) (c : UInt8) :
    HasRoom (hold held c).1 := by
  unfold HasRoom at h ⊢
  unfold hold
  split
  · exact hasRoom_nil
  · rw [List.length_append, List.length_singleton]
    omega

theorem feed_hold_hasRoom (text : List UInt8) : HasRoom (feed hold [] text).1 :=
  feed_invariant (P := HasRoom) hold (fun _ c h => hold_hasRoom h c) hasRoom_nil text

theorem pieces_nil : pieces [] = [] := rfl

/-- A short text stays in the buffer. -/
theorem feed_hold_of_short {held text : List UInt8}
    (h : held.length + text.length < streamBufSize) :
    feed hold held text = (held ++ text, []) := by
  induction text generalizing held with
  | nil => rw [feed_nil, List.append_nil]
  | cons c text ih =>
    rw [List.length_cons] at h
    have hone : hold held c = (held ++ [c], []) := by
      rw [hold, if_neg (by omega)]
    have hrest : (held ++ [c]).length + text.length < streamBufSize := by
      rw [List.length_append, List.length_singleton]
      omega
    rw [feed_cons, hone, ih hrest, List.append_assoc, List.singleton_append, List.nil_append]

/-- **A text shorter than the buffer is one piece.** -/
theorem pieces_of_short {text : List UInt8} (hne : text ≠ []) (h : text.length < streamBufSize) :
    pieces text = [text] := by
  have hfeed : feed hold [] text = (text, []) := by
    apply feed_hold_of_short
    rw [List.length_nil, Nat.zero_add]
    exact h
  rw [pieces, hfeed, if_neg hne, List.nil_append]

/-- What is passed on is not empty and fits the buffer. -/
theorem feed_hold_bounds (text : List UInt8) :
    ∀ p ∈ (feed hold [] text).2, 1 ≤ p.length ∧ p.length ≤ streamBufSize := by
  refine feed_forall (P := HasRoom) hold (fun _ c h => hold_hasRoom h c) ?_ hasRoom_nil text
  intro held c _ p hp
  unfold hold at hp
  split at hp
  · rename_i hfull
    rw [List.mem_singleton.mp hp, List.length_append, List.length_singleton, hfull]
    decide
  · cases hp

theorem pieces_bounds (text : List UInt8) :
    ∀ p ∈ pieces text, 1 ≤ p.length ∧ p.length ≤ streamBufSize := by
  intro p hp
  rcases List.mem_append.mp hp with hp | hp
  · exact feed_hold_bounds text p hp
  · split at hp
    · cases hp
    · rename_i hsome
      rw [List.mem_singleton.mp hp]
      exact ⟨List.length_pos_iff.mpr hsome, Nat.le_of_lt (feed_hold_hasRoom text)⟩

/-! ## The stream does so -/

/-- **A character written is held as `hold` says.** -/
theorem sputc_hold {b : NetStreamBuf} (h : b.Valid) (c : UInt8) :
    ∃ (b' : NetStreamBuf) (passed : Option (List UInt8)),
      b.sputc c = some (b', passed, some c) ∧ b'.Valid ∧
      hold b.held c = (b'.held, passed.toList) := by
  obtain ⟨b', passed, hsputc, hvalid, hheld, hfull⟩ := NetStreamBuf.sputc_spec h c
  refine ⟨b', passed, hsputc, hvalid, ?_⟩
  have hlen := congrArg List.length hheld
  rw [List.length_append, List.length_append, List.length_singleton] at hlen
  have hlt := hvalid.length_held_lt
  cases passed with
  | none =>
    rw [Option.getD_none, List.nil_append] at hheld
    rw [Option.getD_none, List.length_nil, Nat.zero_add] at hlen
    rw [hold, if_neg (by omega), ← hheld]
    rfl
  | some str =>
    have hstr := hfull str rfl
    have hbefore := h.length_held_lt
    rw [Option.getD_some] at hheld hlen
    -- the buffer was full, so that nothing is held behind what is passed on
    have hnone : b'.held = [] := List.eq_nil_of_length_eq_zero (by omega)
    rw [hnone, List.append_nil] at hheld
    rw [hold, if_pos (by omega), hnone, ← hheld]
    rfl

/-- **The frames are those of the pieces**, as far as they have been passed on. -/
structure Exact (s : LogPath) (text : Text) : Prop where
  stream : s.stream.Valid
  server : s.server.Lossless
  held : s.stream.held = (feed hold [] text.since).1
  frames : s.server.frames ++ s.server.pending =
    (text.flushed.flatMap pieces ++ (feed hold [] text.since).2).map (frame MessageType.log.code)

theorem init_exact {encoderBuf streamBuf : List UInt8}
    (hencoder : encoderBuf.length = msgMaxLength) (hstream : streamBuf.length = streamBufSize) :
    (init encoderBuf streamBuf).Exact ⟨[], []⟩ where
  stream := NetStreamBuf.new_valid hstream
  server := SendSide.init_lossless hencoder
  held := NetStreamBuf.held_new streamBuf
  frames := rfl

variable {s s' : LogPath} {text : Text}

/-- A text that fits the stream's buffer is sent in one frame, if it is not empty. -/
theorem exists_sendLog {server : SendSide} (h : server.Lossless) (hidle : server.pending = [])
    {str : List UInt8} (hle : str.length ≤ streamBufSize) :
    ∃ encoderBuf, SendSide.step server (.sendLog str) = some { server with
        encoderBuf
        pending := (if str = [] then [] else [str]).map (frame MessageType.log.code) } ∧
      SendSide.Lossless { server with
        encoderBuf
        pending := (if str = [] then [] else [str]).map (frame MessageType.log.code) } := by
  have hlt : str.length < 2 ^ 64 := by
    rw [streamBufSize] at hle
    omega
  obtain ⟨buf, parts, hstep, -, hsplit⟩ := SendSide.step_sendLog h.sound hidle str hlt
  have hparts : parts = if str = [] then [] else [str] := by
    by_cases hstr : str = []
    · obtain rfl := hstr
      have hcount := hsplit.count
      rw [List.length_nil] at hcount
      rw [if_pos rfl, List.eq_nil_of_length_eq_zero hcount]
    · rw [if_neg hstr]
      exact hsplit.eq_singleton (List.length_pos_iff.mpr hstr) (Nat.le_trans hle (by decide))
  rw [hparts] at hstep
  exact ⟨buf, hstep, SendSide.step_lossless (a := .sendLog str) h trivial hstep⟩

/-- A write is defined when `sendData` has put all frames. -/
theorem exists_write_exact (h : s.Exact text) (hidle : s.server.pending = []) (c : UInt8) :
    ∃ t : LogPath, step s (.write c) = some t ∧ t.Exact (text.add (.write c)) := by
  obtain ⟨stream, passed, hsputc, hvalid, hhold⟩ := sputc_hold h.stream c
  have hfeed : feed hold [] (text.since ++ [c]) =
      (stream.held, (feed hold [] text.since).2 ++ passed.toList) := by
    rw [feed_append, feed_cons, ← h.held, hhold, feed_nil, List.append_nil]
  have hframes := h.frames
  rw [hidle, List.append_nil] at hframes
  cases passed with
  | none =>
    refine ⟨{ s with stream }, by simp [step, hidle, hsputc], hvalid, h.server, ?_, ?_⟩
    · exact (congrArg Prod.fst hfeed).symm
    · rw [Text.add, hfeed, hidle, List.append_nil, hframes]
      simp
  | some str =>
    have hle : str.length ≤ streamBufSize := by
      have hmem : str ∈ (feed hold [] (text.since ++ [c])).2 := by
        rw [hfeed]
        simp
      exact (feed_hold_bounds _ str hmem).2
    have hne : str ≠ [] := by
      have hmem : str ∈ (feed hold [] (text.since ++ [c])).2 := by
        rw [hfeed]
        simp
      exact List.length_pos_iff.mp (feed_hold_bounds _ str hmem).1
    obtain ⟨encoderBuf, hstep, hlossless⟩ := exists_sendLog h.server hidle hle
    refine ⟨{ stream, server := _ }, by simp [step, hidle, hsputc, hstep], hvalid, hlossless,
      ?_, ?_⟩
    · exact (congrArg Prod.fst hfeed).symm
    · rw [Text.add, hfeed, if_neg hne, hframes]
      simp

/-- A character that the stream's buffer has room for leaves the server alone. -/
theorem exists_write_short (h : s.Exact text) (hidle : s.server.pending = []) (c : UInt8)
    (hroom : text.since.length + 1 < streamBufSize) :
    ∃ stream, step s (.write c) = some { s with stream } ∧
      Exact { s with stream } (text.add (.write c)) := by
  obtain ⟨t, hstep, ht⟩ := exists_write_exact h hidle c
  obtain ⟨stream, passed, hsputc, -, hhold⟩ := sputc_hold h.stream c
  have hheld : s.stream.held = text.since := by
    rw [h.held, feed_hold_of_short]
    · rfl
    · rw [List.length_nil]
      omega
  have hnone : passed = none := by
    rw [hheld, hold, if_neg (by omega)] at hhold
    exact Option.toList_eq_nil_iff.mp (congrArg Prod.snd hhold).symm
  have hstep' : step s (.write c) = some { s with stream } := by
    simp [step, hidle, hsputc, hnone]
  obtain rfl := Option.some.inj (hstep.symm.trans hstep')
  exact ⟨stream, hstep', ht⟩

/-- A flush is defined when `sendData` has put all frames, and passes on what is held. -/
theorem exists_flush_exact (h : s.Exact text) (hidle : s.server.pending = []) :
    ∃ stream encoderBuf, step s .flush = some { stream, server := { s.server with
        encoderBuf
        pending := (if s.stream.held = [] then [] else [s.stream.held]).map
          (frame MessageType.log.code) } } ∧
      Exact { stream, server := { s.server with
        encoderBuf
        pending := (if s.stream.held = [] then [] else [s.stream.held]).map
          (frame MessageType.log.code) } } (text.add .flush) := by
  obtain ⟨stream, hsync, hvalid, hheld⟩ := NetStreamBuf.sync_spec h.stream
  obtain ⟨encoderBuf, hstep, hlossless⟩ :=
    exists_sendLog h.server hidle (Nat.le_of_lt h.stream.length_held_lt)
  have hframes := h.frames
  rw [hidle, List.append_nil] at hframes
  refine ⟨stream, encoderBuf, by simp [step, hidle, hsync, hstep], hvalid, hlossless, hheld, ?_⟩
  rw [hframes, h.held, Text.add, feed_nil, List.flatMap_append, List.flatMap_singleton, pieces]
  simp

/-- **Every step that loses nothing keeps it.** -/
theorem step_exact {a : Action} (h : s.Exact text) (ha : LosesNothing s a)
    (hs : step s a = some s') : s'.Exact (text.add a) := by
  cases a with
  | write c =>
    have hidle := (Option.ite_none_right_eq_some.mp hs).1
    obtain ⟨t, hstep, ht⟩ := exists_write_exact h hidle c
    obtain rfl := Option.some.inj (hstep.symm.trans hs)
    exact ht
  | flush =>
    have hidle := (Option.ite_none_right_eq_some.mp hs).1
    obtain ⟨stream, encoderBuf, hstep, ht⟩ := exists_flush_exact h hidle
    obtain rfl := Option.some.inj (hstep.symm.trans hs)
    exact ht
  | server a =>
    obtain ⟨hother, server, hserver, rfl⟩ := step_server_iff.mp hs
    refine ⟨h.stream, SendSide.step_lossless h.server ha hserver, h.held, ?_⟩
    rw [frames_pending hother hserver]
    exact h.frames

end CameraController.TCPServer.LogPath
