import CameraController.StreamFrames
import Mathlib.Data.List.DropRight
import Mathlib.Algebra.Group.Nat.Even

/-! # Garbage in front of a frame

In bytes in which the decoder finds no magic word pair it dispatches nothing, and
only the run of first magic words at their end matters: after an even number of them
it is in `START`, after an odd number it waits for the second magic word
(`consume_headerless`).

A byte that breaks the match is not looked at again as a first magic word.  So a
frame behind an odd run is lost: its own first magic word breaks the match, and
what is left of it is too short for its message (`resynchronises_iff`). -/
namespace CameraController

/-- The magic words do not stand next to each other. -/
def Pairless (data : List UInt8) : Prop := ¬ [magicWord1, magicWord2] <:+: data

instance (data : List UInt8) : Decidable (Pairless data) :=
  inferInstanceAs (Decidable (¬ _ <:+: _))

/-- The first magic words at the end of `data`. -/
def danglingRun (data : List UInt8) : List UInt8 := data.rtakeWhile (· == magicWord1)

theorem danglingRun_magic (data : List UInt8) :
    danglingRun (data ++ [magicWord1]) = danglingRun data ++ [magicWord1] :=
  List.rtakeWhile_concat_pos _ _ _ (by simp)

theorem danglingRun_other (data : List UInt8) {b : UInt8} (hb : b ≠ magicWord1) :
    danglingRun (data ++ [b]) = [] :=
  List.rtakeWhile_concat_neg _ _ _ (by simpa using hb)

/-- Bytes that do not end in the first magic word have no run at the end. -/
theorem danglingRun_eq_nil {data : List UInt8} (h : data.getLast? ≠ some magicWord1) :
    danglingRun data = [] := by
  rw [danglingRun, List.rtakeWhile_eq_nil_iff]
  intro hne hlast
  apply h
  rw [List.getLast?_eq_some_getLast hne, Option.some.injEq]
  simpa using hlast

/-- A run at the end is not followed by the second magic word. -/
theorem Pairless.danglingRun_eq_nil {data : List UInt8} (h : Pairless (data ++ [magicWord2])) :
    danglingRun data = [] := by
  apply CameraController.danglingRun_eq_nil
  intro hlast
  obtain ⟨front, rfl⟩ := List.getLast?_eq_some_iff.mp hlast
  exact h ⟨front, [], by simp⟩

/-- A decoder in `START` finds no magic word pair in `data`: the run of first magic words in
front of a second one is even, so it has been taken for stray bytes. -/
def Headerless (data : List UInt8) : Prop :=
  ∀ front, front ++ [magicWord2] <+: data → Even (danglingRun front).length

/-- And it is in `START` again behind them. -/
def Skippable (data : List UInt8) : Prop :=
  Headerless data ∧ Even (danglingRun data).length

theorem Pairless.headerless {data : List UInt8} (h : Pairless data) : Headerless data := by
  intro front hfront
  have hpairless : Pairless (front ++ [magicWord2]) := fun hpair => h (hpair.trans hfront.isInfix)
  rw [hpairless.danglingRun_eq_nil]
  simp

theorem Headerless.of_append_left {data data' : List UInt8} (h : Headerless (data ++ data')) :
    Headerless data :=
  fun front hfront => h front (hfront.trans (List.prefix_append _ _))

namespace MessageDecoder

/-! ## Bytes without a header -/

/-- The state that garbage leaves behind. -/
def afterGarbage (data : List UInt8) : DecoderState :=
  if Even (danglingRun data).length then .start else .magic1Found

/-- One more byte of garbage. -/
theorem accept_garbage {d : MessageDecoder} {data : List UInt8} {b : UInt8}
    (h : Headerless (data ++ [b])) :
    accept { d with state := afterGarbage data } b =
      ({ d with state := afterGarbage (data ++ [b]) }, []) := by
  rw [accept_header (by simp only [afterGarbage]; split <;> decide)]
  by_cases hmagic : b = magicWord1
  · obtain rfl := hmagic
    have hrun := danglingRun_magic data
    by_cases heven : Even (danglingRun data).length
    · simp [header, afterGarbage, hrun, heven, Nat.even_add_one]
    · simp [header, afterGarbage, hrun, heven, Nat.even_add_one,
        show magicWord1 ≠ magicWord2 by decide]
  · have hrun := danglingRun_other data hmagic
    by_cases heven : Even (danglingRun data).length
    · simp [header, afterGarbage, hrun, heven, hmagic]
    · have hother : b ≠ magicWord2 := by
        rintro rfl
        exact heven (h data (List.prefix_refl _))
      simp [header, afterGarbage, hrun, heven, hother]

/-- **In bytes without a header nothing is dispatched.** -/
theorem consume_headerless {d : MessageDecoder} (hs : d.state = .start) {data : List UInt8}
    (h : Headerless data) : d.consume data = ({ d with state := afterGarbage data }, []) := by
  induction data using List.reverseRecOn with
  | nil => simp [afterGarbage, danglingRun, ← hs]
  | append_singleton data b ih =>
    rw [consume_append, ih h.of_append_left, consume_cons, accept_garbage h]
    rfl

/-! ## The frame behind them -/

/-- The frame behind the garbage is dispatched, and nothing else, however the
stream is cut. -/
def Resynchronises (garbage : List UInt8) (type : UInt8) (payload : List UInt8) : Prop :=
  ∀ chunks : List (List UInt8), (∀ chunk ∈ chunks, chunk.length < 2 ^ 64) →
    chunks.flatten = garbage ++ frame type payload →
    ∃ d, decodeAll record {} chunks = .ok (d, [Message.complete type payload]) ∧ d.state = .start

/-- In `MAGIC1_FOUND` a frame is lost. -/
theorem consume_frame_lost {d : MessageDecoder} (hs : d.state = .magic1Found) (type : UInt8)
    (payload : List UInt8) :
    (d.consume (frame type payload)).2 ≠ [Message.complete type payload] := by
  intro hmessages
  -- the frame's own first magic word breaks the match, its second begins nothing
  have hskip : d.consume [magicWord1, magicWord2] = ({ d with state := .start }, []) := by
    simp [consume_cons, accept, header, hs, show magicWord1 ≠ magicWord2 by decide,
      show magicWord2 ≠ magicWord1 by decide]
  have hsplit : frame type payload = [magicWord1, magicWord2] ++
      ([type, UInt8.ofNat payload.length, UInt8.ofNat (payload.length / 256)] ++ payload) := rfl
  rw [hsplit, consume_append, hskip, List.nil_append] at hmessages
  have hframed := framed_consume (d := { d with state := .start }) (holds_start rfl)
    ([type, UInt8.ofNat payload.length, UInt8.ofNat (payload.length / 256)] ++ payload)
  rw [hmessages] at hframed
  have hle := hframed.length_le (List.mem_singleton_self _)
  simp [Message.complete, msgHeaderSize] at hle
  omega

/-- **The decoder finds the frame exactly when the garbage ends in an even number
of first magic words.** -/
theorem resynchronises_iff {garbage : List UInt8} (hgarbage : Pairless garbage) (type : UInt8)
    {payload : List UInt8} (hpos : 1 ≤ payload.length) (hlt : payload.length < 2 ^ 16) :
    Resynchronises garbage type payload ↔ Even (danglingRun garbage).length := by
  have hfront := consume_headerless (d := {}) rfl hgarbage.headerless
  constructor
  · intro h
    by_contra hodd
    have hbytes : ((garbage ++ frame type payload).map fun b => [b]).flatten =
        garbage ++ frame type payload := by
      rw [← List.flatMap_def, List.flatMap_singleton']
    have hfit : ∀ chunk ∈ (garbage ++ frame type payload).map fun b => [b],
        chunk.length < 2 ^ 64 := by
      intro chunk hchunk
      obtain ⟨b, -, rfl⟩ := List.mem_map.mp hchunk
      exact Nat.one_lt_two_pow (by decide)
    obtain ⟨d, hrun, -⟩ := h _ hfit hbytes
    rw [decodeAll_record new_valid hfit, hbytes, consume_append, hfront, afterGarbage,
      if_neg hodd, List.nil_append, Except.ok.injEq, Prod.mk.injEq] at hrun
    exact consume_frame_lost rfl type payload hrun.2
  · intro heven chunks hfit hbytes
    rw [decodeAll_record new_valid hfit, hbytes, consume_append, hfront, afterGarbage,
      if_pos heven, consume_frame rfl type hpos hlt]
    exact ⟨_, rfl, rfl⟩

/-- Two first magic words are skipped. -/
theorem resynchronises_after_two :
    Resynchronises [0x54, 0x54] 0x01 [0x41] ↔ Even (danglingRun [0x54, 0x54]).length :=
  resynchronises_iff (by decide) 0x01 (by decide) (by decide)

/-- Behind a single first magic word a frame is lost. -/
theorem resynchronises_fails :
    ¬ ∀ (garbage : List UInt8) (type : UInt8) (payload : List UInt8), Pairless garbage →
      1 ≤ payload.length → payload.length < 2 ^ 16 → Resynchronises garbage type payload := by
  intro h
  obtain ⟨d, hrun, -⟩ := h [0x54] 0x01 [0x41] (by decide) (by decide) (by decide)
    [[0x54], frame 0x01 [0x41]] (by decide) rfl
  have hnothing : decodeAll record {} [[0x54], frame 0x01 [0x41]] = .ok ({}, []) := by rfl
  rw [hnothing, Except.ok.injEq, Prod.mk.injEq] at hrun
  exact List.cons_ne_nil _ _ hrun.2.symm

end MessageDecoder
end CameraController
