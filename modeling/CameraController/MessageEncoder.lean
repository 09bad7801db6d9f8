import CameraController.Message
import CameraController.RawMemory

/-! # The encoder

`MessageEncoder::sendLog` cuts a text into pieces of at most `0xFFFF` bytes and
sends each as one frame, built in a buffer of `MSG_MAX_LENGTH` bytes that the
encoder keeps.  The model writes that buffer byte by byte as the code does, so
that it never overflows is part of `sendLog_spec`. -/
namespace CameraController

open RawMemory

namespace MessageEncoder

/-- `buf[i] = b`. -/
def setByte (buf : List UInt8) (i : Nat) (b : UInt8) : Option (List UInt8) :=
  if i < buf.length then some (buf.set i b) else none

/-- The size of the next piece. -/
def pieceSize (len consumed : Nat) : Nat :=
  if sub64 len consumed > 0xFFFF then 0xFFFF else u16 (sub64 len consumed)

/-- `while (consumed < len)`, for at most `fuel` tests of the condition: the
buffer afterwards and what was passed to `sendData`, in order. -/
def sendLogLoop : Nat → List UInt8 → List UInt8 → Nat →
    Option (List UInt8 × List (List UInt8))
  | 0, _, _, _ => none
  | fuel + 1, buf, str, consumed =>
    if consumed < str.length then do
      let size := pieceSize str.length consumed
      let buf ← setByte buf 3 (UInt8.ofNat size)
      let buf ← setByte buf 4 (UInt8.ofNat (size >>> 8))
      let buf ← memcpy buf msgHeaderSize str consumed size
      let sent ← readBlock buf 0 (size + msgHeaderSize)
      let (buf, rest) ← sendLogLoop fuel buf str (u64 (consumed + size))
      return (buf, sent :: rest)
    else
      return (buf, [])

/-- `sendLog(str, len)`. -/
def sendLog (buf str : List UInt8) : Option (List UInt8 × List (List UInt8)) := do
  let buf ← setByte buf 0 magicWord1
  let buf ← setByte buf 1 magicWord2
  let buf ← setByte buf 2 MessageType.log.code
  sendLogLoop (str.length + 1) buf str 0

/-- Several calls: what each passed to `sendData`. -/
def sendLogs : List UInt8 → List (List UInt8) → Option (List UInt8 × List (List (List UInt8)))
  | buf, [] => return (buf, [])
  | buf, str :: strs => do
    let (buf, sent) ← sendLog buf str
    let (buf, rest) ← sendLogs buf strs
    return (buf, sent :: rest)

/-! ## What is sent -/

/-- `pieces` are the parts a text is sent in: full ones and a last one. -/
structure IsSplit (str : List UInt8) (pieces : List (List UInt8)) : Prop where
  flatten_eq : pieces.flatten = str
  bounds : ∀ p ∈ pieces, 1 ≤ p.length ∧ p.length ≤ 0xFFFF
  count : pieces.length = (str.length + 0xFFFE) / 0xFFFF

theorem IsSplit.nil : IsSplit [] [] := ⟨rfl, by simp, rfl⟩

/-- Sending one piece in front of a split text. -/
theorem IsSplit.cons {p str : List UInt8} {pieces : List (List UInt8)} (h : IsSplit str pieces)
    (hpos : 1 ≤ p.length) (hle : p.length ≤ 0xFFFF) (hfull : p.length = 0xFFFF ∨ str = []) :
    IsSplit (p ++ str) (p :: pieces) := by
  refine ⟨by simp [h.flatten_eq], ?_, ?_⟩
  · intro q hq
    rcases List.mem_cons.mp hq with rfl | hq
    · exact ⟨hpos, hle⟩
    · exact h.bounds q hq
  · rw [List.length_cons, h.count, List.length_append]
    rcases hfull with hfull | rfl
    · omega
    · simp only [List.length_nil]; omega

/-- A text that fits one frame is sent in one. -/
theorem IsSplit.eq_singleton {str : List UInt8} {pieces : List (List UInt8)}
    (h : IsSplit str pieces) (hpos : 1 ≤ str.length) (hle : str.length ≤ 0xFFFF) :
    pieces = [str] := by
  have hcount := h.count
  obtain ⟨p, rfl⟩ := List.length_eq_one_iff.mp (show pieces.length = 1 by omega)
  rw [← h.flatten_eq, List.flatten_singleton]

theorem pieceSize_eq {len consumed : Nat} (hlen : len < 2 ^ 64) (h : consumed < len) :
    pieceSize len consumed = min 0xFFFF (len - consumed) := by
  rw [pieceSize, sub64_of_le hlen (Nat.le_of_lt h)]
  split
  · omega
  · rw [u16_of_lt (by omega)]; omega

/-- The three header bytes written before the loop. -/
def Primed (buf : List UInt8) : Prop :=
  buf.length = msgMaxLength ∧
    buf.take 3 = [magicWord1, magicWord2, MessageType.log.code]

/-- One turn of the loop leaves a frame at the front of the buffer. -/
theorem build_frame {buf str : List UInt8} (hbuf : Primed buf) {consumed size : Nat}
    (hle : consumed + size ≤ str.length) (hsize : size ≤ 0xFFFF) :
    ∃ buf', ((setByte buf 3 (UInt8.ofNat size)).bind fun b =>
        (setByte b 4 (UInt8.ofNat (size >>> 8))).bind fun b =>
          memcpy b msgHeaderSize str consumed size) = some buf' ∧
      Primed buf' ∧
      readBlock buf' 0 (size + msgHeaderSize) =
        some (frame MessageType.log.code ((str.drop consumed).take size)) := by
  obtain ⟨hlen, htake⟩ := hbuf
  have hpiece : ((str.drop consumed).take size).length = size := length_slice hle
  obtain ⟨a, b, c, x, y, tail, rfl⟩ : ∃ a b c x y tail, buf = a :: b :: c :: x :: y :: tail := by
    match buf, hlen with
    | a :: b :: c :: x :: y :: tail, _ => exact ⟨a, b, c, x, y, tail, rfl⟩
  simp only [msgMaxLength, msgHeaderSize, List.length_cons] at hlen
  simp only [List.take_succ_cons, List.take_zero, List.cons.injEq, and_true] at htake
  obtain ⟨rfl, rfl, rfl⟩ := htake
  refine ⟨magicWord1 :: magicWord2 :: MessageType.log.code :: UInt8.ofNat size ::
    UInt8.ofNat (size >>> 8) :: ((str.drop consumed).take size ++ tail.drop size), ?_, ?_, ?_⟩
  · simp only [setByte, List.length_cons, List.set_cons_succ, List.set_cons_zero,
      if_pos (show 3 < tail.length + 1 + 1 + 1 + 1 + 1 by omega),
      if_pos (show 4 < tail.length + 1 + 1 + 1 + 1 + 1 by omega), Option.bind_some]
    rw [memcpy_eq (by simp only [msgHeaderSize, List.length_cons]; omega) hle]
    simp [RingBuffer.splice, msgHeaderSize, hpiece, Nat.add_comm 5 size]
  · refine ⟨?_, rfl⟩
    simp only [msgMaxLength, msgHeaderSize, List.length_cons, List.length_append,
      List.length_drop, hpiece]
    omega
  · rw [readBlock_eq (by simp only [msgHeaderSize, List.length_cons, List.length_append,
      List.length_drop, hpiece]; omega)]
    have hshift : size >>> 8 = size / 256 := by rw [Nat.shiftRight_eq_div_pow]
    simp only [frame, hpiece, hshift, msgHeaderSize, List.drop_zero, List.take_succ_cons,
      List.cons_append, List.nil_append]
    rw [List.take_append_of_le_length (Nat.le_of_eq hpiece.symm),
      List.take_of_length_le (Nat.le_of_eq hpiece)]

/-- The loop sends what is left of the text in frames.  By induction on what is
left; every turn takes at least one byte. -/
theorem sendLogLoop_spec {str : List UInt8} (hstr : str.length < 2 ^ 64) :
    ∀ (left fuel : Nat) (buf : List UInt8) (consumed : Nat), consumed + left = str.length →
      left + 1 ≤ fuel → Primed buf →
      ∃ buf' pieces, sendLogLoop fuel buf str consumed =
          some (buf', pieces.map (frame MessageType.log.code)) ∧
        Primed buf' ∧ IsSplit (str.drop consumed) pieces := by
  intro left
  induction left using Nat.strongRecOn with
  | ind left ih =>
    intro fuel buf consumed hleft hfuel hbuf
    obtain ⟨fuel, rfl⟩ : ∃ f, fuel = f + 1 := ⟨fuel - 1, by omega⟩
    by_cases hmore : consumed < str.length
    · obtain ⟨size, hsize⟩ : ∃ size, size = min 0xFFFF (str.length - consumed) := ⟨_, rfl⟩
      have hpiece : ((str.drop consumed).take size).length = size := length_slice (by omega)
      obtain ⟨buf₁, hbuild, hbuf₁, hread⟩ := build_frame hbuf
        (show consumed + size ≤ str.length by omega) (by omega)
      obtain ⟨buf₂, pieces, hloop, hbuf₂, hsplit⟩ := ih (left - size) (by omega) fuel buf₁
        (consumed + size) (by omega) (by omega) hbuf₁
      refine ⟨buf₂, (str.drop consumed).take size :: pieces, ?_, hbuf₂, ?_⟩
      · simp only [sendLogLoop, hmore, if_true, pieceSize_eq hstr hmore, ← hsize,
          u64_of_lt (show consumed + size < 2 ^ 64 by omega), bind]
        simp only [← Option.bind_assoc] at hbuild ⊢
        rw [hbuild]
        simp [hread, hloop]
      · have hcut : str.drop consumed =
            (str.drop consumed).take size ++ str.drop (consumed + size) := by
          rw [← List.drop_drop, List.take_append_drop]
        have hfull : size = 0xFFFF ∨ str.drop (consumed + size) = [] := by
          by_cases h : size = 0xFFFF
          · exact Or.inl h
          · exact Or.inr (List.drop_of_length_le (by omega))
        have hcons := hsplit.cons (p := (str.drop consumed).take size) (by omega) (by omega)
          (by rwa [hpiece])
        rwa [← hcut] at hcons
    · refine ⟨buf, [], ?_, hbuf, ?_⟩
      · simp [sendLogLoop, hmore]
      · rw [List.drop_of_length_le (by omega)]
        exact IsSplit.nil

/-- **`sendLog` sends the pieces of its text, one frame each**, from any contents
of its buffer and without leaving it. -/
theorem sendLog_spec {buf str : List UInt8} (hbuf : buf.length = msgMaxLength)
    (hstr : str.length < 2 ^ 64) :
    ∃ buf' pieces, sendLog buf str =
        some (buf', pieces.map (frame MessageType.log.code)) ∧
      buf'.length = msgMaxLength ∧ IsSplit str pieces := by
  have hprimed : Primed (((buf.set 0 magicWord1).set 1 magicWord2).set 2
      MessageType.log.code) := by
    refine ⟨by simpa using hbuf, ?_⟩
    match buf, hbuf with
    | a :: b :: c :: tail, _ => rfl
  obtain ⟨buf', pieces, hloop, hbuf', hsplit⟩ := sendLogLoop_spec hstr str.length
    (str.length + 1) _ 0 (Nat.zero_add _) (Nat.le_refl _) hprimed
  have hsize : 2 < buf.length := by rw [hbuf]; decide
  refine ⟨buf', pieces, ?_, hbuf'.1, by simpa using hsplit⟩
  simp only [sendLog, setByte, List.length_set, bind,
    if_pos (show 0 < buf.length by omega), if_pos (show 1 < buf.length by omega),
    if_pos hsize, Option.bind_some, hloop]

/-- What a sequence of texts is sent as: the pieces of each. -/
theorem sendLogs_spec {buf : List UInt8} (hbuf : buf.length = msgMaxLength)
    {strs : List (List UInt8)} (hstrs : ∀ str ∈ strs, str.length < 2 ^ 64) :
    ∃ buf' splits, sendLogs buf strs =
        some (buf', splits.map fun pieces => pieces.map (frame MessageType.log.code)) ∧
      List.Forall₂ IsSplit strs splits := by
  induction strs generalizing buf with
  | nil => exact ⟨buf, [], rfl, List.Forall₂.nil⟩
  | cons str strs ih =>
    obtain ⟨buf₁, pieces, hsend, hbuf₁, hsplit⟩ := sendLog_spec hbuf (hstrs str (by simp))
    obtain ⟨buf₂, splits, hrest, hsplits⟩ := ih hbuf₁ fun s hs => hstrs s (by simp [hs])
    refine ⟨buf₂, pieces :: splits, ?_, List.Forall₂.cons hsplit hsplits⟩
    simp [sendLogs, hsend, hrest]

end MessageEncoder
end CameraController
