import CameraController.RawMemory

/-! # The send buffer

`CircularBuffer` (circular_buffer.h) is a ring of `size` bytes with two indices
and a flag that tells an empty ring from a full one when the indices meet.  The
operations below compute what the class computes, in its own order: `unsigned
int` positions, `size_t` lengths, the unwrapped `t_tail`, `t_head`, `new_head`
and `new_tail`, and two `memcpy` branches each way.  `lastop`, which only the
debugging `print` reads, is left out.

`Valid` is what every operation preserves, and `contents` is what a valid buffer
stores, oldest byte first: the last `stored` cells of the ring read from `head`. -/
namespace CameraController

open RawMemory

/-- The members of `CircularBuffer`. -/
structure CircularBuffer where
  buffer : List UInt8
  head : Nat
  tail : Nat
  empty : Bool
  size : Nat
  deriving DecidableEq, Repr

namespace CircularBuffer

/-! ## The class -/

/-- The constructor: `size` zero bytes. -/
def new (size : Nat) : CircularBuffer := ⟨List.replicate size 0, 0, 0, true, size⟩

/-- The two copies of `put`: to the end of the ring and on from its start, or
once. -/
def copyIn (cb : CircularBuffer) (newHead : Nat) (values : List UInt8) (length : Nat) :
    Option (List UInt8) :=
  if newHead > cb.size then do
    let sz := u32 (sub64 cb.size cb.head)
    let buffer ← memcpy cb.buffer cb.head values 0 sz
    memcpy buffer 0 values sz (sub64 length sz)
  else
    memcpy cb.buffer cb.head values 0 (sub32 newHead cb.head)

/-- `put` once its input fits the ring. -/
def putFitting (cb : CircularBuffer) (values : List UInt8) (length : Nat) :
    Option CircularBuffer := do
  let newHead := u32 (u64 (cb.head + length))
  let tTail := if cb.tail ≥ cb.head then cb.tail else u32 (u64 (cb.tail + cb.size))
  let buffer ← cb.copyIn newHead values length
  -- the oldest bytes were overwritten: the tail moves up to the new head
  let tTail := if cb.head ≤ tTail ∧ newHead > tTail ∧ cb.empty = false then newHead else tTail
  let head ← mod? newHead cb.size
  let tail ← mod? tTail cb.size
  return { cb with buffer, head, tail, empty := false }

/-- `put(values, length)`. -/
def put (cb : CircularBuffer) (values : List UInt8) : Option CircularBuffer :=
  if values.length = 0 then
    some cb
  else if values.length > cb.size then
    cb.putFitting (values.drop (values.length - cb.size)) cb.size
  else
    cb.putFitting values values.length

/-- `put(val)`. -/
def putByte (cb : CircularBuffer) (val : UInt8) : Option CircularBuffer := cb.put [val]

/-- `get(val)`: the returned count, the bytes written through `val`, and the
buffer afterwards. -/
def getByte (cb : CircularBuffer) : Option (Nat × List UInt8 × CircularBuffer) :=
  if cb.empty then
    some (0, [], cb)
  else do
    let val ← cb.buffer[cb.tail]?
    let tail ← mod? (u32 (cb.tail + 1)) cb.size
    return (1, [val], { cb with tail, empty := tail == cb.head })

/-- The two copies of `get`: up to the end of the ring and on from its start, or
once. -/
def copyOut (cb : CircularBuffer) (newTail length : Nat) : Option (List UInt8) :=
  if newTail > cb.size then do
    let sz := u32 (sub64 cb.size cb.tail)
    let front ← readBlock cb.buffer cb.tail sz
    let back ← readBlock cb.buffer 0 (sub64 length sz)
    return front ++ back
  else
    readBlock cb.buffer cb.tail length

/-- `get` once the length is clamped to what is stored. -/
def getClamped (cb : CircularBuffer) (newTail length : Nat) (empty : Bool) :
    Option (Nat × List UInt8 × CircularBuffer) := do
  let buf ← cb.copyOut newTail length
  let tail ← mod? newTail cb.size
  return (length, buf, { cb with tail, empty })

/-- `get(buf, length)`: the returned count, the bytes written to `buf`, and the
buffer afterwards. -/
def get (cb : CircularBuffer) (length : Nat) : Option (Nat × List UInt8 × CircularBuffer) :=
  if cb.empty then
    some (0, [], cb)
  else
    let tHead := if cb.head < cb.tail then u32 (u64 (cb.head + cb.size)) else cb.head
    let maxLength :=
      if tHead = cb.tail ∧ cb.empty = false then cb.size else sub32 tHead cb.tail
    if length ≥ maxLength then
      cb.getClamped (u32 (u64 (cb.tail + maxLength))) maxLength true
    else
      cb.getClamped (u32 (u64 (cb.tail + length))) length cb.empty

/-- `currentSize()`. -/
def currentSize (cb : CircularBuffer) : Nat :=
  if cb.empty then 0
  else if cb.head > cb.tail then sub32 cb.head cb.tail
  else sub64 (u64 (cb.head + cb.size)) cb.tail

/-! ## What a buffer stores -/

/-- The invariant of the class, for a capacity whose double fits an `unsigned int`. -/
structure Valid (cb : CircularBuffer) : Prop where
  size_pos : 1 ≤ cb.size
  size_le : 2 * cb.size ≤ 2 ^ 32
  length_buffer : cb.buffer.length = cb.size
  head_lt : cb.head < cb.size
  tail_lt : cb.tail < cb.size
  empty_meets : cb.empty = true → cb.head = cb.tail

/-- The number of bytes stored; `empty` decides between none and all when the
indices meet. -/
def stored (cb : CircularBuffer) : Nat :=
  if cb.empty then 0
  else if cb.tail < cb.head then cb.head - cb.tail
  else cb.head + cb.size - cb.tail

/-- The bytes stored, oldest first. -/
def contents (cb : CircularBuffer) : List UInt8 := (cb.buffer.rotate cb.head).rtake cb.stored

theorem new_valid {size : Nat} (hpos : 1 ≤ size) (hle : 2 * size ≤ 2 ^ 32) :
    (new size).Valid :=
  ⟨hpos, hle, List.length_replicate, by simp only [new]; omega, by simp only [new]; omega,
    fun _ => rfl⟩

@[simp] theorem new_contents (size : Nat) : (new size).contents = [] := by
  simp [contents, stored, new]

section Stored
variable {cb : CircularBuffer} (hv : cb.Valid)
include hv

theorem stored_le : cb.stored ≤ cb.size := by
  have := hv.head_lt
  have := hv.tail_lt
  unfold stored
  split
  · omega
  · split <;> omega

theorem stored_eq_zero : cb.stored = 0 ↔ cb.empty = true := by
  have := hv.head_lt
  have := hv.tail_lt
  unfold stored
  cases cb.empty with
  | true => simp
  | false =>
    simp only [Bool.false_eq_true, if_false, iff_false]
    split <;> omega

theorem stored_pos (hne : cb.empty = false) : 0 < cb.stored := by
  rcases Nat.eq_zero_or_pos cb.stored with h | h
  · simp [(stored_eq_zero hv).mp h] at hne
  · exact h

theorem length_rotate_head : (cb.buffer.rotate cb.head).length = cb.size := by
  rw [List.length_rotate, hv.length_buffer]

theorem length_contents : cb.contents.length = cb.stored := by
  rw [contents, RingBuffer.length_rtake, length_rotate_head hv]
  exact Nat.min_eq_left (stored_le hv)

theorem contents_eq_nil : cb.contents = [] ↔ cb.empty = true := by
  rw [← List.length_eq_zero_iff, length_contents hv, stored_eq_zero hv]

/-- The tail trails the head by what is stored. -/
theorem head_eq : cb.head = (cb.tail + cb.stored) % cb.size := by
  have hh := hv.head_lt
  have ht := hv.tail_lt
  have hm := hv.empty_meets
  unfold stored
  cases he : cb.empty with
  | true =>
    simp only [if_true, Nat.add_zero, hm he]
    exact (Nat.mod_eq_of_lt ht).symm
  | false =>
    simp only [Bool.false_eq_true, if_false]
    split
    · rw [Nat.add_sub_of_le (by omega), Nat.mod_eq_of_lt hh]
    · rw [Nat.add_sub_of_le (by omega), Nat.add_mod_right, Nat.mod_eq_of_lt hh]

/-- Read from the tail, the ring begins with what is stored. -/
theorem rotate_tail_take {n : Nat} (hn : n ≤ cb.stored) :
    (cb.buffer.rotate cb.tail).take n = cb.contents.take n := by
  have hs := stored_le hv
  have hlen := length_rotate_head hv
  have hback : cb.buffer.rotate cb.tail =
      (cb.buffer.rotate cb.head).rotate (cb.size - cb.stored) := by
    have hround : cb.tail + cb.stored + (cb.size - cb.stored) = cb.tail + cb.buffer.length := by
      rw [hv.length_buffer]; omega
    calc cb.buffer.rotate cb.tail
        = (cb.buffer.rotate cb.tail).rotate (cb.buffer.rotate cb.tail).length :=
          (List.rotate_length _).symm
      _ = cb.buffer.rotate (cb.tail + cb.stored + (cb.size - cb.stored)) := by
          rw [List.length_rotate, List.rotate_rotate, hround]
      _ = (cb.buffer.rotate cb.head).rotate (cb.size - cb.stored) := by
          rw [← List.rotate_rotate, head_eq hv, ← hv.length_buffer, List.rotate_mod]
  rw [hback, List.rotate_eq_drop_append_take (by omega), contents, List.rtake, hlen]
  exact List.take_append_of_le_length (by rw [List.length_drop, hlen]; omega)

/-- `currentSize()` is the number of bytes stored. -/
theorem currentSize_eq : cb.currentSize = cb.contents.length := by
  have hsz := hv.size_le
  have hh := hv.head_lt
  have ht := hv.tail_lt
  rw [length_contents hv, currentSize, stored]
  split
  · rfl
  · split
    · rw [sub32_of_le (by omega) (by omega)]
    · rw [u64_of_lt (by omega), sub64_of_le (by omega) (by omega)]

end Stored

end CircularBuffer
end CameraController
