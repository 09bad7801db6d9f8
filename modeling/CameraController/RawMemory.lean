import Mathlib.Algebra.Ring.Nat
import CameraController.RingBuffer

/-! # Machine words and raw memory

Unsigned C++ arithmetic is arithmetic of `Nat` followed by an explicit reduction
(`u16`, `u32`, `u64`), and a subtraction borrows from the next power of
two.  A block of memory is the list of its cells.  `memcpy` fails, with `none`,
when it would leave one of its two blocks, and so does a division by zero:
undefined behaviour of the source is a `none` of the model, and so its absence is
a theorem. -/
namespace RawMemory

/-! ## Unsigned words -/

/-- Conversion to `uint16_t`. -/
def u16 (n : Nat) : Nat := n % 2 ^ 16
/-- Conversion to `unsigned int`. -/
def u32 (n : Nat) : Nat := n % 2 ^ 32
/-- Conversion to `size_t`. -/
def u64 (n : Nat) : Nat := n % 2 ^ 64

/-- Subtraction of `unsigned int`s. -/
def sub32 (a b : Nat) : Nat := u32 (a + (2 ^ 32 - u32 b))
/-- Subtraction of `size_t`s. -/
def sub64 (a b : Nat) : Nat := u64 (a + (2 ^ 64 - u64 b))

/-- `a % b`, undefined for `b = 0`. -/
def mod? (a b : Nat) : Option Nat := if b = 0 then none else some (a % b)

theorem u16_of_lt {n : Nat} (h : n < 2 ^ 16) : u16 n = n := Nat.mod_eq_of_lt h
theorem u32_of_lt {n : Nat} (h : n < 2 ^ 32) : u32 n = n := Nat.mod_eq_of_lt h
theorem u64_of_lt {n : Nat} (h : n < 2 ^ 64) : u64 n = n := Nat.mod_eq_of_lt h

/-- A `size_t` computation narrowed to `unsigned int` wraps once, at the narrower
width. -/
@[simp] theorem u32_u64 (n : Nat) : u32 (u64 n) = u32 n := by
  unfold u32 u64
  omega

theorem sub32_of_le {a b : Nat} (ha : a < 2 ^ 32) (h : b ≤ a) : sub32 a b = a - b := by
  unfold sub32 u32
  omega

theorem sub64_of_le {a b : Nat} (ha : a < 2 ^ 64) (h : b ≤ a) : sub64 a b = a - b := by
  unfold sub64 u64
  omega

theorem mod?_eq {b : Nat} (a : Nat) (h : 0 < b) : mod? a b = some (a % b) :=
  if_neg (Nat.ne_of_gt h)

/-! ## Memory blocks -/

variable {α : Type}

/-- `memcpy(dst + doff, src + soff, n)`: the block `dst` afterwards, `none` when
the copy would read or write outside a block. -/
def memcpy (dst : List α) (doff : Nat) (src : List α) (soff n : Nat) : Option (List α) :=
  if doff + n ≤ dst.length ∧ soff + n ≤ src.length then
    some (RingBuffer.splice dst doff ((src.drop soff).take n))
  else
    none

/-- The bytes a `memcpy` out of `src` delivers to a block of the caller. -/
def readBlock (src : List α) (soff n : Nat) : Option (List α) :=
  if soff + n ≤ src.length then some ((src.drop soff).take n) else none

theorem memcpy_eq {dst src : List α} {doff soff n : Nat} (hd : doff + n ≤ dst.length)
    (hs : soff + n ≤ src.length) :
    memcpy dst doff src soff n = some (RingBuffer.splice dst doff ((src.drop soff).take n)) :=
  if_pos ⟨hd, hs⟩

theorem readBlock_eq {src : List α} {soff n : Nat} (hs : soff + n ≤ src.length) :
    readBlock src soff n = some ((src.drop soff).take n) :=
  if_pos hs

theorem length_slice {l : List α} {off n : Nat} (h : off + n ≤ l.length) :
    ((l.drop off).take n).length = n := by
  rw [List.length_take, List.length_drop]; omega

end RawMemory
