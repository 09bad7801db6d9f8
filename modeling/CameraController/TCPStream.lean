import CameraController.MessageEncoder

/-! # The stream that logs are written to

`NetStreamBuf` collects characters in a buffer of `STREAM_BUF_SIZE` bytes and
hands them to `MessageEncoder::sendLog` when they are flushed and when the put
area is full.  The put area ends one byte before the buffer does, and
`overflow` stores the character that did not fit into that last byte.

Pointers into the buffer are indices.  A store or a read outside it is undefined,
and so is an `overflow` whose assertion fails; `sputc_spec` and `sync_spec` show
that neither happens, and that every character is handed on once. -/
namespace CameraController

open RawMemory

/-- `STREAM_BUF_SIZE`. -/
def streamBufSize : Nat := 2048

structure NetStreamBuf where
  buf : List UInt8
  pbase : Nat
  pptr : Nat
  epptr : Nat
  deriving DecidableEq, Repr

namespace NetStreamBuf

/-! ## `std::streambuf` -/

/-- `setp(first, last)`. -/
def setp (b : NetStreamBuf) (first last : Nat) : NetStreamBuf :=
  { b with pbase := first, pptr := first, epptr := last }

/-- `pbump(n)`. -/
def pbump (b : NetStreamBuf) (n : Nat) : NetStreamBuf := { b with pptr := b.pptr + n }

/-- `*pptr() = c`. -/
def store (b : NetStreamBuf) (c : UInt8) : Option NetStreamBuf := do
  let buf ← MessageEncoder.setByte b.buf b.pptr c
  return { b with buf }

/-! ## `NetStreamBuf` -/

/-- The constructor; the buffer is not initialised. -/
def new (buf : List UInt8) : NetStreamBuf :=
  setp ⟨buf, 0, 0, 0⟩ 0 (streamBufSize - 1)

/-- `send()`: the stream afterwards and the text passed to `sendLog`. -/
def send (b : NetStreamBuf) : Option (NetStreamBuf × List UInt8) := do
  let len := sub64 b.pptr b.pbase
  let str ← readBlock b.buf b.pbase len
  return (b.setp 0 (streamBufSize - 1), str)

/-- `sync()`, which answers `0`. -/
def sync (b : NetStreamBuf) : Option (NetStreamBuf × List UInt8 × Int) := do
  let (b, str) ← b.send
  return (b, str, 0)

/-- `overflow(ch)`, where no character is `eof`: the stream afterwards, the text
passed to `sendLog`, if any, and the answer. -/
def overflow (b : NetStreamBuf) :
    Option UInt8 → Option (NetStreamBuf × Option (List UInt8) × Option UInt8)
  | some ch =>
    if b.pptr ≤ b.epptr then do
      let b ← b.store ch
      let (b, str) ← (b.pbump 1).send
      return (b, some str, some ch)
    else
      -- the assertion fails
      none
  | none => return (b, none, none)

/-- `sputc(c)`, by which every character comes in. -/
def sputc (b : NetStreamBuf) (c : UInt8) :
    Option (NetStreamBuf × Option (List UInt8) × Option UInt8) :=
  if b.pptr < b.epptr then do
    let b ← b.store c
    return (b.pbump 1, none, some c)
  else
    b.overflow (some c)

/-! ## What it keeps -/

/-- The characters between `pbase()` and `pptr()`. -/
def held (b : NetStreamBuf) : List UInt8 := (b.buf.drop b.pbase).take (b.pptr - b.pbase)

/-- The put area is the buffer without its last byte. -/
structure Valid (b : NetStreamBuf) : Prop where
  buf : b.buf.length = streamBufSize
  pbase : b.pbase = 0
  epptr : b.epptr = streamBufSize - 1
  pptr : b.pptr ≤ streamBufSize - 1

variable {b : NetStreamBuf}

theorem setp_valid (hbuf : b.buf.length = streamBufSize) :
    (b.setp 0 (streamBufSize - 1)).Valid :=
  ⟨hbuf, rfl, rfl, Nat.zero_le _⟩

theorem new_valid {buf : List UInt8} (hbuf : buf.length = streamBufSize) : (new buf).Valid :=
  setp_valid hbuf

@[simp] theorem held_setp (b : NetStreamBuf) (first last : Nat) :
    (b.setp first last).held = [] := by
  simp [held, setp]

@[simp] theorem held_new (buf : List UInt8) : (new buf).held = [] := held_setp _ _ _

theorem Valid.held_eq (h : b.Valid) : b.held = b.buf.take b.pptr := by
  rw [held, h.pbase, List.drop_zero, Nat.sub_zero]

theorem Valid.length_held (h : b.Valid) : b.held.length = b.pptr := by
  have hbuf := h.buf
  have hpptr := h.pptr
  rw [h.held_eq, List.length_take]
  omega

/-- A character stored at `pptr()` stays in the buffer, also in its last byte. -/
theorem Valid.store (h : b.Valid) (c : UInt8) :
    b.store c = some { b with buf := b.buf.set b.pptr c } := by
  have hlt : b.pptr < b.buf.length := by
    have hpptr := h.pptr
    rw [h.buf, streamBufSize]
    rw [streamBufSize] at hpptr
    omega
  simp only [NetStreamBuf.store, MessageEncoder.setByte, if_pos hlt, bind, Option.bind_some]
  rfl

/-- What is stored behind the held characters. -/
theorem Valid.take_set (h : b.Valid) (c : UInt8) :
    (b.buf.set b.pptr c).take (b.pptr + 1) = b.held ++ [c] := by
  have hlt : b.pptr < (b.buf.set b.pptr c).length := by
    have hpptr := h.pptr
    rw [List.length_set, h.buf, streamBufSize]
    rw [streamBufSize] at hpptr
    omega
  rw [List.take_succ_eq_append_getElem hlt, List.take_set_of_le (Nat.le_refl _),
    List.getElem_set_self, h.held_eq]

/-- `send` hands on what lies between `pbase()` and `pptr()`, also when `pptr()`
is behind the put area. -/
theorem send_eq (hbuf : b.buf.length = streamBufSize) (hpbase : b.pbase = 0)
    (hpptr : b.pptr ≤ streamBufSize) :
    b.send = some (b.setp 0 (streamBufSize - 1), b.buf.take b.pptr) := by
  have hsmall : b.pptr < 2 ^ 64 := by
    rw [streamBufSize] at hpptr
    omega
  simp only [send, hpbase, sub64_of_le hsmall (Nat.zero_le _), Nat.sub_zero]
  rw [readBlock_eq (by omega), List.drop_zero]
  rfl

/-- **`sync` hands on everything held.** -/
theorem sync_spec (h : b.Valid) :
    ∃ b' : NetStreamBuf, b.sync = some (b', b.held, 0) ∧ b'.Valid ∧ b'.held = [] := by
  have hsend := send_eq h.buf h.pbase (Nat.le_trans h.pptr (Nat.sub_le _ _))
  refine ⟨b.setp 0 (streamBufSize - 1), ?_, setp_valid h.buf, held_setp _ _ _⟩
  simp only [sync, hsend, bind, Option.bind_some, h.held_eq]
  rfl

/-- **`sputc` takes its character**: behind the held ones, and when that fills the
buffer they are all handed on. -/
theorem sputc_spec (h : b.Valid) (c : UInt8) :
    ∃ (b' : NetStreamBuf) (passed : Option (List UInt8)),
      b.sputc c = some (b', passed, some c) ∧ b'.Valid ∧
      passed.getD [] ++ b'.held = b.held ++ [c] ∧
      ∀ str ∈ passed, str.length = streamBufSize := by
  by_cases hroom : b.pptr < b.epptr
  · have hvalid : Valid { b with buf := b.buf.set b.pptr c, pptr := b.pptr + 1 } := by
      refine ⟨by rw [List.length_set, h.buf], h.pbase, h.epptr, ?_⟩
      rw [h.epptr] at hroom
      exact Nat.succ_le_of_lt hroom
    refine ⟨_, none, ?_, hvalid, ?_, by simp⟩
    · simp only [sputc, if_pos hroom, h.store, bind, Option.bind_some]
      rfl
    · rw [Option.getD_none, List.nil_append, hvalid.held_eq]
      exact h.take_set c
  · -- the put area is full, and the character goes behind it
    have hfull : b.pptr = streamBufSize - 1 := by
      have hpptr := h.pptr
      rw [h.epptr] at hroom
      omega
    have hle : b.pptr ≤ b.epptr := by
      rw [h.epptr]
      exact h.pptr
    have hlast : b.pptr + 1 = streamBufSize := by
      simp only [streamBufSize] at hfull ⊢
      omega
    have hbuf : (b.buf.set b.pptr c).length = streamBufSize := by rw [List.length_set, h.buf]
    have hsend : send { b with buf := b.buf.set b.pptr c, pptr := b.pptr + 1 } =
        some (setp { b with buf := b.buf.set b.pptr c, pptr := b.pptr + 1 } 0
          (streamBufSize - 1), b.held ++ [c]) := by
      rw [← h.take_set]
      exact send_eq hbuf h.pbase (Nat.le_of_eq hlast)
    refine ⟨setp { b with buf := b.buf.set b.pptr c, pptr := b.pptr + 1 } 0 (streamBufSize - 1),
      some (b.held ++ [c]), ?_, setp_valid hbuf, ?_, ?_⟩
    · simp only [sputc, if_neg hroom, overflow, if_pos hle, h.store, pbump, hsend, bind,
        Option.bind_some]
      rfl
    · rw [held_setp, List.append_nil]
      rfl
    · intro str hstr
      obtain rfl := Option.some.inj hstr
      rw [List.length_append, h.length_held, List.length_singleton, hlast]

/-- What is held is shorter than the buffer. -/
theorem Valid.length_held_lt (h : b.Valid) : b.held.length < streamBufSize := by
  have hpptr := h.pptr
  rw [h.length_held, streamBufSize]
  rw [streamBufSize] at hpptr
  omega

end NetStreamBuf
end CameraController
