import CameraController.CircularBufferRefinement

/-! # What the send buffer computes on the way

`CircularBuffer` mixes `size_t` lengths with `unsigned int` positions.  The values it
computes on the way, and the blocks it copies, are spelled out here as functions of the
buffer and the length asked for (`putBlocks`, `getBlocks`); `put_blocks` and `get_blocks`
say that those are the copies of `put` and `get`.

`bufferSafe` then says of every state of every run that no position wraps, that nothing
is subtracted from less, and that each block lies where it may. -/
namespace CameraController.CircularBuffer

open RawMemory RingBuffer

/-- The operands of a `memcpy`. -/
structure Block where
  src : Nat
  dst : Nat
  count : Nat
  deriving DecidableEq, Repr

variable (cb : CircularBuffer) (length : Nat)

/-! ## On the way through `put` -/

/-- By how much `values` is moved. -/
def skipped : Nat := if length > cb.size then sub64 length cb.size else 0

/-- `length`, once it fits. -/
def fitted : Nat := if length > cb.size then cb.size else length

/-- `new_head`. -/
def newHead : Nat := u32 (u64 (cb.head + cb.fitted length))

/-- `t_tail`, before the bytes overwritten are left behind. -/
def unwrappedTail : Nat := if cb.tail ≥ cb.head then cb.tail else u32 (u64 (cb.tail + cb.size))

/-- What is left of the ring behind `head`: `sz`. -/
def roomAtHead : Nat := u32 (sub64 cb.size cb.head)

/-- What `put` copies, from the caller's bytes into the ring. -/
def putBlocks : List Block :=
  if length = 0 then []
  else if cb.newHead length > cb.size then
    [⟨cb.skipped length, cb.head, cb.roomAtHead⟩,
      ⟨cb.skipped length + cb.roomAtHead, 0, sub64 (cb.fitted length) cb.roomAtHead⟩]
  else
    [⟨cb.skipped length, cb.head, sub32 (cb.newHead length) cb.head⟩]

/-! ## On the way through `get` -/

/-- `t_head`. -/
def unwrappedHead : Nat := if cb.head < cb.tail then u32 (u64 (cb.head + cb.size)) else cb.head

/-- `max_length`. -/
def maxLength : Nat :=
  if cb.unwrappedHead = cb.tail ∧ cb.empty = false then cb.size
  else sub32 cb.unwrappedHead cb.tail

/-- `length`, once it is clamped. -/
def clamped : Nat := if length ≥ cb.maxLength then cb.maxLength else length

/-- `new_tail`, once the length is clamped. -/
def newTail : Nat := u32 (u64 (cb.tail + cb.clamped length))

/-- What is left of the ring behind `tail`: `sz`. -/
def roomAtTail : Nat := u32 (sub64 cb.size cb.tail)

/-- What `get` copies, from the ring to the caller. -/
def getBlocks : List Block :=
  if cb.empty then []
  else if cb.newTail length > cb.size then
    [⟨cb.tail, 0, cb.roomAtTail⟩,
      ⟨0, cb.roomAtTail, sub64 (cb.clamped length) cb.roomAtTail⟩]
  else
    [⟨cb.tail, 0, cb.clamped length⟩]

/-! ## What is safe -/

/-- Nothing on the way through `put` wraps, and its copies stay in both blocks. -/
structure PutSafe : Prop where
  skipped : cb.skipped length + cb.fitted length = length
  newHead : cb.newHead length = cb.head + cb.fitted length
  unwrappedTail :
    cb.unwrappedTail = if cb.tail ≥ cb.head then cb.tail else cb.tail + cb.size
  room : cb.head ≤ cb.size ∧ cb.roomAtHead = cb.size - cb.head
  rest : cb.newHead length > cb.size → cb.roomAtHead ≤ cb.fitted length
  source : ∀ b ∈ cb.putBlocks length, b.src + b.count ≤ length
  destination : ∀ b ∈ cb.putBlocks length, b.dst + b.count ≤ cb.size

/-- Nothing on the way through `get` wraps, and its copies stay in both blocks, of which
the caller's is as long as was asked for. -/
structure GetSafe : Prop where
  unwrappedHead :
    cb.unwrappedHead = if cb.head < cb.tail then cb.head + cb.size else cb.head
  ahead : cb.tail ≤ cb.unwrappedHead
  newTail : cb.newTail length = cb.tail + cb.clamped length
  room : cb.tail ≤ cb.size ∧ cb.roomAtTail = cb.size - cb.tail
  rest : cb.newTail length > cb.size → cb.roomAtTail ≤ cb.clamped length
  source : ∀ b ∈ cb.getBlocks length, b.src + b.count ≤ cb.size
  destination : ∀ b ∈ cb.getBlocks length, b.dst + b.count ≤ length
  written : ((cb.getBlocks length).map Block.count).sum ≤ min length cb.currentSize

/-- **A state in which every operation is safe**, in a ring of `size` bytes. -/
structure BufferSafe (size : Nat) : Prop where
  ring : cb.size = size ∧ cb.buffer.length = size
  head_lt : cb.head < size
  tail_lt : cb.tail < size
  empty_meets : cb.empty = true → cb.head = cb.tail
  put : ∀ length < 2 ^ 64, cb.PutSafe length
  get : ∀ length, cb.GetSafe length
  getByte : u32 (cb.tail + 1) = cb.tail + 1

/-! ## They are the copies of the code -/

variable {cb}

theorem memcpy_drop {dst src : List UInt8} {doff k soff n : Nat} (hk : k ≤ src.length) :
    memcpy dst doff (src.drop k) soff n = memcpy dst doff src (k + soff) n := by
  unfold memcpy
  rw [List.length_drop, List.drop_drop]
  refine if_congr (and_congr_right fun _ => ?_) rfl rfl
  omega

/-- The copies of `put`, for a pointer that was moved by `k`. -/
theorem copyIn_drop {values : List UInt8} {k : Nat} (hk : k ≤ values.length)
    (newHead length : Nat) :
    cb.copyIn newHead (values.drop k) length =
      (if newHead > cb.size then
        [⟨k, cb.head, cb.roomAtHead⟩, ⟨k + cb.roomAtHead, 0, sub64 length cb.roomAtHead⟩]
      else [⟨k, cb.head, sub32 newHead cb.head⟩] : List Block).foldlM
        (fun buffer b => memcpy buffer b.dst values b.src b.count) cb.buffer := by
  unfold copyIn roomAtHead
  split
  · simp only [memcpy_drop hk, Nat.add_zero, List.foldlM_cons, List.foldlM_nil, bind_pure]
  · simp only [memcpy_drop hk, Nat.add_zero, List.foldlM_cons, List.foldlM_nil, bind_pure]

theorem putFitting_buffer (hv : cb.Valid) (values : List UInt8) (length : Nat) :
    (cb.putFitting values length).map CircularBuffer.buffer =
      cb.copyIn (u32 (u64 (cb.head + length))) values length := by
  simp only [putFitting, mod?_eq _ hv.size_pos]
  cases cb.copyIn (u32 (u64 (cb.head + length))) values length <;> rfl

/-- `put` leaves in the ring what its blocks bring there. -/
theorem put_blocks (hv : cb.Valid) {values : List UInt8} (hlen : values.length < 2 ^ 64) :
    (cb.put values).map CircularBuffer.buffer =
      (cb.putBlocks values.length).foldlM
        (fun buffer b => memcpy buffer b.dst values b.src b.count) cb.buffer := by
  unfold put putBlocks
  by_cases hnone : values.length = 0
  · rw [if_pos hnone, if_pos hnone]
    rfl
  · rw [if_neg hnone, if_neg hnone]
    by_cases hlong : values.length > cb.size
    · have hskip : cb.skipped values.length = values.length - cb.size := by
        rw [skipped, if_pos hlong, sub64_of_le hlen (Nat.le_of_lt hlong)]
      have hfit : cb.fitted values.length = cb.size := if_pos hlong
      rw [if_pos hlong, putFitting_buffer hv, copyIn_drop (Nat.sub_le _ _), newHead, hfit, hskip]
    · have hskip : cb.skipped values.length = 0 := if_neg hlong
      have hfit : cb.fitted values.length = values.length := if_neg hlong
      have hcopies := @copyIn_drop cb values 0 (Nat.zero_le _)
        (u32 (u64 (cb.head + values.length))) values.length
      rw [List.drop_zero] at hcopies
      rw [if_neg hlong, putFitting_buffer hv, hcopies, newHead, hfit, hskip]

theorem getClamped_written (hv : cb.Valid) (newTail length : Nat) (empty : Bool) :
    (cb.getClamped newTail length empty).map (fun r => r.2.1) = cb.copyOut newTail length := by
  simp only [getClamped, mod?_eq _ hv.size_pos]
  cases cb.copyOut newTail length <;> rfl

/-- The copies of `get`. -/
theorem copyOut_blocks (newTail length : Nat) :
    cb.copyOut newTail length =
      ((if newTail > cb.size then
        [⟨cb.tail, 0, cb.roomAtTail⟩, ⟨0, cb.roomAtTail, sub64 length cb.roomAtTail⟩]
      else [⟨cb.tail, 0, length⟩] : List Block).mapM
        fun b => readBlock cb.buffer b.src b.count).map List.flatten := by
  unfold copyOut roomAtTail
  split
  · simp only [List.mapM_cons, List.mapM_nil]
    cases readBlock cb.buffer cb.tail (u32 (sub64 cb.size cb.tail)) with
    | none => rfl
    | some front =>
      cases readBlock cb.buffer 0 (sub64 length (u32 (sub64 cb.size cb.tail))) with
      | none => rfl
      | some back => simp
  · simp only [List.mapM_cons, List.mapM_nil]
    cases readBlock cb.buffer cb.tail length with
    | none => rfl
    | some front => simp

/-- `get` writes what its blocks read. -/
theorem get_blocks (hv : cb.Valid) (length : Nat) :
    (cb.get length).map (fun r => r.2.1) =
      ((cb.getBlocks length).mapM fun b => readBlock cb.buffer b.src b.count).map
        List.flatten := by
  have hget : cb.get length = if cb.empty then some (0, [], cb)
      else if length ≥ cb.maxLength then
        cb.getClamped (u32 (u64 (cb.tail + cb.maxLength))) cb.maxLength true
      else cb.getClamped (u32 (u64 (cb.tail + length))) length cb.empty := rfl
  rw [hget, getBlocks, newTail]
  by_cases hempty : cb.empty = true
  · rw [if_pos hempty, if_pos hempty]
    rfl
  · rw [if_neg hempty, if_neg hempty, ← copyOut_blocks]
    by_cases hlong : length ≥ cb.maxLength
    · have hclamped : cb.clamped length = cb.maxLength := if_pos hlong
      rw [if_pos hlong, getClamped_written hv, hclamped]
    · have hclamped : cb.clamped length = length := if_neg hlong
      rw [if_neg hlong, getClamped_written hv, hclamped]

/-! ## A valid buffer is safe -/

theorem fitted_le (length : Nat) : cb.fitted length ≤ cb.size := by
  unfold fitted
  split <;> omega

theorem skipped_eq {length : Nat} (hlen : length < 2 ^ 64) :
    cb.skipped length + cb.fitted length = length := by
  unfold skipped fitted
  split
  · rw [sub64_of_le hlen (by omega)]
    omega
  · exact Nat.zero_add _

section Valid
variable (hv : cb.Valid)
include hv

theorem newHead_eq (length : Nat) : cb.newHead length = cb.head + cb.fitted length := by
  have hle := @fitted_le cb length
  have hsz := hv.size_le
  have hh := hv.head_lt
  rw [newHead, u32_u64, u32_of_lt (by omega)]

theorem roomAtHead_eq : cb.roomAtHead = cb.size - cb.head := by
  have hsz := hv.size_le
  have hh := hv.head_lt
  rw [roomAtHead, sub64_of_le (by omega) (by omega), u32_of_lt (by omega)]

theorem roomAtTail_eq : cb.roomAtTail = cb.size - cb.tail := by
  have hsz := hv.size_le
  have ht := hv.tail_lt
  rw [roomAtTail, sub64_of_le (by omega) (by omega), u32_of_lt (by omega)]

/-- **`put` is safe**, for every length. -/
theorem Valid.putSafe {length : Nat} (hlen : length < 2 ^ 64) : cb.PutSafe length := by
  have hsz := hv.size_le
  have hh := hv.head_lt
  have ht := hv.tail_lt
  have hle := @fitted_le cb length
  have hnew := newHead_eq hv length
  have hroom := roomAtHead_eq hv
  have hskip := @skipped_eq cb length hlen
  have hblocks : ∀ b ∈ cb.putBlocks length, b.src + b.count ≤ length ∧
      b.dst + b.count ≤ cb.size := by
    unfold putBlocks
    split
    · exact fun b hb => absurd hb List.not_mem_nil
    · split
      · have hrest : sub64 (cb.fitted length) cb.roomAtHead =
            cb.fitted length - cb.roomAtHead := sub64_of_le (by omega) (by omega)
        rw [hrest, List.forall_mem_cons, List.forall_mem_singleton]
        simp only
        omega
      · have hcount : sub32 (cb.newHead length) cb.head = cb.fitted length := by
          rw [hnew, sub32_of_le (by omega) (by omega), Nat.add_sub_cancel_left]
        rw [hcount, List.forall_mem_singleton]
        simp only
        omega
  refine ⟨hskip, hnew, ?_, ⟨Nat.le_of_lt hh, hroom⟩, fun hwraps => by omega,
    fun b hb => (hblocks b hb).1, fun b hb => (hblocks b hb).2⟩
  unfold unwrappedTail
  rw [u32_u64, u32_of_lt (show cb.tail + cb.size < 2 ^ 32 by omega)]

theorem unwrappedHead_eq :
    cb.unwrappedHead = if cb.head < cb.tail then cb.head + cb.size else cb.head := by
  have hsz := hv.size_le
  have hh := hv.head_lt
  unfold unwrappedHead
  rw [u32_u64, u32_of_lt (show cb.head + cb.size < 2 ^ 32 by omega)]

theorem tail_le_unwrappedHead : cb.tail ≤ cb.unwrappedHead := by
  have ht := hv.tail_lt
  rw [unwrappedHead_eq hv]
  split <;> omega

/-- `max_length` is what is stored. -/
theorem maxLength_eq : cb.maxLength = cb.stored := by
  have hsz := hv.size_le
  have hh := hv.head_lt
  have ht := hv.tail_lt
  have hm := hv.empty_meets
  have hahead := tail_le_unwrappedHead hv
  have hhead := unwrappedHead_eq hv
  have hlt : cb.unwrappedHead < 2 ^ 32 := by
    rw [hhead]
    split <;> omega
  rw [maxLength, sub32_of_le hlt hahead, stored]
  cases he : cb.empty with
  | true =>
    rw [hhead, hm he]
    simp
  | false =>
    simp only [and_true, Bool.false_eq_true, if_false]
    -- the heads meet when the ring is full
    by_cases hmeet : cb.unwrappedHead = cb.tail
    · rw [if_pos hmeet]
      split at hhead <;> split <;> omega
    · rw [if_neg hmeet]
      split at hhead <;> split <;> omega

theorem clamped_eq (length : Nat) : cb.clamped length = min length cb.stored := by
  rw [clamped, maxLength_eq hv]
  split <;> omega

theorem newTail_eq (length : Nat) : cb.newTail length = cb.tail + cb.clamped length := by
  have hsz := hv.size_le
  have ht := hv.tail_lt
  have hst := stored_le hv
  have hclamped := clamped_eq hv length
  rw [newTail, u32_u64, u32_of_lt (by omega)]

/-- **`get` is safe**, for every length. -/
theorem Valid.getSafe (length : Nat) : cb.GetSafe length := by
  have hsz := hv.size_le
  have ht := hv.tail_lt
  have hst := stored_le hv
  have hclamped := clamped_eq hv length
  have hnew := newTail_eq hv length
  have hroom := roomAtTail_eq hv
  have hstored : cb.currentSize = cb.stored := by rw [currentSize_eq hv, length_contents hv]
  have hblocks : (∀ b ∈ cb.getBlocks length, b.src + b.count ≤ cb.size ∧
      b.dst + b.count ≤ length) ∧
      ((cb.getBlocks length).map Block.count).sum ≤ min length cb.currentSize := by
    unfold getBlocks
    split
    · exact ⟨fun b hb => absurd hb List.not_mem_nil, Nat.zero_le _⟩
    · split
      · have hrest : sub64 (cb.clamped length) cb.roomAtTail =
            cb.clamped length - cb.roomAtTail := sub64_of_le (by omega) (by omega)
        rw [hrest, List.forall_mem_cons, List.forall_mem_singleton]
        simp only [List.map_cons, List.map_nil, List.sum_cons, List.sum_nil]
        omega
      · rw [List.forall_mem_singleton]
        simp only [List.map_cons, List.map_nil, List.sum_cons, List.sum_nil]
        omega
  exact ⟨unwrappedHead_eq hv, tail_le_unwrappedHead hv, hnew, ⟨Nat.le_of_lt ht, hroom⟩,
    fun hwraps => by omega, fun b hb => (hblocks.1 b hb).1, fun b hb => (hblocks.1 b hb).2,
    hblocks.2⟩

end Valid

/-- **Every operation is safe in every state reached**, from a new buffer whose capacity
doubled fits an `unsigned int`. -/
theorem bufferSafe {size : Nat} (hpos : 1 ≤ size) (hle : 2 * size ≤ 2 ^ 32)
    {ops : List Operation} {answers : List Answer} (h : run ops (new size) = some (answers, cb)) :
    cb.BufferSafe size := by
  obtain ⟨cb', hrun, hv, hs, -⟩ := run_spec ops (new_valid hpos hle)
  obtain ⟨-, rfl⟩ := Prod.mk.inj (Option.some.inj (h.symm.trans hrun))
  change cb.size = size at hs
  have hsz := hv.size_le
  have ht := hv.tail_lt
  obtain rfl := hs
  exact ⟨⟨rfl, hv.length_buffer⟩, hv.head_lt, ht, hv.empty_meets, fun _ hlen => hv.putSafe hlen,
    hv.getSafe, u32_of_lt (by omega)⟩

/-- Six bytes into a ring of four, then three out. -/
theorem bufferSafe_four : BufferSafe ⟨[3, 4, 5, 6], 0, 3, false, 4⟩ 4 := by
  have h : run [.put [1, 2, 3, 4, 5, 6], .get 3] (new 4) =
      some ([.done, .bytes 3 [3, 4, 5]], ⟨[3, 4, 5, 6], 0, 3, false, 4⟩) := by decide
  exact bufferSafe (by decide) (by decide) h

end CameraController.CircularBuffer
