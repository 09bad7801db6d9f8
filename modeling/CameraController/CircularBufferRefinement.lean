import CameraController.CircularBuffer

/-! # The send buffer is a drop-oldest queue

Each operation of a valid buffer is defined, keeps the buffer valid, and acts on
`contents` as the queue operation does: `put` pushes and drops the oldest bytes
(`put_spec`), `get` takes from the front (`get_spec`, `getByte_spec`),
`currentSize` counts (`currentSize_eq`).  A run of any operations from a fresh
buffer therefore answers what the queue answers (`run_refines_queue`). -/
namespace CameraController

open RawMemory RingBuffer

namespace CircularBuffer

variable {cb : CircularBuffer}

/-- A position less than one turn past the end wraps by one subtraction. -/
theorem mod_of_lt_two_mul {x n : Nat} (h : x < 2 * n) :
    x % n = if x < n then x else x - n := by
  split
  · exact Nat.mod_eq_of_lt ‹_›
  · rw [Nat.mod_eq_sub_mod (by omega), Nat.mod_eq_of_lt (by omega)]

/-- A nonempty buffer whose head is `m` cells ahead of its tail stores `m` bytes. -/
theorem stored_of_ahead {m : Nat} (hne : cb.empty = false) (htail : cb.tail < cb.size)
    (hhead : cb.head = (cb.tail + m) % cb.size) (hpos : 0 < m) (hle : m ≤ cb.size) :
    cb.stored = m := by
  rw [mod_of_lt_two_mul (by omega)] at hhead
  rw [stored, hne, hhead]
  simp only [Bool.false_eq_true, if_false]
  split <;> split <;> omega

/-! ## `put` -/

/-- The two copies write the input from the head on. -/
theorem copyIn_spec (hv : cb.Valid) {values : List UInt8} (hlen : values.length ≤ cb.size) :
    ∃ b, cb.copyIn (cb.head + values.length) values values.length = some b ∧
      b.length = cb.size ∧
      b.rotate cb.head = values ++ (cb.buffer.rotate cb.head).drop values.length := by
  have hsz := hv.size_le
  have hh := hv.head_lt
  have hb := hv.length_buffer
  unfold copyIn
  split
  · have hsub : u32 (sub64 cb.size cb.head) = cb.size - cb.head := by
      rw [sub64_of_le (by omega) (by omega), u32_of_lt (by omega)]
    have hrest : sub64 values.length (cb.size - cb.head) =
        values.length - (cb.size - cb.head) := sub64_of_le (by omega) (by omega)
    have hfront : (values.take (cb.size - cb.head)).length = cb.size - cb.head := by
      rw [List.length_take]; omega
    have hback : (values.drop (cb.size - cb.head)).length =
        values.length - (cb.size - cb.head) := List.length_drop
    have hsplice : (splice cb.buffer cb.head (values.take (cb.size - cb.head))).length =
        cb.buffer.length := length_splice (by omega)
    have hfirst : memcpy cb.buffer cb.head values 0 (cb.size - cb.head) =
        some (splice cb.buffer cb.head (values.take (cb.size - cb.head))) := by
      rw [memcpy_eq (by omega) (by omega), List.drop_zero]
    have hsecond : memcpy (splice cb.buffer cb.head (values.take (cb.size - cb.head))) 0 values
        (cb.size - cb.head) (values.length - (cb.size - cb.head)) =
          some (splice (splice cb.buffer cb.head (values.take (cb.size - cb.head))) 0
            (values.drop (cb.size - cb.head))) := by
      rw [memcpy_eq (by omega) (by omega),
        List.take_of_length_le (l := values.drop _) (Nat.le_of_eq hback)]
    refine ⟨splice (splice cb.buffer cb.head (values.take (cb.size - cb.head))) 0
      (values.drop (cb.size - cb.head)), ?_, ?_, ?_⟩
    · simp only [hsub, hrest, hfirst, Option.bind_eq_bind, Option.bind_some, hsecond]
    · rw [length_splice (by omega), hsplice, hb]
    · rw [rotate_splice_wrapped (by omega) (by omega), List.take_append_drop, hfront, hback,
        Nat.add_sub_of_le (by omega)]
  · have hsub : sub32 (cb.head + values.length) cb.head = values.length := by
      rw [sub32_of_le (by omega) (by omega)]; omega
    refine ⟨splice cb.buffer cb.head values, ?_, ?_, ?_⟩
    · rw [hsub, memcpy_eq (by omega) (by omega), List.drop_zero, List.take_length]
    · rw [length_splice (by omega), hb]
    · rw [rotate_splice (by omega)]

/-- Where `putFitting` leaves the tail: at the new head when bytes were
overwritten, else where it was.  Either way the new head is ahead of it by what
is then stored. -/
theorem putFitting_eq (hv : cb.Valid) {values : List UInt8} (hlen : values.length ≤ cb.size)
    {b : List UInt8} (hb : cb.copyIn (cb.head + values.length) values values.length = some b) :
    ∃ t, cb.putFitting values values.length =
        some ⟨b, (cb.head + values.length) % cb.size, t, false, cb.size⟩ ∧ t < cb.size ∧
      (cb.head + values.length) % cb.size =
        (t + min cb.size (cb.stored + values.length)) % cb.size := by
  have hsz := hv.size_le
  have hh := hv.head_lt
  have ht := hv.tail_lt
  have hst := stored_le hv
  have hnew : u32 (u64 (cb.head + values.length)) = cb.head + values.length := by
    rw [u32_u64, u32_of_lt (by omega)]
  have hturn : u32 (u64 (cb.tail + cb.size)) = cb.tail + cb.size := by
    rw [u32_u64, u32_of_lt (by omega)]
  -- the unwrapped tail, which is one turn behind the head less what is stored
  obtain ⟨u, hu⟩ : ∃ u, u = if cb.tail ≥ cb.head then cb.tail else cb.tail + cb.size := ⟨_, rfl⟩
  have hmod : u % cb.size = cb.tail := by
    rw [hu]
    split
    · exact Nat.mod_eq_of_lt ht
    · rw [Nat.add_mod_right, Nat.mod_eq_of_lt ht]
  have hput : cb.putFitting values values.length =
      some ⟨b, (cb.head + values.length) % cb.size,
        (if cb.head ≤ u ∧ cb.head + values.length > u ∧ cb.empty = false
          then cb.head + values.length else u) % cb.size, false, cb.size⟩ := by
    simp only [putFitting, hnew, hturn, ← hu, hb, mod?_eq _ hv.size_pos, Option.bind_eq_bind,
      Option.bind_some, Option.pure_def]
  refine ⟨_, hput, Nat.mod_lt _ hv.size_pos, ?_⟩
  by_cases hover : cb.head ≤ u ∧ cb.head + values.length > u ∧ cb.empty = false
  · have hfull : cb.size ≤ cb.stored + values.length := by
      rw [stored, hover.2.2]
      simp only [Bool.false_eq_true, if_false]
      split at hu <;> split <;> omega
    rw [if_pos hover, Nat.min_eq_left hfull, Nat.mod_add_mod, Nat.add_mod_right]
  · have hfit : cb.stored + values.length ≤ cb.size := by
      cases he : cb.empty with
      | true => rw [(stored_eq_zero hv).mpr he]; omega
      | false =>
        simp only [he, and_true, not_and_or] at hover
        rw [stored, he]
        simp only [Bool.false_eq_true, if_false]
        split at hu <;> split <;> omega
    rw [if_neg hover, hmod, Nat.min_eq_right hfit, head_eq hv, Nat.mod_add_mod, Nat.add_assoc]

theorem putFitting_spec (hv : cb.Valid) (values : List UInt8) (hpos : 0 < values.length)
    (hlen : values.length ≤ cb.size) :
    ∃ cb', cb.putFitting values values.length = some cb' ∧ cb'.Valid ∧ cb'.size = cb.size ∧
      cb'.contents = push cb.size cb.contents values := by
  obtain ⟨b, hb, hblen, hrot⟩ := copyIn_spec hv hlen
  obtain ⟨t, hput, ht, hahead⟩ := putFitting_eq hv hlen hb
  refine ⟨_, hput, ⟨hv.size_pos, hv.size_le, hblen, Nat.mod_lt _ hv.size_pos, ht, by simp⟩,
    rfl, ?_⟩
  have hpos' := hv.size_pos
  have hstored : stored ⟨b, (cb.head + values.length) % cb.size, t, false, cb.size⟩ =
      min cb.size (cb.stored + values.length) :=
    stored_of_ahead rfl ht hahead (by omega) (Nat.min_le_left _ _)
  have hring : b.rotate ((cb.head + values.length) % cb.size) =
      (cb.buffer.rotate cb.head).drop values.length ++ values := by
    rw [← hblen, List.rotate_mod, ← List.rotate_rotate, hrot, List.rotate_append_length_eq]
  have hst := stored_le hv
  rw [contents, hstored, hring, contents]
  rw [← length_rotate_head hv] at hlen hst ⊢
  exact rtake_drop_append hst hlen

/-- **`put` pushes**: it never fails, and the bytes stored are the last `size` of
those stored before and the input. -/
theorem put_spec (hv : cb.Valid) (values : List UInt8) :
    ∃ cb', cb.put values = some cb' ∧ cb'.Valid ∧ cb'.size = cb.size ∧
      cb'.contents = push cb.size cb.contents values := by
  have hq : cb.contents.length ≤ cb.size := by
    rw [length_contents hv]; exact stored_le hv
  unfold put
  split
  · rename_i hnil
    rw [List.length_eq_zero_iff.mp hnil, push_nil hq]
    exact ⟨cb, rfl, hv, rfl, rfl⟩
  · split
    · rename_i hlong
      have hcut : (values.drop (values.length - cb.size)).length = cb.size := by
        rw [List.length_drop]; omega
      have := putFitting_spec hv (values.drop (values.length - cb.size))
        (by rw [hcut]; exact hv.size_pos) (Nat.le_of_eq hcut)
      rw [hcut] at this
      rw [← push_rtake]
      exact this
    · exact putFitting_spec hv values (by omega) (by omega)

/-! ## `get` -/

/-- The two copies read what is stored from the tail on. -/
theorem copyOut_spec (hv : cb.Valid) {n : Nat} (hn : n ≤ cb.stored) :
    cb.copyOut (cb.tail + n) n = some (cb.contents.take n) := by
  have hsz := hv.size_le
  have ht := hv.tail_lt
  have hb := hv.length_buffer
  have hst := stored_le hv
  rw [← rotate_tail_take hv hn]
  unfold copyOut
  split
  · have hsub : u32 (sub64 cb.size cb.tail) = cb.size - cb.tail := by
      rw [sub64_of_le (by omega) (by omega), u32_of_lt (by omega)]
    have hrest : sub64 n (cb.size - cb.tail) = n - (cb.size - cb.tail) :=
      sub64_of_le (by omega) (by omega)
    have hfront : (cb.buffer.drop cb.tail).take (cb.size - cb.tail) = cb.buffer.drop cb.tail :=
      List.take_of_length_le (by rw [List.length_drop]; omega)
    simp only [hsub, hrest]
    rw [readBlock_eq (by omega), readBlock_eq (by omega),
      rotate_take_wrapped (by omega) (by omega) (by omega), hfront, hb, List.drop_zero]
    rfl
  · rw [readBlock_eq (by omega), rotate_take_contiguous (by omega)]

theorem getClamped_spec (hv : cb.Valid) (empty : Bool) {n : Nat} (hn : n ≤ cb.stored)
    (he : empty = true ↔ n = cb.stored) :
    ∃ cb', cb.getClamped (cb.tail + n) n empty = some (n, cb.contents.take n, cb') ∧
      cb'.Valid ∧ cb'.size = cb.size ∧ cb'.contents = cb.contents.drop n := by
  have ht := hv.tail_lt
  have hst := stored_le hv
  have hhead := head_eq hv
  refine ⟨{ cb with tail := (cb.tail + n) % cb.size, empty }, ?_, ?_, rfl, ?_⟩
  · simp [getClamped, copyOut_spec hv hn, mod?_eq _ hv.size_pos]
  · refine ⟨hv.size_pos, hv.size_le, hv.length_buffer, hv.head_lt, Nat.mod_lt _ hv.size_pos, ?_⟩
    intro hem
    show cb.head = (cb.tail + n) % cb.size
    rw [hhead, he.mp hem]
  · have hleft : stored { cb with tail := (cb.tail + n) % cb.size, empty } = cb.stored - n := by
      cases hem : empty with
      | true => simp [stored, he.mp hem]
      | false =>
        have hne : n ≠ cb.stored := fun h => by simp [he.mpr h] at hem
        refine stored_of_ahead rfl (Nat.mod_lt _ hv.size_pos) ?_ (by omega) (by simp only; omega)
        show cb.head = ((cb.tail + n) % cb.size + (cb.stored - n)) % cb.size
        rw [hhead, Nat.mod_add_mod]
        congr 1
        omega
    rw [contents, hleft, contents]
    exact (drop_rtake n (by rw [length_rotate_head hv]; exact hst)).symm

/-- **`get` takes from the front**: it never fails, and delivers the oldest
`length` bytes, or all there are. -/
theorem get_spec (hv : cb.Valid) (length : Nat) :
    ∃ cb', cb.get length =
        some (min length cb.contents.length, cb.contents.take length, cb') ∧
      cb'.Valid ∧ cb'.size = cb.size ∧ cb'.contents = cb.contents.drop length := by
  have hsz := hv.size_le
  have hh := hv.head_lt
  have ht := hv.tail_lt
  have hlen := length_contents hv
  unfold get
  cases he : cb.empty with
  | true =>
    have hnil := (contents_eq_nil hv).mpr he
    exact ⟨cb, by simp [hnil], hv, rfl, by simp [hnil]⟩
  | false =>
    have hpos := stored_pos hv he
    have hmax : (if (if cb.head < cb.tail then u32 (u64 (cb.head + cb.size)) else cb.head) =
          cb.tail ∧ cb.empty = false then cb.size
        else sub32 (if cb.head < cb.tail then u32 (u64 (cb.head + cb.size)) else cb.head)
          cb.tail) = cb.stored := by
      rw [u32_u64, u32_of_lt (by omega : cb.head + cb.size < 2 ^ 32), stored, he]
      simp only [and_true, Bool.false_eq_true, if_false]
      by_cases hlt : cb.head < cb.tail
      · rw [if_pos hlt, if_neg (by omega), sub32_of_le (by omega) (by omega), if_neg (by omega)]
      · rw [if_neg hlt]
        by_cases heq : cb.head = cb.tail
        · rw [if_pos heq, if_neg (by omega), heq, Nat.add_sub_cancel_left]
        · rw [if_neg heq, sub32_of_le (by omega) (by omega), if_pos (by omega)]
    simp only [he] at hmax
    simp only [Bool.false_eq_true, if_false, hmax]
    have hst := stored_le hv
    by_cases hall : cb.stored ≤ length
    · obtain ⟨cb', hget, hv', hs', hc'⟩ := getClamped_spec hv true (Nat.le_refl _)
        (iff_of_true rfl rfl)
      rw [if_pos hall, u32_u64, u32_of_lt (by omega), hlen, Nat.min_eq_right hall]
      refine ⟨cb', ?_, hv', hs', ?_⟩
      · rw [hget, ← hlen, List.take_length, List.take_of_length_le (by omega)]
      · rw [hc', List.drop_of_length_le (by omega), List.drop_of_length_le (by omega)]
    · obtain ⟨cb', hget, hv', hs', hc'⟩ := getClamped_spec hv cb.empty
        (show length ≤ cb.stored by omega) (by simp [he]; omega)
      rw [if_neg hall, u32_u64, u32_of_lt (by omega), hlen, Nat.min_eq_left (by omega)]
      rw [he] at hget
      exact ⟨cb', hget, hv', hs', hc'⟩

/-- The cell under the tail holds the oldest byte. -/
theorem getElem_tail (hv : cb.Valid) (hne : cb.empty = false) :
    cb.buffer[cb.tail]? = cb.contents.head? := by
  have hone := congrArg List.head? (rotate_tail_take hv (stored_pos hv hne))
  rw [List.head?_take, List.head?_take, if_neg (by omega), if_neg (by omega)] at hone
  rw [← hone, List.head?_rotate (by rw [hv.length_buffer]; exact hv.tail_lt)]

/-- **`get` of one byte**: nothing is written when nothing is stored. -/
theorem getByte_spec (hv : cb.Valid) :
    ∃ cb', cb.getByte = some (min 1 cb.contents.length, cb.contents.take 1, cb') ∧ cb'.Valid ∧
      cb'.size = cb.size ∧ cb'.contents = cb.contents.drop 1 := by
  have hsz := hv.size_le
  have ht := hv.tail_lt
  have hlen := length_contents hv
  unfold getByte
  cases he : cb.empty with
  | true =>
    have hnil := (contents_eq_nil hv).mpr he
    exact ⟨cb, by simp [hnil], hv, rfl, by simp [hnil]⟩
  | false =>
    have hpos : 1 ≤ cb.stored := stored_pos hv he
    obtain ⟨val, hval⟩ : ∃ val, cb.contents.head? = some val := by
      rw [← Option.isSome_iff_exists, List.isSome_head?]
      exact List.ne_nil_of_length_pos (by omega)
    have hmeet : ((cb.tail + 1) % cb.size == cb.head) = true ↔ 1 = cb.stored := by
      have hst := stored_le hv
      have hhead := head_eq hv
      rw [beq_iff_eq, hhead]
      rw [mod_of_lt_two_mul (by omega), mod_of_lt_two_mul (by omega)]
      split <;> split <;> omega
    obtain ⟨cb', hget, hv', hs', hc'⟩ := getClamped_spec hv _ hpos hmeet
    refine ⟨cb', ?_, hv', hs', hc'⟩
    rw [hlen, Nat.min_eq_left hpos, ← hget]
    simp [getClamped, copyOut_spec hv hpos, getElem_tail hv he, hval, mod?_eq _ hv.size_pos,
      u32_of_lt (by omega : cb.tail + 1 < 2 ^ 32), List.take_one]

/-! ## Runs -/

/-- The public operations. -/
inductive Operation where
  | putByte (val : UInt8)
  | put (values : List UInt8)
  | getByte
  | get (length : Nat)
  | currentSize
  deriving DecidableEq, Repr

/-- What an operation returns: nothing, a count and the bytes written for the
caller, or a size. -/
inductive Answer where
  | done
  | bytes (count : Nat) (written : List UInt8)
  | size (n : Nat)
  deriving DecidableEq, Repr

/-- One operation of the class. -/
def perform : Operation → CircularBuffer → Option (Answer × CircularBuffer)
  | .putByte val, cb => (cb.putByte val).map fun cb' => (.done, cb')
  | .put values, cb => (cb.put values).map fun cb' => (.done, cb')
  | .getByte, cb => cb.getByte.map fun (count, written, cb') => (.bytes count written, cb')
  | .get length, cb =>
    (cb.get length).map fun (count, written, cb') => (.bytes count written, cb')
  | .currentSize, cb => some (.size cb.currentSize, cb)

/-- The same operation of a queue that keeps its last `cap` bytes. -/
def performQueue (cap : Nat) : Operation → List UInt8 → Answer × List UInt8
  | .putByte val, q => (.done, push cap q [val])
  | .put values, q => (.done, push cap q values)
  | .getByte, q => (.bytes (min 1 q.length) (q.take 1), q.drop 1)
  | .get length, q => (.bytes (min length q.length) (q.take length), q.drop length)
  | .currentSize, q => (.size q.length, q)

/-- A run of the class. -/
def run : List Operation → CircularBuffer → Option (List Answer × CircularBuffer)
  | [], cb => some ([], cb)
  | op :: ops, cb => do
    let (answer, cb) ← perform op cb
    let (answers, cb) ← run ops cb
    return (answer :: answers, cb)

/-- The same run of the queue. -/
def runQueue (cap : Nat) : List Operation → List UInt8 → List Answer × List UInt8
  | [], q => ([], q)
  | op :: ops, q =>
    let (answer, q) := performQueue cap op q
    let (answers, q) := runQueue cap ops q
    (answer :: answers, q)

theorem perform_spec (hv : cb.Valid) (op : Operation) :
    ∃ cb', perform op cb = some ((performQueue cb.size op cb.contents).1, cb') ∧ cb'.Valid ∧
      cb'.size = cb.size ∧ cb'.contents = (performQueue cb.size op cb.contents).2 := by
  cases op with
  | putByte val =>
    obtain ⟨cb', h, hrest⟩ := put_spec hv [val]
    exact ⟨cb', by simp [perform, performQueue, putByte, h], hrest⟩
  | put values =>
    obtain ⟨cb', h, hrest⟩ := put_spec hv values
    exact ⟨cb', by simp [perform, performQueue, h], hrest⟩
  | getByte =>
    obtain ⟨cb', h, hrest⟩ := getByte_spec hv
    exact ⟨cb', by simp [perform, performQueue, h], hrest⟩
  | get length =>
    obtain ⟨cb', h, hrest⟩ := get_spec hv length
    exact ⟨cb', by simp [perform, performQueue, h], hrest⟩
  | currentSize =>
    exact ⟨cb, by simp [perform, performQueue, currentSize_eq hv], hv, rfl, rfl⟩

theorem run_spec (ops : List Operation) (hv : cb.Valid) :
    ∃ cb', run ops cb = some ((runQueue cb.size ops cb.contents).1, cb') ∧ cb'.Valid ∧
      cb'.size = cb.size ∧ cb'.contents = (runQueue cb.size ops cb.contents).2 := by
  induction ops generalizing cb with
  | nil => exact ⟨cb, rfl, hv, rfl, rfl⟩
  | cons op ops ih =>
    obtain ⟨cb₁, hop, hv₁, hs₁, hc₁⟩ := perform_spec hv op
    obtain ⟨cb₂, hrun, hv₂, hs₂, hc₂⟩ := ih hv₁
    rw [hs₁, hc₁] at hrun hc₂
    refine ⟨cb₂, ?_, hv₂, hs₂.trans hs₁, hc₂⟩
    simp [run, runQueue, hop, hrun]

/-- **The send buffer refines the drop-oldest queue.**  Whatever is asked of a
fresh buffer, every call is defined and answers what the queue answers; and
whenever the indices meet, `empty` tells the empty queue from the full one. -/
theorem run_refines_queue (size : Nat) (hpos : 1 ≤ size) (hle : 2 * size ≤ 2 ^ 32)
    (ops : List Operation) :
    ∃ cb, run ops (new size) = some ((runQueue size ops []).1, cb) ∧
      cb.contents = (runQueue size ops []).2 ∧
      (cb.head = cb.tail →
        (cb.empty = true ↔ (runQueue size ops []).2 = []) ∧
        (cb.empty = false ↔ (runQueue size ops []).2.length = size)) := by
  obtain ⟨cb, hrun, hv, hs, hc⟩ := run_spec ops (new_valid hpos hle)
  rw [new_contents] at hrun hc
  change cb.size = size at hs
  refine ⟨cb, hrun, hc, fun hmeet => ?_⟩
  change cb.contents = (runQueue size ops []).2 at hc
  rw [← hc, contents_eq_nil hv, length_contents hv, stored, hmeet, ← hs]
  refine ⟨Iff.rfl, ?_⟩
  cases cb.empty with
  | true => simp; omega
  | false => simp

/-- Six bytes into a ring of four, then three out. -/
theorem run_refines_queue_four :
    ∃ cb, run [.put [1, 2, 3, 4, 5, 6], .get 3, .currentSize] (new 4) =
        some ([.done, .bytes 3 [3, 4, 5], .size 1], cb) ∧
      cb.contents = [6] ∧
      (cb.head = cb.tail → (cb.empty = true ↔ [(6 : UInt8)] = []) ∧
        (cb.empty = false ↔ [(6 : UInt8)].length = 4)) :=
  run_refines_queue 4 (by decide) (by decide) _

end CircularBuffer
end CameraController
