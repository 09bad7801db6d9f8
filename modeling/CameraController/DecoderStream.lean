import CameraController.MessageDecoder

/-! # The decoder, one byte at a time

`accept` is what one more byte does to a decoder: in the header states it looks
at the byte, and in `RECEIVING_DATA` it stores it, or, when a message without
data is waiting, dispatches that and looks at the byte afresh.  `consume` reads a
stream with it.

The loop of `MessageDecoder.decode` is the same reading in larger steps.  What one
of them does, `Advances` says once; from it follows what they do together
(`loop_eq`, `decode_eq`): a valid decoder never leaves its blocks, never runs for
ever, and hands the handler the messages `consume` emits, in order, until the
handler throws. -/
namespace CameraController

open RawMemory Streaming

namespace MessageDecoder

/-! ## Header states and received data -/

/-- A byte looked at in a header state. -/
def header (d : MessageDecoder) (b : UInt8) : MessageDecoder :=
  match d.state with
  | .start => if b = magicWord1 then { d with state := .magic1Found } else d
  | .magic1Found =>
    if b = magicWord2 then { d with state := .magic2Found } else { d with state := .start }
  | .magic2Found => { d with tempType := b, state := .typeReceived }
  | .typeReceived => { d with tempSize1 := b, state := .size1Received }
  | .size1Received =>
    { d with
      message := some (Message.new d.tempType (announcedSize d.tempSize1 b)),
      receivedData := 0,
      state := .receivingData }
  | .receivingData => d

/-- A decoder that has received `got` of a message's `size` bytes. -/
def receiving (d : MessageDecoder) (type : UInt8) (size : Nat) (got : List UInt8) :
    MessageDecoder :=
  { d with
    state := .receivingData
    receivedData := got.length
    message := some (Message.received type size got) }

/-- A decoder that has dispatched the message it had received. -/
def finished (d : MessageDecoder) (type : UInt8) (payload : List UInt8) : MessageDecoder :=
  { d with
    state := .start
    receivedData := payload.length
    message := some (Message.complete type payload) }

/-- What one more byte does: the decoder afterwards and the message dispatched. -/
def accept (d : MessageDecoder) (b : UInt8) : MessageDecoder × List Message :=
  match d.state, d.message with
  | .receivingData, some m =>
    if d.receivedData = m.size then
      ({ d with state := .start }.header b, [m])
    else
      let m := { m with data := m.data.set d.receivedData (some b) }
      let d := { d with message := some m, receivedData := d.receivedData + 1 }
      if d.receivedData = m.size then ({ d with state := .start }, [m]) else (d, [])
  | .receivingData, none => (d, [])
  | _, _ => (d.header b, [])

/-- What a stream does. -/
def consume : MessageDecoder → List UInt8 → MessageDecoder × List Message := feed accept

@[simp] theorem consume_nil (d : MessageDecoder) : d.consume [] = (d, []) := rfl

theorem consume_cons (d : MessageDecoder) (b : UInt8) (l : List UInt8) :
    d.consume (b :: l) =
      (((d.accept b).1.consume l).1, (d.accept b).2 ++ ((d.accept b).1.consume l).2) := rfl

theorem consume_append (d : MessageDecoder) (l m : List UInt8) :
    d.consume (l ++ m) =
      (((d.consume l).1.consume m).1, (d.consume l).2 ++ ((d.consume l).1.consume m).2) :=
  feed_append accept d l m

/-- The invariant of the class: in `RECEIVING_DATA` there is a message, and it
still misses data unless it has none. -/
def Valid (d : MessageDecoder) : Prop :=
  d.state = .receivingData → ∃ type size got, d = d.receiving type size got ∧ size < 2 ^ 16 ∧
    (got.length < size ∨ size = 0 ∧ got = [])

/-- In `RECEIVING_DATA` there is a message, and no more has been received than it
holds. -/
theorem Valid.exists_receiving {d : MessageDecoder} (hd : d.Valid)
    (hs : d.state = .receivingData) :
    ∃ type size got, d = d.receiving type size got ∧ size < 2 ^ 16 ∧ got.length ≤ size := by
  obtain ⟨type, size, got, he, hsize, hgot⟩ := hd hs
  refine ⟨type, size, got, he, hsize, ?_⟩
  rcases hgot with hlt | ⟨rfl, rfl⟩
  · exact Nat.le_of_lt hlt
  · exact Nat.le_refl _

/-- The low byte comes first. -/
theorem announcedSize_eq (low high : UInt8) :
    announcedSize low high = low.toNat + 256 * high.toNat := by
  have hl := low.toNat_lt
  have hh := high.toNat_lt
  rw [announcedSize, ← Nat.shiftLeft_add_eq_or_of_lt (by omega), Nat.shiftLeft_eq,
    u16_of_lt (by omega)]
  omega

theorem announcedSize_lt (low high : UInt8) : announcedSize low high < 2 ^ 16 :=
  Nat.mod_lt _ (by decide)

theorem valid_of_state {d : MessageDecoder} (h : d.state ≠ .receivingData) : d.Valid :=
  fun hr => absurd hr h

theorem new_valid : ({} : MessageDecoder).Valid := valid_of_state (by decide)

theorem receiving_valid (d : MessageDecoder) (type : UInt8) {size : Nat} {got : List UInt8}
    (hsize : size < 2 ^ 16) (hgot : got.length < size) : (d.receiving type size got).Valid :=
  fun _ => ⟨type, size, got, rfl, hsize, Or.inl hgot⟩

theorem header_valid {d : MessageDecoder} (h : d.state ≠ .receivingData) (b : UInt8) :
    (d.header b).Valid := by
  cases hs : d.state with
  | size1Received =>
    intro _
    refine ⟨d.tempType, announcedSize d.tempSize1 b, [], ?_, announcedSize_lt _ _, ?_⟩
    · simp [header, hs, receiving]
    · rcases Nat.eq_zero_or_pos (announcedSize d.tempSize1 b) with h0 | hpos
      · exact Or.inr ⟨h0, rfl⟩
      · exact Or.inl hpos
  | receivingData => exact absurd hs h
  | start | magic1Found =>
    apply valid_of_state
    simp only [header, hs]
    split <;> simp [hs]
  | magic2Found | typeReceived =>
    apply valid_of_state
    simp [header, hs]

/-! ## One byte -/

theorem accept_header {d : MessageDecoder} (h : d.state ≠ .receivingData) (b : UInt8) :
    d.accept b = (d.header b, []) := by
  unfold accept
  cases hs : d.state with
  | receivingData => exact absurd hs h
  | _ => rfl

theorem accept_receiving (d : MessageDecoder) (type : UInt8) {size : Nat} {got : List UInt8}
    (h : got.length + 1 < size) (b : UInt8) :
    (d.receiving type size got).accept b = (d.receiving type size (got ++ [b]), []) := by
  have hset := Message.received_set type (show got.length < size by omega) b
  simp only [accept, receiving, Message.received_type, Message.received_size,
    if_neg (show ¬ got.length = size by omega), if_neg (show ¬ got.length + 1 = size by omega),
    hset, List.length_append, List.length_singleton]

theorem accept_last (d : MessageDecoder) (type : UInt8) (got : List UInt8) (b : UInt8) :
    (d.receiving type (got.length + 1) got).accept b =
      (d.finished type (got ++ [b]), [Message.complete type (got ++ [b])]) := by
  have hset := Message.received_set type (Nat.lt_succ_self got.length) b
  have hall := Message.received_all type (got ++ [b])
  rw [List.length_append, List.length_singleton] at hall
  simp only [accept, receiving, finished, Message.received_type, Message.received_size,
    if_neg (show ¬ got.length = got.length + 1 by omega), hset, hall, if_true,
    List.length_append, List.length_singleton]

/-- A message without data goes out when the next byte comes, and that byte is
looked at afresh. -/
theorem accept_empty (d : MessageDecoder) (type : UInt8) (b : UInt8) :
    (d.receiving type 0 []).accept b =
      ((d.finished type []).header b, [Message.complete type []]) := by
  simp [accept, receiving, finished, Message.received, Message.complete]

/-- What one more byte can do to a valid decoder. -/
inductive Accepts (b : UInt8) : MessageDecoder → MessageDecoder × List Message → Prop
  | header {d : MessageDecoder} (hs : d.state ≠ .receivingData) : Accepts b d (d.header b, [])
  | more (d : MessageDecoder) (type : UInt8) {size : Nat} {got : List UInt8}
      (hsize : size < 2 ^ 16) (h : got.length + 1 < size) :
      Accepts b (d.receiving type size got) (d.receiving type size (got ++ [b]), [])
  | last (d : MessageDecoder) (type : UInt8) (got : List UInt8) :
      Accepts b (d.receiving type (got.length + 1) got)
        (d.finished type (got ++ [b]), [Message.complete type (got ++ [b])])
  | empty (d : MessageDecoder) (type : UInt8) :
      Accepts b (d.receiving type 0 []) ((d.finished type []).header b, [Message.complete type []])

/-- **One more byte** does one of these things. -/
theorem Valid.accepts {d : MessageDecoder} (hd : d.Valid) (b : UInt8) :
    Accepts b d (d.accept b) := by
  by_cases hs : d.state = .receivingData
  · obtain ⟨type, size, got, he, hsize, hgot⟩ := hd hs
    rw [he]
    rcases hgot with hgot | ⟨rfl, rfl⟩
    · by_cases hlast : got.length + 1 < size
      · rw [accept_receiving d type hlast]
        exact .more d type hsize hlast
      · obtain rfl : size = got.length + 1 := by omega
        rw [accept_last]
        exact .last d type got
    · rw [accept_empty]
      exact .empty d type
  · rw [accept_header hs]
    exact .header hs

theorem accept_valid {d : MessageDecoder} (hd : d.Valid) (b : UInt8) : (d.accept b).1.Valid := by
  have haccepts := hd.accepts b
  generalize d.accept b = r at haccepts ⊢
  cases haccepts with
  | header hs => exact header_valid hs b
  | more d type hsize h => exact receiving_valid d type hsize (by simpa using h)
  | last d type got => exact valid_of_state (by simp [finished])
  | empty d type => exact header_valid (by simp [finished]) b

theorem consume_valid {d : MessageDecoder} (hd : d.Valid) (data : List UInt8) :
    (d.consume data).1.Valid :=
  feed_invariant (P := Valid) accept (fun _ b h => accept_valid h b) hd data

/-- What is dispatched has all its data. -/
theorem accept_complete {d : MessageDecoder} (hd : d.Valid) (b : UInt8) :
    ∀ m ∈ (d.accept b).2, ∃ type payload, m = Message.complete type payload := by
  have haccepts := hd.accepts b
  generalize d.accept b = r at haccepts ⊢
  cases haccepts <;> simp

theorem consume_complete {d : MessageDecoder} (hd : d.Valid) (data : List UInt8) :
    ∀ m ∈ (d.consume data).2, ∃ type payload, m = Message.complete type payload :=
  feed_forall accept (P := Valid) (fun _ b h => accept_valid h b)
    (fun _ b h => accept_complete h b) hd data

/-! ## Several bytes of data -/

theorem consume_receiving (d : MessageDecoder) (type : UInt8) (size : Nat) :
    ∀ (xs got : List UInt8), got.length + xs.length < size →
      (d.receiving type size got).consume xs = (d.receiving type size (got ++ xs), [])
  | [], got, _ => by simp
  | b :: xs, got, h => by
      rw [List.length_cons] at h
      have ih := consume_receiving d type size xs (got ++ [b]) (by simp; omega)
      rw [consume_cons, accept_receiving d type (by omega), ih]
      simp

/-- **The last bytes of the data complete the message.** -/
theorem consume_rest (d : MessageDecoder) (type : UInt8) (got : List UInt8) {xs : List UInt8}
    (hne : xs ≠ []) :
    (d.receiving type (got.length + xs.length) got).consume xs =
      (d.finished type (got ++ xs), [Message.complete type (got ++ xs)]) := by
  obtain ⟨ys, b, rfl⟩ : ∃ ys b, xs = ys ++ [b] :=
    ⟨_, _, (List.dropLast_concat_getLast hne).symm⟩
  have hfront := consume_receiving d type (got.length + (ys ++ [b]).length) ys got
    (by simp)
  have hlast := accept_last d type (got ++ ys) b
  rw [List.length_append] at hlast
  rw [consume_append, hfront, consume_cons, List.length_append, List.length_singleton,
    ← Nat.add_assoc, hlast]
  simp

/-! ## The loop -/

variable {ε ω : Type} (handler : Message → Except (Fault ε) ω)

theorem byteAt_eq {data : List UInt8} {i : Nat} {b : UInt8} {rest : List UInt8}
    (h : data.drop i = b :: rest) : byteAt (ε := ε) data i = .ok b := by
  have hget : data[i]? = some b := by
    rw [← List.head?_drop, h, List.head?_cons]
  simp [byteAt, hget]

theorem body_header {d : MessageDecoder} (hs : d.state ≠ .receivingData) {data : List UInt8}
    {i : Nat} {b : UInt8} {rest : List UInt8} (h : data.drop i = b :: rest) :
    body handler d data i = .ok (d.header b, [], i) := by
  unfold body header
  cases hst : d.state with
  | receivingData => exact absurd hst hs
  | _ => simp [byteAt_eq h, bind, Except.bind, pure, Except.pure]

/-- The bytes a turn of the loop copies. -/
def slice (data : List UInt8) (i left : Nat) : List UInt8 :=
  (data.drop i).take (min (data.length - i) left)

theorem length_slice (data : List UInt8) (i left : Nat) :
    (slice data i left).length = min (data.length - i) left := by
  rw [slice, List.length_take, List.length_drop]; omega

theorem memcpy_received (type : UInt8) {size : Nat} {got data : List UInt8} {i : Nat}
    (hgot : got.length ≤ size) (hi : i ≤ data.length) :
    memcpy (Message.received type size got).data got.length (data.map some) i
        (min (data.length - i) (size - got.length)) =
      some (Message.received type size (got ++ slice data i (size - got.length))).data := by
  have hlen := length_slice data i (size - got.length)
  rw [memcpy_eq (by simp only [Message.received, List.length_append, List.length_map,
      List.length_replicate]; omega) (by rw [List.length_map]; omega)]
  have hcut : ((data.map some).drop i).take (min (data.length - i) (size - got.length)) =
      (slice data i (size - got.length)).map some := by
    rw [slice, List.map_take, List.map_drop]
  rw [hcut]
  simp only [RingBuffer.splice, Message.received, List.length_map, List.map_append,
    List.length_append]
  rw [List.take_append_of_le_length (by simp), List.take_of_length_le (by simp),
    List.drop_append, List.drop_of_length_le (by simp), List.length_map, List.drop_replicate]
  have hmissing : size - got.length -
      (got.length + (slice data i (size - got.length)).length - got.length) =
        size - (got.length + (slice data i (size - got.length)).length) := by omega
  simp only [List.nil_append, List.append_assoc, hmissing]

/-- A turn of the loop in `RECEIVING_DATA`: everything at hand that belongs to
the message is copied. -/
theorem body_receiving (d : MessageDecoder) (type : UInt8) {size : Nat} {got data : List UInt8}
    {i : Nat} (hsize : size < 2 ^ 16) (hgot : got.length ≤ size) (hi : i ≤ data.length)
    (hfit : data.length < 2 ^ 64) :
    body handler (d.receiving type size got) data i =
      let all := got ++ slice data i (size - got.length)
      let next := u64 (i + sub64 (min (data.length - i) (size - got.length)) 1)
      if all.length = size then
        (handler (Message.received type size all)).map fun answer =>
          ({ d.receiving type size all with state := .start }, [answer], next)
      else
        .ok (d.receiving type size all, [], next) := by
  have hlen := length_slice data i (size - got.length)
  have hsub : sub64 data.length i = data.length - i := sub64_of_le hfit hi
  have hleft : sub64 size got.length = size - got.length := sub64_of_le (by omega) hgot
  have hcount : u64 (got.length + min (data.length - i) (size - got.length)) =
      (got ++ slice data i (size - got.length)).length := by
    rw [List.length_append, hlen, u64_of_lt (by omega)]
  have hcopy := memcpy_received type hgot hi
  simp only [Message.received] at hcopy
  simp only [body, receiving, Message.received, hsub, hleft, hcopy, hcount, dispatch]
  split
  · cases handler _ <;> rfl
  · rfl

/-! ## The turns of the loop -/

/-- What a turn of the loop does that begins at index `i`: the decoder and the messages
it leaves, and the index the next turn begins at. -/
inductive Advances (data : List UInt8) :
    MessageDecoder → Nat → MessageDecoder × List Message → Nat → Prop
  /-- A byte is looked at. -/
  | header {d : MessageDecoder} (hs : d.state ≠ .receivingData) {i : Nat} {b : UInt8}
      {rest : List UInt8} (h : data.drop i = b :: rest) :
      Advances data d i (d.header b, []) (i + 1)
  /-- All the bytes at hand that belong to the message are copied. -/
  | copies (d : MessageDecoder) (type : UInt8) {size n i : Nat} {got : List UInt8}
      (hsize : size < 2 ^ 16) (hgot : got.length < size) (hi : i < data.length)
      (hn : n = min (data.length - i) (size - got.length)) :
      Advances data (d.receiving type size got) i
        ((d.receiving type size got).consume ((data.drop i).take n)) (i + n)
  /-- A message without data is dispatched, and nothing is read. -/
  | empty (d : MessageDecoder) (type : UInt8) {i : Nat} (hi : i < data.length) :
      Advances data (d.receiving type 0 []) i (d.finished type [], [Message.complete type []]) i

/-- How many turns may be left: two for each byte, and one for a message that is being
received. -/
def rank (d : MessageDecoder) (data : List UInt8) (i : Nat) : Nat :=
  2 * (data.length - i) + if d.state = .receivingData then 1 else 0

theorem rank_header {d : MessageDecoder} (hs : d.state ≠ .receivingData) (data : List UInt8)
    (i : Nat) : d.rank data i = 2 * (data.length - i) := by
  simp [rank, hs]

theorem rank_receiving (d : MessageDecoder) (type : UInt8) (size : Nat) (got data : List UInt8)
    (i : Nat) : (d.receiving type size got).rank data i = 2 * (data.length - i) + 1 := rfl

theorem rank_le (d : MessageDecoder) (data : List UInt8) (i : Nat) :
    d.rank data i ≤ 2 * (data.length - i) + 1 := by
  unfold rank
  split <;> omega

namespace Advances

variable {data : List UInt8} {d : MessageDecoder} {i j : Nat} {r : MessageDecoder × List Message}

/-- The decoder of the next turn is as good as this one's. -/
theorem valid (h : Advances data d i r j) : r.1.Valid := by
  cases h with
  | header hs _ => exact header_valid hs _
  | copies d type hsize hgot _ _ => exact consume_valid (receiving_valid d type hsize hgot) _
  | empty d type _ => exact valid_of_state (by simp [finished])

theorem index_le (h : Advances data d i r j) : i ≤ j := by
  cases h with
  | header | copies => exact Nat.le_add_right _ _
  | empty => exact Nat.le_refl _

theorem le_length (h : Advances data d i r j) : j ≤ data.length := by
  cases h with
  | header _ hdrop =>
    have hlen := congrArg List.length hdrop
    rw [List.length_drop, List.length_cons] at hlen
    omega
  | copies | empty => omega

/-- **Every turn brings the end of the loop nearer.** -/
theorem rank_lt (h : Advances data d i r j) : r.1.rank data j < d.rank data i := by
  have hle := h.le_length
  have hnext := rank_le r.1 data j
  cases h with
  | header hs _ =>
    rw [rank_header hs]
    omega
  | copies d type hsize hgot hi hn =>
    rw [rank_receiving]
    omega
  | empty d type hi =>
    rw [rank_receiving, rank_header (by simp [finished])]
    exact Nat.lt_succ_self _

/-- **A turn reads the stream byte by byte**, and leaves the rest of it to the next. -/
theorem consume_eq (h : Advances data d i r j) :
    d.consume (data.drop i) =
      ((r.1.consume (data.drop j)).1, r.2 ++ (r.1.consume (data.drop j)).2) := by
  cases h with
  | @header _ hs _ _ rest hdrop =>
    have hrest : data.drop (i + 1) = rest := by rw [← List.drop_drop, hdrop]; rfl
    rw [hdrop, hrest, consume_cons, accept_header hs]
  | @copies d type _ n _ _ _ _ _ _ =>
    have hsplit : data.drop i = (data.drop i).take n ++ data.drop (i + n) := by
      rw [← List.drop_drop, List.take_append_drop]
    conv_lhs => rw [hsplit, consume_append]
  | empty d type hi =>
    have hstart : (d.finished type []).state ≠ .receivingData := by simp [finished]
    simp only [List.drop_eq_getElem_cons hi, consume_cons, accept_empty, accept_header hstart,
      List.nil_append]

end Advances

/-- The loop's increment undoes a step back, through zero if need be. -/
theorem step_back {i : Nat} (hi : i < 2 ^ 64) : u64 (u64 (i + sub64 0 1) + 1) = i := by
  simp only [u64, sub64]; omega

section Turns
variable {data : List UInt8} (hfit : data.length < 2 ^ 64) {i : Nat} (hi : i < data.length)
include hfit hi

/-- Copying the `n` bytes at hand that belong to the message. -/
theorem body_copy (d : MessageDecoder) (type : UInt8) {size n : Nat} {got : List UInt8}
    (hsize : size < 2 ^ 16) (hgot : got.length < size)
    (hn : n = min (data.length - i) (size - got.length)) :
    body handler (d.receiving type size got) data i =
      (deliver handler ((d.receiving type size got).consume ((data.drop i).take n))).map
        fun q => (q.1, q.2, i + n - 1) := by
  have hlen : ((data.drop i).take n).length = n := by
    rw [List.length_take, List.length_drop]; omega
  have hnext : u64 (i + sub64 n 1) = i + n - 1 := by
    rw [sub64_of_le (by omega) (by omega), u64_of_lt (by omega)]; omega
  rw [body_receiving handler d type hsize (Nat.le_of_lt hgot) (Nat.le_of_lt hi) hfit, slice, ← hn,
    hnext]
  simp only [List.length_append, hlen]
  by_cases hall : got.length + n = size
  · obtain rfl := hall
    have hmsg := Message.received_all type (got ++ (data.drop i).take n)
    have hread := consume_rest d type got
      (show (data.drop i).take n ≠ [] from List.ne_nil_of_length_pos (by omega))
    rw [List.length_append, hlen] at hmsg
    rw [hlen] at hread
    rw [if_pos rfl, hmsg, hread, deliver_singleton]
    cases handler (Message.complete type (got ++ (data.drop i).take n)) with
    | error f => rfl
    | ok answer => simp only [Except.map, receiving, finished, hmsg]
  · have hread := consume_receiving d type size ((data.drop i).take n) got (by omega)
    rw [if_neg hall, hread]
    rfl

/-- A message without data is dispatched without reading: the index steps back. -/
theorem body_empty (d : MessageDecoder) (type : UInt8) :
    body handler (d.receiving type 0 []) data i =
      (handler (Message.complete type [])).map fun answer =>
        (d.finished type [], [answer], u64 (i + sub64 0 1)) := by
  rw [body_receiving handler d type (show 0 < 2 ^ 16 by decide)
    (show ([] : List UInt8).length ≤ 0 from Nat.le_refl _) (Nat.le_of_lt hi) hfit]
  simp [slice, Message.received, Message.complete, receiving, finished]

/-- **Every turn of a valid decoder advances**, and hands over what it dispatches. -/
theorem Valid.advances {d : MessageDecoder} (hd : d.Valid) :
    ∃ r i', Advances data d i r (u64 (i' + 1)) ∧
      body handler d data i = (deliver handler r).map fun q => (q.1, q.2, i') := by
  by_cases hs : d.state = .receivingData
  · obtain ⟨type, size, got, he, hsize, hgot⟩ := hd hs
    rw [he]
    rcases hgot with hgot | ⟨rfl, rfl⟩
    · obtain ⟨n, hn⟩ : ∃ n, n = min (data.length - i) (size - got.length) := ⟨_, rfl⟩
      refine ⟨_, i + n - 1, ?_, body_copy handler hfit hi d type hsize hgot hn⟩
      rw [u64_of_lt (by omega), show i + n - 1 + 1 = i + n by omega]
      exact .copies d type hsize hgot hi hn
    · refine ⟨(d.finished type [], [Message.complete type []]), u64 (i + sub64 0 1), ?_, ?_⟩
      · rw [step_back (by omega)]
        exact .empty d type hi
      · rw [body_empty handler hfit hi d type, deliver_singleton]
        cases handler (Message.complete type []) <;> rfl
  · have hdrop := List.drop_eq_getElem_cons hi
    refine ⟨(d.header data[i], []), i, ?_, body_header handler hs hdrop⟩
    rw [u64_of_lt (by omega)]
    exact .header hs hdrop

end Turns

/-! ## All turns -/

theorem loop_end (d : MessageDecoder) (data : List UInt8) (fuel : Nat) :
    loop handler (fuel + 1) d data data.length = .ok (d, []) := by
  simp [loop, pure, Except.pure]

/-- A turn whose rest reads the rest of the stream. -/
theorem loop_turn {d : MessageDecoder} {data : List UInt8} {fuel i i' : Nat}
    (hi : i < data.length) {r rest : MessageDecoder × List Message}
    (h : body handler d data i = (deliver handler r).map fun q => (q.1, q.2, i'))
    (hrest : loop handler fuel r.1 data (u64 (i' + 1)) = deliver handler rest) :
    loop handler (fuel + 1) d data i = deliver handler (rest.1, r.2 ++ rest.2) := by
  rw [deliver_append handler r.1, ← hrest]
  simp only [loop, hi, if_true, h]
  cases hr : deliver handler r with
  | error f => simp [bind, Except.bind, Except.map]
  | ok q =>
    obtain ⟨hsame, -⟩ := (deliver_eq_ok_iff handler).mp hr
    simp only [bind, Except.bind, Except.map, pure, Except.pure, hsame]

/-- **The loop reads the rest of the chunk byte by byte.**  By induction on the tests of
the condition that are left; there are as many as turns may be. -/
theorem loop_eq {data : List UInt8} (hfit : data.length < 2 ^ 64) {fuel : Nat}
    {d : MessageDecoder} (hd : d.Valid) {i : Nat} (hi : i ≤ data.length) (hpos : 0 < fuel)
    (hfuel : d.rank data i ≤ fuel) :
    loop handler fuel d data i = deliver handler (d.consume (data.drop i)) := by
  induction fuel generalizing d i with
  | zero => exact absurd hpos (Nat.lt_irrefl 0)
  | succ fuel ih =>
    by_cases hend : i = data.length
    · obtain rfl := hend
      rw [loop_end, List.drop_length]
      rfl
    · have hlt : i < data.length := Nat.lt_of_le_of_ne hi hend
      obtain ⟨r, i', hadvances, hbody⟩ := hd.advances handler hfit hlt
      have hrank := hadvances.rank_lt
      have hmany : 2 ≤ d.rank data i := by
        unfold rank
        omega
      rw [hadvances.consume_eq]
      exact loop_turn handler hlt hbody
        (ih hadvances.valid hadvances.le_length (by omega) (by omega))

/-- **`decode` reads its chunk byte by byte** and hands over, in order, the
messages completed on the way. -/
theorem decode_eq {d : MessageDecoder} (hd : d.Valid) {data : List UInt8}
    (hfit : data.length < 2 ^ 64) :
    decode handler d data = deliver handler (d.consume data) := by
  have hrank := rank_le d data 0
  rw [decode, loop_eq handler hfit hd (Nat.zero_le _) (by omega) (by omega), List.drop_zero]

/-- **Chunks are invisible.** -/
theorem decodeAll_eq {d : MessageDecoder} (hd : d.Valid) (chunks : List (List UInt8))
    (hfit : ∀ chunk ∈ chunks, chunk.length < 2 ^ 64) :
    decodeAll handler d chunks = deliver handler (d.consume chunks.flatten) := by
  induction chunks generalizing d with
  | nil => rfl
  | cons chunk chunks ih =>
    have hchunk := hfit chunk (List.mem_cons_self ..)
    have hrest := ih (consume_valid hd chunk) fun c hc => hfit c (List.mem_cons_of_mem _ hc)
    rw [List.flatten_cons, consume_append, deliver_append handler (d.consume chunk).1, ← hrest,
      decodeAll, decode_eq handler hd hchunk]
    cases hm : deliver handler (d.consume chunk) with
    | error f => rfl
    | ok r =>
      simp only [bind, Except.bind, ((deliver_eq_ok_iff handler).mp hm).1]
      cases decodeAll handler (d.consume chunk).1 chunks <;> rfl

/-! ## A handler that returns normally -/

/-- The handler that returns normally and answers with the message itself, so
that the answers are the messages dispatched. -/
def record : Message → Except (Fault Empty) Message := .ok

theorem deliver_record (r : MessageDecoder × List Message) : deliver record r = .ok r := by
  have h := deliver_ok (ε := Fault Empty) id r
  rwa [List.map_id] at h

theorem decodeAll_record {d : MessageDecoder} (hd : d.Valid) {chunks : List (List UInt8)}
    (hfit : ∀ chunk ∈ chunks, chunk.length < 2 ^ 64) :
    decodeAll record d chunks = .ok (d.consume chunks.flatten) := by
  rw [decodeAll_eq record hd chunks hfit, deliver_record]

/-- A decoder that chunks received so far, with a handler that returns normally,
have led to. -/
def Reachable (d : MessageDecoder) : Prop :=
  ∃ chunks : List (List UInt8), (∀ chunk ∈ chunks, chunk.length < 2 ^ 64) ∧
    ∃ messages, decodeAll record {} chunks = .ok (d, messages)

theorem Reachable.valid {d : MessageDecoder} (h : d.Reachable) : d.Valid := by
  obtain ⟨chunks, hfit, messages, hrun⟩ := h
  rw [decodeAll_record new_valid hfit, Except.ok.injEq] at hrun
  have hvalid := consume_valid new_valid chunks.flatten
  rwa [hrun] at hvalid

/-- **Where the stream is cut does not matter.**  Decoding `a` and then `b`
dispatches what decoding `a ++ b` dispatches and leaves the same decoder, and so
does decoding the same bytes in any chunks. -/
theorem decode_append {d : MessageDecoder} (hd : d.Reachable) (h : Message → ω)
    {a b : List UInt8} (hfit : (a ++ b).length < 2 ^ 64) :
    ∃ d₁ d₂ w₁ w₂,
      decode (ε := ε) (fun m => .ok (h m)) d a = .ok (d₁, w₁) ∧
      decode (ε := ε) (fun m => .ok (h m)) d₁ b = .ok (d₂, w₂) ∧
      decode (ε := ε) (fun m => .ok (h m)) d (a ++ b) = .ok (d₂, w₁ ++ w₂) ∧
      ∀ chunks : List (List UInt8), chunks.flatten = a ++ b →
        decodeAll (ε := ε) (fun m => .ok (h m)) d chunks = .ok (d₂, w₁ ++ w₂) := by
  have hv := hd.valid
  have hva := consume_valid hv a
  rw [List.length_append] at hfit
  refine ⟨(d.consume a).1, ((d.consume a).1.consume b).1, (d.consume a).2.map h,
    ((d.consume a).1.consume b).2.map h, ?_, ?_, ?_, fun chunks hflat => ?_⟩
  · rw [decode_eq _ hv (by omega), deliver_ok]
  · rw [decode_eq _ hva (by omega), deliver_ok]
  · rw [decode_eq _ hv (by rw [List.length_append]; omega), deliver_ok, consume_append,
      List.map_append]
  · have hchunks : ∀ chunk ∈ chunks, chunk.length < 2 ^ 64 := by
      intro chunk hchunk
      have hle := (List.sublist_flatten_of_mem hchunk).length_le
      rw [hflat, List.length_append] at hle
      omega
    rw [decodeAll_eq _ hv chunks hchunks, deliver_ok, hflat, consume_append, List.map_append]

theorem new_reachable : ({} : MessageDecoder).Reachable :=
  ⟨[], fun _ h => absurd h List.not_mem_nil, [], rfl⟩

/-- A message without data, cut after its header, is dispatched with the byte that follows. -/
theorem decode_append_empty :
    ∃ d₁ d₂,
      decode (ε := Empty) (fun m => .ok m.type) {} [0x54, 0xF0, 0x01, 0x00, 0x00] =
        .ok (d₁, []) ∧
      decode (ε := Empty) (fun m => .ok m.type) d₁ [0x54] = .ok (d₂, [0x01]) ∧
      decode (ε := Empty) (fun m => .ok m.type) {} ([0x54, 0xF0, 0x01, 0x00, 0x00] ++ [0x54]) =
        .ok (d₂, [0x01]) ∧
      ∀ chunks : List (List UInt8),
        chunks.flatten = [0x54, 0xF0, 0x01, 0x00, 0x00] ++ [0x54] →
        decodeAll (ε := Empty) (fun m => .ok m.type) {} chunks = .ok (d₂, [0x01]) := by
  obtain ⟨d₁, d₂, w₁, w₂, hfirst, hsecond, hboth, hall⟩ :=
    decode_append (ε := Empty) new_reachable Message.type
      (show ([0x54, 0xF0, 0x01, 0x00, 0x00] ++ [0x54] : List UInt8).length < 2 ^ 64 by decide)
  obtain ⟨_, hnone⟩ : ∃ d, decode (ε := Empty) (fun m => .ok m.type) {}
      [0x54, 0xF0, 0x01, 0x00, 0x00] = .ok (d, []) := ⟨_, rfl⟩
  obtain ⟨_, hone⟩ : ∃ d, decode (ε := Empty) (fun m => .ok m.type) {}
      ([0x54, 0xF0, 0x01, 0x00, 0x00] ++ [0x54]) = .ok (d, [0x01]) := ⟨_, rfl⟩
  obtain ⟨rfl, rfl⟩ := Prod.mk.inj (Except.ok.inj (hfirst.symm.trans hnone))
  obtain ⟨-, rfl⟩ := Prod.mk.inj (Except.ok.inj (hboth.symm.trans hone))
  exact ⟨d₁, d₂, hfirst, hsecond, hboth, hall⟩

end MessageDecoder
end CameraController
