import CameraController.DecoderStream

/-! # The turns of the decoder's loop

A turn of the loop in `MessageDecoder::decode` may copy many bytes, and one that
dispatches a message without data steps back and looks at the same byte again.
`turns` lists the turns of a call: the decoder and the index each begins with.
`loopSafe` says of all of them, whatever the decoder has been fed before, that no turn
leaves its blocks, that none visits a byte that two before it have visited, and that the
loop ends. -/
namespace CameraController.MessageDecoder

open RawMemory Streaming

/-- Where a turn of the loop begins. -/
structure LoopTurn where
  decoder : MessageDecoder
  index : Nat
  deriving DecidableEq, Repr

namespace LoopTurn

variable (data : List UInt8) (t : LoopTurn)

/-- `sz`. -/
def sz : Nat :=
  match t.decoder.message with
  | none => 0
  | some m => min (sub64 data.length t.index) (sub64 m.size t.decoder.receivedData)

/-- The bytes a turn looks at or copies, and the byte it stands at. -/
def Visits (j : Nat) : Prop :=
  t.index ≤ j ∧ j < t.index + if t.decoder.state = .receivingData then max 1 (t.sz data) else 1

instance (j : Nat) : Decidable (t.Visits data j) :=
  inferInstanceAs (Decidable (_ ∧ _))

/-- The `memcpy` of a turn stays in its blocks, and what is subtracted is not more
than what it is subtracted from. -/
structure CopyFits (m : Message) : Prop where
  allocated : m.data.length = m.size
  received : t.decoder.receivedData ≤ m.size
  left : sub64 data.length t.index = data.length - t.index
  missing : sub64 m.size t.decoder.receivedData = m.size - t.decoder.receivedData
  source : t.index + t.sz data ≤ data.length
  destination : t.decoder.receivedData + t.sz data ≤ m.size

/-- A turn reads and writes what it may. -/
structure InBounds : Prop where
  index : t.index < data.length
  copy : t.decoder.state = .receivingData →
    ∃ m, t.decoder.message = some m ∧ t.CopyFits data m

end LoopTurn

variable {ε ω : Type}

/-- The turns of the loop, for at most `fuel` tests of its condition. -/
def turns (handler : Message → Except (Fault ε) ω) :
    Nat → MessageDecoder → List UInt8 → Nat → List LoopTurn
  | 0, _, _, _ => []
  | fuel + 1, d, data, i =>
    if i < data.length then
      ⟨d, i⟩ :: match body handler d data i with
        | .ok (d, _, i) => turns handler fuel d data (u64 (i + 1))
        | .error _ => []
    else
      []

/-- **A call that goes well**: it returns, however many tests of the condition it may
make beyond those it needs; all its turns stay in bounds, and at most two of them visit
a byte. -/
structure LoopSafe (h : Message → ω) (d : MessageDecoder) (data : List UInt8) : Prop where
  returns : ∃ r, ∀ fuel, 2 * data.length < fuel →
    loop (ε := ε) (fun m => .ok (h m)) fuel d data 0 = .ok r
  inBounds : ∀ fuel, ∀ t ∈ turns (ε := ε) (fun m => .ok (h m)) fuel d data 0, t.InBounds data
  twice : ∀ fuel j,
    (turns (ε := ε) (fun m => .ok (h m)) fuel d data 0).countP (fun t => t.Visits data j) ≤ 2

/-! ## One turn -/

variable {data : List UInt8}

theorem turns_end (h : Message → ω) {i : Nat} (hi : ¬ i < data.length) (d : MessageDecoder)
    (fuel : Nat) : turns (ε := ε) (fun m => .ok (h m)) fuel d data i = [] := by
  cases fuel with
  | zero => rfl
  | succ fuel => rw [turns, if_neg hi]

section Turn
variable (hfit : data.length < 2 ^ 64) {i : Nat}
include hfit

/-- **The turns of a call**, one after the other. -/
theorem turns_succ (hi : i < data.length) (h : Message → ω) {d : MessageDecoder} (hd : d.Valid) :
    ∃ r j, Advances data d i r j ∧ ∀ fuel,
      turns (ε := ε) (fun m => .ok (h m)) (fuel + 1) d data i =
        ⟨d, i⟩ :: turns (ε := ε) (fun m => .ok (h m)) fuel r.1 data j := by
  obtain ⟨r, i', hadvances, hbody⟩ := hd.advances (ε := ε) (fun m => .ok (h m)) hfit hi
  rw [deliver_ok] at hbody
  exact ⟨r, _, hadvances, fun fuel => by rw [turns, if_pos hi, hbody]; rfl⟩

/-- What a turn in `RECEIVING_DATA` copies. -/
theorem sz_receiving (hi : i < data.length) (d : MessageDecoder) (type : UInt8) {size : Nat}
    {got : List UInt8} (hsize : size < 2 ^ 16) (hgot : got.length ≤ size) :
    LoopTurn.sz data ⟨d.receiving type size got, i⟩ =
      min (data.length - i) (size - got.length) := by
  have hleft : sub64 data.length i = data.length - i := sub64_of_le hfit (Nat.le_of_lt hi)
  have hmissing : sub64 size got.length = size - got.length := sub64_of_le (by omega) hgot
  simp only [LoopTurn.sz, receiving, Message.received, hleft, hmissing]

/-- **A turn of a valid decoder is in bounds.** -/
theorem Valid.inBounds {d : MessageDecoder} (hd : d.Valid) (hi : i < data.length) :
    LoopTurn.InBounds data ⟨d, i⟩ := by
  refine ⟨hi, fun hs => ?_⟩
  obtain ⟨type, size, got, he, hsize, hle⟩ := hd.exists_receiving hs
  have hsz := sz_receiving hfit hi d type hsize hle
  rw [← he] at hsz
  have hcount : d.receivedData = got.length := by rw [he]; rfl
  refine ⟨Message.received type size got, by rw [he]; rfl, ?_, ?_, ?_, ?_, ?_, ?_⟩
  · simp only [Message.received, List.length_append, List.length_map, List.length_replicate]
    omega
  · simpa only [hcount, Message.received_size] using hle
  · exact sub64_of_le hfit (Nat.le_of_lt hi)
  · simp only [hcount]
    exact sub64_of_le (Nat.lt_trans hsize (by decide)) hle
  · rw [hsz]
    simp only
    omega
  · rw [hsz]
    simp only [hcount, Message.received_size]
    omega

/-- What a turn visits, the next one does not, unless it looks at the byte afresh. -/
theorem Advances.visits {d : MessageDecoder} {r : MessageDecoder × List Message} {j k : Nat}
    (h : Advances data d i r j) (hk : LoopTurn.Visits data ⟨d, i⟩ k) :
    k < j ∨ j = k ∧ r.1.state ≠ .receivingData := by
  obtain ⟨hle, hlt⟩ := hk
  cases h with
  | header hs hb =>
    rw [if_neg hs] at hlt
    exact Or.inl hlt
  | copies d type hsize hgot hi hn =>
    rw [sz_receiving hfit hi d type hsize (Nat.le_of_lt hgot), ← hn] at hlt
    simp only [receiving, if_true] at hlt
    omega
  | empty d type hi =>
    have hsz := sz_receiving hfit hi d type (show 0 < 2 ^ 16 by decide)
      (show ([] : List UInt8).length ≤ 0 from Nat.le_refl 0)
    rw [hsz] at hlt
    simp only [receiving, if_true, List.length_nil, Nat.sub_zero, Nat.min_zero] at hlt hle
    exact Or.inr ⟨by omega, by simp [finished]⟩

/-! ## All turns -/

variable (h : Message → ω)

/-- Every turn begins behind the first one, with a valid decoder. -/
theorem turns_forall {d : MessageDecoder} (hd : d.Valid) (fuel : Nat) :
    ∀ t ∈ turns (ε := ε) (fun m => .ok (h m)) fuel d data i,
      t.decoder.Valid ∧ i ≤ t.index ∧ t.index < data.length := by
  induction fuel generalizing d i with
  | zero => exact fun t ht => absurd ht List.not_mem_nil
  | succ fuel ih =>
    by_cases hi : i < data.length
    · obtain ⟨r, j', hadvances, hturns⟩ := turns_succ (ε := ε) hfit hi h hd
      rw [hturns, List.forall_mem_cons]
      refine ⟨⟨hd, Nat.le_refl _, hi⟩, fun t ht => ?_⟩
      obtain ⟨hvalid, hle, hlt⟩ := ih hadvances.valid t ht
      exact ⟨hvalid, Nat.le_trans hadvances.index_le hle, hlt⟩
    · rw [turns_end h hi]
      exact fun t ht => absurd ht List.not_mem_nil

/-- A byte that is behind is not visited again. -/
theorem countP_visits_eq_zero {d : MessageDecoder} (hd : d.Valid) {j : Nat} (hj : j < i)
    (fuel : Nat) : (turns (ε := ε) (fun m => .ok (h m)) fuel d data i).countP
      (fun t => t.Visits data j) = 0 := by
  rw [List.countP_eq_zero]
  intro t ht hvisits
  have hle := (turns_forall hfit h hd fuel t ht).2.1
  exact absurd (of_decide_eq_true hvisits).1 (by omega)

/-- Where a decoder in a header state stands, one turn visits. -/
theorem countP_visits_header {d : MessageDecoder} (hd : d.Valid) (hs : d.state ≠ .receivingData)
    (fuel : Nat) : (turns (ε := ε) (fun m => .ok (h m)) fuel d data i).countP
      (fun t => t.Visits data i) ≤ 1 := by
  cases fuel with
  | zero => exact Nat.zero_le _
  | succ fuel =>
    by_cases hi : i < data.length
    · obtain ⟨r, j', hadvances, hturns⟩ := turns_succ (ε := ε) hfit hi h hd
      have hvalid := hadvances.valid
      have hbehind : i < j' := by
        cases hadvances with
        | header => exact Nat.lt_succ_self _
        | copies | empty => exact absurd rfl hs
      rw [hturns, List.countP_cons, countP_visits_eq_zero hfit h hvalid hbehind]
      split <;> decide
    · rw [turns_end h hi]
      exact Nat.zero_le _

/-- **No byte is visited by more than two turns.**  By induction on the turns: behind one
that visits the byte comes none, or one that looks at it afresh. -/
theorem countP_visits_le {d : MessageDecoder} (hd : d.Valid) (fuel j : Nat) :
    (turns (ε := ε) (fun m => .ok (h m)) fuel d data i).countP (fun t => t.Visits data j) ≤ 2 := by
  induction fuel generalizing d i with
  | zero => exact Nat.zero_le _
  | succ fuel ih =>
    by_cases hi : i < data.length
    · obtain ⟨r, j', hadvances, hturns⟩ := turns_succ (ε := ε) hfit hi h hd
      have hvalid := hadvances.valid
      rw [hturns, List.countP_cons]
      by_cases hvisits : LoopTurn.Visits data ⟨d, i⟩ j
      · rw [if_pos (by simpa using hvisits)]
        apply Nat.succ_le_succ
        rcases hadvances.visits hfit hvisits with hbehind | ⟨rfl, hs⟩
        · rw [countP_visits_eq_zero hfit h hvalid hbehind]
          exact Nat.zero_le 1
        · exact countP_visits_header hfit h hvalid hs fuel
      · rw [if_neg (by simpa using hvisits)]
        exact ih hvalid
    · rw [turns_end h hi]
      exact Nat.zero_le _

end Turn

/-- **The loop is in bounds and ends**, from every decoder reached and for all data. -/
theorem loopSafe {d : MessageDecoder} (hd : d.Reachable) (h : Message → ω)
    (hfit : data.length < 2 ^ 64) : LoopSafe (ε := ε) h d data := by
  have hvalid := hd.valid
  constructor
  · refine ⟨((d.consume data).1, (d.consume data).2.map h), fun fuel hfuel => ?_⟩
    have hrank := rank_le d data 0
    rw [loop_eq _ hfit hvalid (Nat.zero_le _) (by omega) (by omega), List.drop_zero, deliver_ok]
  · intro fuel t ht
    obtain ⟨hturn, -, hlt⟩ := turns_forall hfit h hvalid fuel t ht
    exact hturn.inBounds hfit hlt
  · exact countP_visits_le hfit h hvalid

/-- A decoder that has received the header of a message without data: its next turn
steps back from the first byte. -/
def headerReceived : MessageDecoder where
  state := .receivingData
  tempType := 1
  message := some (Message.new 1 0)

theorem loopSafe_headerReceived :
    LoopSafe (ε := Empty) Message.size headerReceived [0x54, 0xF0] :=
  loopSafe ⟨[[0x54, 0xF0, 0x01, 0x00, 0x00]], by decide, [], rfl⟩ Message.size (by decide)

end CameraController.MessageDecoder
