import CameraController.DecodeLoop
import CameraController.StreamFrames

/-! # Is a message dispatched as soon as it is there?

The decoder compares what it has received with the size of the message only after it
has copied something.  A message without data is complete with its header, but it waits
for a byte of whatever comes next, and the copy it is then found complete behind has
no last byte for `i` to point to.

`prompt_iff` says for which streams, whatever the chunks, that does not happen: for
those in which no frame announces the size zero. -/
namespace CameraController.MessageDecoder

open RawMemory Streaming

/-- In `RECEIVING_DATA` there is a message, and it misses a byte. -/
def MissesData (d : MessageDecoder) : Prop :=
  d.state = .receivingData → ∃ m, d.message = some m ∧ d.receivedData < m.size

/-- A turn in `RECEIVING_DATA` has a byte to copy. -/
def LoopTurn.Copies (data : List UInt8) (t : LoopTurn) : Prop :=
  t.decoder.state = .receivingData → 1 ≤ t.sz data

variable {ε ω : Type}

/-- Each call of `decode`, when it returns, leaves no complete message behind, and each
of its copies copies something. -/
def Prompt (handler : Message → Except (Fault ε) ω) : MessageDecoder → List (List UInt8) → Prop
  | _, [] => True
  | d, chunk :: chunks =>
    (∀ fuel, ∀ t ∈ turns handler fuel d chunk 0, t.Copies chunk) ∧
      ∀ d' answers, decode handler d chunk = .ok (d', answers) →
        d'.MissesData ∧ Prompt handler d' chunks

/-! ## Messages that miss something -/

theorem missesData_of_state {d : MessageDecoder} (h : d.state ≠ .receivingData) : d.MissesData :=
  fun hs => absurd hs h

theorem missesData_receiving (d : MessageDecoder) (type : UInt8) (size : Nat) (got : List UInt8) :
    (d.receiving type size got).MissesData ↔ got.length < size := by
  simp [MissesData, receiving, Message.received]

/-- A turn of a valid decoder copies something when the message misses something. -/
theorem Valid.copies_iff {d : MessageDecoder} (hd : d.Valid) {data : List UInt8}
    (hfit : data.length < 2 ^ 64) {i : Nat} (hi : i < data.length) :
    LoopTurn.Copies data ⟨d, i⟩ ↔ d.MissesData := by
  by_cases hs : d.state = .receivingData
  · obtain ⟨type, size, got, he, hsize, hle⟩ := hd.exists_receiving hs
    rw [he, missesData_receiving, LoopTurn.Copies, sz_receiving hfit hi d type hsize hle]
    simp only [receiving, true_implies]
    omega
  · exact iff_of_true (fun h => absurd h hs) (missesData_of_state hs)

/-- The decoder misses something at every byte of the stream. -/
abbrev MissesThroughout : MessageDecoder → List UInt8 → Prop := Throughout accept MissesData

theorem missesThroughout_append (d : MessageDecoder) (l m : List UInt8) :
    d.MissesThroughout (l ++ m) ↔ d.MissesThroughout l ∧ (d.consume l).1.MissesThroughout m :=
  throughout_append accept d l m

/-! ## The turns of a call -/

/-- Copying goes on as long as something is missing. -/
theorem missesThroughout_receiving (d : MessageDecoder) (type : UInt8) {size : Nat} :
    ∀ (xs got : List UInt8), got.length < size → got.length + xs.length ≤ size →
      MissesThroughout (d.receiving type size got) xs
  | [], got, hgot, _ => (missesData_receiving d type size got).mpr hgot
  | b :: xs, got, hgot, h => by
      rw [List.length_cons] at h
      refine ⟨(missesData_receiving d type size got).mpr hgot, ?_⟩
      by_cases hlast : got.length + 1 < size
      · rw [accept_receiving d type hlast]
        exact missesThroughout_receiving d type xs (got ++ [b]) (by simpa using hlast)
          (by rw [List.length_append, List.length_singleton]; omega)
      · obtain rfl : size = got.length + 1 := by omega
        obtain rfl : xs = [] := List.eq_nil_of_length_eq_zero (by omega)
        rw [accept_last]
        exact missesData_of_state (by simp [finished])

/-- A turn that copies something reads on, and misses something at each byte it reads. -/
theorem Advances.reads {data : List UInt8} {d : MessageDecoder} {i j : Nat}
    {r : MessageDecoder × List Message} (h : Advances data d i r j) (hmisses : d.MissesData) :
    i < j ∧ (MissesThroughout d (data.drop i) ↔ MissesThroughout r.1 (data.drop j)) := by
  cases h with
  | @header _ hs i b rest hdrop =>
    have hrest : data.drop (i + 1) = rest := by rw [← List.drop_drop, hdrop]; rfl
    refine ⟨Nat.lt_succ_self _, ?_⟩
    simp only [hdrop, hrest, Throughout, accept_header hs]
    exact and_iff_right hmisses
  | @copies d type size n i got hsize hgot hi hn =>
    have hsplit : data.drop i = (data.drop i).take n ++ data.drop (i + n) := by
      rw [← List.drop_drop, List.take_append_drop]
    have hcopied := missesThroughout_receiving d type ((data.drop i).take n) got hgot
      (by rw [List.length_take, List.length_drop]; omega)
    refine ⟨by omega, ?_⟩
    conv_lhs => rw [hsplit]
    exact (missesThroughout_append _ _ _).trans (and_iff_right hcopied)
  | empty d type =>
    rw [missesData_receiving] at hmisses
    exact absurd hmisses (Nat.lt_irrefl 0)

section Turns
variable (h : Message → ω) {data : List UInt8}

/-- What holds of all turns holds of the first and of those behind it. -/
theorem forall_turns_iff {P : LoopTurn → Prop} {d d' : MessageDecoder} {i j : Nat}
    (hturns : ∀ fuel, turns (ε := ε) (fun m => .ok (h m)) (fuel + 1) d data i =
      ⟨d, i⟩ :: turns (ε := ε) (fun m => .ok (h m)) fuel d' data j) :
    (∀ fuel, ∀ t ∈ turns (ε := ε) (fun m => .ok (h m)) fuel d data i, P t) ↔
      P ⟨d, i⟩ ∧ ∀ fuel, ∀ t ∈ turns (ε := ε) (fun m => .ok (h m)) fuel d' data j, P t := by
  constructor
  · intro hall
    refine ⟨hall 1 ⟨d, i⟩ ?_, fun fuel t ht => hall (fuel + 1) t ?_⟩
    · rw [hturns]
      exact List.mem_cons_self
    · rw [hturns]
      exact List.mem_cons_of_mem _ ht
  · rintro ⟨hfirst, hrest⟩ fuel t ht
    cases fuel with
    | zero => exact absurd ht List.not_mem_nil
    | succ fuel =>
      rw [hturns] at ht
      rcases List.mem_cons.mp ht with rfl | ht
      · exact hfirst
      · exact hrest fuel t ht

/-- **The turns of a call copy something, and nothing complete is left,** exactly when
the decoder misses something at every byte.  By induction on what is left. -/
theorem copies_iff_throughout (hfit : data.length < 2 ^ 64) (left : Nat) {d : MessageDecoder}
    (hd : d.Valid) {i : Nat} (hleft : i + left = data.length) :
    ((∀ fuel, ∀ t ∈ turns (ε := ε) (fun m => .ok (h m)) fuel d data i, t.Copies data) ∧
      (d.consume (data.drop i)).1.MissesData) ↔ MissesThroughout d (data.drop i) := by
  induction left using Nat.strongRecOn generalizing d i with
  | ind left ih =>
    by_cases hi : i < data.length
    · obtain ⟨r, j, hadvances, hturns⟩ := turns_succ (ε := ε) hfit hi h hd
      have hle := hadvances.le_length
      rw [forall_turns_iff h hturns, hd.copies_iff hfit hi, hadvances.consume_eq]
      by_cases hmisses : d.MissesData
      · obtain ⟨hlt, hiff⟩ := hadvances.reads hmisses
        rw [hiff, ← ih (data.length - j) (by omega) hadvances.valid (by omega)]
        simp only [hmisses, true_and]
      · exact iff_of_false (fun hall => hmisses hall.1.1) (fun hall => hmisses hall.head)
    · obtain rfl : i = data.length := by omega
      simp [turns_end h hi, Throughout]

/-- **Calls that are prompt** read a stream in which something is missing at every
byte. -/
theorem prompt_iff_throughout {d : MessageDecoder} (hd : d.Valid) (hmisses : d.MissesData)
    {chunks : List (List UInt8)} (hchunks : ∀ chunk ∈ chunks, chunk.length < 2 ^ 64) :
    Prompt (ε := ε) (fun m => .ok (h m)) d chunks ↔ MissesThroughout d chunks.flatten := by
  induction chunks generalizing d with
  | nil => exact iff_of_true trivial hmisses
  | cons chunk chunks ih =>
    rw [List.forall_mem_cons] at hchunks
    obtain ⟨hchunk, hchunks⟩ := hchunks
    have hcall := copies_iff_throughout (ε := ε) h hchunk chunk.length hd (Nat.zero_add _)
    rw [List.drop_zero] at hcall
    have hdecode : decode (ε := ε) (fun m => .ok (h m)) d chunk =
        .ok ((d.consume chunk).1, (d.consume chunk).2.map h) := by
      rw [decode_eq _ hd hchunk, deliver_ok]
    have hvalid := consume_valid hd chunk
    rw [List.flatten_cons, missesThroughout_append, ← hcall]
    constructor
    · rintro ⟨hcopies, hreturns⟩
      obtain ⟨hleft, hrest⟩ := hreturns _ _ hdecode
      exact ⟨⟨hcopies, hleft⟩, (ih hvalid hleft hchunks).mp hrest⟩
    · rintro ⟨⟨hcopies, hleft⟩, hrest⟩
      refine ⟨hcopies, fun d' answers hd' => ?_⟩
      obtain ⟨rfl, -⟩ := Prod.mk.inj (Except.ok.inj (hdecode.symm.trans hd'))
      exact ⟨hleft, (ih hvalid hleft hchunks).mpr hrest⟩

end Turns

/-! ## Frames of size zero -/

/-- Where the protocol expects a frame, one is announced that has no data. -/
def AnnouncesNone (data : List UInt8) : Prop :=
  ∃ garbage type rest, Delimited garbage ∧ data = garbage ++ frame type [] ++ rest

/-- As long as something is missing, a byte lengthens what is held, or leads back to
`START`. -/
theorem Holds.accept_cases {d : MessageDecoder} {tail : List UInt8} (h : d.Holds tail)
    (hmisses : d.MissesData) (b : UInt8) :
    (d.accept b).1.state = .start ∨ (d.accept b).1.Holds (tail ++ [b]) := by
  by_cases hs : d.state = .receivingData
  · simp only [Holds, hs] at h
    obtain ⟨type, low, high, got, he, -, rfl⟩ := h
    rw [he, missesData_receiving] at hmisses
    rw [he]
    by_cases hlast : got.length + 1 < announcedSize low high
    · rw [accept_receiving d type hlast, List.append_assoc]
      exact Or.inr (holds_receiving d type (Or.inl (by simpa using hlast)))
    · have hsize : announcedSize low high = got.length + 1 := by omega
      rw [hsize, accept_last]
      exact Or.inl rfl
  · rw [accept_header hs]
    exact h.header_cases hs b

/-- A decoder that has a message and misses nothing has read the header of a frame
without data. -/
theorem Holds.eq_frame {d : MessageDecoder} {tail : List UInt8} (h : d.Holds tail)
    (hmisses : ¬ d.MissesData) : ∃ type, tail = frame type [] := by
  have hs : d.state = .receivingData := by
    by_contra hs
    exact hmisses (missesData_of_state hs)
  simp only [Holds, hs] at h
  obtain ⟨type, low, high, got, he, hgot, rfl⟩ := h
  rw [he, missesData_receiving] at hmisses
  obtain ⟨hzero, rfl⟩ := hgot.resolve_left hmisses
  exact ⟨type, (frame_eq type (show ([] : List UInt8).length = _ from hzero.symm)).symm⟩

/-- **The first time that nothing is missing** is behind such a header.  By induction on
the stream; what has been read of it ends with what the decoder holds. -/
theorem announcesNone_of_not_throughout {e d : MessageDecoder} (he : e.state = .start)
    {garbage tail : List UInt8} (hgarbage : Delimited garbage) (htail : d.Holds tail)
    (hd : d = (e.consume (garbage ++ tail)).1) {data : List UInt8}
    (h : ¬ MissesThroughout d data) : AnnouncesNone (garbage ++ tail ++ data) := by
  induction data generalizing d garbage tail with
  | nil =>
    obtain ⟨type, rfl⟩ := htail.eq_frame h
    exact ⟨garbage, type, [], hgarbage, rfl⟩
  | cons b data ih =>
    by_cases hmisses : d.MissesData
    · have hrest : ¬ MissesThroughout (d.accept b).1 data := fun hrest => h ⟨hmisses, hrest⟩
      have hread : (d.accept b).1 = (e.consume (garbage ++ tail ++ [b])).1 := by
        rw [consume_append, ← hd]
        rfl
      rw [show garbage ++ tail ++ b :: data = garbage ++ (tail ++ [b]) ++ data by simp]
      rw [List.append_assoc] at hread
      rcases htail.accept_cases hmisses b with hstart | hholds
      · have hdelimited := (consume_start_iff he _).mp (hread ▸ hstart)
        rw [← List.append_nil (garbage ++ (tail ++ [b]))] at hread ⊢
        exact ih hdelimited (holds_start hstart) hread hrest
      · exact ih hgarbage hholds hread hrest
    · obtain ⟨type, rfl⟩ := htail.eq_frame hmisses
      exact ⟨garbage, type, b :: data, hgarbage, rfl⟩

theorem not_throughout_of_announcesNone {d : MessageDecoder} (hs : d.state = .start)
    {data : List UInt8} (h : AnnouncesNone data) : ¬ MissesThroughout d data := by
  obtain ⟨garbage, type, rest, hgarbage, rfl⟩ := h
  intro hall
  have hstart := start_of_delimited hgarbage hs
  rw [List.append_assoc] at hall
  have hframe := ((missesThroughout_append _ _ _).mp ((missesThroughout_append _ _ _).mp hall).2).1
  have hheader := hframe.last
  have hread := consume_header hstart type 0 0
  rw [show frame type [] = [magicWord1, magicWord2, type, 0, 0] from rfl] at hheader
  rw [show feed accept = consume from rfl, hread] at hheader
  exact absurd ((missesData_receiving _ _ _ _).mp hheader) (by decide)

/-- **Messages are dispatched as soon as they are there**, in any chunks, exactly when no
frame announces the size zero. -/
theorem prompt_iff (h : Message → ω) {chunks : List (List UInt8)}
    (hchunks : ∀ chunk ∈ chunks, chunk.length < 2 ^ 64) :
    Prompt (ε := ε) (fun m => .ok (h m)) {} chunks ↔ ¬ AnnouncesNone chunks.flatten := by
  have hmisses : ({} : MessageDecoder).MissesData := missesData_of_state (by decide)
  rw [prompt_iff_throughout h new_valid hmisses hchunks]
  constructor
  · intro hall hnone
    exact not_throughout_of_announcesNone rfl hnone hall
  · intro hnone
    by_contra hall
    exact hnone (announcesNone_of_not_throughout (e := {}) rfl .nil (holds_start rfl) rfl hall)

/-- A message of one byte, in three chunks. -/
theorem prompt_oneByte :
    Prompt (ε := Empty) record {} [[0x54, 0xF0, 0x01], [0x01, 0x00], [0x2A]] := by
  refine (prompt_iff id (by decide)).mpr ?_
  rintro ⟨garbage, type, rest, -, h⟩
  match garbage with
  | [] => simp [frame] at h
  | [_] => simp [frame, magicWord1] at h
  | _ :: _ :: _ =>
    have hlen := congrArg List.length h
    simp [frame] at hlen
    omega

/-- A message without data is left waiting for the next one. -/
theorem not_prompt_empty :
    ¬ Prompt (ε := Empty) record {} [[0x54, 0xF0, 0x01, 0x00, 0x00]] := by
  rintro ⟨-, hreturns⟩
  obtain ⟨m, hm, hlt⟩ := (hreturns _ _ rfl).1 rfl
  obtain rfl := Option.some.inj hm
  exact absurd hlt (by decide)

end CameraController.MessageDecoder
