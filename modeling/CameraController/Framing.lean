import CameraController.DecoderStream

/-! # Frames, read by the decoder

From `START`, the bytes of a frame with data dispatch exactly its message and
lead back to `START` (`consume_frame`), so the frames of a stream are read one
after the other (`consume_frames`).  Bytes in which the first magic word does not
occur are skipped (`consume_garbage`).

`Delimited` is the grammar of the streams that end outside a frame, and
`consume_start_iff` says that those are the streams that lead back to `START`. -/
namespace CameraController

/-- Streams that end outside a frame: frames, and bytes that belong to none. -/
inductive Delimited : List UInt8 → Prop
  | nil : Delimited []
  /-- A byte that begins nothing. -/
  | skipped {b : UInt8} {l : List UInt8} (hb : b ≠ magicWord1) (h : Delimited l) :
      Delimited (b :: l)
  /-- A first magic word without the second. -/
  | stray {b : UInt8} {l : List UInt8} (hb : b ≠ magicWord2) (h : Delimited l) :
      Delimited (magicWord1 :: b :: l)
  /-- A frame; one without data is over when something comes behind it. -/
  | framed (type : UInt8) {payload l : List UInt8} (hlt : payload.length < 2 ^ 16)
      (hend : payload ≠ [] ∨ l ≠ []) (h : Delimited l) : Delimited (frame type payload ++ l)

namespace MessageDecoder

/-- A decoder that has read a frame's header up to its size. -/
def addressed (d : MessageDecoder) (type low : UInt8) : MessageDecoder :=
  { d with tempType := type, tempSize1 := low }

theorem announcedSize_frame {n : Nat} (h : n < 2 ^ 16) :
    announcedSize (UInt8.ofNat n) (UInt8.ofNat (n / 256)) = n := by
  rw [announcedSize_eq, UInt8.toNat_ofNat', UInt8.toNat_ofNat']
  omega

/-- The header of a frame. -/
theorem consume_header {d : MessageDecoder} (hs : d.state = .start) (type low high : UInt8) :
    d.consume [magicWord1, magicWord2, type, low, high] =
      ((d.addressed type low).receiving type (announcedSize low high) [], []) := by
  simp [consume_cons, accept, header, hs, addressed, receiving]

/-- **A frame with data is its message.** -/
theorem consume_frame {d : MessageDecoder} (hs : d.state = .start) (type : UInt8)
    {payload : List UInt8} (hpos : 1 ≤ payload.length) (hlt : payload.length < 2 ^ 16) :
    d.consume (frame type payload) =
      ((d.addressed type (UInt8.ofNat payload.length)).finished type payload,
        [Message.complete type payload]) := by
  have hrest := consume_rest (d.addressed type (UInt8.ofNat payload.length)) type []
    (List.ne_nil_of_length_pos hpos)
  rw [List.length_nil, Nat.zero_add, List.nil_append] at hrest
  rw [frame, consume_append, consume_header hs, announcedSize_frame hlt, hrest, List.nil_append]

/-- **Frames with data are their messages, in order.** -/
theorem consume_frames {d : MessageDecoder} (hs : d.state = .start) (type : UInt8)
    {payloads : List (List UInt8)}
    (hbounds : ∀ p ∈ payloads, 1 ≤ p.length ∧ p.length ≤ 0xFFFF) :
    (d.consume (payloads.map (frame type)).flatten).1.state = .start ∧
      (d.consume (payloads.map (frame type)).flatten).2 =
        payloads.map (Message.complete type) := by
  induction payloads generalizing d with
  | nil => exact ⟨hs, rfl⟩
  | cons p payloads ih =>
    obtain ⟨hpos, hle⟩ := hbounds p (by simp)
    have ih := ih (d := (d.addressed type (UInt8.ofNat p.length)).finished type p) rfl
      fun q hq => hbounds q (by simp [hq])
    rw [List.map_cons, List.flatten_cons, consume_append,
      consume_frame hs type hpos (by omega)]
    exact ⟨ih.1, by rw [ih.2]; rfl⟩

/-- In `START`, a byte other than the first magic word changes nothing. -/
theorem accept_skipped {d : MessageDecoder} (hs : d.state = .start) {b : UInt8}
    (hb : b ≠ magicWord1) : d.accept b = (d, []) := by
  rw [accept_header (by rw [hs]; decide)]
  simp [header, hs, hb]

theorem consume_garbage {d : MessageDecoder} (hs : d.state = .start) {data : List UInt8}
    (h : magicWord1 ∉ data) : d.consume data = (d, []) := by
  induction data with
  | nil => rfl
  | cons b data ih =>
    simp only [List.mem_cons, not_or] at h
    rw [consume_cons, accept_skipped hs (Ne.symm h.1), ih h.2]
    rfl

/-! ## Where frames end -/

/-- A first magic word without the second leads back to `START`. -/
theorem consume_stray {d : MessageDecoder} (hs : d.state = .start) {b : UInt8}
    (hb : b ≠ magicWord2) : d.consume [magicWord1, b] = ({ d with state := .start }, []) := by
  simp [consume_cons, accept, header, hs, hb]

/-- What comes behind a frame is read from `START`. -/
theorem consume_frame_append {d : MessageDecoder} (hs : d.state = .start) (type : UInt8)
    {payload l : List UInt8} (hlt : payload.length < 2 ^ 16) (hend : payload ≠ [] ∨ l ≠ []) :
    ∃ e : MessageDecoder, e.state = .start ∧
      (d.consume (frame type payload ++ l)).1 = (e.consume l).1 := by
  by_cases hdata : payload = []
  · obtain ⟨b, l, rfl⟩ := List.exists_cons_of_ne_nil (hend.resolve_left (not_not_intro hdata))
    obtain rfl := hdata
    have hzero : announcedSize (UInt8.ofNat 0) (UInt8.ofNat (0 / 256)) = 0 :=
      announcedSize_frame (by decide)
    refine ⟨(d.addressed type 0).finished type [], rfl, ?_⟩
    rw [frame, List.append_nil, List.length_nil, consume_append, consume_header hs, hzero,
      consume_cons, accept_empty, consume_cons, accept_header (by simp [finished])]
    rfl
  · refine ⟨(d.addressed type (UInt8.ofNat payload.length)).finished type payload, rfl, ?_⟩
    rw [consume_append, consume_frame hs type (List.length_pos_iff.mpr hdata) hlt]

/-- Behind a stream that ends outside a frame the decoder is in `START`. -/
theorem start_of_delimited {data : List UInt8} (h : Delimited data) {d : MessageDecoder}
    (hs : d.state = .start) : (d.consume data).1.state = .start := by
  induction h generalizing d with
  | nil => exact hs
  | skipped hb _ ih =>
    rw [consume_cons, accept_skipped hs hb]
    exact ih hs
  | @stray b l hb _ ih =>
    rw [show magicWord1 :: b :: l = [magicWord1, b] ++ l from rfl, consume_append,
      consume_stray hs hb]
    exact ih rfl
  | framed type hlt hend _ ih =>
    obtain ⟨e, he, hrest⟩ := consume_frame_append hs type hlt hend
    rw [hrest]
    exact ih he

/-- A header announces the size of its frame. -/
theorem frame_eq (type : UInt8) {low high : UInt8} {payload : List UInt8}
    (h : payload.length = announcedSize low high) :
    frame type payload = [magicWord1, magicWord2, type, low, high] ++ payload := by
  have hlow := low.toNat_lt
  have hhigh := high.toNat_lt
  have hl : UInt8.ofNat payload.length = low := by
    rw [← UInt8.toNat_inj, UInt8.toNat_ofNat', h, announcedSize_eq]
    omega
  have hh : UInt8.ofNat (payload.length / 256) = high := by
    rw [← UInt8.toNat_inj, UInt8.toNat_ofNat', h, announcedSize_eq]
    omega
  rw [frame, hl, hh]

/-- Behind the magic words, `START` is only reached at the end of a frame. -/
theorem exists_frame {d : MessageDecoder} (hs : d.state = .start) {l : List UInt8}
    (h : (d.consume (magicWord1 :: magicWord2 :: l)).1.state = .start) :
    ∃ type payload rest, magicWord1 :: magicWord2 :: l = frame type payload ++ rest ∧
      payload.length < 2 ^ 16 ∧ (payload ≠ [] ∨ rest ≠ []) := by
  match l with
  | [] | [_] | [_, _] => simp [consume_cons, accept, header, hs] at h
  | type :: low :: high :: l =>
    have hheader := consume_header hs type low high
    have hsplit : magicWord1 :: magicWord2 :: type :: low :: high :: l =
      [magicWord1, magicWord2, type, low, high] ++ l := rfl
    rw [hsplit, consume_append, hheader] at h
    -- the data is there, or the decoder still waits for it
    by_cases hmissing : l.length < announcedSize low high
    · rw [consume_receiving _ _ _ _ _ (by simpa using hmissing)] at h
      cases h
    · have hlen : (l.take (announcedSize low high)).length = announcedSize low high := by
        rw [List.length_take]; omega
      refine ⟨type, l.take (announcedSize low high), l.drop (announcedSize low high), ?_, ?_, ?_⟩
      · rw [frame_eq type hlen, hsplit, List.append_assoc, List.take_append_drop]
      · rw [hlen]; exact announcedSize_lt low high
      · by_contra hnone
        push Not at hnone
        have hnil : l = [] := by
          rw [← List.take_append_drop (announcedSize low high) l, hnone.1, hnone.2]
          rfl
        rw [hnil, consume_nil] at h
        cases h

/-- **The decoder is in `START` exactly behind a stream that ends outside a
frame.**  By induction on the length of the stream. -/
theorem consume_start_iff {d : MessageDecoder} (hs : d.state = .start) (data : List UInt8) :
    (d.consume data).1.state = .start ↔ Delimited data := by
  refine ⟨?_, fun h => start_of_delimited h hs⟩
  induction hn : data.length using Nat.strongRecOn generalizing d data with
  | ind n ih =>
    intro h
    match data with
    | [] => exact .nil
    | b :: l =>
      by_cases hb : b = magicWord1
      · obtain rfl := hb
        match l with
        | [] => simp [consume_cons, accept, header, hs] at h
        | c :: l =>
          by_cases hc : c = magicWord2
          · obtain rfl := hc
            obtain ⟨type, payload, rest, heq, hlt, hend⟩ := exists_frame hs h
            obtain ⟨e, he, hrest⟩ := consume_frame_append hs type hlt hend
            have hshort : rest.length < n := by
              rw [← hn, heq, List.length_append, length_frame, msgHeaderSize]
              omega
            rw [heq] at h ⊢
            exact .framed type hlt hend (ih _ hshort he _ rfl (hrest ▸ h))
          · rw [show magicWord1 :: c :: l = [magicWord1, c] ++ l from rfl, consume_append,
              consume_stray hs hc] at h
            exact .stray hc (ih l.length (by simp only [← hn, List.length_cons]; omega) rfl l rfl h)
      · rw [consume_cons, accept_skipped hs hb] at h
        exact .skipped hb (ih l.length (by simp [← hn]) hs l rfl h)

end MessageDecoder
end CameraController
