import CameraController.CircularBufferRefinement
import CameraController.Resynchronisation
import CameraController.RoundTrip

/-! # Logs that overflowed the send buffer

What is left of a stream of frames in a full `CircularBuffer` begins inside a
frame.  The rest of a frame that was cut has no pair of magic words in it, if its
payload has none, and does not end in the first one (`Plain`): the decoder skips
it and is back in `START` at the next frame (`consume_cut`).  So what is
dispatched are the frames that are still whole (`consume_survivors`), whatever
gets take the bytes out (`decode_overflowed`). -/
namespace CameraController

open RingBuffer MessageEncoder MessageDecoder

/-- A payload that cannot be taken for the beginning of a frame. -/
structure Plain (payload : List UInt8) : Prop where
  pos : 1 ≤ payload.length
  le : payload.length ≤ 2048
  pairless : Pairless payload
  last : payload.getLast? ≠ some magicWord1

/-- The log frames of these payloads, one after the other. -/
def logStream (payloads : List (List UInt8)) : List UInt8 :=
  (payloads.map (frame MessageType.log.code)).flatten

@[simp] theorem logStream_nil : logStream [] = [] := rfl

@[simp] theorem logStream_cons (p : List UInt8) (payloads : List (List UInt8)) :
    logStream (p :: payloads) = frame MessageType.log.code p ++ logStream payloads := rfl

/-- The payloads whose frames lie within the last `cap` bytes of their stream: a
frame does if there are at most `cap` bytes from its first byte on. -/
def survivors (cap : Nat) : List (List UInt8) → List (List UInt8)
  | [] => []
  | p :: payloads =>
    if (logStream (p :: payloads)).length ≤ cap then p :: survivors cap payloads
    else survivors cap payloads

/-- Nothing is lost of a stream that fits. -/
theorem survivors_of_length_le {cap : Nat} {payloads : List (List UInt8)}
    (h : (logStream payloads).length ≤ cap) : survivors cap payloads = payloads := by
  induction payloads with
  | nil => rfl
  | cons p payloads ih =>
    have hrest : (logStream payloads).length ≤ cap := by
      rw [logStream_cons, List.length_append] at h
      omega
    rw [survivors, if_pos h, ih hrest]

/-! ## A frame that was cut -/

theorem Pairless.cons {b : UInt8} {data : List UInt8} (h : Pairless data) (hb : b ≠ magicWord1) :
    Pairless (b :: data) := by
  intro hpair
  rcases List.infix_cons_iff.mp hpair with hfront | hrest
  · exact hb (List.cons_prefix_cons.mp hfront).1.symm
  · exact h hrest

/-- Behind its first byte, a frame of a plain payload has no pair in it. -/
theorem Plain.pairless_tail {payload : List UInt8} (h : Plain payload) :
    Pairless (frame MessageType.log.code payload).tail := by
  have hle := h.le
  have hhigh : UInt8.ofNat (payload.length / 256) ≠ magicWord1 := by
    rw [Ne, ← UInt8.toNat_inj, UInt8.toNat_ofNat', show magicWord1.toNat = 0x54 from rfl]
    omega
  have hsize : Pairless (UInt8.ofNat payload.length ::
      UInt8.ofNat (payload.length / 256) :: payload) := by
    intro hpair
    rcases List.infix_cons_iff.mp hpair with hfront | hrest
    · -- the high byte of the size is no second magic word
      have hword := (List.cons_prefix_cons.mp (List.cons_prefix_cons.mp hfront).2).1
      rw [← UInt8.toNat_inj, UInt8.toNat_ofNat', show magicWord2.toNat = 0xF0 from rfl] at hword
      omega
    · exact h.pairless.cons hhigh hrest
  exact (hsize.cons (by decide)).cons (by decide)

/-- **A frame that was cut is skipped**, and the decoder is back in `START`. -/
theorem consume_cut {d : MessageDecoder} (hs : d.state = .start) {payload rest : List UInt8}
    (h : Plain payload) (hrest : rest <:+ (frame MessageType.log.code payload).tail) :
    d.consume rest = ({ d with state := .start }, []) := by
  have hpairless : Pairless rest := fun hpair => h.pairless_tail (hpair.trans hrest.isInfix)
  have hlast : rest.getLast? ≠ some magicWord1 := by
    intro hmagic
    obtain ⟨front, rfl⟩ := List.getLast?_eq_some_iff.mp hmagic
    obtain ⟨before, hbefore⟩ := hrest
    have hne := List.ne_nil_of_length_pos h.pos
    have hend := congrArg List.getLast? hbefore
    rw [← List.append_assoc, List.getLast?_concat, frame, List.cons_append, List.tail_cons,
      List.getLast?_append_of_ne_nil _ hne] at hend
    exact h.last hend.symm
  rw [consume_headerless hs hpairless.headerless, afterGarbage, danglingRun_eq_nil hlast]
  simp

/-- **What is left of a stream of frames is read as the frames that are still
whole.** -/
theorem consume_survivors {d : MessageDecoder} (hs : d.state = .start) (cap : Nat)
    {payloads : List (List UInt8)} (h : ∀ p ∈ payloads, Plain p) :
    (d.consume ((logStream payloads).rtake cap)).1.state = .start ∧
      (d.consume ((logStream payloads).rtake cap)).2 =
        (survivors cap payloads).map (Message.complete MessageType.log.code) := by
  have hframes : ∀ {d : MessageDecoder}, d.state = .start → ∀ {payloads : List (List UInt8)},
      (∀ p ∈ payloads, Plain p) → (d.consume (logStream payloads)).1.state = .start ∧
        (d.consume (logStream payloads)).2 =
          payloads.map (Message.complete MessageType.log.code) :=
    fun hs _ h => consume_frames hs MessageType.log.code fun p hp =>
      ⟨(h p hp).pos, Nat.le_trans (h p hp).le (by decide)⟩
  induction payloads with
  | nil => exact ⟨by simpa using hs, by simp [survivors]⟩
  | cons p payloads ih =>
    obtain ⟨hp, hrest⟩ := List.forall_mem_cons.mp h
    by_cases hall : (logStream (p :: payloads)).length ≤ cap
    · rw [rtake_of_length_le hall, survivors_of_length_le hall]
      exact hframes hs h
    · rw [survivors, if_neg hall]
      by_cases hpast : cap ≤ (logStream payloads).length
      · -- nothing is left of the first frame
        rw [logStream_cons, rtake_append_of_length_le hpast]
        exact ih hrest
      · -- the first frame is cut
        rw [logStream_cons, List.length_append] at hall
        obtain ⟨n, rfl⟩ := Nat.exists_eq_add_of_le' (Nat.le_of_not_le hpast)
        have hcut : (frame MessageType.log.code p).rtake n <:+
            (frame MessageType.log.code p).tail := by
          rw [List.rtake, ← List.drop_one]
          exact List.drop_suffix_drop_left _ (by omega)
        rw [logStream_cons, rtake_length_add, consume_append, consume_cut hs hp hcut,
          survivors_of_length_le (Nat.le_of_not_le hpast)]
        exact hframes rfl hrest

/-! ## Through the buffer -/

namespace CircularBuffer

/-- The bytes an operation wrote. -/
def Answer.written : Answer → List UInt8
  | .bytes _ written => written
  | _ => []

/-- The operations that take bytes out. -/
def Operation.IsGet : Operation → Prop
  | .getByte | .get _ => True
  | _ => False

/-- Puts with no get in between keep the last bytes of all. -/
theorem runQueue_puts (cap : Nat) (blocks : List (List UInt8)) {q : List UInt8}
    (hq : q.length ≤ cap) :
    (runQueue cap (blocks.map .put) q).2 = (q ++ blocks.flatten).rtake cap := by
  induction blocks generalizing q with
  | nil => simp [runQueue, rtake_of_length_le hq]
  | cons block blocks ih =>
    have hpush : (push cap q block).length ≤ cap := by
      rw [push, length_rtake]
      exact Nat.min_le_left _ _
    rw [List.map_cons, runQueue, performQueue, ih hpush, push, rtake_append_rtake,
      List.flatten_cons, List.append_assoc]

/-- What gets wrote, and then what is left, is what was stored. -/
theorem runQueue_gets (cap : Nat) {gets : List Operation} (h : ∀ op ∈ gets, op.IsGet)
    (q : List UInt8) :
    ((runQueue cap gets q).1.map Answer.written).flatten ++ (runQueue cap gets q).2 = q := by
  induction gets generalizing q with
  | nil => rfl
  | cons op gets ih =>
    obtain ⟨hop, hgets⟩ := List.forall_mem_cons.mp h
    have hfront : (performQueue cap op q).1.written ++ (performQueue cap op q).2 = q := by
      cases op with
      | getByte | get length => exact List.take_append_drop _ _
      | putByte _ | put _ | currentSize => exact hop.elim
    have hrest := ih hgets (performQueue cap op q).2
    simp only [runQueue, List.map_cons, List.flatten_cons, List.append_assoc, hrest, hfront]

end CircularBuffer

open CircularBuffer

/-- `sendLog` sends a plain payload as one frame. -/
theorem sendLogs_plain {buf : List UInt8} (hbuf : buf.length = msgMaxLength)
    {payloads : List (List UInt8)} (h : ∀ p ∈ payloads, Plain p) :
    ∃ buf' sent, sendLogs buf payloads = some (buf', sent) ∧
      sent.flatten = payloads.map (frame MessageType.log.code) := by
  have hfit : ∀ p ∈ payloads, p.length < 2 ^ 64 := fun p hp =>
    Nat.lt_of_le_of_lt (h p hp).le (by decide)
  obtain ⟨buf', splits, hsend, hsplits⟩ := sendLogs_spec hbuf hfit
  refine ⟨buf', _, hsend, ?_⟩
  clear hsend hfit
  induction hsplits with
  | nil => rfl
  | @cons p pieces payloads splits hsplit _ ih =>
    obtain ⟨hp, hrest⟩ := List.forall_mem_cons.mp h
    obtain rfl := hsplit.eq_singleton hp.pos (Nat.le_trans hp.le (by decide))
    simp only [List.map_cons, List.flatten_cons, ih hrest, List.map_nil, List.singleton_append]

/-- The buffer behind the frames of some logs. -/
theorem exists_stored {buf : List UInt8} (hbuf : buf.length = msgMaxLength) {cap : Nat}
    (hpos : 1 ≤ cap) (hle : 2 * cap ≤ 2 ^ 32) {payloads : List (List UInt8)}
    (h : ∀ p ∈ payloads, Plain p) :
    ∃ buf' sent done cb, sendLogs buf payloads = some (buf', sent) ∧
      run (sent.flatten.map .put) (new cap) = some (done, cb) ∧ cb.Valid ∧ cb.size = cap ∧
      cb.contents = (logStream payloads).rtake cap := by
  obtain ⟨buf', sent, hsend, hframes⟩ := sendLogs_plain hbuf h
  obtain ⟨cb, hput, hvalid, hsize, hcontents⟩ :=
    run_spec (sent.flatten.map .put) (new_valid hpos hle)
  refine ⟨buf', sent, _, cb, hsend, hput, hvalid, hsize, ?_⟩
  rw [hcontents, new_contents]
  exact (runQueue_puts cap _ (Nat.zero_le _)).trans (by rw [hframes]; rfl)

/-- **Logs that overflowed the buffer stay decodable.**  The frames that are still
whole are dispatched, in order, and what is left of the one in front of them is
skipped. -/
theorem decode_overflowed {buf : List UInt8} (hbuf : buf.length = msgMaxLength) {cap : Nat}
    (hpos : 1 ≤ cap) (hle : 2 * cap ≤ 2 ^ 32) {payloads : List (List UInt8)}
    (h : ∀ p ∈ payloads, Plain p) :
    ∃ buf' sent done cb, sendLogs buf payloads = some (buf', sent) ∧
      run (sent.flatten.map .put) (new cap) = some (done, cb) ∧
      ∀ gets : List Operation, (∀ op ∈ gets, op.IsGet) →
        ∃ answers cb', run gets cb = some (answers, cb') ∧
          (cb'.currentSize = 0 →
            ∃ d, decodeAll record {} (answers.map Answer.written) =
                .ok (d, (survivors cap payloads).map (Message.complete MessageType.log.code)) ∧
              d.state = .start) := by
  obtain ⟨buf', sent, done, cb, hsend, hput, hvalid, -, hstored⟩ := exists_stored hbuf hpos hle h
  refine ⟨buf', sent, done, cb, hsend, hput, fun gets hgets => ?_⟩
  obtain ⟨cb', hget, hvalid', -, hcontents'⟩ := run_spec gets hvalid
  refine ⟨_, cb', hget, fun hempty => ?_⟩
  rw [currentSize_eq hvalid', hcontents', List.length_eq_zero_iff] at hempty
  have hbytes := runQueue_gets cb.size hgets cb.contents
  rw [hempty, List.append_nil] at hbytes
  have hfit : ∀ chunk ∈ (runQueue cb.size gets cb.contents).1.map Answer.written,
      chunk.length < 2 ^ 64 := by
    intro chunk hchunk
    have hlen := (List.sublist_flatten_of_mem hchunk).length_le
    rw [hbytes, hstored, length_rtake] at hlen
    omega
  obtain ⟨hstate, hmessages⟩ := consume_survivors (d := {}) rfl cap h
  refine ⟨_, ?_, hstate⟩
  rw [decodeAll_record new_valid hfit, hbytes, hstored, ← hmessages]

/-- Three frames into a ring of thirteen bytes: the first is lost, the second cut.  It is
drained by fives. -/
theorem decode_overflowed_thirteen :
    ∃ buf' sent done cb answers cb' d,
      sendLogs (List.replicate msgMaxLength 0) [[0x41], [0x42, 0x43, 0x44], [0x45]] =
        some (buf', sent) ∧
      run (sent.flatten.map .put) (new 13) = some (done, cb) ∧
      run [.get 5, .get 5, .get 5] cb = some (answers, cb') ∧
      answers.map Answer.written = [[0xF0, 0x01, 0x03, 0x00, 0x42],
        [0x43, 0x44, 0x54, 0xF0, 0x01], [0x01, 0x00, 0x45]] ∧
      cb'.currentSize = 0 ∧
      decodeAll record {} (answers.map Answer.written) =
        .ok (d, [Message.complete MessageType.log.code [0x45]]) ∧
      d.state = .start := by
  have hbuf : (List.replicate msgMaxLength (0 : UInt8)).length = msgMaxLength :=
    List.length_replicate
  have hplain : ∀ p ∈ ([[0x41], [0x42, 0x43, 0x44], [0x45]] : List (List UInt8)), Plain p := by
    intro p hp
    simp only [List.mem_cons, List.not_mem_nil, or_false] at hp
    rcases hp with rfl | rfl | rfl <;> exact ⟨by decide, by decide, by decide, by decide⟩
  obtain ⟨buf', sent, done, cb, hsend, hput, hdrain⟩ :=
    decode_overflowed hbuf (show 1 ≤ 13 by decide) (by decide) hplain
  -- the ring that the theorem speaks of is the one that stores the last thirteen bytes
  obtain ⟨_, _, _, _, hsend', hput', hvalid, hsize, hstored⟩ :=
    exists_stored hbuf (show 1 ≤ 13 by decide) (by decide) hplain
  obtain ⟨rfl, rfl⟩ := Prod.mk.inj (Option.some.inj (hsend.symm.trans hsend'))
  obtain ⟨rfl, rfl⟩ := Prod.mk.inj (Option.some.inj (hput.symm.trans hput'))
  obtain ⟨answers, cb', hget, hdecode⟩ :=
    hdrain [.get 5, .get 5, .get 5] (by simp [Operation.IsGet])
  obtain ⟨_, hget', hvalid', -, hcontents⟩ := run_spec [.get 5, .get 5, .get 5] hvalid
  obtain ⟨rfl, rfl⟩ := Prod.mk.inj (Option.some.inj (hget.symm.trans hget'))
  have hempty : cb'.currentSize = 0 := by
    rw [currentSize_eq hvalid', hcontents, hsize, hstored]
    decide
  obtain ⟨d, hdecoded, hstate⟩ := hdecode hempty
  refine ⟨buf', sent, done, cb, _, cb', d, hsend, hput, hget, ?_, hempty, hdecoded, hstate⟩
  rw [hsize, hstored]
  decide

end CameraController
