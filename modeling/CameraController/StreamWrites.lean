import CameraController.TCPStream
import Mathlib.Data.List.Flatten

/-! # Writing to the stream

Whatever writes to a `NetStream` comes down to characters, blocks of them and flushes,
and a block is put as its characters are, one by one.  `transferred` says of any list
of these where the characters are afterwards: each has been passed to `sendLog` once,
in its place, or is still held.

A character reaches `overflow` as an `int`, and none of them is `eof`
(`overflowInt_toIntType`): `to_int_type` goes through `unsigned char`. -/
namespace CameraController.NetStreamBuf

/-! ## Characters as `int`s -/

/-- `traits_type::eof()`. -/
def eof : Int := -1

/-- `traits_type::to_int_type(c)`. -/
def toIntType (c : UInt8) : Int := c.toNat

/-- `overflow(ch)`, as it is declared. -/
def overflowInt (b : NetStreamBuf) (ch : Int) :
    Option (NetStreamBuf × Option (List UInt8) × Int) :=
  if ch ≠ eof then
    if b.pptr ≤ b.epptr then do
      let b ← b.store (UInt8.ofInt ch)
      let (b, str) ← (b.pbump 1).send
      return (b, some str, ch)
    else
      none
  else
    return (b, none, eof)

/-- **No character is `eof`**, `0xFF` included: each is stored. -/
theorem overflowInt_toIntType (b : NetStreamBuf) (c : UInt8) :
    b.overflowInt (toIntType c) =
      (b.overflow (some c)).map fun r => (r.1, r.2.1, toIntType c) := by
  have hne : toIntType c ≠ eof := by
    unfold toIntType eof
    omega
  have hback : UInt8.ofInt (toIntType c) = c := by
    rw [← UInt8.toNat_inj, toIntType, UInt8.ofInt]
    have hlt := c.toNat_lt
    rw [UInt8.toNat_ofNat']
    omega
  simp only [overflowInt, overflow, if_pos hne, hback]
  split
  · cases hstore : b.store c with
    | none => rfl
    | some b' => cases hsend : (b'.pbump 1).send <;> simp [hsend]
  · rfl

/-! ## Operations -/

/-- What is done to the stream. -/
inductive Output where
  | put (c : UInt8)
  | write (str : List UInt8)
  | flush
  deriving DecidableEq, Repr

/-- The characters that come with it. -/
def Output.chars : Output → List UInt8
  | put c => [c]
  | write str => str
  | flush => []

/-- Characters one by one: the stream afterwards, and the texts passed to `sendLog`. -/
def puts (b : NetStreamBuf) : List UInt8 → Option (NetStreamBuf × List (List UInt8))
  | [] => some (b, [])
  | c :: cs => do
    let (b, passed, _) ← b.sputc c
    let (b, rest) ← b.puts cs
    return (b, passed.toList ++ rest)

def perform (b : NetStreamBuf) : Output → Option (NetStreamBuf × List (List UInt8))
  | .put c => b.puts [c]
  | .write str => b.puts str
  | .flush => do
    let (b, str, _) ← b.sync
    return (b, [str])

def performAll (b : NetStreamBuf) : List Output → Option (NetStreamBuf × List (List UInt8))
  | [] => some (b, [])
  | op :: ops => do
    let (b, passed) ← b.perform op
    let (b, rest) ← b.performAll ops
    return (b, passed ++ rest)

/-- **Where the characters are**: in the texts passed, in order, and behind them those
still held. -/
structure Transferred (before : NetStreamBuf) (ops : List Output) (b : NetStreamBuf)
    (passed : List (List UInt8)) : Prop where
  all : passed.flatten ++ b.held = before.held ++ ops.flatMap Output.chars
  fits : ∀ str ∈ passed, str.length ≤ streamBufSize
  /-- The next character is stored in the buffer, also if it is one too many. -/
  index : b.pptr < streamBufSize
  flushed : ops.getLast? = some .flush → b.held = []

/-! ## Each of them transfers its characters -/

variable {b : NetStreamBuf}

theorem puts_spec : ∀ (cs : List UInt8) {b : NetStreamBuf}, b.Valid →
    ∃ b' passed, b.puts cs = some (b', passed) ∧ b'.Valid ∧
      passed.flatten ++ b'.held = b.held ++ cs ∧ ∀ str ∈ passed, str.length = streamBufSize
  | [], b, h => ⟨b, [], rfl, h, (List.append_nil _).symm, nofun⟩
  | c :: cs, b, h => by
      obtain ⟨b₁, first, hsputc, h₁, hheld₁, hfull₁⟩ := sputc_spec h c
      obtain ⟨b₂, rest, hputs, h₂, hheld₂, hfull₂⟩ := puts_spec cs h₁
      refine ⟨b₂, first.toList ++ rest, ?_, h₂, ?_, fun str hstr => ?_⟩
      · simp only [puts, hsputc, hputs, bind, Option.bind_some]
        rfl
      · have hfirst : first.toList.flatten = first.getD [] := by cases first <;> simp
        rw [List.flatten_append, List.append_assoc, hheld₂, ← List.append_assoc, hfirst, hheld₁,
          List.append_assoc, List.singleton_append]
      · rcases List.mem_append.mp hstr with hstr | hstr
        · exact hfull₁ str (Option.mem_toList.mp hstr)
        · exact hfull₂ str hstr

/-- **One operation.** -/
theorem perform_spec (h : b.Valid) (op : Output) :
    ∃ b' passed, b.perform op = some (b', passed) ∧ b'.Valid ∧
      passed.flatten ++ b'.held = b.held ++ op.chars ∧
      (∀ str ∈ passed, str.length ≤ streamBufSize) ∧ (op = .flush → b'.held = []) := by
  cases op with
  | put c =>
    obtain ⟨b', passed, hputs, hvalid, hheld, hfull⟩ := puts_spec [c] h
    exact ⟨b', passed, hputs, hvalid, hheld, fun str hstr => Nat.le_of_eq (hfull str hstr), nofun⟩
  | write cs =>
    obtain ⟨b', passed, hputs, hvalid, hheld, hfull⟩ := puts_spec cs h
    exact ⟨b', passed, hputs, hvalid, hheld, fun str hstr => Nat.le_of_eq (hfull str hstr), nofun⟩
  | flush =>
    obtain ⟨b', hsync, hvalid, hheld⟩ := sync_spec h
    refine ⟨b', [b.held], ?_, hvalid, ?_, fun str hstr => ?_, fun _ => hheld⟩
    · simp only [perform, hsync, bind, Option.bind_some]
      rfl
    · rw [hheld, List.flatten_singleton, List.append_nil]
      exact (List.append_nil _).symm
    · rw [List.mem_singleton.mp hstr]
      exact Nat.le_of_lt h.length_held_lt

/-- **All of them.** -/
theorem performAll_spec : ∀ (ops : List Output) {b : NetStreamBuf}, b.Valid →
    ∃ b' passed, b.performAll ops = some (b', passed) ∧ b'.Valid ∧ Transferred b ops b' passed
  | [], b, h => by
      have hindex : b.pptr < streamBufSize := h.length_held ▸ h.length_held_lt
      exact ⟨b, [], rfl, h, (List.append_nil _).symm, nofun, hindex, nofun⟩
  | op :: ops, b, h => by
      obtain ⟨b₁, first, hperform, h₁, hheld₁, hfits₁, hflushed₁⟩ := perform_spec h op
      obtain ⟨b₂, rest, hall, h₂, htransferred⟩ := performAll_spec ops h₁
      refine ⟨b₂, first ++ rest, ?_, h₂, ?_, fun str hstr => ?_, htransferred.index,
        fun hlast => ?_⟩
      · simp only [performAll, hperform, hall, bind, Option.bind_some]
        rfl
      · rw [List.flatten_append, List.append_assoc, htransferred.all, ← List.append_assoc, hheld₁,
          List.append_assoc, List.flatMap_cons]
      · rcases List.mem_append.mp hstr with hstr | hstr
        · exact hfits₁ str hstr
        · exact htransferred.fits str hstr
      · cases ops with
        | nil =>
          obtain ⟨rfl, rfl⟩ := Prod.mk.inj (Option.some.inj hall)
          exact hflushed₁ (Option.some.inj hlast)
        | cons op' ops => exact htransferred.flushed hlast

/-- **Every character is passed on once, and in its buffer until then**, whatever is
written and flushed to a new stream. -/
theorem transferred {buf : List UInt8} (hbuf : buf.length = streamBufSize) (ops : List Output) :
    ∃ b passed, (new buf).performAll ops = some (b, passed) ∧
      Transferred (new buf) ops b passed := by
  obtain ⟨b, passed, hall, -, htransferred⟩ := performAll_spec ops (new_valid hbuf)
  exact ⟨b, passed, hall, htransferred⟩

/-- The character that looks like `eof`, and a flush. -/
theorem transferred_ff :
    ∃ b passed, (new (List.replicate streamBufSize 0)).performAll [.put 0xFF, .flush] =
        some (b, passed) ∧
      Transferred (new (List.replicate streamBufSize 0)) [.put 0xFF, .flush] b passed :=
  transferred List.length_replicate _

end CameraController.NetStreamBuf
