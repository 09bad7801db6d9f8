import CameraController.Message
import CameraController.RawMemory
import CameraController.Streaming

/-! # The decoder, as the code runs it

`MessageDecoder::decode` walks an index over a chunk.  In every state but
`RECEIVING_DATA` it looks at one byte.  In `RECEIVING_DATA` it copies all it can
at once and moves the index by `sz - 1`, in `size_t`: one step back when `sz` is
zero.  `body` is the loop's body and `loop` the loop, with `size_t` wrap-around,
the null test of `message`, the bounds of both blocks of the `memcpy`, and a
handler that may throw.  A run of the loop can therefore go wrong in three ways
(`Fault`), of which only the handler's is possible (`DecoderStream.decode_eq`).

The `Log.d` lines are left out: they read no state of their own. -/
namespace CameraController

open RawMemory

/-- `MessageDecoder::DecoderState`. -/
inductive DecoderState where
  | start
  | magic1Found
  | magic2Found
  | typeReceived
  | size1Received
  | receivingData
  deriving DecidableEq, Repr

/-- The members of `MessageDecoder`, with their initial values. -/
structure MessageDecoder where
  state : DecoderState := .start
  tempType : UInt8 := 0
  tempSize1 : UInt8 := 0
  receivedData : Nat := 0
  message : Option Message := none
  deriving DecidableEq, Repr

/-- How a call can fail to return: it does something the language leaves
undefined, it never ends, or an exception leaves it. -/
inductive Fault (ε : Type) where
  | undefined
  | diverged
  | thrown (e : ε)
  deriving DecidableEq, Repr

namespace MessageDecoder

variable {ε ω : Type} (handler : Message → Except (Fault ε) ω)

/-- `dispatch()`. -/
def dispatch (d : MessageDecoder) : Except (Fault ε) ω :=
  match d.message with
  | none => .error .undefined
  | some m => handler m

/-- `data[i]`. -/
def byteAt (data : List UInt8) (i : Nat) : Except (Fault ε) UInt8 :=
  match data[i]? with
  | none => .error .undefined
  | some b => .ok b

/-- The size a frame announces. -/
def announcedSize (low high : UInt8) : Nat := u16 (high.toNat <<< 8 ||| low.toNat)

/-- The loop's body at index `i`: the decoder and the index it leaves, and what
the handler answered if a message was dispatched. -/
def body (d : MessageDecoder) (data : List UInt8) (i : Nat) :
    Except (Fault ε) (MessageDecoder × List ω × Nat) :=
  match d.state with
  | .start => do
    let b ← byteAt data i
    return (if b = magicWord1 then { d with state := .magic1Found } else d, [], i)
  | .magic1Found => do
    let b ← byteAt data i
    return (if b = magicWord2 then { d with state := .magic2Found }
      else { d with state := .start }, [], i)
  | .magic2Found => do
    let b ← byteAt data i
    return ({ d with tempType := b, state := .typeReceived }, [], i)
  | .typeReceived => do
    let b ← byteAt data i
    return ({ d with tempSize1 := b, state := .size1Received }, [], i)
  | .size1Received => do
    let b ← byteAt data i
    return ({ d with
      message := some (Message.new d.tempType (announcedSize d.tempSize1 b)),
      receivedData := 0,
      state := .receivingData }, [], i)
  | .receivingData =>
    match d.message with
    | none => .error .undefined
    | some m =>
      let sz := min (sub64 data.length i) (sub64 m.size d.receivedData)
      match memcpy m.data d.receivedData (data.map some) i sz with
      | none => .error .undefined
      | some copied => do
        let d := { d with
          message := some { m with data := copied },
          receivedData := u64 (d.receivedData + sz) }
        -- i must point to the last copied byte
        let i := u64 (i + sub64 sz 1)
        if d.receivedData = m.size then
          let answer ← d.dispatch handler
          return ({ d with state := .start }, [answer], i)
        else
          return (d, [], i)

/-- `for (i; i < len; i++)`, for at most `fuel` tests of the condition. -/
def loop : Nat → MessageDecoder → List UInt8 → Nat →
    Except (Fault ε) (MessageDecoder × List ω)
  | 0, _, _, _ => .error .diverged
  | fuel + 1, d, data, i =>
    if i < data.length then do
      let (d, answers, i) ← body handler d data i
      let (d, rest) ← loop fuel d data (u64 (i + 1))
      return (d, answers ++ rest)
    else
      return (d, [])

/-- `decode(data, len)`: the decoder afterwards, and what the handler answered to
each message dispatched.  Two tests of the condition a byte are enough. -/
def decode (d : MessageDecoder) (data : List UInt8) :
    Except (Fault ε) (MessageDecoder × List ω) :=
  loop handler (2 * data.length + 1) d data 0

/-- One call of `decode` for each chunk received. -/
def decodeAll : MessageDecoder → List (List UInt8) → Except (Fault ε) (MessageDecoder × List ω)
  | d, [] => return (d, [])
  | d, chunk :: chunks => do
    let (d, answers) ← decode handler d chunk
    let (d, rest) ← decodeAll d chunks
    return (d, answers ++ rest)

end MessageDecoder
end CameraController
