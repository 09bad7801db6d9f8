import CameraController.DecoderStream
import CameraController.MessageObjects

/-! # The decoder and the messages it makes

`MessageDecoder` makes a message on the heap when it knows its size, keeps it when it has
dispatched it, and deletes it when it makes the next, or in its destructor.  This is
`decode` once more, with the addresses: a null pointer that is followed, an object used
when it is gone, or deleted twice, is `Fault.undefined`.

`decodeAll_agrees`: this decoder dispatches the messages framed in the stream and never
does what is undefined, one message is alive at a time, with its array, and none behind
the destructor. -/
namespace CameraController

open RawMemory Streaming

/-- The members of `MessageDecoder`, with the address in `message`. -/
structure DecoderObject where
  state : DecoderState := .start
  tempType : UInt8 := 0
  tempSize1 : UInt8 := 0
  receivedData : Nat := 0
  message : Option Nat := none
  deriving DecidableEq, Repr

namespace DecoderObject

variable {ε ω : Type} (handler : Message → Except (Fault ε) ω)

/-- What is not `none` is defined. -/
def defined {α : Type} : Option α → Except (Fault ε) α
  | none => .error .undefined
  | some a => .ok a

/-- `dispatch()`. -/
def dispatch (mem : MessageMemory) (d : DecoderObject) : Except (Fault ε) ω := do
  let p ← defined d.message
  let m ← defined (mem.value p)
  handler m

/-- `if (message != nullptr) { delete message; }`. -/
def deleteMessage (mem : MessageMemory) (d : DecoderObject) : Option MessageMemory :=
  match d.message with
  | none => some mem
  | some p => mem.destroy p

/-- The loop's body at index `i`. -/
def body (mem : MessageMemory) (d : DecoderObject) (data : List UInt8) (i : Nat) :
    Except (Fault ε) (MessageMemory × DecoderObject × List ω × Nat) :=
  match d.state with
  | .start => do
    let b ← MessageDecoder.byteAt data i
    return (mem, if b = magicWord1 then { d with state := .magic1Found } else d, [], i)
  | .magic1Found => do
    let b ← MessageDecoder.byteAt data i
    return (mem, if b = magicWord2 then { d with state := .magic2Found }
      else { d with state := .start }, [], i)
  | .magic2Found => do
    let b ← MessageDecoder.byteAt data i
    return (mem, { d with tempType := b, state := .typeReceived }, [], i)
  | .typeReceived => do
    let b ← MessageDecoder.byteAt data i
    return (mem, { d with tempSize1 := b, state := .size1Received }, [], i)
  | .size1Received => do
    let b ← MessageDecoder.byteAt data i
    let mem ← defined (d.deleteMessage mem)
    let message := mem.objects.next
    let mem := mem.construct d.tempType (MessageDecoder.announcedSize d.tempSize1 b)
    return (mem, { d with
      message := some message, receivedData := 0, state := .receivingData }, [], i)
  | .receivingData => do
    let p ← defined d.message
    let m ← defined (mem.objects.read p)
    let sz := min (sub64 data.length i) (sub64 m.size d.receivedData)
    let mem ← defined (mem.store p d.receivedData (data.map some) i sz)
    let d := { d with receivedData := u64 (d.receivedData + sz) }
    let i := u64 (i + sub64 sz 1)
    if d.receivedData = m.size then
      let answer ← d.dispatch handler mem
      return (mem, { d with state := .start }, [answer], i)
    else
      return (mem, d, [], i)

/-- `for (i; i < len; i++)`, for at most `fuel` tests of the condition. -/
def loop : Nat → MessageMemory → DecoderObject → List UInt8 → Nat →
    Except (Fault ε) (MessageMemory × DecoderObject × List ω)
  | 0, _, _, _, _ => .error .diverged
  | fuel + 1, mem, d, data, i =>
    if i < data.length then do
      let (mem, d, answers, i) ← body handler mem d data i
      let (mem, d, rest) ← loop fuel mem d data (u64 (i + 1))
      return (mem, d, answers ++ rest)
    else
      return (mem, d, [])

/-- `decode(data, len)`. -/
def decode (mem : MessageMemory) (d : DecoderObject) (data : List UInt8) :
    Except (Fault ε) (MessageMemory × DecoderObject × List ω) :=
  loop handler (2 * data.length + 1) mem d data 0

/-- One call of `decode` for each chunk received. -/
def decodeAll : MessageMemory → DecoderObject → List (List UInt8) →
    Except (Fault ε) (MessageMemory × DecoderObject × List ω)
  | mem, d, [] => return (mem, d, [])
  | mem, d, chunk :: chunks => do
    let (mem, d, answers) ← decode handler mem d chunk
    let (mem, d, rest) ← decodeAll mem d chunks
    return (mem, d, answers ++ rest)

/-! ## What the addresses stand for -/

/-- **This object stands for that decoder**: the members are the same, and the memory holds
the message of the decoder and nothing else. -/
structure Represents (mem : MessageMemory) (o : DecoderObject) (d : MessageDecoder) : Prop where
  owned : mem.Owned
  state : o.state = d.state
  tempType : o.tempType = d.tempType
  tempSize1 : o.tempSize1 = d.tempSize1
  receivedData : o.receivedData = d.receivedData
  message : o.message = none ∧ d.message = none ∧ mem.value = (fun _ => none) ∨
    ∃ p m, o.message = some p ∧ d.message = some m ∧
      mem.value = Function.update (fun _ => none) p (some m)

/-- Both return, with the same answers, or fail alike. -/
inductive Agrees {α : Type} : Except (Fault ε) (MessageMemory × DecoderObject × α) →
    Except (Fault ε) (MessageDecoder × α) → Prop
  | error (f : Fault ε) : Agrees (.error f) (.error f)
  | ok {mem : MessageMemory} {o : DecoderObject} {d : MessageDecoder} (h : Represents mem o d)
      (a : α) : Agrees (.ok (mem, o, a)) (.ok (d, a))

end DecoderObject

namespace MessageMemory

/-- An operation that is defined for the values is defined. -/
theorem Owned.exists_perform {mem : MessageMemory} (h : mem.Owned) {op : MessageOperation}
    {s : MessageStore} (hs : mem.view.perform op = some s) :
    ∃ mem', mem.perform op = some mem' ∧ mem'.Owned ∧ mem'.view = s := by
  obtain ⟨hview, howned⟩ := h.performs op
  rw [hs] at hview
  obtain ⟨mem', hmem', hsame⟩ := Option.map_eq_some_iff.mp hview
  exact ⟨mem', hmem', howned mem' hmem', hsame⟩

theorem Owned.perform_eq_none {mem : MessageMemory} (h : mem.Owned) {op : MessageOperation}
    (hs : mem.view.perform op = none) : mem.perform op = none := by
  have hview := (h.performs op).1
  rwa [hs, Option.map_eq_none_iff] at hview

/-- The object of a message that is there. -/
theorem Owned.exists_object {mem : MessageMemory} (h : mem.Owned) {p : Nat} {m : Message}
    (hp : mem.value p = some m) : ∃ o, mem.objects.read p = some o ∧ o.size = m.size := by
  have hsome : mem.objects.read p ≠ none := by
    rw [ne_eq, ← h.value_eq_none_iff, hp]
    exact Option.some_ne_none m
  obtain ⟨o, ho⟩ := Option.ne_none_iff_exists'.mp hsome
  obtain ⟨data, -, -, hvalue⟩ := h.exists_data ho
  obtain rfl := Option.some.inj (hvalue.symm.trans hp)
  exact ⟨o, ho, rfl⟩

end MessageMemory

namespace DecoderObject

variable {ε ω : Type} (handler : Message → Except (Fault ε) ω)

theorem new_represents : Represents {} {} {} where
  owned := MessageMemory.empty_owned
  state := rfl
  tempType := rfl
  tempSize1 := rfl
  receivedData := rfl
  message := Or.inl ⟨rfl, rfl, rfl⟩

variable {mem : MessageMemory} {o : DecoderObject} {d : MessageDecoder}

/-- **The old message is deleted**, if there is one, and nothing is left. -/
theorem Represents.exists_delete (h : Represents mem o d) :
    ∃ mem', o.deleteMessage mem = some mem' ∧ mem'.Owned ∧ mem'.value = fun _ => none := by
  rcases h.message with ⟨ho, -, hvalue⟩ | ⟨p, m, ho, -, hvalue⟩
  · exact ⟨mem, by rw [deleteMessage, ho], h.owned, hvalue⟩
  · have hperform : mem.view.perform (.destroy p) =
        some ⟨mem.objects.next, Function.update mem.value p none⟩ := by
      simp [MessageStore.perform, MessageMemory.view, hvalue]
    obtain ⟨mem', hdestroy, howned, hview⟩ := h.owned.exists_perform hperform
    refine ⟨mem', by rw [deleteMessage, ho]; exact hdestroy, howned, ?_⟩
    have hnone := congrArg MessageStore.messages hview
    simpa [MessageMemory.view, hvalue] using hnone

/-- **A message that is made** is all that is alive. -/
theorem represents_construct (hmem : mem.Owned) (hnone : mem.value = fun _ => none)
    (type : UInt8) (size : Nat) (low : UInt8) :
    Represents (mem.construct type size)
      ⟨.receivingData, type, low, 0, some mem.objects.next⟩
      ⟨.receivingData, type, low, 0, some (Message.new type size)⟩ := by
  have hperform : mem.view.perform (.construct type size) = some
      ⟨mem.objects.next + 1, Function.update mem.value mem.objects.next
        (some (Message.new type size))⟩ := rfl
  obtain ⟨mem', hconstruct, howned, hview⟩ := hmem.exists_perform hperform
  obtain rfl := Option.some.inj hconstruct
  have hvalue := congrArg MessageStore.messages hview
  rw [hnone] at hvalue
  exact ⟨howned, rfl, rfl, rfl, rfl, Or.inr ⟨_, _, rfl, rfl, hvalue⟩⟩

/-- **A turn does to the objects what it does to the values.** -/
theorem body_agrees (h : Represents mem o d) (data : List UInt8) (i : Nat) :
    Agrees (body handler mem o data i) (MessageDecoder.body handler d data i) := by
  obtain ⟨howned, hstate, htype, hsize1, hreceived, hmessage⟩ := h
  obtain ⟨state, tempType, tempSize1, receivedData, ptr⟩ := o
  obtain ⟨state', tempType', tempSize1', receivedData', message⟩ := d
  obtain rfl : state = state' := hstate
  obtain rfl : tempType = tempType' := htype
  obtain rfl : tempSize1 = tempSize1' := hsize1
  obtain rfl : receivedData = receivedData' := hreceived
  have hrep (state : DecoderState) (tempType tempSize1 : UInt8) (receivedData : Nat) :
      Represents mem ⟨state, tempType, tempSize1, receivedData, ptr⟩
        ⟨state, tempType, tempSize1, receivedData, message⟩ :=
    ⟨howned, rfl, rfl, rfl, rfl, hmessage⟩
  cases state with
  | start | magic1Found =>
    simp only [body, MessageDecoder.body]
    cases MessageDecoder.byteAt (ε := ε) data i with
    | error f => exact .error f
    | ok b =>
      simp only [bind, Except.bind, pure, Except.pure]
      split <;> exact .ok (hrep ..) _
  | magic2Found | typeReceived =>
    simp only [body, MessageDecoder.body]
    cases MessageDecoder.byteAt (ε := ε) data i with
    | error f => exact .error f
    | ok b => exact .ok (hrep ..) _
  | size1Received =>
    simp only [body, MessageDecoder.body]
    cases MessageDecoder.byteAt (ε := ε) data i with
    | error f => exact .error f
    | ok b =>
      obtain ⟨mem', hdelete, howned', hnone⟩ := (hrep .size1Received tempType tempSize1
        receivedData).exists_delete
      simp only [bind, Except.bind, hdelete, defined, pure, Except.pure]
      exact .ok (represents_construct howned' hnone ..) _
  | receivingData =>
    rcases hmessage with ⟨hptr, hnull, -⟩ | ⟨p, m, hptr, hm, hvalue⟩
    · obtain rfl : ptr = none := hptr
      obtain rfl : message = none := hnull
      exact .error _
    · obtain rfl : ptr = some p := hptr
      obtain rfl : message = some m := hm
      have hp : mem.value p = some m := by rw [hvalue, Function.update_self]
      obtain ⟨object, hobject, hsize⟩ := howned.exists_object hp
      simp only [body, MessageDecoder.body, defined, bind, Except.bind, hobject, hsize]
      generalize min (sub64 data.length i) (sub64 m.size receivedData) = sz
      cases hcopied : memcpy m.data receivedData (data.map some) i sz with
      | none =>
        have hperform : mem.view.perform (.store p receivedData (data.map some) i sz) = none := by
          simp [MessageStore.perform, MessageMemory.view, hp, hcopied]
        have hstore : mem.store p receivedData (data.map some) i sz = none :=
          howned.perform_eq_none hperform
        simp only [hstore]
        exact .error _
      | some copied =>
        have hperform : mem.view.perform (.store p receivedData (data.map some) i sz) =
            some ⟨mem.objects.next,
              Function.update mem.value p (some { m with data := copied })⟩ := by
          simp [MessageStore.perform, MessageMemory.view, hp, hcopied]
        obtain ⟨mem', hstore, howned', hview⟩ := howned.exists_perform hperform
        have hstore' : mem.store p receivedData (data.map some) i sz = some mem' := hstore
        have hvalue' := congrArg MessageStore.messages hview
        simp only [MessageMemory.view, hvalue, Function.update_idem] at hvalue'
        have hp' : mem'.value p = some { m with data := copied } := by
          rw [hvalue', Function.update_self]
        have hrep' (state : DecoderState) : Represents mem'
            ⟨state, tempType, tempSize1, u64 (receivedData + sz), some p⟩
            ⟨state, tempType, tempSize1, u64 (receivedData + sz), some { m with data := copied }⟩ :=
          ⟨howned', rfl, rfl, rfl, rfl, Or.inr ⟨p, _, rfl, rfl, hvalue'⟩⟩
        simp only [hstore']
        split
        · simp only [dispatch, defined, bind, Except.bind, hp', MessageDecoder.dispatch]
          cases handler { m with data := copied } with
          | error f => exact .error f
          | ok answer => exact .ok (hrep' .start) _
        · exact .ok (hrep' .receivingData) _

/-- **So does the loop.**  By induction on the tests of the condition that are left. -/
theorem loop_agrees (fuel : Nat) (h : Represents mem o d) (data : List UInt8) (i : Nat) :
    Agrees (loop handler fuel mem o data i) (MessageDecoder.loop handler fuel d data i) := by
  induction fuel generalizing mem o d i with
  | zero => exact .error _
  | succ fuel ih =>
    simp only [loop, MessageDecoder.loop]
    split
    · have hbody := body_agrees handler h data i
      generalize body handler mem o data i = r at hbody
      generalize MessageDecoder.body handler d data i = r' at hbody
      cases hbody with
      | error f => exact .error f
      | @ok mem₁ o₁ d₁ h₁ a =>
        have hrest := ih h₁ (u64 (a.2 + 1))
        simp only [bind, Except.bind, pure, Except.pure]
        generalize loop handler fuel mem₁ o₁ data (u64 (a.2 + 1)) = r at hrest
        generalize MessageDecoder.loop handler fuel d₁ data (u64 (a.2 + 1)) = r' at hrest
        cases hrest with
        | error f => exact .error f
        | ok h₂ rest => exact .ok h₂ _
    · exact .ok h []

theorem decodeAll_agrees_decodeAll (h : Represents mem o d) (chunks : List (List UInt8)) :
    Agrees (decodeAll handler mem o chunks) (MessageDecoder.decodeAll handler d chunks) := by
  induction chunks generalizing mem o d with
  | nil => exact .ok h []
  | cons chunk chunks ih =>
    have hchunk := loop_agrees handler (2 * chunk.length + 1) h chunk 0
    simp only [decodeAll, MessageDecoder.decodeAll, decode, MessageDecoder.decode]
    generalize loop handler (2 * chunk.length + 1) mem o chunk 0 = r at hchunk
    generalize MessageDecoder.loop handler (2 * chunk.length + 1) d chunk 0 = r' at hchunk
    cases hchunk with
    | error f => exact .error f
    | @ok mem₁ o₁ d₁ h₁ answers =>
      have hrest := ih h₁
      simp only [bind, Except.bind, pure, Except.pure]
      generalize decodeAll handler mem₁ o₁ chunks = r at hrest
      generalize MessageDecoder.decodeAll handler d₁ chunks = r' at hrest
      cases hrest with
      | error f => exact .error f
      | ok h₂ rest => exact .ok h₂ _

/-- **The decoder owns its messages**: whatever it receives, in whatever chunks, it does
nothing undefined and dispatches the messages framed in the stream; between two calls the
message that it has made last is alive with its array, and nothing else; and the
destructor deletes that. -/
theorem decodeAll_agrees (chunks : List (List UInt8))
    (hfit : ∀ chunk ∈ chunks, chunk.length < 2 ^ 64) :
    Agrees (decodeAll handler {} {} chunks)
        (deliver handler (({} : MessageDecoder).consume chunks.flatten)) ∧
      ∀ mem d answers, decodeAll handler {} {} chunks = .ok (mem, d, answers) →
        ∃ mem', d.deleteMessage mem = some mem' ∧ mem'.objects.Empty ∧ mem'.arrays.Empty := by
  have hagrees := decodeAll_agrees_decodeAll handler new_represents chunks
  rw [MessageDecoder.decodeAll_eq handler MessageDecoder.new_valid chunks hfit] at hagrees
  refine ⟨hagrees, fun mem d answers hrun => ?_⟩
  rw [hrun] at hagrees
  generalize deliver handler (({} : MessageDecoder).consume chunks.flatten) = r at hagrees
  cases hagrees with
  | ok h =>
    obtain ⟨mem', hdelete, howned, hnone⟩ := h.exists_delete
    have hempty : mem'.objects.Empty := fun p => howned.value_eq_none_iff.mp (by rw [hnone])
    exact ⟨mem', hdelete, hempty, howned.arrays_empty hempty⟩

/-- A message of one byte and one without data, of which the second is dispatched when the
next byte has come. -/
theorem decodeAll_agrees_two :
    let chunks : List (List UInt8) :=
      [[0x54, 0xF0, 0x01, 0x01, 0x00, 0x41, 0x54], [0xF0, 0x01, 0x00, 0x00, 0x54]]
    let handler : Message → Except (Fault Empty) Nat := fun m => .ok m.size
    Agrees (decodeAll handler {} {} chunks)
        (deliver handler (({} : MessageDecoder).consume chunks.flatten)) ∧
      ∀ mem d answers, decodeAll handler {} {} chunks = .ok (mem, d, answers) →
        ∃ mem', d.deleteMessage mem = some mem' ∧ mem'.objects.Empty ∧ mem'.arrays.Empty :=
  decodeAll_agrees _ _ (by decide)

end DecoderObject
end CameraController
