import CameraController.Heap
import CameraController.Message
import CameraController.RawMemory
import CameraController.StateMachine

/-! # Messages as objects

A `Message` owns the array its `data` points to: the constructors make one, the
assignment replaces it, and the destructor deletes it.  Here messages and arrays live on
heaps, and a program is any sequence of these operations and of `memcpy`s into the data.

`run_value` says that messages are values all the same: what a program makes of them is
what it makes of a store that maps addresses to messages, in which nothing is shared.
Every array has one owner (`Owned`), so none is left when the last message is gone. -/
namespace CameraController

open RawMemory StateMachine

/-- `struct Message`, with the address of its data. -/
structure MessageObject where
  type : UInt8
  size : Nat
  data : Nat
  deriving DecidableEq, Repr

/-- The messages there have been, and the arrays. -/
structure MessageMemory where
  objects : Heap MessageObject := {}
  arrays : Heap (List (Option UInt8)) := {}
  deriving DecidableEq, Repr

namespace MessageMemory

variable (mem : MessageMemory)

/-- `new Message(type, size)`; the message is at the address that was next. -/
def construct (type : UInt8) (size : Nat) : MessageMemory where
  objects := mem.objects.new ⟨type, size, mem.arrays.next⟩
  arrays := mem.arrays.new (List.replicate size none)

/-- `data = new uint8_t[size]; memcpy(data, other.data, size)`. -/
def duplicate (arrays : Heap (List (Option UInt8))) (other : MessageObject) :
    Option (Heap (List (Option UInt8))) := do
  let data := arrays.next
  let arrays := arrays.new (List.replicate other.size none)
  let src ← arrays.read other.data
  let dst ← arrays.read data
  let copied ← memcpy dst 0 src 0 other.size
  arrays.write data copied

/-- `Message(const Message& msg)`. -/
def copy (msg : Nat) : Option MessageMemory := do
  let other ← mem.objects.read msg
  let arrays ← duplicate mem.arrays other
  return { objects := mem.objects.new { other with data := mem.arrays.next }, arrays }

/-- `operator=(const Message& other)` of the message at `p`. -/
def assign (p other : Nat) : Option MessageMemory := do
  let this ← mem.objects.read p
  if other = p then
    return mem
  else do
    let arrays ← mem.arrays.delete this.data
    let o ← mem.objects.read other
    let objects ← mem.objects.write p { o with data := arrays.next }
    let arrays ← duplicate arrays o
    return { objects, arrays }

/-- `memcpy(message->data + doff, src + soff, n)`. -/
def store (p doff : Nat) (src : List (Option UInt8)) (soff n : Nat) : Option MessageMemory := do
  let this ← mem.objects.read p
  let data ← mem.arrays.read this.data
  let copied ← memcpy data doff src soff n
  let arrays ← mem.arrays.write this.data copied
  return { mem with arrays }

/-- `delete message`, with the destructor. -/
def destroy (p : Nat) : Option MessageMemory := do
  let this ← mem.objects.read p
  let arrays ← mem.arrays.delete this.data
  let objects ← mem.objects.delete p
  return { objects, arrays }

end MessageMemory

/-- An operation of a program that uses messages. -/
inductive MessageOperation where
  | construct (type : UInt8) (size : Nat)
  | copy (msg : Nat)
  | assign (p other : Nat)
  | store (p doff : Nat) (src : List (Option UInt8)) (soff n : Nat)
  | destroy (p : Nat)
  deriving DecidableEq, Repr

namespace MessageMemory

def perform (mem : MessageMemory) : MessageOperation → Option MessageMemory
  | .construct type size => some (mem.construct type size)
  | .copy msg => mem.copy msg
  | .assign p other => mem.assign p other
  | .store p doff src soff n => mem.store p doff src soff n
  | .destroy p => mem.destroy p

end MessageMemory

/-! ## Messages as values -/

/-- A store of messages, in which nothing is shared. -/
structure MessageStore where
  next : Nat := 0
  messages : Nat → Option Message := fun _ => none

namespace MessageStore

/-- What a program does to values. -/
def perform (s : MessageStore) : MessageOperation → Option MessageStore
  | .construct type size =>
    some ⟨s.next + 1, Function.update s.messages s.next (some (Message.new type size))⟩
  | .copy msg => do
    let m ← s.messages msg
    return ⟨s.next + 1, Function.update s.messages s.next (some m)⟩
  | .assign p other => do
    let _ ← s.messages p
    let m ← s.messages other
    return { s with messages := Function.update s.messages p (some m) }
  | .store p doff src soff n => do
    let m ← s.messages p
    let data ← memcpy m.data doff src soff n
    return { s with messages := Function.update s.messages p (some { m with data }) }
  | .destroy p => do
    let _ ← s.messages p
    return { s with messages := Function.update s.messages p none }

end MessageStore

namespace MessageMemory

/-- What is made up of owners and parts. -/
def wholes (mem : MessageMemory) (p : Nat) : Option (MessageObject × List (Option UInt8)) :=
  Owns.whole MessageObject.data mem.objects.read mem.arrays.read p

/-- A message, once its array is at hand. -/
def assemble (r : MessageObject × List (Option UInt8)) : Message := ⟨r.1.type, r.1.size, r.2⟩

/-- The message at an address. -/
def value (mem : MessageMemory) (p : Nat) : Option Message :=
  (mem.wholes p).map assemble

/-- The messages of a memory, as values. -/
def view (mem : MessageMemory) : MessageStore := ⟨mem.objects.next, mem.value⟩

/-- **Each message owns an array of its size**, and no array is left over. -/
def Owned (mem : MessageMemory) : Prop :=
  Owns MessageObject.data (fun m data => data.length = m.size) mem.objects.read mem.arrays.read

theorem empty_owned : ({} : MessageMemory).Owned := Owns.empty

variable {mem : MessageMemory}

/-- An update of what owners and parts make up is an update of the values. -/
theorem value_update {mem' : MessageMemory} {p : Nat}
    {x : Option (MessageObject × List (Option UInt8))}
    (h : mem'.wholes = Function.update mem.wholes p x) :
    mem'.value = Function.update mem.value p (x.map assemble) := by
  funext q
  calc mem'.value q = (mem'.wholes q).map assemble := rfl
    _ = (Function.update mem.wholes p x q).map assemble := by rw [h]
    _ = Function.update mem.value p (x.map assemble) q :=
      Function.apply_update (fun _ => Option.map assemble) mem.wholes p x q

namespace Owned

variable (h : mem.Owned)
include h

theorem value_eq_none_iff {p : Nat} : mem.value p = none ↔ mem.objects.read p = none := by
  rw [value, Option.map_eq_none_iff, wholes, h.whole_eq_none_iff]

/-- A message that is there has its array. -/
theorem exists_data {p : Nat} {m : MessageObject} (hp : mem.objects.read p = some m) :
    ∃ data, mem.arrays.read m.data = some data ∧ data.length = m.size ∧
      mem.value p = some ⟨m.type, m.size, data⟩ := by
  obtain ⟨data, hdata, hlen⟩ := h.alive hp
  exact ⟨data, hdata, hlen, by simp [value, wholes, Owns.whole, hp, hdata, assemble]⟩

end Owned

/-- A copy of all of a block. -/
theorem memcpy_all {n : Nat} {src : List (Option UInt8)} (h : src.length = n) :
    memcpy (List.replicate n none) 0 src 0 n = some src := by
  rw [memcpy_eq (by simp) (by simp [h])]
  simp [RingBuffer.splice, ← h]

theorem length_memcpy {dst src out : List (Option UInt8)} {doff soff n : Nat}
    (h : memcpy dst doff src soff n = some out) : out.length = dst.length := by
  obtain ⟨⟨hd, hs⟩, hout⟩ := Option.ite_none_right_eq_some.mp h
  obtain rfl := Option.some.inj hout
  exact RingBuffer.length_splice (by rw [length_slice hs]; exact hd)

/-- The array that is made of another. -/
theorem exists_duplicate {arrays : Heap (List (Option UInt8))} {other : MessageObject}
    {data : List (Option UInt8)} (hdata : arrays.read other.data = some data)
    (hlen : data.length = other.size) :
    ∃ arrays', duplicate arrays other = some arrays' ∧
      arrays'.read = Function.update arrays.read arrays.next (some data) := by
  have hread := Heap.read_new arrays (List.replicate other.size none)
  have hsrc : (arrays.new (List.replicate other.size none)).read other.data = some data := by
    rw [hread, Function.update_of_ne (Heap.ne_next hdata), hdata]
  have hdst : (arrays.new (List.replicate other.size none)).read arrays.next =
      some (List.replicate other.size none) := by
    rw [hread, Function.update_self]
  obtain ⟨arrays', hwrite, hread', -⟩ := Heap.exists_write hdst data
  refine ⟨arrays', ?_, ?_⟩
  · simp [duplicate, hsrc, hdst, memcpy_all hlen, hwrite]
  · rw [hread', hread, Function.update_idem]

/-! ## What an operation does -/

/-- An operation that does to a memory what it does to its values. -/
def Performs (mem : MessageMemory) (op : MessageOperation) : Prop :=
  (mem.perform op).map view = mem.view.perform op ∧ ∀ mem', mem.perform op = some mem' → mem'.Owned

theorem Performs.of_none {op : MessageOperation} (h : mem.perform op = none)
    (hview : mem.view.perform op = none) : mem.Performs op :=
  ⟨by rw [h, hview]; rfl, fun mem' hmem' => absurd (h.symm.trans hmem') (by simp)⟩

/-- An operation that changes one message. -/
theorem Performs.of_update {op : MessageOperation} (mem' : MessageMemory) {p : Nat}
    {x : Option (MessageObject × List (Option UInt8))} (h : mem.perform op = some mem')
    (howned : mem'.Owned ∧ mem'.wholes = Function.update mem.wholes p x)
    (hview : mem.view.perform op =
      some ⟨mem'.objects.next, Function.update mem.value p (x.map assemble)⟩) :
    mem.Performs op := by
  refine ⟨?_, fun _ hmem'' => Option.some.inj (h.symm.trans hmem'') ▸ howned.1⟩
  rw [h, hview, ← value_update howned.2]
  rfl

namespace Owned

variable (h : mem.Owned)
include h

theorem perform_construct (type : UInt8) (size : Nat) : mem.Performs (.construct type size) := by
  have hput := Owns.put h (a := ⟨type, size, mem.arrays.next⟩) (b := List.replicate size none)
    mem.objects.read_next mem.arrays.read_next rfl List.length_replicate
  rw [← Heap.read_new, ← Heap.read_new] at hput
  refine .of_update (mem.construct type size) rfl hput ?_
  rw [construct, Heap.next_new]
  rfl

theorem perform_copy (msg : Nat) : mem.Performs (.copy msg) := by
  cases hp : mem.objects.read msg with
  | none =>
    have hvalue := h.value_eq_none_iff.mpr hp
    exact .of_none (by simp [perform, copy, hp]) (by simp [MessageStore.perform, view, hvalue])
  | some other =>
    obtain ⟨data, hdata, hlen, hvalue⟩ := h.exists_data hp
    obtain ⟨arrays, hduplicate, hread⟩ := exists_duplicate hdata hlen
    have hput := Owns.put h (a := { other with data := mem.arrays.next }) (b := data)
      mem.objects.read_next mem.arrays.read_next rfl hlen
    rw [← Heap.read_new, ← hread] at hput
    refine .of_update ⟨mem.objects.new { other with data := mem.arrays.next }, arrays⟩
      (by simp [perform, copy, hp, hduplicate]) hput ?_
    simp [MessageStore.perform, view, hvalue, assemble, Heap.next_new]

theorem perform_destroy (p : Nat) : mem.Performs (.destroy p) := by
  cases hp : mem.objects.read p with
  | none =>
    have hvalue := h.value_eq_none_iff.mpr hp
    exact .of_none (by simp [perform, destroy, hp]) (by simp [MessageStore.perform, view, hvalue])
  | some this =>
    obtain ⟨data, hdata, hlen, hvalue⟩ := h.exists_data hp
    obtain ⟨arrays, harrays, hread, -⟩ := Heap.exists_delete hdata
    obtain ⟨objects, hobjects, hread', hnext⟩ := Heap.exists_delete hp
    have hdrop := Owns.drop h hp
    rw [← hread, ← hread'] at hdrop
    refine .of_update ⟨objects, arrays⟩ (by simp [perform, destroy, hp, harrays, hobjects]) hdrop ?_
    simp [MessageStore.perform, view, hvalue, hnext]

theorem perform_store (p doff : Nat) (src : List (Option UInt8)) (soff n : Nat) :
    mem.Performs (.store p doff src soff n) := by
  cases hp : mem.objects.read p with
  | none =>
    have hvalue := h.value_eq_none_iff.mpr hp
    exact .of_none (by simp [perform, store, hp]) (by simp [MessageStore.perform, view, hvalue])
  | some this =>
    obtain ⟨data, hdata, hlen, hvalue⟩ := h.exists_data hp
    cases hcopied : memcpy data doff src soff n with
    | none =>
      exact .of_none (by simp [perform, store, hp, hdata, hcopied])
        (by simp [MessageStore.perform, view, hvalue, hcopied])
    | some copied =>
      obtain ⟨arrays, harrays, hread, -⟩ := Heap.exists_write hdata copied
      have hstore := Owns.store h hp ((length_memcpy hcopied).trans hlen)
      rw [← hread] at hstore
      refine .of_update ⟨mem.objects, arrays⟩
        (by simp [perform, store, hp, hdata, hcopied, harrays]) hstore ?_
      simp [MessageStore.perform, view, hvalue, hcopied, assemble]

theorem perform_assign (p other : Nat) : mem.Performs (.assign p other) := by
  cases hp : mem.objects.read p with
  | none =>
    have hvalue := h.value_eq_none_iff.mpr hp
    exact .of_none (by simp [perform, assign, hp]) (by simp [MessageStore.perform, view, hvalue])
  | some this =>
    obtain ⟨data, hdata, hlen, hvalue⟩ := h.exists_data hp
    by_cases hself : other = p
    · obtain rfl := hself
      refine .of_update mem (p := other) (x := mem.wholes other) (by simp [perform, assign, hp])
        ⟨h, (Function.update_eq_self other _).symm⟩ ?_
      have hsame : (mem.wholes other).map assemble = mem.value other := rfl
      simp [MessageStore.perform, view, hvalue, hsame]
    · obtain ⟨arrays, harrays, hread, -⟩ := Heap.exists_delete hdata
      cases ho : mem.objects.read other with
      | none =>
        have hnone := h.value_eq_none_iff.mpr ho
        exact .of_none (by simp [perform, assign, hp, hself, ho])
          (by simp [MessageStore.perform, view, hvalue, hnone])
      | some o =>
        obtain ⟨data', hdata', hlen', hvalue'⟩ := h.exists_data ho
        -- the array of the other message is still there
        have hkept : arrays.read o.data = some data' := by
          have hne : o.data ≠ this.data := fun hsame => hself (h.single ho hp hsame)
          rw [hread, Function.update_of_ne hne, hdata']
        obtain ⟨arrays', hduplicate, hread'⟩ := exists_duplicate hkept hlen'
        obtain ⟨objects, hobjects, hreads, hnext⟩ :=
          Heap.exists_write hp { o with data := arrays.next }
        obtain ⟨hdropped, hwhole⟩ := Owns.drop h hp
        rw [← hread] at hdropped hwhole
        have hput := Owns.put hdropped (a := { o with data := arrays.next }) (b := data')
          (Function.update_self ..) arrays.read_next rfl hlen'
        rw [hwhole, Function.update_idem, Function.update_idem, ← hreads, ← hread'] at hput
        refine .of_update ⟨objects, arrays'⟩
          (by simp [perform, assign, hp, hself, harrays, ho, hobjects, hduplicate]) hput ?_
        simp [MessageStore.perform, view, hvalue, hvalue', hnext, assemble]

/-- Where there is no message there is no array. -/
theorem arrays_empty (hempty : mem.objects.Empty) : mem.arrays.Empty := by
  intro a
  by_contra hne
  obtain ⟨data, hdata⟩ := Option.ne_none_iff_exists'.mp hne
  obtain ⟨p, m, hp, -⟩ := h.owned hdata
  exact Option.some_ne_none m (hp.symm.trans (hempty p))

/-- **Every operation does to a memory what it does to its values**, and keeps the
ownership. -/
theorem performs (op : MessageOperation) : mem.Performs op := by
  cases op with
  | construct type size => exact h.perform_construct type size
  | copy msg => exact h.perform_copy msg
  | assign p other => exact h.perform_assign p other
  | store p doff src soff n => exact h.perform_store p doff src soff n
  | destroy p => exact h.perform_destroy p

end Owned

/-- **Messages are values**: whatever a program does with them, it is defined exactly when it
is for values that nothing shares, and makes the same of them.  Each array belongs to one
message, and none outlives the last of them. -/
theorem run_value (ops : List MessageOperation) :
    (run perform {} ops).map view = run MessageStore.perform {} ops ∧
      ∀ mem, run perform {} ops = some mem →
        mem.Owned ∧ (mem.objects.Empty → mem.arrays.Empty) := by
  have hkeep {mem : MessageMemory} {op : MessageOperation} {mem' : MessageMemory} (h : mem.Owned)
      (hop : mem.perform op = some mem') : mem'.Owned := (h.performs op).2 mem' hop
  refine ⟨run_map (fun op h => (Owned.performs h op).1) hkeep empty_owned ops, fun mem hrun => ?_⟩
  have howned : mem.Owned := run_invariant hkeep empty_owned hrun
  exact ⟨howned, howned.arrays_empty⟩

end MessageMemory
end CameraController
