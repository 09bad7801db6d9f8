import Mathlib.Data.List.Basic

/-! # Messages on the wire

Message.h: a message travels as two magic words, a type, a 16-bit size with its
low byte first, and `size` bytes of data.  `Message.data` is allocated without
being initialised, so a byte of it is `none` until it is received. -/
namespace CameraController

def magicWord1 : UInt8 := 0x54
def magicWord2 : UInt8 := 0xF0

def msgHeaderSize : Nat := 5
def msgMaxLength : Nat := 0xFFFF + msgHeaderSize

/-- `enum MessageType : uint8_t`. -/
inductive MessageType where
  | log
  | telecommand
  | telemetry
  | file
  deriving DecidableEq, Repr

/-- The byte a type is sent as. -/
def MessageType.code : MessageType → UInt8
  | log => 1
  | telecommand => 2
  | telemetry => 3
  | file => 4

/-- `struct Message`; `size` is a `uint16_t`. -/
structure Message where
  type : UInt8
  size : Nat
  data : List (Option UInt8)
  deriving DecidableEq, Repr

namespace Message

/-- The constructor: `size` bytes, none of them initialised. -/
def new (type : UInt8) (size : Nat) : Message := ⟨type, size, List.replicate size none⟩

/-- The message of which `got` has been received, in front of what is missing. -/
def received (type : UInt8) (size : Nat) (got : List UInt8) : Message :=
  ⟨type, size, got.map some ++ List.replicate (size - got.length) none⟩

/-- The message with all its data. -/
def complete (type : UInt8) (payload : List UInt8) : Message :=
  ⟨type, payload.length, payload.map some⟩

@[simp] theorem received_type (type : UInt8) (size : Nat) (got : List UInt8) :
    (received type size got).type = type := rfl

@[simp] theorem received_size (type : UInt8) (size : Nat) (got : List UInt8) :
    (received type size got).size = size := rfl

@[simp] theorem complete_type (type : UInt8) (payload : List UInt8) :
    (complete type payload).type = type := rfl

@[simp] theorem received_nil (type : UInt8) (size : Nat) :
    received type size [] = new type size := by
  simp [received, new]

/-- The next byte of the data is stored behind those received. -/
theorem received_set (type : UInt8) {size : Nat} {got : List UInt8} (h : got.length < size)
    (b : UInt8) :
    (⟨type, size, (received type size got).data.set got.length (some b)⟩ : Message) =
      received type size (got ++ [b]) := by
  obtain ⟨k, rfl⟩ := Nat.exists_eq_add_of_lt h
  simp [received, show got.length + k + 1 - got.length = k + 1 by omega, List.replicate_succ]

theorem received_all (type : UInt8) (payload : List UInt8) :
    received type payload.length payload = complete type payload := by
  simp [received, complete]

/-- The bytes of a message with all its data, `none` if one was never received. -/
def payload (m : Message) : Option (List UInt8) := m.data.mapM id

@[simp] theorem payload_complete (type : UInt8) (p : List UInt8) :
    (complete type p).payload = some p := by
  unfold payload complete
  induction p with
  | nil => rfl
  | cons b p ih => simp_all [List.mapM_cons]

end Message

/-- The bytes a message of this type and payload travels as. -/
def frame (type : UInt8) (payload : List UInt8) : List UInt8 :=
  [magicWord1, magicWord2, type, UInt8.ofNat payload.length,
    UInt8.ofNat (payload.length / 256)] ++ payload

theorem length_frame (type : UInt8) (payload : List UInt8) :
    (frame type payload).length = msgHeaderSize + payload.length := by
  simp [frame, msgHeaderSize]; omega

end CameraController
