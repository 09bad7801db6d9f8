import CameraController.CheckedFold
import CameraController.Json

/-! # Telecommands

Commands.h and Commands.cpp: the commands, the decoders of their JSON objects and
the table by which `JsonCommandDecoder::decode` picks one.  Each decoder reads its
fields in the order of the code and stops at the first exception; a command is
only stored through `cmd` when all of them could be read.

The commands are of four kinds, and `decode_accepted_iff` says, for all of them at once,
when decoding succeeds and with which command. -/
namespace CameraController

/-- `LogLevel`. -/
inductive LogLevel where
  | debug
  | info
  | warning
  | error
  deriving DecidableEq, Repr

/-- A line logged, before it is formatted for a stream. -/
abbrev LogLine := LogLevel × String

/-- `enum Commands : uint8_t`. -/
inductive CommandId where
  | shutdown
  | reboot
  | functionStart
  | functionStop
  | cameraTestConnection
  | cameraReconnect
  | functionTestCapture
  | downloadAfterExposure
  | sequencerSetup
  | intervalometerSetup
  deriving DecidableEq, Repr

/-- The number of a command. -/
def CommandId.code : CommandId → UInt8
  | shutdown => 1
  | reboot => 2
  | functionStart => 5
  | functionStop => 6
  | cameraTestConnection => 9
  | cameraReconnect => 10
  | functionTestCapture => 18
  | downloadAfterExposure => 19
  | sequencerSetup => 20
  | intervalometerSetup => 30

def keyCmdId : String := "cmd_id"
def keyNumExposures : String := "num_exposures"
def keyExposureTime : String := "exposure_time"
def keyInterval : String := "interval"
def keyDownload : String := "download"

/-- A command object, one constructor for each class. -/
inductive Command where
  | command (cmdId : UInt8)
  | downloadAfterExposure (cmdId : UInt8) (download : Bool)
  | sequencerSetup (cmdId : UInt8) (numExposures expTime : Int32) (download : Bool)
  | intervalometerSetup (cmdId : UInt8) (numExposures expTime interval : Int32) (download : Bool)
  deriving DecidableEq, Repr

/-- The member every command has. -/
def Command.cmdId : Command → UInt8
  | command id => id
  | downloadAfterExposure id _ => id
  | sequencerSetup id _ _ _ => id
  | intervalometerSetup id _ _ _ _ => id

/-- What the machine makes of a `double` that does not fit the target of a
`static_cast`; the language does not say. -/
structure Target where
  uint8 : Double → UInt8
  int : Double → Int32

/-- What a decoder does: its result, `*cmd` afterwards, and what it logged. -/
structure Decoding where
  decoded : Bool
  cmd : Option Command
  log : List LogLine
  deriving DecidableEq, Repr

/-- The result of a decoder that stored `c`. -/
def Decoding.accepted (c : Command) : Decoding := ⟨true, some c, []⟩

namespace JsonCommandDecoder

/-- `Decoder`. -/
abbrev Decoder := Option Command → Json → Decoding

variable (target : Target)

/-- `j.at(key).get<uint8_t>()`. -/
def readUInt8 (j : Json) (key : String) : Except JsonException UInt8 := do
  (← j.atKey key).get IntegerType.uint8 target.uint8

/-- `j.at(key).get<int>()`. -/
def readInt (j : Json) (key : String) : Except JsonException Int32 := do
  (← j.atKey key).get IntegerType.int target.int

/-- `j.at(key).get<bool>()`. -/
def readBool (j : Json) (key : String) : Except JsonException Bool := do
  (← j.atKey key).getBool

/-- The `try` block the decoders share. -/
def tryDecode (read : Json → Except JsonException Command) : Decoder := fun cmd j =>
  match read j with
  | .ok c => ⟨true, some c, []⟩
  | .error e => ⟨false, cmd, [(.error, e.what)]⟩

def decodeEmptyCommand : Decoder :=
  tryDecode fun j => do
    let cmdId ← readUInt8 target j keyCmdId
    return .command cmdId

def decodeSetupSequencer : Decoder :=
  tryDecode fun j => do
    let cmdId ← readUInt8 target j keyCmdId
    let numExposures ← readInt target j keyNumExposures
    let expTime ← readInt target j keyExposureTime
    let download ← readBool j keyDownload
    return .sequencerSetup cmdId numExposures expTime download

def decodeSetupIntervalometer : Decoder :=
  tryDecode fun j => do
    let cmdId ← readUInt8 target j keyCmdId
    let numExposures ← readInt target j keyNumExposures
    let expTime ← readInt target j keyExposureTime
    let interval ← readInt target j keyInterval
    let download ← readBool j keyDownload
    return .intervalometerSetup cmdId numExposures expTime interval download

def decodeDownloadAfterExposure : Decoder :=
  tryDecode fun j => do
    let cmdId ← readUInt8 target j keyCmdId
    let download ← readBool j keyDownload
    return .downloadAfterExposure cmdId download

/-- `decoder_map`. -/
def decoderMap : List (UInt8 × Decoder) :=
  [(CommandId.shutdown.code, decodeEmptyCommand target),
    (CommandId.reboot.code, decodeEmptyCommand target),
    (CommandId.functionStart.code, decodeEmptyCommand target),
    (CommandId.functionStop.code, decodeEmptyCommand target),
    (CommandId.cameraTestConnection.code, decodeEmptyCommand target),
    (CommandId.cameraReconnect.code, decodeEmptyCommand target),
    (CommandId.functionTestCapture.code, decodeEmptyCommand target),
    (CommandId.downloadAfterExposure.code, decodeDownloadAfterExposure target),
    (CommandId.sequencerSetup.code, decodeSetupSequencer target),
    (CommandId.intervalometerSetup.code, decodeSetupIntervalometer target)]

/-- `JsonCommandDecoder::decode`. -/
def decode (cmd : Option Command) (j : Json) : Decoding :=
  match readUInt8 target j keyCmdId with
  | .error e => ⟨false, cmd, [(.error, e.what)]⟩
  | .ok cmdId =>
    match (decoderMap target).lookup cmdId with
    | some decoder => decoder cmd j
    | none => ⟨false, cmd, [(.warning, "Unrecognized command: " ++ toString cmdId.toNat)]⟩

end JsonCommandDecoder

/-! ## The kinds of command -/

/-- The classes of command, by their decoder. -/
inductive CommandKind where
  | empty
  | download
  | sequencer
  | intervalometer
  deriving DecidableEq, Repr

/-- The kind a command's number is registered for. -/
def CommandId.kind : CommandId → CommandKind
  | downloadAfterExposure => .download
  | sequencerSetup => .sequencer
  | intervalometerSetup => .intervalometer
  | _ => .empty

namespace CommandKind

/-- The members read as `int`, in order. -/
def intKeys : CommandKind → List String
  | empty => []
  | download => []
  | sequencer => [keyNumExposures, keyExposureTime]
  | intervalometer => [keyNumExposures, keyExposureTime, keyInterval]

/-- The members read as `bool`. -/
def boolKeys : CommandKind → List String
  | empty => []
  | _ => [keyDownload]

/-- The decoder registered for a kind. -/
def decoder (target : Target) : CommandKind → JsonCommandDecoder.Decoder
  | empty => JsonCommandDecoder.decodeEmptyCommand target
  | download => JsonCommandDecoder.decodeDownloadAfterExposure target
  | sequencer => JsonCommandDecoder.decodeSetupSequencer target
  | intervalometer => JsonCommandDecoder.decodeSetupIntervalometer target

end CommandKind

namespace Command

def kind : Command → CommandKind
  | command _ => .empty
  | downloadAfterExposure .. => .download
  | sequencerSetup .. => .sequencer
  | intervalometerSetup .. => .intervalometer

/-- The fields read as `int`, in the order of `intKeys`. -/
def ints : Command → List Int32
  | command _ => []
  | downloadAfterExposure .. => []
  | sequencerSetup _ numExposures expTime _ => [numExposures, expTime]
  | intervalometerSetup _ numExposures expTime interval _ => [numExposures, expTime, interval]

/-- The fields read as `bool`, in the order of `boolKeys`. -/
def bools : Command → List Bool
  | command _ => []
  | downloadAfterExposure _ download => [download]
  | sequencerSetup _ _ _ download => [download]
  | intervalometerSetup _ _ _ _ download => [download]

end Command

namespace JsonCommandDecoder

variable (target : Target)

/-- `c` is what reading the members of its kind gives. -/
structure ReadsAs (j : Json) (c : Command) : Prop where
  cmdId : readUInt8 target j keyCmdId = .ok c.cmdId
  ints : List.Forall₂ (fun key n => readInt target j key = .ok n) c.kind.intKeys c.ints
  bools : List.Forall₂ (fun key b => readBool j key = .ok b) c.kind.boolKeys c.bools

theorem tryDecode_accepted_iff {read : Json → Except JsonException Command}
    {cmd : Option Command} {j : Json} {c : Command} :
    tryDecode read cmd j = .accepted c ↔ read j = .ok c := by
  unfold tryDecode
  cases read j <;> simp [Decoding.accepted]

/-- **What a decoder reads**, for the four of them. -/
theorem decoder_accepted_iff (k : CommandKind) {cmd : Option Command} {j : Json} {c : Command} :
    k.decoder target cmd j = .accepted c ↔ c.kind = k ∧ ReadsAs target j c := by
  cases k <;>
    simp only [CommandKind.decoder, decodeEmptyCommand, decodeDownloadAfterExposure,
      decodeSetupSequencer, decodeSetupIntervalometer, tryDecode_accepted_iff,
      CheckedFold.bind_eq_ok_iff, pure, Except.pure, Except.ok.injEq]
  case empty =>
    constructor
    · rintro ⟨id, hid, rfl⟩
      exact ⟨rfl, hid, .nil, .nil⟩
    · rintro ⟨hkind, hid, -, -⟩
      cases c with
      | command id => exact ⟨id, hid, rfl⟩
      | _ => cases hkind
  case download =>
    constructor
    · rintro ⟨id, hid, b, hb, rfl⟩
      exact ⟨rfl, hid, .nil, .cons hb .nil⟩
    · rintro ⟨hkind, hid, -, hbools⟩
      cases c with
      | downloadAfterExposure id b =>
        obtain ⟨hb, -⟩ := List.forall₂_cons.mp hbools
        exact ⟨id, hid, b, hb, rfl⟩
      | _ => cases hkind
  case sequencer =>
    constructor
    · rintro ⟨id, hid, n, hn, e, he, b, hb, rfl⟩
      exact ⟨rfl, hid, .cons hn (.cons he .nil), .cons hb .nil⟩
    · rintro ⟨hkind, hid, hints, hbools⟩
      cases c with
      | sequencerSetup id n e b =>
        obtain ⟨hn, hints⟩ := List.forall₂_cons.mp hints
        obtain ⟨he, -⟩ := List.forall₂_cons.mp hints
        obtain ⟨hb, -⟩ := List.forall₂_cons.mp hbools
        exact ⟨id, hid, n, hn, e, he, b, hb, rfl⟩
      | _ => cases hkind
  case intervalometer =>
    constructor
    · rintro ⟨id, hid, n, hn, e, he, i, hi, b, hb, rfl⟩
      exact ⟨rfl, hid, .cons hn (.cons he (.cons hi .nil)), .cons hb .nil⟩
    · rintro ⟨hkind, hid, hints, hbools⟩
      cases c with
      | intervalometerSetup id n e i b =>
        obtain ⟨hn, hints⟩ := List.forall₂_cons.mp hints
        obtain ⟨he, hints⟩ := List.forall₂_cons.mp hints
        obtain ⟨hi, -⟩ := List.forall₂_cons.mp hints
        obtain ⟨hb, -⟩ := List.forall₂_cons.mp hbools
        exact ⟨id, hid, n, hn, e, he, i, hi, b, hb, rfl⟩
      | _ => cases hkind

theorem tryDecode_decoded {read : Json → Except JsonException Command} {cmd : Option Command}
    {j : Json} (h : (tryDecode read cmd j).decoded = true) :
    ∃ c, tryDecode read cmd j = .accepted c := by
  unfold tryDecode at h ⊢
  cases hr : read j with
  | error e => simp [hr] at h
  | ok c => exact ⟨c, rfl⟩

theorem decoder_decoded {k : CommandKind} {cmd : Option Command} {j : Json}
    (h : (k.decoder target cmd j).decoded = true) :
    ∃ c, k.decoder target cmd j = .accepted c := by
  cases k <;> exact tryDecode_decoded h

theorem code_injective : Function.Injective CommandId.code := by
  intro a b h
  cases a <;> cases b <;> first | rfl | exact absurd h (by decide)

/-- A table that has something for each command, by its kind. -/
def commandTable {δ : Type} (g : CommandKind → δ) : List (UInt8 × δ) :=
  [CommandId.shutdown, .reboot, .functionStart, .functionStop, .cameraTestConnection,
    .cameraReconnect, .functionTestCapture, .downloadAfterExposure, .sequencerSetup,
    .intervalometerSetup].map fun id => (id.code, g id.kind)

theorem lookup_commandTable {δ : Type} {g : CommandKind → δ} {b : UInt8} {x : δ} :
    (commandTable g).lookup b = some x ↔ ∃ id : CommandId, b = id.code ∧ x = g id.kind := by
  constructor
  · intro h
    obtain ⟨id, rfl⟩ : ∃ id : CommandId, b = id.code := by
      by_contra hnone
      push Not at hnone
      have hne : ∀ id : CommandId, (b == id.code) = false := fun id => by simpa using hnone id
      simp [commandTable, List.lookup_cons, hne] at h
    refine ⟨id, rfl, ?_⟩
    cases id <;> exact (Option.some.inj h).symm
  · rintro ⟨id, rfl, rfl⟩
    cases id <;> rfl

/-- **The table** registers each command's number for the decoder of its kind. -/
theorem lookup_decoderMap {b : UInt8} {decoder : Decoder} :
    (decoderMap target).lookup b = some decoder ↔
      ∃ id : CommandId, b = id.code ∧ decoder = id.kind.decoder target :=
  lookup_commandTable (g := fun k => k.decoder target)

theorem decode_of_read {id : CommandId} {j : Json} (h : readUInt8 target j keyCmdId = .ok id.code)
    (cmd : Option Command) : decode target cmd j = id.kind.decoder target cmd j := by
  simp only [decode, h, (lookup_decoderMap target).mpr ⟨id, rfl, rfl⟩]

/-- `decode` answers `false`, or it leaves the answer to the decoder registered
for the number it has read. -/
theorem decode_cases (cmd : Option Command) (j : Json) :
    (decode target cmd j).decoded = false ∨
      ∃ id : CommandId, readUInt8 target j keyCmdId = .ok id.code := by
  unfold decode
  cases hid : readUInt8 target j keyCmdId with
  | error e => exact Or.inl rfl
  | ok b =>
    cases hlookup : (decoderMap target).lookup b with
    | none => exact Or.inl (by simp only [hlookup])
    | some decoder =>
      obtain ⟨id, rfl, -⟩ := (lookup_decoderMap target).mp hlookup
      exact Or.inr ⟨id, rfl⟩

/-- `true` is answered only with a command stored. -/
theorem decode_decoded {cmd : Option Command} {j : Json}
    (h : (decode target cmd j).decoded = true) : ∃ c, decode target cmd j = .accepted c := by
  rcases decode_cases target cmd j with hfalse | ⟨id, hid⟩
  · rw [hfalse] at h
    cases h
  · rw [decode_of_read target hid] at h ⊢
    exact decoder_decoded target h

/-- **What `decode` accepts**: a registered number, and under it a command of its
kind, all of whose members can be read. -/
theorem decode_accepted_iff {cmd : Option Command} {j : Json} {c : Command} :
    decode target cmd j = .accepted c ↔
      ∃ id : CommandId, c.cmdId = id.code ∧ c.kind = id.kind ∧ ReadsAs target j c := by
  constructor
  · intro h
    rcases decode_cases target cmd j with hfalse | ⟨id, hid⟩
    · simp [h, Decoding.accepted] at hfalse
    · rw [decode_of_read target hid, decoder_accepted_iff] at h
      refine ⟨id, ?_, h⟩
      simpa [h.2.cmdId] using hid
  · rintro ⟨id, hcode, hkind, hreads⟩
    have hid := hreads.cmdId
    rw [hcode] at hid
    rw [decode_of_read target hid, decoder_accepted_iff]
    exact ⟨hkind, hreads⟩

end JsonCommandDecoder
end CameraController
