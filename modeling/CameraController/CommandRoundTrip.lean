import CameraController.Commands

/-! # Does a command survive its own JSON?

`Command::toJson` writes `cmd_id`, and none of the classes derived from `Command`
overrides it, though each of them has more members and a decoder that asks for
them.  The constructor of `DownloadAfterExposureCommand` does not even have a
number to write: it passes the `cmd_id` of the object under construction on to
`Command`, before anything has been put there.

`roundTrips_iff` says which commands come back: those that have a number and
nothing else. -/
namespace CameraController

open Json JsonCommandDecoder

/-! ## Writing -/

namespace Json

/-- `operator[]` of the map of an object, with an assignment to what it refers to. -/
def assignMember (key : String) (value : Json) : List (String × Json) → List (String × Json)
  | [] => [(key, value)]
  | (k, v) :: members =>
    if key < k then (key, value) :: (k, v) :: members
    else if key = k then (key, value) :: members
    else (k, v) :: assignMember key value members

/-- `j[key] = value`. -/
def assignAt (j : Json) (key : String) (value : Json) : Except JsonException Json :=
  match j with
  | null => .ok (.object (assignMember key value []))
  | object members => .ok (.object (assignMember key value members))
  | j => .error (.typeError 305 ("cannot use operator[] with " ++ j.typeName))

/-- The library's conversion of a `uint8_t`. -/
def ofUInt8 (b : UInt8) : Json := .numberUnsigned b.toUInt64

theorem get_ofUInt8 (outside : Double → UInt8) (b : UInt8) :
    (ofUInt8 b).get .uint8 outside = .ok b := by
  obtain ⟨hlo, hhi⟩ := IntegerType.uint8.toInt_mem b
  have hback := IntegerType.uint8.toInt_ofInt b.toNat hlo hhi
  have hsame : IntegerType.uint8.ofInt b.toNat = b := UInt8.toNat_inj.mp (Int.ofNat_inj.mp hback)
  rw [ofUInt8, get, UInt8.toNat_toUInt64, hsame]

end Json

/-- A call of one of the public constructors. -/
inductive Construction where
  | command (cmdId : UInt8)
  | downloadAfterExposure (download : Bool)
  | sequencerSetup (cmdId : UInt8) (numExposures expTime : Int32) (download : Bool)
  | intervalometerSetup (cmdId : UInt8) (numExposures expTime interval : Int32) (download : Bool)
  deriving DecidableEq, Repr

/-- The object constructed; `indeterminate` is what its `cmd_id` holds before. -/
def Construction.build (indeterminate : UInt8) : Construction → Command
  | command cmdId => .command cmdId
  | downloadAfterExposure download => .downloadAfterExposure indeterminate download
  | sequencerSetup cmdId numExposures expTime download =>
    .sequencerSetup cmdId numExposures expTime download
  | intervalometerSetup cmdId numExposures expTime interval download =>
    .intervalometerSetup cmdId numExposures expTime interval download

/-- `toJson`, which all classes have from `Command`. -/
def Command.toJson (c : Command) (j : Json) : Except JsonException Json :=
  j.assignAt keyCmdId (ofUInt8 c.cmdId)

/-- What is written into an empty object is decoded as `c`; `cmd` is what the pointer
passed to the decoder points to before. -/
def RoundTrips (target : Target) (cmd : Option Command) (c : Command) : Prop :=
  ∃ j, c.toJson (.object []) = .ok j ∧ (decode target cmd j).decoded = true ∧
    (decode target cmd j).cmd = some c

/-! ## Reading it again -/

variable {target : Target} {cmd : Option Command} {c : Command}

theorem toJson_empty (c : Command) :
    c.toJson (.object []) = .ok (.object [(keyCmdId, ofUInt8 c.cmdId)]) := rfl

theorem roundTrips_iff_accepted :
    RoundTrips target cmd c ↔
      decode target cmd (.object [(keyCmdId, ofUInt8 c.cmdId)]) = .accepted c := by
  constructor
  · rintro ⟨j, hj, hdecoded, hcmd⟩
    obtain rfl := Except.ok.inj ((toJson_empty c).symm.trans hj)
    obtain ⟨c', hc'⟩ := decode_decoded target hdecoded
    rw [hc'] at hcmd
    rw [hc', Option.some.inj hcmd]
  · intro h
    exact ⟨_, toJson_empty c, by rw [h]; rfl, by rw [h]; rfl⟩

theorem readUInt8_written (target : Target) (b : UInt8) :
    readUInt8 target (.object [(keyCmdId, ofUInt8 b)]) keyCmdId = .ok b :=
  CheckedFold.bind_eq_ok_iff.mpr ⟨ofUInt8 b, rfl, get_ofUInt8 target.uint8 b⟩

/-- Only the number is there to be read. -/
theorem not_readBool_written (v : Json) (b : Bool) :
    readBool (.object [(keyCmdId, v)]) keyDownload ≠ .ok b := by
  intro h
  obtain ⟨value, hvalue, -⟩ := CheckedFold.bind_eq_ok_iff.mp h
  cases hvalue

/-- **What was written reads as `c`** exactly when that is a number and nothing else. -/
theorem readsAs_written_iff :
    ReadsAs target (.object [(keyCmdId, ofUInt8 c.cmdId)]) c ↔ c.kind = .empty := by
  constructor
  · intro h
    have hbools := h.bools
    cases c with
    | command cmdId => rfl
    | _ => exact absurd (List.forall₂_cons.mp hbools).1 (not_readBool_written _ _)
  · intro hkind
    refine ⟨readUInt8_written target c.cmdId, ?_, ?_⟩ <;> cases c with
    | command cmdId => exact .nil
    | _ => cases hkind

theorem kind_build_eq_empty_iff (indeterminate : UInt8) (k : Construction) :
    (k.build indeterminate).kind = .empty ↔ ∃ cmdId, k = .command cmdId := by
  cases k <;> simp [Construction.build, Command.kind]

/-- **A command constructed with a number registered for its kind comes back** exactly
when it is a plain `Command`. -/
theorem roundTrips_iff (target : Target) (indeterminate : UInt8) (cmd : Option Command)
    {k : Construction}
    (h : ∃ id : CommandId, (k.build indeterminate).cmdId = id.code ∧
      (k.build indeterminate).kind = id.kind) :
    RoundTrips target cmd (k.build indeterminate) ↔ ∃ cmdId, k = .command cmdId := by
  obtain ⟨id, hcode, hkind⟩ := h
  rw [roundTrips_iff_accepted, decode_accepted_iff, ← kind_build_eq_empty_iff indeterminate]
  constructor
  · rintro ⟨-, -, -, hreads⟩
    exact readsAs_written_iff.mp hreads
  · intro hempty
    exact ⟨id, hcode, hkind, readsAs_written_iff.mpr hempty⟩

theorem roundTrips_reboot :
    RoundTrips ⟨fun _ => 0, fun _ => 0⟩ none (Construction.build 0 (.command 2)) :=
  (roundTrips_iff _ 0 none ⟨.reboot, rfl, rfl⟩).mpr ⟨2, rfl⟩

/-- Ten exposures of a second each are not set up again. -/
theorem not_roundTrips_sequencerSetup :
    ¬ RoundTrips ⟨fun _ => 0, fun _ => 0⟩ none
      (Construction.build 0 (.sequencerSetup 20 10 1000 false)) := by
  rw [roundTrips_iff_accepted]
  intro h
  have hdecoded := congrArg Decoding.decoded h
  exact absurd hdecoded (by decide)

end CameraController
