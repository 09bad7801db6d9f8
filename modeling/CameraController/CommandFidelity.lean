import CameraController.Commands
import CameraController.Streaming

/-! # Is a decoded telecommand the one in the text?

A command is exact when every field equals, as a number, what the JSON object has
under its key (`Exact`).  The decoders convert before anything is checked, and the
registered numbers are looked up after `cmd_id` has been narrowed to a byte, so a
number that does not fit its field becomes another one.

`decode_faithful_iff` says exactly for which JSON values that does not matter:
those of which every member the command reads fits its field, unless something
keeps the command from being decoded at all. -/
namespace CameraController

/-! ## Numbers under a key -/

namespace Json

/-- The number `n` stands under `key`. -/
def NumberAt (j : Json) (key : String) (n : Int) : Prop :=
  ∃ value, j.atKey key = .ok value ∧ value.number? = some (n : ℚ)

/-- The boolean `b` stands under `key`. -/
def BooleanAt (j : Json) (key : String) (b : Bool) : Prop := j.atKey key = .ok (boolean b)

variable {α : Type} (t : IntegerType α)

/-- Under `key` stands a number that the type has. -/
def FitsAt (j : Json) (key : String) : Prop := ∃ value, j.atKey key = .ok value ∧ value.Fits t

/-- Under `key` stands something that is not a number of the type. -/
def MisfitAt (j : Json) (key : String) : Prop :=
  ∃ value, j.atKey key = .ok value ∧ ¬ value.Fits t

theorem not_misfitAt {j : Json} {key : String} (h : j.FitsAt t key) : ¬ j.MisfitAt t key := by
  rintro ⟨value, hvalue, hmisfit⟩
  obtain ⟨value', hvalue', hfits⟩ := h
  obtain rfl : value' = value := by simpa [hvalue'] using hvalue
  exact hmisfit hfits

/-- A number read is the one under its key exactly when that fits. -/
theorem numberAt_iff_fitsAt {outside : Double → α} {j : Json} {key : String} {a : α}
    (h : (do (← j.atKey key).get t outside) = .ok a) :
    j.NumberAt key (t.toInt a) ↔ j.FitsAt t key := by
  obtain ⟨value, hvalue, hget⟩ := CheckedFold.bind_eq_ok_iff.mp h
  have hexact := get_exact_iff t outside hget
  simp [NumberAt, FitsAt, hvalue, hexact]

end Json

open Json JsonCommandDecoder Streaming

/-- `c` is exactly the command in `j`. -/
structure Exact (j : Json) (c : Command) : Prop where
  isObject : ∃ members, j = .object members
  registered : ∃ id : CommandId, c.cmdId = id.code ∧ c.kind = id.kind
  cmdId : j.NumberAt keyCmdId c.cmdId.toNat
  ints : List.Forall₂ (fun key n => j.NumberAt key n.toInt) c.kind.intKeys c.ints
  bools : List.Forall₂ j.BooleanAt c.kind.boolKeys c.bools

/-- A member that decides the command, or an integer member of the command it
decides on, is not a number of the C++ type of its field. -/
def Misfit (j : Json) : Prop :=
  j.MisfitAt .uint8 keyCmdId ∨
    ∃ id : CommandId, j.NumberAt keyCmdId id.code.toNat ∧
      ∃ key ∈ id.kind.intKeys, j.MisfitAt .int key

/-- A decoded telecommand is the one in `j`, and what does not fit is rejected. -/
structure Faithful (target : Target) (j : Json) : Prop where
  exact : ∀ cmd, (decode target cmd j).decoded = true →
    ∃ c, (decode target cmd j).cmd = some c ∧ Exact j c
  rejects : Misfit j → ∀ cmd, (decode target cmd j).decoded = false

/-! ## What is read and what stands there -/

variable {target : Target} {j : Json}

/-- The integers read are those of the text exactly when all of them fit. -/
theorem ints_exact_iff {keys : List String} {ns : List Int32}
    (h : List.Forall₂ (fun key n => readInt target j key = .ok n) keys ns) :
    List.Forall₂ (fun key (n : Int32) => j.NumberAt key n.toInt) keys ns ↔
      ∀ key ∈ keys, j.FitsAt .int key := by
  induction h with
  | nil => simp
  | cons hread _ ih =>
    rw [List.forall₂_cons, ih, List.forall_mem_cons]
    exact and_congr_left' (numberAt_iff_fitsAt .int hread)

theorem bools_exact {keys : List String} {bs : List Bool}
    (h : List.Forall₂ (fun key b => readBool j key = .ok b) keys bs) :
    List.Forall₂ j.BooleanAt keys bs := by
  refine h.imp fun key b hread => ?_
  obtain ⟨value, hvalue, hget⟩ := CheckedFold.bind_eq_ok_iff.mp hread
  obtain rfl := getBool_eq_ok_iff.mp hget
  exact hvalue

/-- **A command read is exact exactly when its numbers fit.** -/
theorem exact_iff_fits {c : Command} (hreads : ReadsAs target j c) {id : CommandId}
    (hcode : c.cmdId = id.code) (hkind : c.kind = id.kind) :
    Exact j c ↔ j.FitsAt .uint8 keyCmdId ∧ ∀ key ∈ id.kind.intKeys, j.FitsAt .int key := by
  have hid := numberAt_iff_fitsAt .uint8 hreads.cmdId
  have hints := ints_exact_iff hreads.ints
  rw [← hkind, ← hid, ← hints]
  refine ⟨fun h => ⟨h.cmdId, h.ints⟩, fun ⟨hcmdId, hints⟩ => ?_⟩
  obtain ⟨value, hvalue, -⟩ := CheckedFold.bind_eq_ok_iff.mp hreads.cmdId
  obtain ⟨members, hj, -⟩ := atKey_eq_ok_iff.mp hvalue
  exact ⟨⟨members, hj⟩, ⟨id, hcode, hkind⟩, hcmdId, hints, bools_exact hreads.bools⟩

theorem readInt_isOk_iff (target : Target) (key : String) :
    (∃ n, readInt target j key = .ok n) ↔
      ∃ value, j.atKey key = .ok value ∧ value.IsArithmetic := by
  simp only [readInt, CheckedFold.bind_eq_ok_iff, ← get_isOk_iff .int target.int]
  exact ⟨fun ⟨n, value, hvalue, hn⟩ => ⟨value, hvalue, n, hn⟩,
    fun ⟨value, hvalue, n, hn⟩ => ⟨n, value, hvalue, hn⟩⟩

theorem readBool_isOk_iff (key : String) :
    (∃ b, readBool j key = .ok b) ↔ ∃ b, j.BooleanAt key b := by
  simp [readBool, CheckedFold.bind_eq_ok_iff, getBool_eq_ok_iff, BooleanAt]

/-- A command of each kind with the fields given. -/
theorem exists_command (k : CommandKind) (id : UInt8) {ns : List Int32} {bs : List Bool}
    (hns : ns.length = k.intKeys.length) (hbs : bs.length = k.boolKeys.length) :
    ∃ c : Command, c.cmdId = id ∧ c.kind = k ∧ c.ints = ns ∧ c.bools = bs := by
  match k, ns, bs, hns, hbs with
  | .empty, [], [], _, _ => exact ⟨.command id, rfl, rfl, rfl, rfl⟩
  | .download, [], [b], _, _ => exact ⟨.downloadAfterExposure id b, rfl, rfl, rfl, rfl⟩
  | .sequencer, [n, e], [b], _, _ => exact ⟨.sequencerSetup id n e b, rfl, rfl, rfl, rfl⟩
  | .intervalometer, [n, e, i], [b], _, _ =>
    exact ⟨.intervalometerSetup id n e i b, rfl, rfl, rfl, rfl⟩

/-- The members of the command that `cmd_id` names, as a byte, can be read. -/
structure Readable (target : Target) (j : Json) (id : CommandId) : Prop where
  cmdId : ∃ value, j.atKey keyCmdId = .ok value ∧ value.get .uint8 target.uint8 = .ok id.code
  ints : ∀ key ∈ id.kind.intKeys, ∃ value, j.atKey key = .ok value ∧ value.IsArithmetic
  bools : ∀ key ∈ id.kind.boolKeys, ∃ b, j.BooleanAt key b

theorem readable_iff {id : CommandId} :
    Readable target j id ↔
      ∃ c : Command, c.cmdId = id.code ∧ c.kind = id.kind ∧ ReadsAs target j c := by
  constructor
  · rintro ⟨hid, hints, hbools⟩
    simp only [← readInt_isOk_iff target, ← readBool_isOk_iff,
      ← exists_forall₂_iff] at hints hbools
    obtain ⟨ns, hns⟩ := hints
    obtain ⟨bs, hbs⟩ := hbools
    obtain ⟨c, hcode, hkind, rfl, rfl⟩ :=
      exists_command id.kind id.code hns.length_eq.symm hbs.length_eq.symm
    refine ⟨c, hcode, hkind, ?_, hkind ▸ hns, hkind ▸ hbs⟩
    rw [hcode]
    exact CheckedFold.bind_eq_ok_iff.mpr hid
  · rintro ⟨c, hcode, hkind, hreads⟩
    refine ⟨CheckedFold.bind_eq_ok_iff.mp (hcode ▸ hreads.cmdId), ?_, ?_⟩
    · simp only [← readInt_isOk_iff target, ← exists_forall₂_iff]
      exact ⟨_, hkind ▸ hreads.ints⟩
    · simp only [← readBool_isOk_iff, ← exists_forall₂_iff]
      exact ⟨_, hkind ▸ hreads.bools⟩

/-- Whenever `cmd_id`, as a byte, is the number of a command, and the members that
command reads are there and of a kind they can be read from, they are numbers of
the C++ types of their fields, and so is `cmd_id`. -/
def Representable (target : Target) (j : Json) : Prop :=
  ∀ id : CommandId, Readable target j id →
    j.FitsAt .uint8 keyCmdId ∧ ∀ key ∈ id.kind.intKeys, j.FitsAt .int key

/-! ## When decoding is faithful -/

/-- A command read that fits is no misfit. -/
theorem not_misfit {c : Command} (hexact : Exact j c) {id : CommandId}
    (hcode : c.cmdId = id.code) (hid : j.FitsAt .uint8 keyCmdId)
    (hints : ∀ key ∈ id.kind.intKeys, j.FitsAt .int key) : ¬ Misfit j := by
  rintro (hmisfit | ⟨id', hnumber, key, hkey, hmisfit⟩)
  · exact not_misfitAt .uint8 hid hmisfit
  · obtain ⟨value, hvalue, hn⟩ := hexact.cmdId
    obtain ⟨value', hvalue', hn'⟩ := hnumber
    obtain rfl : value' = value := by simpa [hvalue'] using hvalue
    have hsame : c.cmdId = id'.code := by
      rw [← UInt8.toNat_inj]
      exact_mod_cast Option.some.inj (hn.symm.trans hn')
    obtain rfl : id = id' := code_injective (hcode.symm.trans hsame)
    exact not_misfitAt .int (hints key hkey) hmisfit

/-- **A telecommand is decoded faithfully exactly when it is representable.** -/
theorem decode_faithful_iff (target : Target) (j : Json) :
    Faithful target j ↔ Representable target j := by
  constructor
  · intro h id hreadable
    obtain ⟨c, hcode, hkind, hreads⟩ := readable_iff.mp hreadable
    have haccepted : decode target none j = .accepted c :=
      (decode_accepted_iff target).mpr ⟨id, hcode, hkind, hreads⟩
    obtain ⟨c', hc', hexact⟩ := h.exact none (by rw [haccepted]; rfl)
    obtain rfl : c = c' := by simpa [haccepted, Decoding.accepted] using hc'
    exact (exact_iff_fits hreads hcode hkind).mp hexact
  · intro h
    have hread : ∀ cmd, (decode target cmd j).decoded = true →
        ∃ c, (decode target cmd j).cmd = some c ∧ Exact j c ∧ ¬ Misfit j := by
      intro cmd hdecoded
      obtain ⟨c, hc⟩ := decode_decoded target hdecoded
      obtain ⟨id, hcode, hkind, hreads⟩ := (decode_accepted_iff target).mp hc
      obtain ⟨hid, hints⟩ := h id (readable_iff.mpr ⟨c, hcode, hkind, hreads⟩)
      have hexact := (exact_iff_fits hreads hcode hkind).mpr ⟨hid, hints⟩
      exact ⟨c, by rw [hc]; rfl, hexact, not_misfit hexact hcode hid hints⟩
    constructor
    · intro cmd hdecoded
      obtain ⟨c, hc, hexact, -⟩ := hread cmd hdecoded
      exact ⟨c, hc, hexact⟩
    · intro hmisfit cmd
      by_contra hdecoded
      obtain ⟨c, -, -, hfit⟩ := hread cmd (by simpa using hdecoded)
      exact hfit hmisfit

/-- The number 257 shuts the computer down. -/
theorem not_faithful_257 :
    ¬ Faithful ⟨fun _ => 0, fun _ => 0⟩ (.object [(keyCmdId, .numberUnsigned 257)]) := by
  intro h
  obtain ⟨c, hc, hexact⟩ := h.exact none rfl
  obtain rfl : Command.command 1 = c := Option.some.inj hc
  obtain ⟨value, hvalue, hnumber⟩ := hexact.cmdId
  obtain rfl : Json.numberUnsigned 257 = value := Except.ok.inj hvalue
  have hone : ((257 : UInt64).toNat : ℚ) = ((Command.command 1).cmdId.toNat : ℚ) := by
    exact_mod_cast Option.some.inj hnumber
  exact absurd (Nat.cast_injective hone) (by decide)

end CameraController
