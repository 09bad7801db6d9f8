import CameraController.CameraWrapper
import CameraController.IntegerPrefix
import Mathlib.Algebra.Ring.Int.Defs

/-! # The camera's configuration

`CameraWrapper` reads the serial number and the exposure time as texts.  Reading a
text can fail at two calls of libgphoto2, and either way `getTextConfigValue`
returns the empty text.  Where both succeed and the widget holds no text, the
pointer they bring is null, and `string` throws on it.  What the library answers is
given by config name (`Config`); the calls that only free the widget are left out.

An exposure time is the integer `stoi` finds in front of the text, times 100.
`stoi` throws when it finds none, or none that is an `int`; the product may not be
an `int` either, and then the language says nothing (`NumberError`). -/
namespace CameraController

/-- `GP_OK`. -/
def gpOk : Int := 0

def configSerialNumber : String := "serialnumber"
def configExposureTime : String := "500d"

/-! ## Texts -/

/-- What `gp_camera_get_single_config` and `gp_widget_get_value` answer; `value` is
`none` when the pointer is null. -/
structure TextConfig where
  getConfig : Int
  getValue : Int
  value : Option String
  deriving DecidableEq, Repr

/-- Why a text gives no exposure time: the exceptions of `string` (a null pointer) and
of `stoi`, and the product that is not an `int`. -/
inductive NumberError where
  | logicError
  | invalidArgument
  | outOfRange
  | overflow (product : Int)
  deriving DecidableEq, Repr

/-- What the library answers for each config of type text. -/
abbrev Config := String → TextConfig

/-- Both calls succeed. -/
def Config.Read (config : Config) (name : String) : Prop :=
  (config name).getConfig = gpOk ∧ (config name).getValue = gpOk

instance (config : Config) (name : String) : Decidable (config.Read name) :=
  inferInstanceAs (Decidable (_ ∧ _))

/-- The text the camera reports, `none` if one of the calls fails or the pointer is
null. -/
def Config.report (config : Config) (name : String) : Option String :=
  if config.Read name then (config name).value else none

/-- Both calls succeed and the pointer is null. -/
def Config.Null (config : Config) (name : String) : Prop :=
  config.Read name ∧ (config name).value = none

instance (config : Config) (name : String) : Decidable (config.Null name) :=
  inferInstanceAs (Decidable (_ ∧ _))

def getTextConfigValue (config : Config) (name : String) : Except NumberError String :=
  if (config name).getConfig ≠ gpOk then .ok ""
  else if (config name).getValue ≠ gpOk then .ok ""
  else match (config name).value with
    | some text => .ok text
    | none => .error .logicError

def getSerialNumber (config : Config) : Except NumberError String :=
  getTextConfigValue config configSerialNumber

/-- **A text that cannot be read is empty**, but for a null pointer. -/
theorem getTextConfigValue_eq (config : Config) (name : String) :
    getTextConfigValue config name =
      if config.Null name then .error .logicError else .ok ((config.report name).getD "") := by
  by_cases hnull : config.Null name
  · rw [if_pos hnull]
    obtain ⟨⟨hconfig, hvalue⟩, hpointer⟩ := hnull
    simp [getTextConfigValue, hconfig, hvalue, hpointer]
  · rw [if_neg hnull]
    by_cases hread : config.Read name
    · obtain ⟨text, htext⟩ := Option.ne_none_iff_exists'.mp fun h => hnull ⟨hread, h⟩
      simp [getTextConfigValue, Config.report, hread, hread.1, hread.2, htext]
    · rw [Config.report, if_neg hread]
      unfold Config.Read at hread
      by_cases hconfig : (config name).getConfig = gpOk <;>
        simp_all [getTextConfigValue]

theorem Config.report_of_null {config : Config} {name : String} (h : config.Null name) :
    config.report name = none := by
  rw [Config.report, if_pos h.1, h.2]

/-! ## Exposure times -/

/-- The values of an `int`. -/
def FitsInt (n : Int) : Prop := -2 ^ 31 ≤ n ∧ n < 2 ^ 31

instance (n : Int) : Decidable (FitsInt n) := inferInstanceAs (Decidable (_ ∧ _))

theorem toInt_ofInt_of_fitsInt {n : Int} (h : FitsInt n) : (Int32.ofInt n).toInt = n :=
  Int32.toInt_ofInt_of_le h.1 h.2

/-- `std::stoi`. -/
def stoi (text : String) : Except NumberError Int32 :=
  match IntegerPrefix.scan text.toList with
  | none => .error .invalidArgument
  | some (n, _) => if FitsInt n then .ok (Int32.ofInt n) else .error .outOfRange

/-- A product of `int`s. -/
def mulInt (a b : Int32) : Except NumberError Int32 :=
  if FitsInt (a.toInt * b.toInt) then .ok (Int32.ofInt (a.toInt * b.toInt))
  else .error (.overflow (a.toInt * b.toInt))

def exposureTimeFromString (exposureTime : String) : Except NumberError Int32 := do
  let expTime ← mulInt (← stoi exposureTime) 100
  -- Change BULB from -100 to 0
  return if expTime ≠ -100 then expTime else 0

def getCurrentExposureTime (config : Config) : Except NumberError Int32 := do
  let exp ← getTextConfigValue config configExposureTime
  if exp ≠ "" then exposureTimeFromString exp else return -1

theorem getCurrentExposureTime_of_null {config : Config} (h : config.Null configExposureTime) :
    getCurrentExposureTime config = .error .logicError := by
  rw [getCurrentExposureTime, getTextConfigValue_eq, if_pos h]
  rfl

theorem getCurrentExposureTime_eq {config : Config} (h : ¬ config.Null configExposureTime) :
    getCurrentExposureTime config =
      if (config.report configExposureTime).getD "" ≠ "" then
        exposureTimeFromString ((config.report configExposureTime).getD "")
      else .ok (-1) := by
  rw [getCurrentExposureTime, getTextConfigValue_eq, if_neg h]
  rfl

/-- What `capture` goes on with when it has asked for the exposure time; `overflow` is
what the machine makes of a product that is not an `int`. -/
def readExposureTime (overflow : Int → Int) (config : Config) : Except NumberError Int :=
  match getCurrentExposureTime config with
  | .ok v => .ok v.toInt
  | .error (.overflow product) => .ok (overflow product)
  | .error e => .error e

/-- The text that the camera reports is taken for `BULB`: it begins with the integer `-1`
or `0`, or with one whose hundredfold is not an `int` and that the machine makes `0` of. -/
def TakenForBulb (overflow : Int → Int) (config : Config) : Prop :=
  ∃ text n rest, config.report configExposureTime = some text ∧
    IntegerPrefix.scan text.toList = some (n, rest) ∧ FitsInt n ∧
    if FitsInt (n * 100) then n = -1 ∨ n = 0 else overflow (n * 100) = 0

/-- What `capture` gets when it asks for the exposure time. -/
def exposureTimeAnswer (overflow : Int → Int) (config : Config) : Answer :=
  .exposureTime (readExposureTime overflow config).toOption

/-- What `gp_camera_get_single_config` answers, and `gp_widget_get_choice` for each
choice that `gp_widget_count_choices` counts.  A choice that is read is a text: the
library copied it when the choice was added. -/
structure ChoicesConfig where
  getConfig : Int
  choices : List (Int × String)
  deriving DecidableEq, Repr

/-- `listConfigChoices`: up to the first choice that cannot be read. -/
def listConfigChoices (config : ChoicesConfig) : List String :=
  if config.getConfig ≠ gpOk then []
  else (config.choices.takeWhile fun choice => choice.1 == gpOk).map Prod.snd

def listAvailableExposureTimes (config : ChoicesConfig) : Except NumberError (List Int32) :=
  (listConfigChoices config).mapM exposureTimeFromString

/-! ## What they return -/

/-- **What `stoi` returns**: the integer in front of the text, whatever follows. -/
theorem stoi_eq_ok_iff {text : String} {v : Int32} :
    stoi text = .ok v ↔ ∃ rest, IntegerPrefix.scan text.toList = some (v.toInt, rest) := by
  unfold stoi
  cases IntegerPrefix.scan text.toList with
  | none => simp
  | some r =>
    obtain ⟨n, rest⟩ := r
    simp only
    by_cases hn : FitsInt n
    · rw [if_pos hn]
      constructor
      · intro h
        obtain rfl := Except.ok.inj h
        exact ⟨rest, by rw [toInt_ofInt_of_fitsInt hn]⟩
      · rintro ⟨_, h⟩
        obtain ⟨rfl, -⟩ := Prod.mk.inj (Option.some.inj h)
        rw [Int32.ofInt_toInt]
    · rw [if_neg hn]
      constructor
      · intro h
        simp at h
      · rintro ⟨_, h⟩
        obtain ⟨rfl, -⟩ := Prod.mk.inj (Option.some.inj h)
        exact absurd ⟨v.le_toInt, v.toInt_lt⟩ hn

theorem mulInt_eq_ok_iff {a b v : Int32} : mulInt a b = .ok v ↔ v.toInt = a.toInt * b.toInt := by
  unfold mulInt
  by_cases hfits : FitsInt (a.toInt * b.toInt)
  · rw [if_pos hfits, Except.ok.injEq, ← Int32.toInt_inj, toInt_ofInt_of_fitsInt hfits, eq_comm]
  · rw [if_neg hfits]
    constructor
    · intro h
      simp at h
    · intro h
      exact absurd (h ▸ ⟨v.le_toInt, v.toInt_lt⟩) hfits

theorem exposureTimeFromString_eq (text : String) (v : Int32) :
    exposureTimeFromString text = .ok v ↔
      ∃ n p, stoi text = .ok n ∧ mulInt n 100 = .ok p ∧ (if p ≠ -100 then p else 0) = v := by
  unfold exposureTimeFromString
  cases stoi text with
  | error e => simp [bind, Except.bind]
  | ok n =>
    cases hp : mulInt n 100 with
    | error e => simp [bind, Except.bind, hp]
    | ok p => simp [bind, Except.bind, pure, Except.pure, hp]

/-- The exposure time of an integer, `0` for `BULB`. -/
def exposureTimeOf (n : Int) : Int := if n = -1 then 0 else 100 * n

theorem toInt_exposureTime {n p : Int32} (hp : p.toInt = 100 * n.toInt) :
    (if p ≠ -100 then p else 0).toInt = exposureTimeOf n.toInt := by
  have hbulb : p = -100 ↔ n.toInt = -1 := by
    rw [← Int32.toInt_inj, hp, show (-100 : Int32).toInt = -100 from rfl]
    omega
  unfold exposureTimeOf
  by_cases hn : n.toInt = -1
  · rw [if_neg (not_not_intro (hbulb.mpr hn)), if_pos hn]
    rfl
  · rw [if_pos (fun h => hn (hbulb.mp h)), if_neg hn, hp]

theorem fitsInt_exposureTimeOf {n : Int} (h : FitsInt (n * 100)) : FitsInt (exposureTimeOf n) := by
  unfold exposureTimeOf
  split
  · decide
  · rwa [Int.mul_comm]

/-- What a text that begins with an `int` gives. -/
theorem exposureTimeFromString_of_scan {text : String} {n : Int} {rest : List Char}
    (hscan : IntegerPrefix.scan text.toList = some (n, rest)) (hn : FitsInt n) :
    exposureTimeFromString text =
      if FitsInt (n * 100) then .ok (Int32.ofInt (exposureTimeOf n))
      else .error (.overflow (n * 100)) := by
  have hvalue := toInt_ofInt_of_fitsInt hn
  have hstoi : stoi text = .ok (Int32.ofInt n) := stoi_eq_ok_iff.mpr ⟨rest, by rw [hvalue, hscan]⟩
  have hfactor : (Int32.ofInt n).toInt * (100 : Int32).toInt = n * 100 := by
    rw [hvalue]
    rfl
  split
  · rename_i hfits
    have hp := toInt_ofInt_of_fitsInt hfits
    refine (exposureTimeFromString_eq text _).mpr ⟨_, Int32.ofInt (n * 100), hstoi,
      mulInt_eq_ok_iff.mpr (hp.trans hfactor.symm), ?_⟩
    rw [← Int32.toInt_inj, toInt_exposureTime (hp.trans (by rw [hvalue, Int.mul_comm])), hvalue,
      toInt_ofInt_of_fitsInt (fitsInt_exposureTimeOf hfits)]
  · rename_i hfits
    rw [exposureTimeFromString, hstoi]
    simp only [bind, Except.bind, mulInt, hfactor, if_neg hfits]

/-- **What `exposureTimeFromString` returns.** -/
theorem exposureTimeFromString_eq_ok_iff {text : String} {v : Int32} :
    exposureTimeFromString text = .ok v ↔
      ∃ n rest, IntegerPrefix.scan text.toList = some (n, rest) ∧ FitsInt (100 * n) ∧
        v.toInt = exposureTimeOf n := by
  constructor
  · intro h
    obtain ⟨n, p, hn, hp, rfl⟩ := (exposureTimeFromString_eq text v).mp h
    obtain ⟨rest, hscan⟩ := stoi_eq_ok_iff.mp hn
    have hp' : p.toInt = 100 * n.toInt := by
      rw [mulInt_eq_ok_iff.mp hp, Int.mul_comm]
      rfl
    exact ⟨n.toInt, rest, hscan, hp' ▸ ⟨p.le_toInt, p.toInt_lt⟩, toInt_exposureTime hp'⟩
  · rintro ⟨n, rest, hscan, hfits, hv⟩
    have hn : FitsInt n := by
      unfold FitsInt at hfits ⊢
      omega
    rw [Int.mul_comm] at hfits
    rw [exposureTimeFromString_of_scan hscan hn, if_pos hfits, Except.ok.injEq, ← Int32.toInt_inj,
      hv, toInt_ofInt_of_fitsInt (fitsInt_exposureTimeOf hfits)]

/-! ## What is taken for `BULB` -/

theorem readExposureTime_of_scan {overflow : Int → Int} {config : Config} {text : String} {n : Int}
    {rest : List Char} (htext : config.report configExposureTime = some text)
    (hscan : IntegerPrefix.scan text.toList = some (n, rest)) (hn : FitsInt n) :
    readExposureTime overflow config =
      .ok (if FitsInt (n * 100) then exposureTimeOf n else overflow (n * 100)) := by
  have hnull : ¬ config.Null configExposureTime := fun hnull => by
    rw [Config.report_of_null hnull] at htext
    cases htext
  have hne : text ≠ "" := by
    rintro rfl
    cases hscan
  rw [readExposureTime, getCurrentExposureTime_eq hnull, htext, Option.getD_some, if_pos hne,
    exposureTimeFromString_of_scan hscan hn]
  by_cases hfits : FitsInt (n * 100)
  · simp only [if_pos hfits, toInt_ofInt_of_fitsInt (fitsInt_exposureTimeOf hfits)]
  · simp only [if_neg hfits]

/-- A time that is read off a text begins it. -/
theorem scan_of_readExposureTime {overflow : Int → Int} {config : Config} {t : Int}
    (h : readExposureTime overflow config = .ok t) (ht : t ≠ -1) :
    ∃ text n rest, config.report configExposureTime = some text ∧
      IntegerPrefix.scan text.toList = some (n, rest) ∧ FitsInt n := by
  by_cases hnull : config.Null configExposureTime
  · rw [readExposureTime, getCurrentExposureTime_of_null hnull] at h
    cases h
  rw [readExposureTime, getCurrentExposureTime_eq hnull] at h
  cases htext : config.report configExposureTime with
  | none =>
    rw [htext] at h
    exact absurd (Except.ok.inj h).symm ht
  | some text =>
    rw [htext, Option.getD_some] at h
    by_cases hempty : text = ""
    · rw [if_neg (not_not_intro hempty)] at h
      exact absurd (Except.ok.inj h).symm ht
    · rw [if_pos hempty] at h
      cases hscan : IntegerPrefix.scan text.toList with
      | none => simp [exposureTimeFromString, stoi, hscan, bind, Except.bind] at h
      | some r =>
        by_cases hn : FitsInt r.1
        · exact ⟨text, r.1, r.2, rfl, hscan, hn⟩
        · simp [exposureTimeFromString, stoi, hscan, hn, bind, Except.bind] at h

/-- **What the code takes for `BULB`**, in terms of the camera's text. -/
theorem readExposureTime_eq_zero_iff {overflow : Int → Int} {config : Config} :
    readExposureTime overflow config = .ok 0 ↔ TakenForBulb overflow config := by
  constructor
  · intro h
    obtain ⟨text, n, rest, htext, hscan, hn⟩ := scan_of_readExposureTime h (by decide)
    rw [readExposureTime_of_scan htext hscan hn, Except.ok.injEq] at h
    refine ⟨text, n, rest, htext, hscan, hn, ?_⟩
    split
    · rename_i hfits
      rw [if_pos hfits, exposureTimeOf] at h
      split at h <;> omega
    · rename_i hfits
      rwa [if_neg hfits] at h
  · rintro ⟨text, n, rest, htext, hscan, hn, hzero⟩
    rw [readExposureTime_of_scan htext hscan hn, Except.ok.injEq]
    split
    · rename_i hfits
      rw [if_pos hfits] at hzero
      rcases hzero with rfl | rfl <;> rfl
    · rename_i hfits
      rwa [if_neg hfits] at hzero

end CameraController
