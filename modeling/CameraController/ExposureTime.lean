import CameraController.CameraConfig
import CameraController.Streaming

/-! # Is the exposure time the one the camera reports?

`getCurrentExposureTime` answers with one number: `0` says `BULB`, which the
camera calls `-1`, and `-1` that there was nothing to read.  `Interprets` says what
the number for a text should be.

The code takes the integer in front of the text for the whole, does not catch what
`string` and `stoi` throw, and multiplies whatever comes.  So a fraction is taken for
an integer, a word ends the caller, and a shutter time of zero, in the camera's own
unit, is taken for `BULB`.  `exposureTimesFaithful_iff` says for which texts none
of that happens. -/
namespace CameraController

open IntegerPrefix Streaming

/-- The camera reports the integer `n`. -/
def Denotes (text : Option String) (n : Int) : Prop := ∃ t, text = some t ∧ Writes t.toList n

/-- `v` is the exposure time that the text stands for. -/
structure Interprets (text : Option String) (v : Int32) : Prop where
  unreadable : v = -1 ↔ ∀ n, ¬ Denotes text n
  bulb : v = 0 ↔ Denotes text (-1)
  exact : ∀ n, Denotes text n → n ≠ -1 → v.toInt = 100 * n

/-- The exposure times the code works with are the camera's. -/
structure ExposureTimesFaithful (overflow : Int → Int) (config : Config)
    (choices : ChoicesConfig) : Prop where
  current : ∃ v, getCurrentExposureTime config = .ok v ∧
    Interprets (config.report configExposureTime) v
  /-- `capture` takes the remote path exactly for `BULB`. -/
  remote : ∀ download,
    captureStep download .exposureTime (exposureTimeAnswer overflow config) =
      some (.goOn .remoteExposureTime) ↔ Denotes (config.report configExposureTime) (-1)
  listed : ∃ vs, listAvailableExposureTimes choices = .ok vs ∧
    List.Forall₂ (fun text v => Interprets (some text) v) (listConfigChoices choices) vs

/-- The text is an integer other than zero whose hundredfold is an `int`. -/
def ProperTime (text : String) : Prop :=
  ∃ n, Writes text.toList n ∧ n ≠ 0 ∧ FitsInt (100 * n)

/-! ## One text -/

theorem denotes_some_iff {text : String} {n : Int} :
    Denotes (some text) n ↔ Writes text.toList n := by
  simp [Denotes]

theorem exposureTimeOf_eq_zero {n : Int} (hn : n ≠ 0) : exposureTimeOf n = 0 ↔ n = -1 := by
  unfold exposureTimeOf
  split <;> omega

theorem exposureTimeOf_ne_neg_one (n : Int) : exposureTimeOf n ≠ -1 := by
  unfold exposureTimeOf
  split <;> omega

/-- **A text is interpreted faithfully exactly when it is a proper time.** -/
theorem interprets_iff (text : String) :
    (∃ v, exposureTimeFromString text = .ok v ∧ Interprets (some text) v) ↔
      ProperTime text := by
  constructor
  · rintro ⟨v, hv, hinterprets⟩
    obtain ⟨n, rest, hscan, hfits, hvalue⟩ := exposureTimeFromString_eq_ok_iff.mp hv
    obtain ⟨m, hm⟩ : ∃ m, Writes text.toList m := by
      by_contra hnone
      have hv : v = -1 := hinterprets.unreadable.mpr fun m hm =>
        hnone ⟨m, denotes_some_iff.mp hm⟩
      rw [hv] at hvalue
      exact exposureTimeOf_ne_neg_one n hvalue.symm
    obtain rfl : n = m := by
      have := hscan.symm.trans (writes_iff.mp hm)
      exact (Prod.mk.inj (Option.some.inj this)).1
    refine ⟨n, hm, ?_, hfits⟩
    rintro rfl
    have hv : v = 0 := by
      rw [← Int32.toInt_inj, hvalue]
      rfl
    exact absurd ((denotes_some_iff.mp (hinterprets.bulb.mp hv)).unique hm) (by decide)
  · rintro ⟨n, hn, hzero, hfits⟩
    have hv := toInt_ofInt_of_fitsInt (fitsInt_exposureTimeOf (Int.mul_comm 100 n ▸ hfits))
    refine ⟨Int32.ofInt (exposureTimeOf n),
      exposureTimeFromString_eq_ok_iff.mpr ⟨n, [], writes_iff.mp hn, hfits, hv⟩, ?_, ?_, ?_⟩
    · rw [← Int32.toInt_inj, hv]
      exact iff_of_false (exposureTimeOf_ne_neg_one n)
        fun hnone => hnone n (denotes_some_iff.mpr hn)
    · rw [← Int32.toInt_inj, hv, denotes_some_iff]
      refine (exposureTimeOf_eq_zero hzero).trans ⟨?_, fun h => hn.unique h⟩
      rintro rfl
      exact hn
    · intro m hm hbulb
      obtain rfl : n = m := hn.unique (denotes_some_iff.mp hm)
      rw [hv, exposureTimeOf, if_neg hbulb]

/-- No text, no number. -/
theorem interprets_none : Interprets none (-1) where
  unreadable := by simp [Denotes]
  bulb := by simp [Denotes]
  exact := by simp [Denotes]

theorem interprets_empty : Interprets (some "") (-1) where
  unreadable := by simp [denotes_some_iff, writes_iff, scan, readSign]
  bulb := by simp [denotes_some_iff, writes_iff, scan, readSign]
  exact := by simp [denotes_some_iff, writes_iff, scan, readSign]

/-! ## The current exposure time, and the list -/

theorem current_iff (config : Config) :
    (∃ v, getCurrentExposureTime config = .ok v ∧
        Interprets (config.report configExposureTime) v) ↔
      ¬ config.Null configExposureTime ∧
        ∀ text, config.report configExposureTime = some text → text = "" ∨ ProperTime text := by
  by_cases hnull : config.Null configExposureTime
  · rw [getCurrentExposureTime_of_null hnull]
    simp [hnull]
  · rw [getCurrentExposureTime_eq hnull, and_iff_right hnull]
    cases config.report configExposureTime with
    | none => exact iff_of_true ⟨-1, rfl, interprets_none⟩ (fun _ h => by cases h)
    | some text =>
      simp only [Option.getD_some, Option.some.injEq, forall_eq']
      by_cases hempty : text = ""
      · obtain rfl := hempty
        exact iff_of_true ⟨-1, rfl, interprets_empty⟩ (Or.inl rfl)
      · simp only [ne_eq, hempty, not_false_eq_true, if_true, false_or]
        exact interprets_iff text

/-- **The remote path is taken for the exposure time zero.** -/
theorem remote_iff (overflow : Int → Int) {config : Config} {v : Int32}
    (hv : getCurrentExposureTime config = .ok v) (download : Bool) :
    captureStep download .exposureTime (exposureTimeAnswer overflow config) =
      some (.goOn .remoteExposureTime) ↔ v = 0 := by
  rw [exposureTimeAnswer, readExposureTime, hv, ← Int32.toInt_inj,
    show (0 : Int32).toInt = 0 from rfl]
  by_cases hzero : v.toInt = 0 <;> simp [captureStep, Except.toOption, hzero]

theorem listed_iff (choices : ChoicesConfig) :
    (∃ vs, listAvailableExposureTimes choices = .ok vs ∧
        List.Forall₂ (fun text v => Interprets (some text) v) (listConfigChoices choices) vs) ↔
      ∀ text ∈ listConfigChoices choices, ProperTime text := by
  simp only [listAvailableExposureTimes, mapM_eq_ok_iff, ← interprets_iff]
  rw [← exists_forall₂_iff]
  constructor
  · rintro ⟨vs, hreturned, hinterprets⟩
    exact ⟨vs, hreturned.mp (fun _ _ hv hi => ⟨hv, hi⟩) hinterprets⟩
  · rintro ⟨vs, h⟩
    exact ⟨vs, h.imp fun _ _ hv => hv.1, h.imp fun _ _ hv => hv.2⟩

/-- **The exposure times are the camera's exactly when what it reports are texts and each
is a proper time**, but for an empty one, which stands for an error. -/
theorem exposureTimesFaithful_iff (overflow : Int → Int) (config : Config)
    (choices : ChoicesConfig) :
    ExposureTimesFaithful overflow config choices ↔
      (¬ config.Null configExposureTime ∧
        ∀ text, config.report configExposureTime = some text → text = "" ∨ ProperTime text) ∧
        ∀ text ∈ listConfigChoices choices, ProperTime text := by
  rw [← current_iff, ← listed_iff]
  constructor
  · intro h
    exact ⟨h.current, h.listed⟩
  · rintro ⟨⟨v, hv, hinterprets⟩, hlisted⟩
    refine ⟨⟨v, hv, hinterprets⟩, fun download => ?_, hlisted⟩
    rw [remote_iff overflow hv, hinterprets.bulb]

/-- A two hundredth of a second is taken for the integer one. -/
theorem not_exposureTimesFaithful_fraction :
    ¬ ExposureTimesFaithful id (fun _ => ⟨gpOk, gpOk, some "1/200"⟩) ⟨gpOk, []⟩ := by
  intro h
  obtain ⟨v, hv, hinterprets⟩ := h.current
  obtain rfl : (100 : Int32) = v := Except.ok.inj hv
  have hnone : ∀ n, ¬ Denotes (some "1/200") n := by
    intro n hn
    have hscan := writes_iff.mp (denotes_some_iff.mp hn)
    rw [show scan "1/200".toList = some (1, "/200".toList) by decide] at hscan
    simp at hscan
  exact absurd (hinterprets.unreadable.mpr hnone) (by decide)

end CameraController
