import CameraController.ConfigWidgets
import CameraController.Streaming

/-! # Does an index select the exposure it stands for?

`listAvailableExposureTimes` and `setExposureTime` each enumerate the choices of the
camera, and each enumeration may be cut short.  The index counts in both of them from
the first choice on, so it stands for the same one wherever it is valid in both.  Which
index is too large is for the second enumeration to say, also where the first had come
less far (`not_rejects_cut`).

`indexLaw` follows a choice from the list through `setExposureTime` to what the camera
reports afterwards. -/
namespace CameraController

open Streaming

/-- A call that gives the widget or the camera another value. -/
def WidgetEvent.writes : WidgetEvent → Bool
  | setValue _ | setSingleConfig => true
  | _ => false

namespace WidgetAnswers

/-! ## The camera -/

/-- What the camera answers about its choices when it does not fail. -/
def ReadsFrom (choices : List String) (a : WidgetAnswers) : Prop :=
  ∀ i, (a.getChoice i).1 = gpOk →
    ∃ text, choices[i]? = some text ∧ (a.getChoice i).2 = .text text

/-- What the camera stores after some calls: a config that is set takes the value that its
widget was given last.  `result` is the answer to setting it. -/
def store (result : Int) : (widget stored : String) → List WidgetEvent → String
  | _, stored, [] => stored
  | _, stored, .setValue value :: events => store result value stored events
  | widget, stored, .setSingleConfig :: events =>
    store result widget (if result = gpOk then widget else stored) events
  | widget, stored, _ :: events => store result widget stored events

/-- `setExposureTime`: the answers to listing the choices, and to setting the value. -/
def setExposureTime (listing setting : WidgetAnswers) (index : Int32) :
    Except CopyError Bool × List WidgetEvent :=
  let exposures := listing.listConfigChoices
  match exposures.1 with
  | .error e => (.error e, exposures.2)
  | .ok choices =>
    if h : 0 ≤ index.toInt ∧ index.toInt.toNat < choices.length then
      let r := setting.setConfigValue choices[index.toInt.toNat]
      (.ok r.1, exposures.2 ++ r.2)
    else
      (.ok false, exposures.2)

/-- What the camera stores afterwards. -/
def stored (listing setting : WidgetAnswers) (index : Int32) (before : String) : String :=
  store setting.setSingleConfig "" before (setExposureTime listing setting index).2

/-- The camera is asked for its exposure time and answers with what it stores. -/
def Reads (reading : WidgetAnswers) (text : String) : Prop :=
  reading.getSingleConfig = gpOk ∧ reading.getValue = gpOk ∧ reading.value = .text text

/-- **What an index promises**: `times` were listed before, and `before` is what the camera
stored. -/
structure IndexLaw (choices : List String) (listing setting : WidgetAnswers) (index : Int32)
    (times : List Int32) (before : String) : Prop where
  /-- An index of the list selects the exposure listed there. -/
  selects : ∀ time, 0 ≤ index.toInt → times[index.toInt.toNat]? = some time →
    (setExposureTime listing setting index).1 = .ok true →
    ∀ reading : WidgetAnswers, reading.Reads (stored listing setting index before) →
      getCurrentExposureTime reading.textConfig = .ok time
  /-- An index of the list is accepted when nothing fails. -/
  accepts : 0 ≤ index.toInt → index.toInt < times.length → listing.readChoices = choices →
    setting.Attempts → setting.setSingleConfig = gpOk →
    (setExposureTime listing setting index).1 = .ok true
  /-- An index that is accepted sets the camera's choice of that index, whether it was in the
  list or not. -/
  sets : (setExposureTime listing setting index).1 = .ok true →
    0 ≤ index.toInt ∧ choices[index.toInt.toNat]? = some (stored listing setting index before)
  /-- An index that is not accepted changes nothing. -/
  keeps : (setExposureTime listing setting index).1 ≠ .ok true →
    (setExposureTime listing setting index).1 = .ok false ∧
      stored listing setting index before = before
  /-- An index that is negative, or that the second enumeration does not come to, is refused
  without a write. -/
  rejects : index.toInt < 0 ∨ (listing.readChoices.length : Int) ≤ index.toInt →
    (setExposureTime listing setting index).1 = .ok false ∧
      .setSingleConfig ∉ (setExposureTime listing setting index).2

/-! ## Choices -/

variable {choices : List String} {a : WidgetAnswers}

/-- What the camera reads out are texts. -/
theorem listConfigChoices_of_readsFrom (ha : a.ReadsFrom choices) :
    a.listConfigChoices.1 = .ok a.readChoices := by
  have htexts : a.ChoicesAreTexts a.countChoices 0 := fun k _ _ hread => by
    obtain ⟨text, -, htext⟩ := ha k (hread k (Nat.zero_le k) (Nat.le_refl k))
    exact ⟨text, htext⟩
  unfold listConfigChoices readChoices
  by_cases hconfig : a.getSingleConfig = gpOk
  · have hloop := choicesLoop_of_texts htexts
    simp [hconfig, hloop, out, List.range_eq_range']
  · simp [hconfig]

/-- **A choice that was listed is the camera's**, at the same index. -/
theorem choice_of_listed (ha : a.ReadsFrom choices) {i : Nat} {text : String}
    (h : a.readChoices[i]? = some text) : choices[i]? = some text := by
  unfold readChoices at h
  split at h
  · rw [List.getElem?_map, Option.map_eq_some_iff] at h
    obtain ⟨choice, hchoice, rfl⟩ := h
    have hread : choice.1 = gpOk := by
      have hall := List.mem_takeWhile_imp (List.mem_of_getElem? hchoice)
      simpa using hall
    -- the choices read are the first of those asked for
    obtain ⟨rest, hrest⟩ := List.takeWhile_prefix (fun choice : Int × CString => choice.1 == gpOk)
      (l := (List.range a.countChoices.toNat).map a.getChoice)
    have hasked : ((List.range a.countChoices.toNat).map a.getChoice)[i]? = some choice := by
      rw [← hrest, List.getElem?_append_left (List.getElem?_eq_some_iff.mp hchoice).1, hchoice]
    rw [List.getElem?_map, Option.map_eq_some_iff] at hasked
    obtain ⟨j, hj, rfl⟩ := hasked
    have hlt : i < a.countChoices.toNat := by
      simpa using (List.getElem?_eq_some_iff.mp hj).1
    obtain rfl := Option.some.inj ((List.getElem?_range hlt).symm.trans hj)
    obtain ⟨text, hcamera, htext⟩ := ha i hread
    rw [htext]
    exact hcamera
  · cases h

/-- What was listed as a time is the time of the camera's choice. -/
theorem choice_of_time {times : List Int32} (ha : a.ReadsFrom choices)
    (htimes : listAvailableExposureTimes a.choicesConfig = .ok times) {i : Nat} {time : Int32}
    (h : times[i]? = some time) :
    ∃ text, choices[i]? = some text ∧ exposureTimeFromString text = .ok time := by
  rw [listAvailableExposureTimes,
    listConfigChoices_choicesConfig (listConfigChoices_of_readsFrom ha), mapM_eq_ok_iff,
    List.forall₂_iff_get] at htimes
  obtain ⟨hlength, hread⟩ := htimes
  obtain ⟨hi, rfl⟩ := List.getElem?_eq_some_iff.mp h
  have hi' : i < a.readChoices.length := hlength ▸ hi
  exact ⟨_, choice_of_listed ha (List.getElem?_eq_getElem hi'), hread i hi' hi⟩

/-! ## Setting one -/

/-- Choices are listed without a write to the widget or to the camera. -/
theorem writes_choicesLoop (n : Int) (i : Nat) :
    ∀ e ∈ (a.choicesLoop n i).2, e.writes = false := by
  fun_induction choicesLoop a n i with
  | case1 | case3 => simp [WidgetEvent.writes]
  | case2 i hlt hok ch hch ih => simpa [WidgetEvent.writes] using ih
  | case4 => simp

theorem writes_listConfigChoices : ∀ e ∈ a.listConfigChoices.2, e.writes = false := by
  have hloop := @writes_choicesLoop a a.countChoices 0
  unfold listConfigChoices
  split
  · simp [WidgetEvent.writes]
  · simp only
    split
    · simpa [out, or_imp, forall_and, WidgetEvent.writes] using hloop
    · simpa [WidgetEvent.writes] using hloop

theorem store_append_of_writes {before : List WidgetEvent} (h : ∀ e ∈ before, e.writes = false)
    (result : Int) (widget stored : String) (events : List WidgetEvent) :
    store result widget stored (before ++ events) = store result widget stored events := by
  induction before with
  | nil => rfl
  | cons e before ih =>
    obtain ⟨he, hbefore⟩ := List.forall_mem_cons.mp h
    rw [List.cons_append, ← ih hbefore]
    cases e with
    | setValue | setSingleConfig => cases he
    | _ => rfl

/-- A camera that is not written to stores what it did. -/
theorem store_of_not_mem {events : List WidgetEvent} (h : .setSingleConfig ∉ events)
    {result : Int} (widget stored : String) : store result widget stored events = stored := by
  induction events generalizing widget with
  | nil => rfl
  | cons e events ih =>
    obtain ⟨he, hevents⟩ := not_or.mp (mt List.mem_cons.mpr h)
    cases e with
    | setSingleConfig => exact absurd rfl he
    | _ => exact ih hevents _

/-- **A value that was set is what the camera stores**, and one that was not changes
nothing. -/
theorem store_setConfigValue (value widget stored : String) :
    store a.setSingleConfig widget stored (a.setConfigValue value).2 =
      if (a.setConfigValue value).1 then value else stored := by
  by_cases h : a.Attempts
  · rw [setConfigValue_of_attempts h]
    by_cases hset : a.setSingleConfig = gpOk <;> simp [store, hset]
  · obtain ⟨hfalse, hnot⟩ := setConfigValue_of_not_attempts h value
    rw [hfalse]
    exact store_of_not_mem hnot widget stored

/-- What the camera stores is read as the time it stands for. -/
theorem getCurrentExposureTime_reads {text : String} {time : Int32} (ha : a.Reads text)
    (h : exposureTimeFromString text = .ok time) :
    getCurrentExposureTime a.textConfig = .ok time := by
  obtain ⟨hconfig, hvalue, htext⟩ := ha
  have hne : text ≠ "" := by
    rintro rfl
    cases h
  have hread : CameraController.getTextConfigValue a.textConfig configExposureTime = .ok text := by
    rw [getTextConfigValue_textConfig]
    simp [getTextConfigValue, hconfig, hvalue, htext, CString.copy, out]
  rw [getCurrentExposureTime, hread]
  exact (if_pos hne).trans h

/-! ## The index -/

variable {listing : WidgetAnswers}

/-- What `setExposureTime` does with an index that its enumeration comes to. -/
theorem setExposureTime_of_valid (hlisting : listing.ReadsFrom choices) {index : Int32}
    (hpos : 0 ≤ index.toInt) {text : String}
    (htext : listing.readChoices[index.toInt.toNat]? = some text) (setting : WidgetAnswers) :
    setExposureTime listing setting index =
      (.ok (setting.setConfigValue text).1,
        listing.listConfigChoices.2 ++ (setting.setConfigValue text).2) := by
  obtain ⟨hlt, rfl⟩ := List.getElem?_eq_some_iff.mp htext
  simp only [setExposureTime, listConfigChoices_of_readsFrom hlisting]
  exact dif_pos ⟨hpos, hlt⟩

/-- And with one that it does not come to. -/
theorem setExposureTime_of_not_valid (hlisting : listing.ReadsFrom choices) {index : Int32}
    (hnot : ¬ (0 ≤ index.toInt ∧ index.toInt.toNat < listing.readChoices.length))
    (setting : WidgetAnswers) :
    setExposureTime listing setting index = (.ok false, listing.listConfigChoices.2) := by
  simp only [setExposureTime, listConfigChoices_of_readsFrom hlisting]
  exact dif_neg hnot

/-- **What is set is the camera's choice of that index**, and otherwise nothing is. -/
theorem setExposureTime_spec (hlisting : listing.ReadsFrom choices) (setting : WidgetAnswers)
    (index : Int32) (before : String) :
    (setExposureTime listing setting index).1 = .ok true ∧ 0 ≤ index.toInt ∧
        choices[index.toInt.toNat]? = some (stored listing setting index before) ∨
      (setExposureTime listing setting index).1 = .ok false ∧
        stored listing setting index before = before := by
  unfold stored
  by_cases hvalid : 0 ≤ index.toInt ∧ index.toInt.toNat < listing.readChoices.length
  · have htext := List.getElem?_eq_getElem hvalid.2
    rw [setExposureTime_of_valid hlisting hvalid.1 htext,
      store_append_of_writes writes_listConfigChoices, store_setConfigValue]
    by_cases hset : (setting.setConfigValue listing.readChoices[index.toInt.toNat]).1 = true
    · exact Or.inl ⟨by rw [hset], hvalid.1, by rw [if_pos hset, choice_of_listed hlisting htext]⟩
    · exact Or.inr ⟨by rw [Bool.eq_false_iff.mpr hset], if_neg hset⟩
  · rw [setExposureTime_of_not_valid hlisting hvalid]
    refine Or.inr ⟨rfl, ?_⟩
    have hnone := store_append_of_writes (writes_listConfigChoices (a := listing))
      setting.setSingleConfig "" before []
    simpa [store] using hnone

/-- **An index from the list selects the exposure listed there**, and an index that
`setExposureTime` does not come to sets none. -/
theorem indexLaw {first listing : WidgetAnswers} (hfirst : first.ReadsFrom choices)
    (hlisting : listing.ReadsFrom choices) {times : List Int32}
    (htimes : listAvailableExposureTimes first.choicesConfig = .ok times)
    (setting : WidgetAnswers) (index : Int32) (before : String) :
    IndexLaw choices listing setting index times before where
  selects time hpos htime hset reading hreads := by
    obtain ⟨text, htext, hfrom⟩ := choice_of_time hfirst htimes htime
    rcases setExposureTime_spec hlisting setting index before with ⟨-, -, hstored⟩ | ⟨hfalse, -⟩
    · obtain rfl := Option.some.inj (htext.symm.trans hstored)
      exact getCurrentExposureTime_reads hreads hfrom
    · simp [hfalse] at hset
  accepts hpos hlt hall hattempts hset := by
    obtain ⟨text, htext, -⟩ :=
      choice_of_time hfirst htimes (List.getElem?_eq_getElem (by omega : index.toInt.toNat < _))
    rw [setExposureTime_of_valid hlisting hpos (hall ▸ htext), setConfigValue_of_attempts hattempts,
      decide_eq_true hset]
  sets hset := by
    rcases setExposureTime_spec hlisting setting index before with ⟨-, hstored⟩ | ⟨hfalse, -⟩
    · exact hstored
    · simp [hfalse] at hset
  keeps hnot := by
    rcases setExposureTime_spec hlisting setting index before with ⟨htrue, -⟩ | hkept
    · exact absurd htrue hnot
    · exact hkept
  rejects hindex := by
    rw [setExposureTime_of_not_valid hlisting (by omega)]
    refine ⟨rfl, fun hmem => ?_⟩
    cases writes_listConfigChoices _ hmem

/-! ## Examples -/

/-- What the camera with these choices answers when nothing fails but the choices from
`readable` on. -/
def answers (choices : List String) (readable : Nat) : WidgetAnswers where
  getSingleConfig := gpOk
  getValue := gpOk
  value := .text "1"
  getType := gpOk
  type := .radio
  setValue := gpOk
  setSingleConfig := gpOk
  countChoices := choices.length
  getChoice i := if i < readable then choices[i]?.elim (-2, .null) fun text => (gpOk, .text text)
    else (-2, .null)
  typed := nofun

theorem readsFrom_answers (choices : List String) (readable : Nat) :
    (answers choices readable).ReadsFrom choices := by
  intro i hi
  simp only [answers] at hi ⊢
  split at hi
  · cases hchoice : choices[i]? with
    | none => simp [hchoice, gpOk] at hi
    | some text => simp_all
  · cases hi

/-- The second of three choices. -/
theorem indexLaw_second :
    IndexLaw ["-1", "1", "2"] (answers ["-1", "1", "2"] 3) (answers ["-1", "1", "2"] 3) 1
        [0, 100, 200] "-1" ∧
      (setExposureTime (answers ["-1", "1", "2"] 3) (answers ["-1", "1", "2"] 3) 1).1 =
        .ok true := by
  have hlaw := indexLaw (readsFrom_answers ["-1", "1", "2"] 3) (readsFrom_answers _ 3) rfl
    (answers ["-1", "1", "2"] 3) 1 "-1"
  exact ⟨hlaw, hlaw.accepts (by decide) (by decide) rfl ⟨rfl, rfl, rfl, rfl⟩ rfl⟩

/-- The first enumeration is cut short behind one of three choices, and the index behind it
is set. -/
theorem not_rejects_cut :
    (answers ["-1", "1", "2"] 1).ReadsFrom ["-1", "1", "2"] ∧
      (answers ["-1", "1", "2"] 3).ReadsFrom ["-1", "1", "2"] ∧
      listAvailableExposureTimes (answers ["-1", "1", "2"] 1).choicesConfig = .ok [0] ∧
      ¬ ((setExposureTime (answers ["-1", "1", "2"] 3) (answers ["-1", "1", "2"] 3) 1).1 =
          .ok false ∧
        .setSingleConfig ∉
          (setExposureTime (answers ["-1", "1", "2"] 3) (answers ["-1", "1", "2"] 3) 1).2) := by
  have htext : (answers ["-1", "1", "2"] 3).readChoices[(1 : Int32).toInt.toNat]? = some "1" := rfl
  refine ⟨readsFrom_answers _ 1, readsFrom_answers _ 3, rfl, fun h => ?_⟩
  rw [setExposureTime_of_valid (readsFrom_answers _ 3) (by decide) htext,
    setConfigValue_of_attempts ⟨rfl, rfl, rfl, rfl⟩] at h
  exact h.2 (by simp)

end WidgetAnswers
end CameraController
