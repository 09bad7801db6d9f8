import CameraController.CameraConfig

/-! # The widgets of the configuration

`getTextConfigValue`, `setConfigValue` and `listConfigChoices` get a widget from
libgphoto2, use it, and give it back behind the label `out`.  They are written here
with all they do to the widget (`WidgetEvent`), on whatever libgphoto2 answers
(`WidgetAnswers`).  A text that a widget answers with is its own, so copying it is a use.

What `getTextConfigValue` copies need not be a text: the pointer of a widget that holds
none is null, and a widget of another type stores a number there (`CString`).  Then the
copy does not return, and the widget is not given back.  `widgetLaw_iff`: a widget that
was got is freed once, behind its last use, and what is returned is what the
documentation says, exactly when all that is copied is a text. -/
namespace CameraController

/-- `CameraWidgetType`. -/
inductive CameraWidgetType where
  | window
  | section_
  | text
  | range
  | toggle
  | radio
  | menu
  | button
  | date
  deriving DecidableEq, Repr

/-- The types whose value is a text; `setConfigValue` has a case for each of them. -/
def CameraWidgetType.isText : CameraWidgetType → Bool
  | menu | radio | text => true
  | _ => false

/-- What a `const char*` is once `gp_widget_get_value` or `gp_widget_get_choice` has
stored something there: null, a text, or the bits of something else. -/
inductive CString where
  | null
  | text (t : String)
  | wild
  deriving DecidableEq, Repr

/-- How copying one fails: `string` throws on null, and behind a wild pointer anything
may happen. -/
inductive CopyError where
  | logicError
  | undefined
  deriving DecidableEq, Repr

namespace CString

/-- `string(p)`. -/
def copy : CString → Except CopyError String
  | null => .error .logicError
  | text t => .ok t
  | wild => .error .undefined

/-- The text, if it is one. -/
def text? : CString → Option String
  | text t => some t
  | _ => none

theorem copy_eq_ok_iff {p : CString} {t : String} : p.copy = .ok t ↔ p = .text t := by
  cases p <;> simp [copy]

theorem text?_eq_some_iff {p : CString} {t : String} : p.text? = some t ↔ p = .text t := by
  cases p <;> simp [text?]

end CString

/-- A call of libgphoto2 for a widget, or the copy of a text that a widget owns. -/
inductive WidgetEvent where
  | getSingleConfig
  | getValue
  | getType
  | setValue (value : String)
  | setSingleConfig
  | countChoices
  | getChoice (i : Nat)
  | copyText
  | free
  deriving DecidableEq, Repr

/-- What libgphoto2 answers to the calls that one of the functions makes.  Only a widget
of a type that has a text brings a text (`typed`). -/
structure WidgetAnswers where
  getSingleConfig : Int
  getValue : Int
  value : CString
  getType : Int
  type : CameraWidgetType
  setValue : Int
  setSingleConfig : Int
  countChoices : Int
  getChoice : Nat → Int × CString
  typed : type.isText = false → ∀ t, value ≠ .text t

namespace WidgetAnswers

variable (a : WidgetAnswers)

/-! ## The functions -/

/-- Behind `out:`. -/
def out {α : Type} (r : α × List WidgetEvent) : α × List WidgetEvent := (r.1, r.2 ++ [.free])

/-- An exception that is thrown in front of `out:` passes it by. -/
def getTextConfigValue : Except CopyError String × List WidgetEvent :=
  if a.getSingleConfig ≠ gpOk then (.ok "", [.getSingleConfig])
  else if a.getValue ≠ gpOk then out (.ok "", [.getSingleConfig, .getValue])
  else match a.value.copy with
    | .ok value => out (.ok value, [.getSingleConfig, .getValue, .copyText])
    | .error e => (.error e, [.getSingleConfig, .getValue, .copyText])

def setConfigValue (value : String) : Bool × List WidgetEvent :=
  if a.getSingleConfig ≠ gpOk then (false, [.getSingleConfig])
  else
    out <|
      if a.getType ≠ gpOk then (false, [.getSingleConfig, .getType])
      else if a.type.isText then
        if a.setValue ≠ gpOk then (false, [.getSingleConfig, .getType, .setValue value])
        else if a.setSingleConfig ≠ gpOk then
          (false, [.getSingleConfig, .getType, .setValue value, .setSingleConfig])
        else (true, [.getSingleConfig, .getType, .setValue value, .setSingleConfig])
      else (false, [.getSingleConfig, .getType])

/-- The loop of `listConfigChoices` from choice `i` on, with `n` choices counted. -/
def choicesLoop (n : Int) (i : Nat) : Except CopyError (List String) × List WidgetEvent :=
  if i < n then
    if (a.getChoice i).1 ≠ gpOk then (.ok [], [.getChoice i])
    else match (a.getChoice i).2.copy with
      | .ok ch =>
        ((choicesLoop n (i + 1)).1.map (ch :: ·),
          .getChoice i :: .copyText :: (choicesLoop n (i + 1)).2)
      | .error e => (.error e, [.getChoice i, .copyText])
  else (.ok [], [])
termination_by (n - i).toNat

def listConfigChoices : Except CopyError (List String) × List WidgetEvent :=
  if a.getSingleConfig ≠ gpOk then (.ok [], [.getSingleConfig])
  else
    let r := a.choicesLoop a.countChoices 0
    let events := .getSingleConfig :: .countChoices :: r.2
    match r.1 with
    | .ok choices => out (.ok choices, events)
    | .error e => (.error e, events)

/-! ## What is promised -/

/-- A widget that was got is freed once, and not used behind that; one that was not got
is not used at all. -/
structure Released (events : List WidgetEvent) : Prop where
  freed : events.count .free = if a.getSingleConfig = gpOk then 1 else 0
  last : ∀ before after, events = before ++ .free :: after → after = []
  unused : a.getSingleConfig ≠ gpOk → events = [.getSingleConfig]

/-- The text of the widget, or the empty text if it cannot be read. -/
def readText : String :=
  if a.getSingleConfig = gpOk ∧ a.getValue = gpOk then a.value.text?.getD "" else ""

/-- The choices that are counted, up to the first that cannot be read. -/
def readChoices : List String :=
  if a.getSingleConfig = gpOk then
    (((List.range a.countChoices.toNat).map a.getChoice).takeWhile fun choice =>
      choice.1 == gpOk).map fun choice => choice.2.text?.getD ""
  else []

/-- Nothing keeps `setConfigValue` from setting the config on the camera. -/
def Attempts : Prop :=
  a.getSingleConfig = gpOk ∧ a.getType = gpOk ∧ a.type.isText ∧ a.setValue = gpOk

/-- **What the three functions promise**, `value` being the value to set. -/
structure WidgetLaw (value : String) : Prop where
  text : a.Released a.getTextConfigValue.2
  set : a.Released (a.setConfigValue value).2
  list : a.Released a.listConfigChoices.2
  textReturns : a.getTextConfigValue.1 = .ok a.readText
  setReturns : (a.setConfigValue value).1 = true ↔ a.Attempts ∧ a.setSingleConfig = gpOk
  /-- The camera is not written to when a call before that failed. -/
  setAttempted : .setSingleConfig ∈ (a.setConfigValue value).2 ↔ a.Attempts
  listReturns : a.listConfigChoices.1 = .ok a.readChoices

/-- The choices from `i` on that are read, with `n` counted, are texts. -/
def ChoicesAreTexts (n : Int) (i : Nat) : Prop :=
  ∀ k : Nat, i ≤ k → k < n → (∀ j, i ≤ j → j ≤ k → (a.getChoice j).1 = gpOk) →
    ∃ t, (a.getChoice k).2 = .text t

/-- What is read from a widget that was got is a text: its value, and its choices up to
the first that cannot be read. -/
def ReadsTexts : Prop :=
  a.getSingleConfig = gpOk →
    (a.getValue = gpOk → ∃ t, a.value = .text t) ∧ a.ChoicesAreTexts a.countChoices 0

variable {a}

/-! ## One widget -/

/-- **Uses, and then one `free`.** -/
theorem released_out {α : Type} {r : α × List WidgetEvent} (h : a.getSingleConfig = gpOk)
    (huses : .free ∉ r.2) : a.Released (out r).2 where
  freed := by
    rw [if_pos h, out, List.count_append, List.count_eq_zero.mpr huses]
    rfl
  last before after heq := by
    by_contra hne
    -- the last event stands behind another `free`, among the uses
    have hlast : r.2 = before ++ .free :: after.dropLast := by
      have hdrop := congrArg List.dropLast heq
      rwa [out, List.dropLast_concat, List.dropLast_append_cons, List.dropLast_cons_of_ne_nil hne]
        at hdrop
    exact huses (hlast ▸ by simp)
  unused hnot := absurd h hnot

theorem released_failed (h : a.getSingleConfig ≠ gpOk) : a.Released [.getSingleConfig] where
  freed := by
    rw [if_neg h]
    rfl
  last before after heq := by
    have hmem : WidgetEvent.free ∈ [WidgetEvent.getSingleConfig] := heq ▸ by simp
    simp at hmem
  unused _ := rfl

/-- Without the `free`, a widget that was got is not given back. -/
theorem not_released {events : List WidgetEvent} (h : a.getSingleConfig = gpOk)
    (hfree : .free ∉ events) : ¬ a.Released events := by
  intro hreleased
  have hcount := hreleased.freed
  rw [if_pos h, List.count_eq_zero.mpr hfree] at hcount
  cases hcount

/-- **A text is read and the widget given back.** -/
theorem getTextConfigValue_of_text (ha : a.ReadsTexts) :
    a.getTextConfigValue.1 = .ok a.readText ∧ a.Released a.getTextConfigValue.2 := by
  unfold getTextConfigValue readText
  by_cases hconfig : a.getSingleConfig = gpOk
  · by_cases hvalue : a.getValue = gpOk
    · obtain ⟨t, ht⟩ := (ha hconfig).1 hvalue
      simp only [hconfig, hvalue, ht, CString.copy, CString.text?, ne_eq, not_true_eq_false,
        if_false, and_self, if_true]
      exact ⟨rfl, released_out hconfig (by simp)⟩
    · simp only [hconfig, hvalue, ne_eq, not_true_eq_false, not_false_eq_true, if_false, if_true,
        and_false]
      exact ⟨rfl, released_out hconfig (by simp)⟩
  · simp only [hconfig, ne_eq, not_false_eq_true, if_true, false_and, if_false]
    exact ⟨trivial, released_failed hconfig⟩

/-- Behind a copy that fails the widget is not given back. -/
theorem getTextConfigValue_of_no_text (hconfig : a.getSingleConfig = gpOk)
    (hvalue : a.getValue = gpOk) (hno : ∀ t, a.value ≠ .text t) :
    ¬ a.Released a.getTextConfigValue.2 := by
  unfold getTextConfigValue
  cases hcopy : a.value.copy with
  | ok t => exact absurd (CString.copy_eq_ok_iff.mp hcopy) (hno t)
  | error e =>
    simp only [hconfig, hvalue, ne_eq, not_true_eq_false, if_false]
    exact not_released hconfig (by simp)

theorem setConfigValue_released (value : String) : a.Released (a.setConfigValue value).2 := by
  unfold setConfigValue
  by_cases h : a.getSingleConfig = gpOk
  · rw [if_neg (not_not_intro h)]
    apply released_out h
    repeat' split
    all_goals simp
  · rw [if_pos h]
    exact released_failed h

theorem setConfigValue_of_attempts (h : a.Attempts) (value : String) :
    a.setConfigValue value = (decide (a.setSingleConfig = gpOk),
      [.getSingleConfig, .getType, .setValue value, .setSingleConfig, .free]) := by
  obtain ⟨hconfig, htype, hsettable, hset⟩ := h
  by_cases hcamera : a.setSingleConfig = gpOk <;>
    simp [setConfigValue, hconfig, htype, hsettable, hset, hcamera, out]

theorem setConfigValue_of_not_attempts (h : ¬ a.Attempts) (value : String) :
    (a.setConfigValue value).1 = false ∧ .setSingleConfig ∉ (a.setConfigValue value).2 := by
  unfold setConfigValue
  by_cases hconfig : a.getSingleConfig = gpOk
  · by_cases htype : a.getType = gpOk
    · by_cases hsettable : a.type.isText = true
      · have hset : a.setValue ≠ gpOk := fun hset => h ⟨hconfig, htype, hsettable, hset⟩
        simp [hconfig, htype, hsettable, hset, out]
      · simp [hconfig, htype, hsettable, out]
    · simp [hconfig, htype, out]
  · simp [hconfig]

/-! ## The choices -/

/-- The events of the loop are uses. -/
theorem free_not_mem_choicesLoop (n : Int) (i : Nat) : .free ∉ (a.choicesLoop n i).2 := by
  fun_induction choicesLoop a n i with
  | case1 | case3 | case4 => simp
  | case2 i hlt hok ch hch ih => simpa using ih

/-- **The loop reads the choices from `i` on**, up to the first that cannot be read. -/
theorem choicesLoop_of_texts {n : Int} {i : Nat} (ha : a.ChoicesAreTexts n i) :
    (a.choicesLoop n i).1 = .ok ((((List.range' i (n - i).toNat).map a.getChoice).takeWhile
      fun choice => choice.1 == gpOk).map fun choice => choice.2.text?.getD "") := by
  fun_induction choicesLoop a n i with
  | case1 i hlt hfails =>
    obtain ⟨k, hk⟩ : ∃ k, (n - i).toNat = k + 1 := ⟨(n - i).toNat - 1, by omega⟩
    simp [hk, List.range'_succ, hfails]
  | case2 i hlt hok ch hch ih =>
    have hk : (n - i).toNat = (n - (i + 1 : Nat)).toNat + 1 := by omega
    simp only [ne_eq, not_not] at hok
    have hrest : a.ChoicesAreTexts n (i + 1) := fun k hik hkn hread =>
      ha k (by omega) hkn fun j hij hjk => by
        rcases Nat.eq_or_lt_of_le hij with rfl | hlt
        · exact hok
        · exact hread j hlt hjk
    have htext := CString.text?_eq_some_iff.mpr (CString.copy_eq_ok_iff.mp hch)
    simp [hk, List.range'_succ, hok, htext, ih hrest, Except.map]
  | case3 i hlt hok e he =>
    simp only [ne_eq, not_not] at hok
    obtain ⟨t, ht⟩ := ha i (Nat.le_refl i) hlt fun j hij hji => Nat.le_antisymm hji hij ▸ hok
    rw [CString.copy_eq_ok_iff.mpr ht] at he
    cases he
  | case4 i hge =>
    have hk : (n - i).toNat = 0 := by omega
    simp [hk]

/-- A loop that comes to its end has read texts. -/
theorem choicesAreTexts_of_ok {n : Int} {i : Nat} {choices : List String}
    (h : (a.choicesLoop n i).1 = .ok choices) : a.ChoicesAreTexts n i := by
  fun_induction choicesLoop a n i generalizing choices with
  | case1 i hlt hfails => exact fun k hik hkn hread => absurd (hread i (Nat.le_refl i) hik) hfails
  | case2 i hlt hok ch hch ih =>
    obtain ⟨rest, hrest⟩ : ∃ rest, (a.choicesLoop n (i + 1)).1 = .ok rest := by
      cases hrest : (a.choicesLoop n (i + 1)).1 with
      | ok rest => exact ⟨rest, rfl⟩
      | error e =>
        simp only [hrest] at h
        cases h
    intro k hik hkn hread
    rcases Nat.eq_or_lt_of_le hik with rfl | hlt
    · exact ⟨ch, CString.copy_eq_ok_iff.mp hch⟩
    · exact ih hrest k hlt hkn fun j hij hjk => hread j (by omega) hjk
  | case3 => cases h
  | case4 i hge => exact fun k hik hkn => absurd hkn (by omega)

/-- **The choices are listed and the widget given back.** -/
theorem listConfigChoices_of_texts (ha : a.ReadsTexts) :
    a.listConfigChoices.1 = .ok a.readChoices ∧ a.Released a.listConfigChoices.2 := by
  unfold listConfigChoices readChoices
  by_cases hconfig : a.getSingleConfig = gpOk
  · have hloop := choicesLoop_of_texts (ha hconfig).2
    have huses := @free_not_mem_choicesLoop a a.countChoices 0
    simp only [hconfig, hloop, ne_eq, not_true_eq_false, if_false, if_true, Nat.cast_zero,
      Int.sub_zero, List.range_eq_range']
    exact ⟨rfl, released_out hconfig (by simpa using huses)⟩
  · simp only [hconfig, ne_eq, not_false_eq_true, if_true, if_false]
    exact ⟨trivial, released_failed hconfig⟩

theorem listConfigChoices_of_no_text (hconfig : a.getSingleConfig = gpOk)
    (hno : ¬ a.ChoicesAreTexts a.countChoices 0) : ¬ a.Released a.listConfigChoices.2 := by
  have huses := @free_not_mem_choicesLoop a a.countChoices 0
  unfold listConfigChoices
  cases hloop : (a.choicesLoop a.countChoices 0).1 with
  | ok choices => exact absurd (choicesAreTexts_of_ok hloop) hno
  | error e =>
    simp only [hconfig, hloop, ne_eq, not_true_eq_false, if_false]
    exact not_released hconfig (by simpa using huses)

/-! ## When the widgets are released -/

/-- **Every widget is freed once, and every failure is told as documented, exactly when
what is read from the widget is a text.** -/
theorem widgetLaw_iff (a : WidgetAnswers) (value : String) : a.WidgetLaw value ↔ a.ReadsTexts := by
  constructor
  · intro h hconfig
    constructor
    · intro hvalue
      by_contra hno
      exact getTextConfigValue_of_no_text hconfig hvalue (not_exists.mp hno) h.text
    · by_contra hno
      exact listConfigChoices_of_no_text hconfig hno h.list
  · intro ha
    obtain ⟨htextReturns, htext⟩ := getTextConfigValue_of_text ha
    obtain ⟨hlistReturns, hlist⟩ := listConfigChoices_of_texts ha
    refine ⟨htext, setConfigValue_released value, hlist, htextReturns, ?_, ?_, hlistReturns⟩
    · by_cases h : a.Attempts
      · simp [setConfigValue_of_attempts h, h]
      · simp [setConfigValue_of_not_attempts h, h]
    · by_cases h : a.Attempts
      · simp [setConfigValue_of_attempts h, h]
      · simp [setConfigValue_of_not_attempts h, h]

/-- A config of type text that holds no text. -/
def nullText : WidgetAnswers where
  getSingleConfig := gpOk
  getValue := gpOk
  value := .null
  getType := gpOk
  type := .text
  setValue := gpOk
  setSingleConfig := gpOk
  countChoices := 0
  getChoice _ := (-2, .null)
  typed := nofun

/-- Its widget is never given back. -/
theorem not_widgetLaw_nullText : ¬ nullText.WidgetLaw "" := by
  intro h
  exact absurd h.text.freed (by decide)

/-! ## The same answers without the widgets -/

variable (a)

/-- What is answered about a config of type text. -/
def textConfig : Config := fun _ => ⟨a.getSingleConfig, a.getValue, a.value.text?⟩

/-- What is answered about the choices. -/
def choicesConfig : ChoicesConfig :=
  ⟨a.getSingleConfig, (List.range a.countChoices.toNat).map fun i =>
    ((a.getChoice i).1, (a.getChoice i).2.text?.getD "")⟩

variable {a}

/-- **The functions return what they return where widgets are left out.** -/
theorem getTextConfigValue_textConfig (name : String) {text : String} :
    CameraController.getTextConfigValue a.textConfig name = .ok text ↔
      a.getTextConfigValue.1 = .ok text := by
  unfold CameraController.getTextConfigValue getTextConfigValue
  by_cases hconfig : a.getSingleConfig = gpOk <;> by_cases hvalue : a.getValue = gpOk <;>
    cases hpointer : a.value <;>
    simp [textConfig, hconfig, hvalue, hpointer, out, CString.copy, CString.text?]

theorem listConfigChoices_choicesConfig {choices : List String}
    (h : a.listConfigChoices.1 = .ok choices) :
    CameraController.listConfigChoices a.choicesConfig = choices := by
  unfold listConfigChoices at h
  by_cases hconfig : a.getSingleConfig = gpOk
  · cases hloop : (a.choicesLoop a.countChoices 0).1 with
    | error e => simp [hconfig, hloop] at h
    | ok listed =>
      have hread := choicesLoop_of_texts (choicesAreTexts_of_ok hloop)
      rw [hloop, Except.ok.injEq, Nat.cast_zero, Int.sub_zero, ← List.range_eq_range'] at hread
      simp only [hconfig, hloop, out, ne_eq, not_true_eq_false, if_false, Except.ok.injEq] at h
      have hpairs : a.choicesConfig.choices =
          ((List.range a.countChoices.toNat).map a.getChoice).map
            fun choice => (choice.1, choice.2.text?.getD "") := by
        rw [List.map_map]
        rfl
      rw [← h, hread, CameraController.listConfigChoices, hpairs, List.takeWhile_map, List.map_map]
      exact if_neg (not_not_intro hconfig)
  · simp only [hconfig, ne_eq, not_false_eq_true, if_true, Except.ok.injEq] at h
    rw [← h]
    exact if_pos hconfig

end WidgetAnswers
end CameraController
