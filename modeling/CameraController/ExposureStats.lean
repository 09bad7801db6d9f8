import CameraController.CameraConfig
import CameraController.CheckedFold
import CameraController.LogLines
import Mathlib

/-! # The statistics of a function

`registerExposureStat` adds an exposure to the counts, the total and the maximum of its
function.  The members of `SequencerStats` begin with zeros; those of
`IntervalometerStats` are not initialised, so that a new one holds any numbers.

Arithmetic on an `int` that leaves its range, and a division by zero, are faults
(`IntFault`).  `exposureStats_iff` says of every list of intertimes, or of delays, when
the statistics are those of the list: a maximum that begins with zero is right only
for lists that reach it. -/
namespace CameraController

open CheckedFold

/-! ## Arithmetic on `int` -/

/-- What is not to happen to an `int`. -/
inductive IntFault where
  | overflow (n : Int)
  | divideByZero
  deriving DecidableEq, Repr

/-- A result that must be an `int`. -/
def checkedInt (n : Int) : Except IntFault Int32 :=
  if FitsInt n then .ok (Int32.ofInt n) else .error (.overflow n)

def addInt (a b : Int32) : Except IntFault Int32 := checkedInt (a.toInt + b.toInt)

def divInt (a b : Int32) : Except IntFault Int32 :=
  if b = 0 then .error .divideByZero else checkedInt (a.toInt.tdiv b.toInt)

/-- **A checked result** is the number itself. -/
theorem checkedInt_eq_ok_iff {n : Int} {x : Int32} : checkedInt n = .ok x ↔ x.toInt = n := by
  unfold checkedInt
  constructor
  · intro h
    split at h
    · rename_i hfits
      rw [← Except.ok.inj h, toInt_ofInt_of_fitsInt hfits]
    · cases h
  · rintro rfl
    rw [if_pos ⟨x.le_toInt, x.toInt_lt⟩, Int32.ofInt_toInt]

theorem addInt_eq_ok_iff {a b x : Int32} : addInt a b = .ok x ↔ x.toInt = a.toInt + b.toInt :=
  checkedInt_eq_ok_iff

theorem toInt_one : (1 : Int32).toInt = 1 := by decide

theorem fitsInt_toInt (x : Int32) : FitsInt x.toInt := ⟨x.le_toInt, x.toInt_lt⟩

theorem exists_toInt_iff {n : Int} : (∃ x : Int32, x.toInt = n) ↔ FitsInt n := by
  constructor
  · rintro ⟨x, rfl⟩
    exact fitsInt_toInt x
  · exact fun h => ⟨Int32.ofInt n, toInt_ofInt_of_fitsInt h⟩

/-- A quotient is no larger than what is divided. -/
theorem divInt_of_pos {a b : Int32} (h : 0 < b.toInt) : ∃ q, divInt a b = .ok q := by
  have hb : b ≠ 0 := by
    rintro rfl
    exact absurd h (by decide)
  have hle := Int.natAbs_tdiv_le_natAbs a.toInt b.toInt
  have hsign : 0 ≤ a.toInt ∧ 0 ≤ a.toInt.tdiv b.toInt ∨ a.toInt ≤ 0 ∧ a.toInt.tdiv b.toInt ≤ 0 := by
    rcases Int.le_total 0 a.toInt with hnonneg | hneg
    · exact Or.inl ⟨hnonneg, Int.tdiv_nonneg hnonneg (Int.le_of_lt h)⟩
    · have hopp := Int.tdiv_nonneg (Int.neg_nonneg_of_nonpos hneg) (Int.le_of_lt h)
      rw [Int.neg_tdiv] at hopp
      exact Or.inr ⟨hneg, by omega⟩
  have hfits : FitsInt (a.toInt.tdiv b.toInt) := by
    have ha := fitsInt_toInt a
    unfold FitsInt at ha ⊢
    omega
  obtain ⟨q, hq⟩ := exists_toInt_iff.mpr hfits
  exact ⟨q, by rw [divInt, if_neg hb, checkedInt_eq_ok_iff.mpr hq]⟩

/-! ## The statistics -/

/-- `Sequencer::SequencerStats`. -/
structure SequencerStats where
  exposureTime : Int32 := 0
  programmedExposures : Int32 := 0
  totalExposureIntertime : Int32 := 0
  maxIntertime : Int32 := 0
  lastIntertime : Int32 := 0
  exposuresCount : Int32 := 0
  deriving DecidableEq, Repr

namespace SequencerStats

/-- The statistics of a new sequencer. -/
def new (nExposures exposureTime : Int32) : SequencerStats where
  exposureTime := exposureTime
  programmedExposures := nExposures

def meanIntertime (s : SequencerStats) : Except IntFault Int32 :=
  divInt s.totalExposureIntertime s.exposuresCount

def registerExposureStat (s : SequencerStats) (intertime : Int32) :
    Except IntFault SequencerStats := do
  let total ← addInt s.totalExposureIntertime intertime
  let count ← addInt s.exposuresCount 1
  return { s with
    lastIntertime := intertime
    totalExposureIntertime := total
    maxIntertime := if s.maxIntertime < intertime then intertime else s.maxIntertime
    exposuresCount := count }

/-- The line that is logged. -/
def print (s : SequencerStats) : Except IntFault FormattedLine := do
  let mean ← s.meanIntertime
  return .intertime s.lastIntertime mean s.maxIntertime s.exposureTime

/-- An exposure is registered, and the statistics are printed. -/
def complete (s : SequencerStats) (intertime : Int32) : Except IntFault SequencerStats := do
  let s' ← s.registerExposureStat intertime
  let _ ← s'.print
  return s'

end SequencerStats

/-- `Intervalometer::IntervalometerStats`, which has no initialisers. -/
structure IntervalometerStats where
  totalDelay : Int32
  maxDelay : Int32
  delayedExposuresCount : Int32
  exposuresCount : Int32
  deriving DecidableEq, Repr

/-- The count of the exposures that come late. -/
def countDelayed (count delay : Int32) : Except IntFault Int32 :=
  if 0 < delay then addInt count 1 else .ok count

def IntervalometerStats.registerExposureStat (s : IntervalometerStats) (delay : Int32) :
    Except IntFault IntervalometerStats := do
  let total ← addInt s.totalDelay delay
  let count ← addInt s.exposuresCount 1
  let delayed ← countDelayed s.delayedExposuresCount delay
  return {
    totalDelay := total
    maxDelay := if s.maxDelay < delay then delay else s.maxDelay
    delayedExposuresCount := delayed
    exposuresCount := count }

/-! ## What they are to be -/

/-- The numbers of a list. -/
def values (l : List Int32) : List Int := l.map Int32.toInt

/-- The sums of the list are `int`s. -/
def SumsFit (l : List Int32) : Prop := ∀ p, p <+: l → FitsInt (values p).sum

/-- The statistics of a sequencer are those of the list. -/
structure SequencerRight (l : List Int32) (s : SequencerStats) : Prop where
  last : l.getLast? = some s.lastIntertime
  count : s.exposuresCount.toInt = l.length
  total : s.totalExposureIntertime.toInt = (values l).sum
  max : (values l).maximum = s.maxIntertime.toInt

/-- The statistics of an intervalometer are those of the list. -/
structure IntervalometerRight (l : List Int32) (s : IntervalometerStats) : Prop where
  total : s.totalDelay.toInt = (values l).sum
  max : (values l).maximum = s.maxDelay.toInt
  count : s.exposuresCount.toInt = l.length
  delayed : s.delayedExposuresCount.toInt = (values l).countP (0 < ·)

/-- A new sequencer goes through the list, and is right; behind each exposure, where
`mean_intertime` is called, it has counted some. -/
def SequencerExact (nExposures exposureTime : Int32) (l : List Int32) : Prop :=
  (∃ s, l.foldlM SequencerStats.complete (.new nExposures exposureTime) = .ok s ∧
    SequencerRight l s) ∧
  ∀ p, p <+: l → p ≠ [] → ∃ s, p.foldlM SequencerStats.complete (.new nExposures exposureTime) =
    .ok s ∧ 0 < s.exposuresCount.toInt

/-- A new intervalometer, with the numbers it happens to hold, does. -/
def IntervalometerExact (new : IntervalometerStats) (l : List Int32) : Prop :=
  ∃ s, l.foldlM IntervalometerStats.registerExposureStat new = .ok s ∧ IntervalometerRight l s

/-! ## Numbers of a list -/

section Values
variable (l : List Int32) (x : Int32)

theorem sum_values_concat : (values (l ++ [x])).sum = (values l).sum + x.toInt := by
  simp [values]

theorem maximum_values_concat (a b : Int32) (h : (values (a :: l)).maximum = b.toInt) :
    (values (a :: (l ++ [x]))).maximum = (if b < x then x else b).toInt := by
  have hconcat : values (a :: (l ++ [x])) = values (a :: l) ++ [x.toInt] := by simp [values]
  rw [hconcat, List.maximum_concat, h, ← WithBot.coe_max]
  congr 1
  by_cases hlt : b < x
  · rw [if_pos hlt, max_eq_right (Int.le_of_lt (Int32.lt_iff_toInt_lt.mp hlt))]
  · rw [if_neg hlt, max_eq_left (Int.not_lt.mp (mt Int32.lt_iff_toInt_lt.mpr hlt))]

end Values

/-- **A maximum that begins with a seed** is that of the list if the list reaches it. -/
theorem maximum_eq_iff_of_seed {l : List Int32} {a b : Int32}
    (h : (values (a :: l)).maximum = b.toInt) :
    (values l).maximum = b.toInt ↔ ∃ t ∈ l, a.toInt ≤ t.toInt := by
  have hseed : max (a.toInt : WithBot Int) (values l).maximum = b.toInt := by
    rw [← h]
    exact (List.maximum_cons _ _).symm
  have hreaches : (a.toInt : WithBot Int) ≤ (values l).maximum ↔ ∃ t ∈ l, a.toInt ≤ t.toInt := by
    rw [List.coe_le_maximum_iff]
    simp [values]
  rw [← hreaches]
  constructor
  · intro hmax
    rw [hmax, ← hseed]
    exact le_max_left _ _
  · intro hle
    rw [← hseed, max_eq_right hle]

theorem sumsFit_nil : FitsInt (values []).sum := by decide

/-- Sums and lengths in range, behind every element. -/
theorem throughout_iff {l : List Int32} :
    Throughout (fun p => FitsInt (values p).sum ∧ p.length < 2 ^ 31) l ↔
      SumsFit l ∧ l.length < 2 ^ 31 := by
  constructor
  · intro h
    refine ⟨fun p hp => ?_, ?_⟩
    · by_cases hne : p = []
      · rw [hne]
        exact sumsFit_nil
      · exact (h p hp hne).1
    · by_cases hne : l = []
      · rw [hne]
        decide
      · exact (h l (List.prefix_refl l) hne).2
  · rintro ⟨hsums, hlength⟩ p hp -
    exact ⟨hsums p hp, Nat.lt_of_le_of_lt hp.length_le hlength⟩

/-! ## A registration -/

/-- **What a sequencer registers.** -/
theorem SequencerStats.registerExposureStat_eq_ok_iff {s t : SequencerStats} {x : Int32} :
    s.registerExposureStat x = .ok t ↔ ∃ total count : Int32,
      total.toInt = s.totalExposureIntertime.toInt + x.toInt ∧
      count.toInt = s.exposuresCount.toInt + 1 ∧
      { s with
        lastIntertime := x
        totalExposureIntertime := total
        maxIntertime := if s.maxIntertime < x then x else s.maxIntertime
        exposuresCount := count } = t := by
  simp only [registerExposureStat, bind_eq_ok_iff, addInt_eq_ok_iff, toInt_one, pure, Except.pure,
    Except.ok.injEq, exists_and_left]

theorem countDelayed_eq_ok_iff {count delay x : Int32} :
    countDelayed count delay = .ok x ↔
      x.toInt = count.toInt + (if 0 < delay.toInt then 1 else 0) := by
  have hpos : 0 < delay ↔ 0 < delay.toInt := Int32.lt_iff_toInt_lt
  unfold countDelayed
  by_cases h : 0 < delay
  · rw [if_pos h, if_pos (hpos.mp h), addInt_eq_ok_iff, toInt_one]
  · rw [if_neg h, if_neg (mt hpos.mpr h), Except.ok.injEq, Int.add_zero, Int32.toInt_inj, eq_comm]

/-- **What an intervalometer registers.** -/
theorem IntervalometerStats.registerExposureStat_eq_ok_iff {s t : IntervalometerStats} {x : Int32} :
    s.registerExposureStat x = .ok t ↔ ∃ total count delayed : Int32,
      total.toInt = s.totalDelay.toInt + x.toInt ∧
      count.toInt = s.exposuresCount.toInt + 1 ∧
      delayed.toInt = s.delayedExposuresCount.toInt + (if 0 < x.toInt then 1 else 0) ∧
      ⟨total, if s.maxDelay < x then x else s.maxDelay, delayed, count⟩ = t := by
  simp only [registerExposureStat, bind_eq_ok_iff, addInt_eq_ok_iff, toInt_one,
    countDelayed_eq_ok_iff, pure, Except.pure, Except.ok.injEq, exists_and_left]

/-- It prints behind a count, and nothing can go wrong there. -/
theorem SequencerStats.complete_eq_ok_iff {s t : SequencerStats} {x : Int32}
    (hcount : 0 ≤ s.exposuresCount.toInt) :
    s.complete x = .ok t ↔ s.registerExposureStat x = .ok t := by
  simp only [complete, bind_eq_ok_iff, pure, Except.pure, Except.ok.injEq]
  constructor
  · rintro ⟨s', hs, line, -, rfl⟩
    exact hs
  · intro hs
    obtain ⟨total, count, -, hc, rfl⟩ := registerExposureStat_eq_ok_iff.mp hs
    obtain ⟨q, hq⟩ := divInt_of_pos (a := total) (b := count) (by omega)
    exact ⟨_, hs, _, bind_eq_ok_iff.mpr ⟨q, hq, rfl⟩, rfl⟩

/-! ## A whole list -/

/-- What the statistics of a sequencer keep. -/
structure SequencerKept (l : List Int32) (s : SequencerStats) : Prop where
  last : ∀ t ∈ l.getLast?, t = s.lastIntertime
  count : s.exposuresCount.toInt = l.length
  total : s.totalExposureIntertime.toInt = (values l).sum
  max : (values (0 :: l)).maximum = s.maxIntertime.toInt

/-- What those of an intervalometer keep, whatever it held. -/
structure IntervalometerKept (new : IntervalometerStats) (l : List Int32)
    (s : IntervalometerStats) : Prop where
  total : s.totalDelay.toInt = new.totalDelay.toInt + (values l).sum
  max : (values (new.maxDelay :: l)).maximum = s.maxDelay.toInt
  count : s.exposuresCount.toInt = new.exposuresCount.toInt + l.length
  delayed : s.delayedExposuresCount.toInt =
    new.delayedExposuresCount.toInt + (values l).countP (0 < ·)

theorem fitsInt_length_iff (n : Nat) : FitsInt n ↔ n < 2 ^ 31 := by
  unfold FitsInt
  omega

theorem SequencerKept.count_nonneg {l : List Int32} {s : SequencerStats} (h : SequencerKept l s) :
    0 ≤ s.exposuresCount.toInt := by
  rw [h.count]
  exact Int.natCast_nonneg _

theorem sequencer_steps : Steps SequencerStats.complete SequencerKept
    fun p => FitsInt (values p).sum ∧ p.length < 2 ^ 31 where
  goes_iff {l s} x hs := by
    rw [sum_values_concat, List.length_append, List.length_singleton, ← fitsInt_length_iff,
      Int.natCast_add, ← hs.total, ← hs.count, ← exists_toInt_iff, ← exists_toInt_iff]
    simp only [SequencerStats.complete_eq_ok_iff hs.count_nonneg,
      SequencerStats.registerExposureStat_eq_ok_iff]
    constructor
    · rintro ⟨-, total, count, htotal, hcount, -⟩
      exact ⟨⟨total, htotal⟩, count, hcount⟩
    · rintro ⟨⟨total, htotal⟩, count, hcount⟩
      exact ⟨_, total, count, htotal, hcount, rfl⟩
  keeps {l s t} x hs h := by
    rw [SequencerStats.complete_eq_ok_iff hs.count_nonneg] at h
    obtain ⟨total, count, htotal, hcount, rfl⟩ :=
      SequencerStats.registerExposureStat_eq_ok_iff.mp h
    exact {
      last := by simp
      count := by simp [hcount, hs.count]
      total := by rw [sum_values_concat, ← hs.total]; exact htotal
      max := maximum_values_concat l x 0 _ hs.max }

theorem countP_values_concat (l : List Int32) (x : Int32) :
    (values (l ++ [x])).countP (0 < ·) =
      (values l).countP (0 < ·) + if 0 < x.toInt then 1 else 0 := by
  simp [values, List.countP_append, List.countP_singleton]

theorem intervalometer_steps (new : IntervalometerStats) :
    Steps IntervalometerStats.registerExposureStat (IntervalometerKept new)
      fun p => FitsInt (new.totalDelay.toInt + (values p).sum) ∧
        FitsInt (new.exposuresCount.toInt + p.length) ∧
        FitsInt (new.delayedExposuresCount.toInt + (values p).countP (0 < ·)) where
  goes_iff {l s} x hs := by
    have htotal : new.totalDelay.toInt + (values (l ++ [x])).sum =
        s.totalDelay.toInt + x.toInt := by
      rw [sum_values_concat, hs.total, Int.add_assoc]
    have hcount : new.exposuresCount.toInt + (l ++ [x]).length = s.exposuresCount.toInt + 1 := by
      rw [hs.count, List.length_append, List.length_singleton, Int.natCast_add, Int.add_assoc]
      rfl
    have hdelayed : new.delayedExposuresCount.toInt + (values (l ++ [x])).countP (0 < ·) =
        s.delayedExposuresCount.toInt + if 0 < x.toInt then 1 else 0 := by
      rw [hs.delayed, countP_values_concat]
      split <;> omega
    rw [htotal, hcount, hdelayed, ← exists_toInt_iff, ← exists_toInt_iff, ← exists_toInt_iff]
    simp only [IntervalometerStats.registerExposureStat_eq_ok_iff]
    constructor
    · rintro ⟨-, total, count, delayed, ht, hc, hd, -⟩
      exact ⟨⟨total, ht⟩, ⟨count, hc⟩, delayed, hd⟩
    · rintro ⟨⟨total, ht⟩, ⟨count, hc⟩, delayed, hd⟩
      exact ⟨_, total, count, delayed, ht, hc, hd, rfl⟩
  keeps {l s t} x hs h := by
    obtain ⟨total, count, delayed, htotal, hcount, hdelayed, rfl⟩ :=
      IntervalometerStats.registerExposureStat_eq_ok_iff.mp h
    exact {
      total := by rw [sum_values_concat, htotal, hs.total, Int.add_assoc]
      max := maximum_values_concat l x new.maxDelay _ hs.max
      count := by
        rw [hcount, hs.count, List.length_append, List.length_singleton]
        omega
      delayed := by
        rw [hdelayed, hs.delayed, countP_values_concat]
        split <;> omega }

/-! ## When they are right -/

/-- The members that count from zero do. -/
structure IntervalometerStats.Zeroed (s : IntervalometerStats) : Prop where
  totalDelay : s.totalDelay = 0
  delayedExposuresCount : s.delayedExposuresCount = 0
  exposuresCount : s.exposuresCount = 0

theorem eq_zero_iff {x : Int32} : x = 0 ↔ x.toInt = 0 := by
  rw [← Int32.toInt_inj, Int32.toInt_zero]

theorem SequencerKept.right_iff {l : List Int32} {s : SequencerStats} (h : SequencerKept l s) :
    SequencerRight l s ↔ ∃ t ∈ l, 0 ≤ t.toInt := by
  have hmax := maximum_eq_iff_of_seed h.max
  constructor
  · exact fun hr => hmax.mp hr.max
  · intro hreach
    refine ⟨?_, h.count, h.total, hmax.mpr hreach⟩
    obtain ⟨t, ht, -⟩ := hreach
    have hlast := List.getLast?_eq_some_getLast (List.ne_nil_of_mem ht)
    rw [hlast, h.last _ hlast]

theorem IntervalometerKept.right_iff {new s : IntervalometerStats} {l : List Int32}
    (h : IntervalometerKept new l s) :
    IntervalometerRight l s ↔ new.Zeroed ∧ ∃ d ∈ l, new.maxDelay.toInt ≤ d.toInt := by
  have hmax := maximum_eq_iff_of_seed h.max
  obtain ⟨htotal, -, hcount, hdelayed⟩ := h
  constructor
  · rintro ⟨ht, hm, hc, hd⟩
    refine ⟨⟨eq_zero_iff.mpr ?_, eq_zero_iff.mpr ?_, eq_zero_iff.mpr ?_⟩, hmax.mp hm⟩ <;> omega
  · rintro ⟨⟨ht, hd, hc⟩, hreach⟩
    rw [eq_zero_iff] at ht hd hc
    exact ⟨by omega, hmax.mpr hreach, by omega, by omega⟩

theorem new_sequencerKept (nExposures exposureTime : Int32) :
    SequencerKept [] (.new nExposures exposureTime) :=
  ⟨nofun, rfl, rfl, rfl⟩

/-- A new sequencer's statistics. -/
theorem sequencerExact_iff (nExposures exposureTime : Int32) (l : List Int32) :
    SequencerExact nExposures exposureTime l ↔
      SumsFit l ∧ l.length < 2 ^ 31 ∧ ∃ t ∈ l, 0 ≤ t.toInt := by
  have hinit := new_sequencerKept nExposures exposureTime
  rw [SequencerExact, sequencer_steps.exists_iff hinit SequencerKept.right_iff]
  have hmean : Throughout (fun p => FitsInt (values p).sum ∧ p.length < 2 ^ 31) l →
      ∀ p, p <+: l → p ≠ [] →
        ∃ s, p.foldlM SequencerStats.complete (.new nExposures exposureTime) = .ok s ∧
          0 < s.exposuresCount.toInt := by
    intro hl p hp hne
    obtain ⟨s, hs⟩ := (sequencer_steps.exists_ok_iff hinit p).mpr (hl.of_prefix hp)
    refine ⟨s, hs, ?_⟩
    rw [(sequencer_steps.result hinit hs).count]
    exact Int.natCast_pos.mpr (List.length_pos_of_ne_nil hne)
  rw [and_iff_left_of_imp fun h => hmean h.1, throughout_iff, and_assoc]

/-- With counts from zero, everything fits if the sums and the length do. -/
theorem throughout_of_zeroed {new : IntervalometerStats} (h : new.Zeroed) {l : List Int32} :
    Throughout (fun p => FitsInt (new.totalDelay.toInt + (values p).sum) ∧
        FitsInt (new.exposuresCount.toInt + p.length) ∧
        FitsInt (new.delayedExposuresCount.toInt + (values p).countP (0 < ·))) l ↔
      SumsFit l ∧ l.length < 2 ^ 31 := by
  rw [← throughout_iff]
  refine forall_congr' fun p => forall_congr' fun _ => forall_congr' fun _ => ?_
  simp only [h.totalDelay, h.exposuresCount, h.delayedExposuresCount, Int32.toInt_zero,
    Int.zero_add, fitsInt_length_iff]
  have hle : (values p).countP (0 < ·) ≤ p.length := by
    simpa [values] using List.countP_le_length (l := values p) (p := fun n => decide (0 < n))
  constructor
  · exact fun h => ⟨h.1, h.2.1⟩
  · exact fun h => ⟨h.1, h.2, Nat.lt_of_le_of_lt hle h.2⟩

theorem new_intervalometerKept (new : IntervalometerStats) : IntervalometerKept new [] new := by
  refine ⟨?_, rfl, ?_, ?_⟩ <;> simp [values]

/-- A new intervalometer's statistics. -/
theorem intervalometerExact_iff (new : IntervalometerStats) (l : List Int32) :
    IntervalometerExact new l ↔
      new.Zeroed ∧ (∃ d ∈ l, new.maxDelay.toInt ≤ d.toInt) ∧ SumsFit l ∧ l.length < 2 ^ 31 := by
  rw [IntervalometerExact, (intervalometer_steps new).exists_iff (new_intervalometerKept new)
    IntervalometerKept.right_iff]
  constructor
  · rintro ⟨hfits, hzeroed, hreach⟩
    exact ⟨hzeroed, hreach, (throughout_of_zeroed hzeroed).mp hfits⟩
  · rintro ⟨hzeroed, hreach, hfits⟩
    exact ⟨(throughout_of_zeroed hzeroed).mpr hfits, hzeroed, hreach⟩

/-- **When the statistics are those of the exposures**: a sequencer's, if the sums fit
and an intertime is not negative; an intervalometer's, if its members happen to hold
zeros and a maximum that a delay reaches. -/
theorem exposureStats_iff (nExposures exposureTime : Int32) (new : IntervalometerStats)
    (l : List Int32) :
    (SequencerExact nExposures exposureTime l ↔
      SumsFit l ∧ l.length < 2 ^ 31 ∧ ∃ t ∈ l, 0 ≤ t.toInt) ∧
    (IntervalometerExact new l ↔
      new.Zeroed ∧ (∃ d ∈ l, new.maxDelay.toInt ≤ d.toInt) ∧ SumsFit l ∧ l.length < 2 ^ 31) :=
  ⟨sequencerExact_iff nExposures exposureTime l, intervalometerExact_iff new l⟩

/-- A camera that exposes for 5 ms less than it was told to, once: the maximum of its
intertimes is said to be 0. -/
theorem not_exact_negative :
    ¬ ∀ (nExposures exposureTime : Int32) (new : IntervalometerStats) (l : List Int32),
      l ≠ [] → SumsFit l → l.length < 2 ^ 31 →
        SequencerExact nExposures exposureTime l ∧ IntervalometerExact new l := by
  intro h
  have hsums : SumsFit [-5] := by
    intro p hp
    rcases List.prefix_cons_iff.mp hp with rfl | ⟨q, rfl, hq⟩
    · decide
    · rw [List.prefix_nil.mp hq]
      decide
  obtain ⟨-, -, t, ht, hnonneg⟩ := (sequencerExact_iff 1 10 [-5]).mp
    (h 1 10 ⟨7, 7, 7, 7⟩ [-5] (by decide) hsums (by decide)).1
  obtain rfl := List.mem_singleton.mp ht
  exact absurd hnonneg (by decide)

end CameraController
