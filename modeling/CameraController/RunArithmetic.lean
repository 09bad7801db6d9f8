import CameraController.ExposureStats
import CameraController.ShotsTaken

/-! # The arithmetic of a run

`run()` counts its shots in an `int`, and works out from what the clock shows around a
capture how late the exposure is; the numbers it works with come out of a command, as
they are.  An event of a run (`numberEvent`) is what it computes with: a shot that is
counted, an exposure that is registered.

The clock is `system_clock`, which can be set to another time while a run goes on, so a
capture may seem to have taken longer than it did, or less than no time.

`noFault_iff` says of every run of every function when none of its `int`s leaves its
range, in terms of the setup and the clock. -/
namespace CameraController

open StateMachine CheckedFold

/-- What happens in a run: a step of it, or the clock is set. -/
inductive ClockedAction where
  | timed (a : TimedAction)
  | setClock (clock : Int)
  deriving DecidableEq, Repr

/-- A step of a run whose clock may be set. -/
def clockedStep (perMs : Int) (s : TimedRun) : ClockedAction → Option TimedRun
  | .timed a => timedStep perMs s a
  | .setClock clock => some { s with clock }

/-- What the clock shows before and behind a capture: `start` and `end`. -/
structure Exposure where
  start : Int
  stop : Int
  deriving DecidableEq, Repr

/-- What `run()` computes with. -/
inductive NumberEvent where
  /-- `i++`. -/
  | counts
  /-- The exposure is worked out and registered. -/
  | exposes (e : Exposure)
  deriving DecidableEq, Repr

/-- What an action is for the arithmetic of the run. -/
def numberEvent (s : TimedRun) : ClockedAction → List NumberEvent
  | .timed (.step _) =>
    match s.pc with
    | .loopTest => if s.function.goesOn s.shots then [.counts] else []
    | .register => [.exposes ⟨s.starts.getLastD 0, s.clock⟩]
    | _ => []
  | _ => []

/-! ## The computations -/

variable (perMs : Int)

/-- `exposure_duration - exposure_time`. -/
def intertime (exposureTime : Int32) (e : Exposure) : Except IntFault Int32 := do
  -- the cast: a number that it would change is a fault, too
  let exposureDuration ← checkedInt ((e.stop - e.start).tdiv perMs)
  checkedInt (exposureDuration.toInt - exposureTime.toInt)

/-- `-1 * (int)remaining.count()`. -/
def delay (interval : Int32) (e : Exposure) : Except IntFault Int32 := do
  let nextExposure := e.start + interval.toInt * perMs
  let remaining ← checkedInt ((nextExposure - e.stop).tdiv perMs)
  checkedInt (-1 * remaining.toInt)

/-- The `int`s of a run: `i`, and the statistics. -/
structure Numbers (σ : Type) where
  i : Int32
  stats : σ

def Numbers.compute {σ : Type} (register : σ → Exposure → Except IntFault σ) (n : Numbers σ) :
    NumberEvent → Except IntFault (Numbers σ)
  | .counts => do
    let i ← addInt n.i 1
    return { n with i := i }
  | .exposes e => do
    let stats ← register n.stats e
    return { n with stats := stats }

/-- A sequencer works out an exposure. -/
def Sequencer.register (exposureTime : Int32) (s : SequencerStats) (e : Exposure) :
    Except IntFault SequencerStats := intertime perMs exposureTime e >>= s.complete

/-- An intervalometer does. -/
def Intervalometer.register (interval : Int32) (s : IntervalometerStats) (e : Exposure) :
    Except IntFault IntervalometerStats := delay perMs interval e >>= s.registerExposureStat

/-- Nothing goes wrong; `new` is what the members of a new intervalometer hold. -/
def NoFault (c : Setup) (new : IntervalometerStats) (events : List NumberEvent) : Prop :=
  match c.id with
  | .sequencer => ∃ n,
      events.foldlM (Numbers.compute (Sequencer.register perMs c.exposureTime))
        ⟨0, .new c.numShots c.exposureTime⟩ = .ok n
  | .intervalometer => ∃ n,
      events.foldlM (Numbers.compute (Intervalometer.register perMs c.interval)) ⟨0, new⟩ = .ok n

/-! ## The condition -/

namespace Exposure

/-- How long the capture took by the clock, in milliseconds. -/
def lasted (e : Exposure) : Int := (e.stop - e.start).tdiv perMs

/-- By how much it took longer than an interval. -/
def late (interval : Int32) (e : Exposure) : Int :=
  (e.stop - e.start - interval.toInt * perMs).tdiv perMs

end Exposure

/-- The captures of a sequencer. -/
structure SequencerInRange (exposureTime : Int32) (es : List Exposure) : Prop where
  duration : ∀ e ∈ es, FitsInt (e.lasted perMs)
  intertime : ∀ e ∈ es, FitsInt (e.lasted perMs - exposureTime.toInt)
  total : ∀ p, p <+: es → FitsInt (p.map fun e => e.lasted perMs - exposureTime.toInt).sum

/-- Those of an intervalometer. -/
structure IntervalometerInRange (interval : Int32) (new : IntervalometerStats)
    (es : List Exposure) : Prop where
  delay : ∀ e ∈ es, -2 ^ 31 < e.late perMs interval ∧ e.late perMs interval < 2 ^ 31
  total : ∀ p, p <+: es → FitsInt (new.totalDelay.toInt + (p.map (·.late perMs interval)).sum)
  count : new.exposuresCount.toInt + es.length < 2 ^ 31
  delayed : new.delayedExposuresCount.toInt + es.countP (0 < ·.late perMs interval) < 2 ^ 31

/-- The exposures of a run. -/
def exposures (events : List NumberEvent) : List Exposure :=
  events.filterMap fun
    | .exposes e => some e
    | .counts => none

/-- A run computes with numbers that are in range. -/
def InRange (c : Setup) (new : IntervalometerStats) (shots : Nat) (es : List Exposure) : Prop :=
  shots < 2 ^ 31 ∧
    match c.id with
    | .sequencer => SequencerInRange perMs c.exposureTime es
    | .intervalometer => IntervalometerInRange perMs c.interval new es

/-! ## The two parts of the arithmetic -/

theorem exposures_concat_counts (l : List NumberEvent) :
    exposures (l ++ [.counts]) = exposures l := by
  simp [exposures]

theorem exposures_concat_exposes (l : List NumberEvent) (e : Exposure) :
    exposures (l ++ [.exposes e]) = exposures l ++ [e] := by
  simp [exposures]

section Compute
variable {σ : Type} {register : σ → Exposure → Except IntFault σ} {init : σ}

/-- What has been computed: the shots are counted, the exposures registered. -/
def Computed (register : σ → Exposure → Except IntFault σ) (init : σ) (l : List NumberEvent)
    (n : Numbers σ) : Prop :=
  n.i.toInt = l.count .counts ∧ (exposures l).foldlM register init = .ok n.stats

/-- What can be computed. -/
def Computable (register : σ → Exposure → Except IntFault σ) (init : σ) (l : List NumberEvent) :
    Prop :=
  FitsInt (l.count .counts) ∧ ∃ s, (exposures l).foldlM register init = .ok s

theorem compute_steps :
    Steps (Numbers.compute register) (Computed register init) (Computable register init) where
  goes_iff {l n} event hn := by
    obtain ⟨hi, hstats⟩ := hn
    cases event with
    | counts =>
      simp only [Numbers.compute, Computable, exposures_concat_counts, bind_eq_ok_iff,
        addInt_eq_ok_iff, toInt_one, hi]
      simp only [List.count_append, List.count_singleton_self, Int.natCast_add, ← exists_toInt_iff]
      constructor
      · rintro ⟨-, i, hnext, -⟩
        exact ⟨⟨i, hnext⟩, n.stats, hstats⟩
      · rintro ⟨⟨i, hnext⟩, -⟩
        exact ⟨_, i, hnext, rfl⟩
    | exposes e =>
      have hcount : (l ++ [NumberEvent.exposes e]).count .counts = l.count .counts := by simp
      simp only [Numbers.compute, Computable, exposures_concat_exposes, bind_eq_ok_iff, hcount,
        foldlM_concat_eq_ok_iff]
      constructor
      · rintro ⟨-, s, hs, -⟩
        exact ⟨hi ▸ fitsInt_toInt n.i, s, n.stats, hstats, hs⟩
      · rintro ⟨-, s, u, hu, hs⟩
        obtain rfl : n.stats = u := Except.ok.inj (hstats.symm.trans hu)
        exact ⟨_, s, hs, rfl⟩
  keeps {l n n'} event hn h := by
    obtain ⟨hi, hstats⟩ := hn
    cases event with
    | counts =>
      obtain ⟨i, hnext, hn'⟩ := bind_eq_ok_iff.mp h
      cases hn'
      rw [addInt_eq_ok_iff, toInt_one, hi] at hnext
      exact ⟨by simpa using hnext, by rw [exposures_concat_counts]; exact hstats⟩
    | exposes e =>
      obtain ⟨s, hs, hn'⟩ := bind_eq_ok_iff.mp h
      cases hn'
      refine ⟨by simpa using hi, ?_⟩
      rw [exposures_concat_exposes]
      exact foldlM_concat_eq_ok_iff.mpr ⟨n.stats, hstats, hs⟩

/-- **A run computes without a fault** if its count fits and its exposures can be
registered. -/
theorem exists_compute_iff (events : List NumberEvent) :
    (∃ n, events.foldlM (Numbers.compute register) ⟨0, init⟩ = .ok n) ↔
      FitsInt (events.count .counts) ∧ ∃ s, (exposures events).foldlM register init = .ok s := by
  rw [compute_steps.exists_ok_iff ⟨rfl, rfl⟩, throughout_iff_of_prefix ⟨by decide, init, rfl⟩]
  · rfl
  · rintro l p hp ⟨hcount, s, hs⟩
    refine ⟨?_, foldlM_ok_of_prefix (hp.filterMap _) hs⟩
    have hle := hp.sublist.count_le (a := NumberEvent.counts)
    unfold FitsInt at hcount ⊢
    omega

end Compute

/-! ## What an exposure is registered with -/

variable {perMs : Int}

theorem intertime_eq_ok_iff {exposureTime x : Int32} {e : Exposure} :
    intertime perMs exposureTime e = .ok x ↔
      FitsInt (e.lasted perMs) ∧ x.toInt = e.lasted perMs - exposureTime.toInt := by
  simp only [intertime, bind_eq_ok_iff, checkedInt_eq_ok_iff, ← exists_toInt_iff]
  constructor
  · rintro ⟨d, hd, hx⟩
    exact ⟨⟨d, hd⟩, by rw [hx, hd, Exposure.lasted]⟩
  · rintro ⟨⟨d, hd⟩, hx⟩
    exact ⟨d, hd, by rw [hx, hd]⟩

/-- What remains of the interval is how late the exposure is, the other way round. -/
theorem remaining_eq (interval : Int32) (e : Exposure) :
    (e.start + interval.toInt * perMs - e.stop).tdiv perMs = -e.late perMs interval := by
  rw [Exposure.late, ← Int.neg_tdiv]
  congr 1
  omega

theorem delay_eq_ok_iff {interval x : Int32} {e : Exposure} :
    delay perMs interval e = .ok x ↔
      FitsInt (-e.late perMs interval) ∧ x.toInt = e.late perMs interval := by
  simp only [delay, bind_eq_ok_iff, checkedInt_eq_ok_iff, ← exists_toInt_iff, remaining_eq]
  constructor
  · rintro ⟨r, hr, hx⟩
    exact ⟨⟨r, hr⟩, by omega⟩
  · rintro ⟨⟨r, hr⟩, hx⟩
    exact ⟨r, hr, by omega⟩

section Converted
variable {convert : Exposure → Except IntFault Int32} {amount : Exposure → Int}
  {ok : Exposure → Prop}
  (hconvert : ∀ e x, convert e = .ok x ↔ ok e ∧ x.toInt = amount e)
include hconvert

/-- **Exposures that have been worked out**: each can be, and what is said of the
numbers is said of the exposures. -/
theorem exists_converted_iff {Q : List Int → Prop} (es : List Exposure) :
    (∃ xs, List.Forall₂ (fun e x => convert e = .ok x) es xs ∧ Q (values xs)) ↔
      (∀ e ∈ es, ok e ∧ FitsInt (amount e)) ∧ Q (es.map amount) := by
  constructor
  · rintro ⟨xs, hxs, hQ⟩
    have hvalues : values xs = es.map amount := by
      clear hQ
      induction hxs with
      | nil => rfl
      | cons hx _ ih => exact congrArg₂ List.cons ((hconvert _ _).mp hx).2 ih
    refine ⟨?_, hvalues ▸ hQ⟩
    clear hQ hvalues
    induction hxs with
    | nil => exact nofun
    | cons hx _ ih =>
      obtain ⟨hok, hamount⟩ := (hconvert _ _).mp hx
      exact List.forall_mem_cons.mpr ⟨⟨hok, hamount ▸ fitsInt_toInt _⟩, ih⟩
  · rintro ⟨hes, hQ⟩
    refine ⟨es.map fun e => Int32.ofInt (amount e), ?_, ?_⟩
    · rw [List.forall₂_map_right_iff, List.forall₂_same]
      intro e he
      exact (hconvert e _).mpr ⟨(hes e he).1, toInt_ofInt_of_fitsInt (hes e he).2⟩
    · have hvalues : values (es.map fun e => Int32.ofInt (amount e)) = es.map amount := by
        rw [values, List.map_map]
        exact List.map_congr_left fun e he => toInt_ofInt_of_fitsInt (hes e he).2
      rwa [hvalues]

/-- **Exposures that are worked out and registered**, where it takes `Q` of the numbers
to register them. -/
theorem registers_iff {σ : Type} {step : σ → Int32 → Except IntFault σ} {R : List Int32 → σ → Prop}
    {C : List Int32 → Prop} (h : Steps step R C) {init : σ} (hinit : R [] init)
    (Q : List Int → Prop) (hQ : ∀ xs, Throughout C xs ↔ Q (values xs)) (es : List Exposure) :
    (∃ s, es.foldlM (fun s e => convert e >>= step s) init = .ok s) ↔
      (∀ e ∈ es, ok e ∧ FitsInt (amount e)) ∧ Q (es.map amount) := by
  rw [← exists_converted_iff hconvert]
  simp only [foldlM_convert_eq_ok_iff, ← hQ, ← h.exists_ok_iff hinit]
  constructor
  · rintro ⟨s, xs, hxs, hs⟩
    exact ⟨xs, hxs, s, hs⟩
  · rintro ⟨xs, hxs, s, hs⟩
    exact ⟨s, xs, hxs, hs⟩

end Converted

/-- Prefixes of the numbers of a list. -/
theorem forall_prefix_map_iff {α β : Type} {f : α → β} {P : List β → Prop} {l : List α} :
    (∀ p, p <+: l.map f → P p) ↔ ∀ p, p <+: l → P (p.map f) := by
  constructor
  · exact fun h p hp => h _ (hp.map f)
  · intro h p hp
    obtain ⟨q, hq, rfl⟩ := List.prefix_map_iff.mp hp
    exact h q hq

theorem sumsFit_iff {l : List Int32} : SumsFit l ↔ ∀ p, p <+: values l → FitsInt p.sum :=
  (forall_prefix_map_iff (f := Int32.toInt) (P := fun p => FitsInt p.sum)).symm

/-- What it takes a sequencer. -/
theorem sequencer_goes_iff {nExposures exposureTime : Int32} {es : List Exposure} :
    (∃ s, es.foldlM (Sequencer.register perMs exposureTime) (.new nExposures exposureTime) =
      .ok s) ↔
      (∀ e ∈ es, FitsInt (e.lasted perMs) ∧ FitsInt (e.lasted perMs - exposureTime.toInt)) ∧
        (∀ p, p <+: es → FitsInt (p.map fun e => e.lasted perMs - exposureTime.toInt).sum) ∧
        es.length < 2 ^ 31 := by
  have hconvert : ∀ e x, intertime perMs exposureTime e = .ok x ↔ _ :=
    fun e x => intertime_eq_ok_iff
  have hiff := registers_iff hconvert sequencer_steps (new_sequencerKept nExposures exposureTime)
    (fun v => (∀ p, p <+: v → FitsInt p.sum) ∧ v.length < 2 ^ 31)
    (fun xs => by rw [throughout_iff, sumsFit_iff, values, List.length_map]) es
  rw [forall_prefix_map_iff, List.length_map] at hiff
  exact hiff

/-- What it takes an intervalometer. -/
theorem intervalometer_goes_iff {interval : Int32} {new : IntervalometerStats}
    {es : List Exposure} :
    (∃ s, es.foldlM (Intervalometer.register perMs interval) new = .ok s) ↔
      (∀ e ∈ es, FitsInt (-e.late perMs interval) ∧ FitsInt (e.late perMs interval)) ∧
        ∀ p, p <+: es → p ≠ [] →
          FitsInt (new.totalDelay.toInt + (p.map (·.late perMs interval)).sum) ∧
          FitsInt (new.exposuresCount.toInt + p.length) ∧
          FitsInt (new.delayedExposuresCount.toInt + p.countP (0 < ·.late perMs interval)) := by
  have hconvert : ∀ e x, delay perMs interval e = .ok x ↔ _ := fun e x => delay_eq_ok_iff
  have hiff := registers_iff hconvert (intervalometer_steps new)
    (new_intervalometerKept new)
    (fun v => ∀ p, p <+: v → p ≠ [] → FitsInt (new.totalDelay.toInt + p.sum) ∧
      FitsInt (new.exposuresCount.toInt + p.length) ∧
      FitsInt (new.delayedExposuresCount.toInt + p.countP (0 < ·)))
    (fun xs => by
      rw [values, forall_prefix_map_iff]
      simp only [Throughout, ne_eq, List.map_eq_nil_iff, List.length_map, values]) es
  rw [forall_prefix_map_iff] at hiff
  simp only [ne_eq, List.map_eq_nil_iff, List.length_map, List.countP_map] at hiff
  exact hiff

/-! ## In range -/

theorem sequencer_inRange_iff {nExposures exposureTime : Int32} {es : List Exposure}
    (hlength : es.length < 2 ^ 31) :
    (∃ s, es.foldlM (Sequencer.register perMs exposureTime) (.new nExposures exposureTime) =
      .ok s) ↔ SequencerInRange perMs exposureTime es := by
  rw [sequencer_goes_iff]
  constructor
  · rintro ⟨hfits, htotal, -⟩
    exact ⟨fun e he => (hfits e he).1, fun e he => (hfits e he).2, htotal⟩
  · rintro ⟨hduration, hintertime, htotal⟩
    exact ⟨fun e he => ⟨hduration e he, hintertime e he⟩, htotal, hlength⟩

/-- What remains of an interval is cast, and then its sign is changed. -/
theorem delay_fits_iff {late : Int} :
    FitsInt (-late) ∧ FitsInt late ↔ -2 ^ 31 < late ∧ late < 2 ^ 31 := by
  unfold FitsInt
  omega

theorem intervalometer_inRange_iff {interval : Int32} {new : IntervalometerStats}
    {es : List Exposure} :
    (∃ s, es.foldlM (Intervalometer.register perMs interval) new = .ok s) ↔
      IntervalometerInRange perMs interval new es := by
  have htotal := fitsInt_toInt new.totalDelay
  have hcount := fitsInt_toInt new.exposuresCount
  have hdelayed := fitsInt_toInt new.delayedExposuresCount
  simp only [intervalometer_goes_iff, delay_fits_iff]
  constructor
  · rintro ⟨hdelay, hsums⟩
    by_cases hne : es = []
    · subst hne
      refine ⟨hdelay, fun p hp => ?_, ?_, ?_⟩
      · rw [List.prefix_nil.mp hp]
        simpa using htotal
      · simpa using hcount.2
      · simpa using hdelayed.2
    · obtain ⟨-, hc, hd⟩ := hsums es (List.prefix_refl es) hne
      refine ⟨hdelay, fun p hp => ?_, hc.2, hd.2⟩
      by_cases hp' : p = []
      · rw [hp']
        simpa using htotal
      · exact (hsums p hp hp').1
  · rintro ⟨hdelay, hsums, hc, hd⟩
    refine ⟨hdelay, fun p hp _ => ⟨hsums p hp, ?_, ?_⟩⟩
    · have hle := hp.length_le
      unfold FitsInt at hcount ⊢
      omega
    · have hle := hp.sublist.countP_le (p := fun e => decide (0 < e.late perMs interval))
      unfold FitsInt at hdelayed ⊢
      omega

/-! ## Every run -/

/-- The shots counted that are still to be registered. -/
def RunPc.pending : RunPc → Nat
  | enter | capture _ _ | register => 1
  | _ => 0

/-- What a run keeps of what it computes with. -/
structure NumbersKept (s : TimedRun) (events : List NumberEvent) : Prop where
  counted : events.count .counts = s.shots
  exposed : (exposures events).length + s.pc.pending ≤ s.shots

theorem beginRun_numbersKept (c : Setup) (clock : Int) : NumbersKept (beginRun c clock) [] :=
  ⟨rfl, Nat.le_refl 0⟩

/-- A step that computes nothing. -/
theorem NumbersKept.stay {s t : TimedRun} {events : List NumberEvent} (h : NumbersKept s events)
    (hshots : t.shots = s.shots) (hpending : t.pc.pending ≤ s.pc.pending) :
    NumbersKept t (events ++ []) := by
  rw [List.append_nil]
  refine ⟨h.counted.trans hshots.symm, ?_⟩
  rw [hshots]
  exact Nat.le_trans (Nat.add_le_add_left hpending _) h.exposed

/-- **Every step** keeps that. -/
theorem clockedStep_numbersKept {s t : TimedRun} {a : ClockedAction} {events : List NumberEvent}
    (hs : NumbersKept s events) (h : clockedStep perMs s a = some t) :
    NumbersKept t (events ++ numberEvent s a) := by
  rcases a with a | clock
  · cases a with
    | tick | abort | setDownload =>
      cases h
      exact hs.stay rfl (Nat.le_refl _)
    | step ans =>
      obtain ⟨f, shots, pc, hmoves, -, rfl⟩ := timedStep_moves h
      obtain ⟨g, n, pc₀, clock, deadline, starts⟩ := s
      obtain ⟨hcounted, hexposed⟩ := id hs
      simp only at hmoves
      cases hmoves with
      | goesOn hgoes =>
        simp only [numberEvent, hgoes, if_true]
        refine ⟨by simpa using hcounted, ?_⟩
        rw [exposures_concat_counts]
        exact Nat.succ_le_succ hexposed
      | leaves hends =>
        simp only [numberEvent, hends]
        exact hs.stay rfl (Nat.le_refl _)
      | enters | captures | captured => exact hs.stay rfl (Nat.le_refl _)
      | fails => exact hs.stay rfl (Nat.zero_le _)
      | registers =>
        refine ⟨by simpa [numberEvent] using hcounted, ?_⟩
        simp only [numberEvent, exposures_concat_exposes, List.length_append, List.length_singleton]
        cases g.id <;> exact hexposed
      | waits => cases f.abortCond <;> exact hs.stay rfl (Nat.zero_le _)
      | wakes timeout => cases timeout <;> exact hs.stay rfl (Nat.zero_le _)
      | finishes | exits => exact hs.stay rfl (Nat.zero_le _)
  · cases h
    exact hs.stay rfl (Nat.le_refl _)

theorem numbersKept_of_reachable {c : Setup} {clock : Int} {r : TimedRun × List NumberEvent}
    (h : Reachable (recording (clockedStep perMs) numberEvent) (beginRun c clock, []) r) :
    NumbersKept r.1 r.2 := by
  obtain ⟨as, has⟩ := h
  exact run_recording clockedStep_numbersKept (beginRun_numbersKept c clock) has

/-- **When no `int` of a run leaves its range**: as long as the shots, the captures of a
sequencer, or the delays of an intervalometer, are in range. -/
theorem noFault_iff {c : Setup} {clock : Int} {r : TimedRun × List NumberEvent}
    (h : Reachable (recording (clockedStep perMs) numberEvent) (beginRun c clock, []) r)
    (new : IntervalometerStats) :
    NoFault perMs c new r.2 ↔ InRange perMs c new r.1.shots (exposures r.2) := by
  obtain ⟨hcounted, hexposed⟩ := numbersKept_of_reachable h
  unfold NoFault InRange
  cases c.id with
  | sequencer =>
    simp only [exists_compute_iff, hcounted, fitsInt_length_iff]
    refine and_congr_right fun hshots => sequencer_inRange_iff ?_
    omega
  | intervalometer =>
    simp only [exists_compute_iff, hcounted, fitsInt_length_iff]
    exact and_congr_right fun _ => intervalometer_inRange_iff

theorem run_numbers_oneShot :
    run (recording (clockedStep 1) numberEvent) (beginRun oneShotSetup 0, [])
        ((oneShot true).map .timed) = some (afterOneShot true, [.counts, .exposes ⟨0, 3⟩]) := by
  decide

theorem noFault_oneShot :
    NoFault 1 oneShotSetup ⟨0, 0, 0, 0⟩ [.counts, .exposes ⟨0, 3⟩] := by
  refine (noFault_iff ⟨(oneShot true).map .timed, run_numbers_oneShot⟩ _).mpr ⟨by decide, ?_⟩
  refine ⟨by decide, by decide, fun p hp => ?_⟩
  rcases List.prefix_cons_iff.mp hp with rfl | ⟨q, rfl, hq⟩
  · decide
  · rw [List.prefix_nil.mp hq]
    decide

/-- A sequencer that is told to expose for less than no time: what a capture took longer
is not an `int`. -/
def negativeSetup : Setup := ⟨.sequencer, 1, 0, -2147483648, false⟩

theorem run_negative :
    run (recording (clockedStep 1) numberEvent) (beginRun negativeSetup 0, [])
        ((oneShot true).map .timed) =
      some ({ afterOneShot true with function := { CameraFunction.new negativeSetup with
        started := true
        finished := true
        exposuresCount := 1 } }, [.counts, .exposes ⟨0, 3⟩]) := by
  decide

theorem not_noFault_negative :
    ¬ ∀ (perMs : Int) (c : Setup) (clock : Int) (new : IntervalometerStats)
      (r : TimedRun × List NumberEvent), 0 < perMs →
        Reachable (recording (clockedStep perMs) numberEvent) (beginRun c clock, []) r →
          (∀ e ∈ exposures r.2, FitsInt (e.lasted perMs)) → NoFault perMs c new r.2 := by
  intro h
  have hfault := h 1 negativeSetup 0 ⟨0, 0, 0, 0⟩ _ (by decide)
    ⟨(oneShot true).map .timed, run_negative⟩ (by decide)
  obtain ⟨-, hgoes⟩ := (exists_compute_iff _).mp hfault
  obtain ⟨hfits, -⟩ := sequencer_goes_iff.mp hgoes
  exact absurd (hfits ⟨0, 3⟩ (by simp [exposures])).2 (by decide)

end CameraController
