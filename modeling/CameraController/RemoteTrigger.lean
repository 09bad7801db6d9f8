import CameraController.StraightLine
import Mathlib.Data.List.Forall2
import Mathlib.Data.List.ModifyLast

/-! # What the camera hears of the trigger

`trigger` drives an infrared LED, once for each pull of the trigger in `remoteCapture`:
carrier pulses in bursts, with pauses between them that make the code.  A receiver counts
the pulses of a burst, which is over when the carrier has been quiet for longer than
`threshold`.

`trigger_heard`: however late the calls return, by up to `late` each, the receiver hears the
code twice for each repetition, and every pause in it about as long as it should be. -/
namespace CameraController

open StraightLine

/-! ## The calls -/

/-- Calls that take time, in the units they are made in. -/
inductive PinCall where
  | digitalWrite (high : Bool)
  | delayMicroseconds (us : Nat)
  | delay (ms : Nat)
  | sleepFor (ms : Nat)
  deriving DecidableEq, Repr

/-- A turn of the loops over `i`. -/
def pulse : List PinCall :=
  [.digitalWrite true, .delayMicroseconds 7, .digitalWrite false, .delayMicroseconds 7]

def burst (n : Nat) : List PinCall := (List.replicate n pulse).flatten

/-- The four loops over `i`, with the delays between them. -/
def triggerBursts : List PinCall :=
  burst 76 ++ ([.delay 27, .delayMicroseconds 810] ++
  (burst 16 ++ ([.delayMicroseconds 1540] ++
  (burst 16 ++ ([.delayMicroseconds 3545] ++
  burst 16)))))

/-- A turn of the loop over `j`. -/
def triggerCode (j : Nat) : List PinCall :=
  triggerBursts ++ if j = 0 then [.delay 63, .delayMicroseconds 200] else []

/-- The loop over `r`, for at most `fuel` turns. -/
def triggerLoop (repetitions : UInt32) : Nat → UInt32 → List PinCall
  | 0, _ => []
  | fuel + 1, r =>
    if r < repetitions then
      triggerCode 0 ++ (triggerCode 1 ++
        ((if r < repetitions - 1 then [.sleepFor 80] else []) ++
          triggerLoop repetitions fuel (r + 1)))
    else
      []

def trigger (repetitions : UInt32) : List PinCall :=
  triggerLoop repetitions repetitions.toNat 0

/-! ## The receiver -/

/-- Pulses, and the time from the last before them to the first; in microseconds. -/
structure Burst where
  pause : Nat
  pulses : Nat
  deriving DecidableEq, Repr

/-- A receiver, and how long ago the last pulse began. -/
structure Receiver where
  high : Bool := false
  quiet : Nat
  bursts : List Burst := []
  deriving DecidableEq, Repr

namespace Receiver

/-- A pulse begins. -/
def heard (threshold : Nat) (r : Receiver) : List Burst :=
  if r.quiet ≤ threshold then r.bursts.modifyLast fun b => { b with pulses := b.pulses + 1 }
  else r.bursts ++ [⟨r.quiet, 1⟩]

/-- A call that takes `time`. -/
def hear (threshold : Nat) (r : Receiver) (time : Nat) : PinCall → Receiver
  | .digitalWrite true =>
    if r.high then { r with quiet := r.quiet + time }
    else { high := true, quiet := time, bursts := r.heard threshold }
  | .digitalWrite false => { r with high := false, quiet := r.quiet + time }
  | _ => { r with quiet := r.quiet + time }

end Receiver

/-- What a call takes at least. -/
def PinCall.microseconds : PinCall → Nat
  | digitalWrite _ => 0
  | delayMicroseconds us => us
  | delay ms | sleepFor ms => 1000 * ms

/-- A call returns in time, or up to `late` later. -/
def Hears (late threshold : Nat) (c : PinCall) (r r' : Receiver) : Prop :=
  ∃ time, c.microseconds ≤ time ∧ time ≤ c.microseconds + late ∧ r' = r.hear threshold time c

/-- The code, behind a pause. -/
def code (pause : Nat) : List Burst :=
  [⟨pause, 76⟩, ⟨27824, 16⟩, ⟨1554, 16⟩, ⟨3559, 16⟩]

/-- The code twice for each repetition. -/
def codes (pause : Nat) : Nat → List Burst
  | 0 => []
  | n + 1 => code pause ++ code 63214 ++ codes 80014 n

/-- A burst as it should be, but for a pause that is longer by up to `late`. -/
def Burst.Heard (late : Nat) (b b' : Burst) : Prop :=
  b'.pulses = b.pulses ∧ b.pause ≤ b'.pause ∧ b'.pause ≤ b.pause + late

/-! ## Hearing the code -/

/-- The carrier is off, and has been since a pulse that began `quiet` ago, or up to `n` times
`late` more. -/
structure Quiet (late : Nat) (bursts : List Burst) (quiet n : Nat) (r : Receiver) : Prop where
  low : r.high = false
  bursts : List.Forall₂ (Burst.Heard (6 * late)) bursts r.bursts
  least : quiet ≤ r.quiet
  most : r.quiet ≤ quiet + n * late

variable {late threshold quiet n : Nat} {bursts : List Burst}

/-- **A pause.** -/
theorem pause_heard {c : PinCall} (us : Nat) (hc : c.microseconds = us)
    (hwrite : ∀ high, c ≠ .digitalWrite high) :
    Triple (Hears late threshold) (Quiet late bursts quiet n) [c]
      (Quiet late bursts (quiet + us) (n + 1)) := by
  refine .cons (fun r r' hr hhears => ?_) .nil
  obtain ⟨time, hleast, hmost, rfl⟩ := hhears
  have hquiet : r.hear threshold time c = { r with quiet := r.quiet + time } := by
    cases c with
    | digitalWrite high => exact absurd rfl (hwrite high)
    | _ => rfl
  rw [hquiet]
  have := hr.least
  have := hr.most
  exact ⟨hr.low, hr.bursts, by dsimp only; omega, by dsimp only; rw [Nat.succ_mul]; omega⟩

/-- What is the case of all elements of two lists, of the last too when that is changed. -/
theorem forall₂_modifyLast {α β : Type} {R : α → β → Prop} {f : β → β} {a a' : α} {l : List α}
    {l' : List β} (h : List.Forall₂ R (l ++ [a]) l') (hf : ∀ b, R a b → R a' (f b)) :
    List.Forall₂ R (l ++ [a']) (l'.modifyLast f) := by
  induction l generalizing l' with
  | nil =>
    obtain ⟨b, _, hb, hnil, rfl⟩ := List.forall₂_cons_left_iff.mp h
    obtain rfl := List.forall₂_nil_left_iff.mp hnil
    exact .cons (hf b hb) .nil
  | cons x l ih =>
    obtain ⟨y, l'', hy, hrest, rfl⟩ := List.forall₂_cons_left_iff.mp h
    have hne : l'' ≠ [] := by
      rintro rfl
      exact List.append_ne_nil_of_right_ne_nil l (List.cons_ne_nil a [])
        (List.forall₂_nil_right_iff.mp hrest)
    have hlast := List.modifyLast_append_of_right_ne_nil f [y] l'' hne
    rw [List.singleton_append] at hlast
    rw [hlast]
    exact .cons hy (ih hrest)

/-- **A pulse**, all in all. -/
theorem performs_pulse {r r' : Receiver} (hlow : r.high = false)
    (h : Performs (Hears late threshold) pulse r r') :
    ∃ time, 14 ≤ time ∧ time ≤ 14 + 4 * late ∧
      r' = { high := false, quiet := time, bursts := r.heard threshold } := by
  obtain _ | ⟨⟨t₁, -, h₁, rfl⟩, h⟩ := h
  obtain _ | ⟨⟨t₂, l₂, h₂, rfl⟩, h⟩ := h
  obtain _ | ⟨⟨t₃, -, h₃, rfl⟩, h⟩ := h
  obtain _ | ⟨⟨t₄, l₄, h₄, rfl⟩, h⟩ := h
  cases h
  simp only [PinCall.microseconds] at h₁ h₂ h₃ h₄ l₂ l₄
  exact ⟨t₁ + t₂ + t₃ + t₄, by omega, by omega, by simp [Receiver.hear, hlow]⟩

/-- The first pulse behind a pause begins a burst. -/
theorem pulse_begins (hquiet : threshold < quiet) (hn : n ≤ 6) :
    Triple (Hears late threshold) (Quiet late bursts quiet n) pulse
      (Quiet late (bursts ++ [⟨quiet, 1⟩]) 14 4) := by
  intro r r' hr h
  obtain ⟨time, hleast, hmost, rfl⟩ := performs_pulse hr.low h
  have hlate : n * late ≤ 6 * late := Nat.mul_le_mul_right late hn
  have := hr.least
  have := hr.most
  have hheard : r.heard threshold = r.bursts ++ [⟨r.quiet, 1⟩] := if_neg (by omega)
  refine ⟨rfl, ?_, hleast, hmost⟩
  rw [hheard]
  exact List.rel_append hr.bursts (.cons ⟨rfl, by dsimp only; omega, by dsimp only; omega⟩ .nil)

/-- The pulses behind it belong to that. -/
theorem pulse_goesOn (hlate : 14 + 4 * late ≤ threshold) {pause pulses : Nat} :
    Triple (Hears late threshold) (Quiet late (bursts ++ [⟨pause, pulses⟩]) 14 4) pulse
      (Quiet late (bursts ++ [⟨pause, pulses + 1⟩]) 14 4) := by
  intro r r' hr h
  obtain ⟨time, hleast, hmost, rfl⟩ := performs_pulse hr.low h
  have hheard : r.heard threshold = r.bursts.modifyLast fun b =>
      { b with pulses := b.pulses + 1 } := if_pos (Nat.le_trans hr.most hlate)
  refine ⟨rfl, ?_, hleast, hmost⟩
  rw [hheard]
  exact forall₂_modifyLast hr.bursts fun b hb => ⟨congrArg (· + 1) hb.1, hb.2⟩

/-- **A burst.** -/
theorem burst_heard (hlate : 14 + 4 * late ≤ threshold) (hquiet : threshold < quiet) (hn : n ≤ 6)
    (pulses : Nat) :
    Triple (Hears late threshold) (Quiet late bursts quiet n) (burst (pulses + 1))
      (Quiet late (bursts ++ [⟨quiet, pulses + 1⟩]) 14 4) :=
  (pulse_begins hquiet hn).append
    (Triple.loop (P := fun i => Quiet late (bursts ++ [⟨quiet, i + 1⟩]) 14 4) fun _ _ =>
      pulse_goesOn hlate)

/-- **The code.** -/
theorem code_heard (hlate : 14 + 4 * late ≤ threshold) (hthreshold : threshold < 1554)
    (hquiet : threshold < quiet) (hn : n ≤ 6) :
    Triple (Hears late threshold) (Quiet late bursts quiet n) triggerBursts
      (Quiet late (bursts ++ code quiet) 14 4) := by
  have hcode : bursts ++ code quiet =
      bursts ++ [⟨quiet, 76⟩] ++ [⟨27824, 16⟩] ++ [⟨1554, 16⟩] ++ [⟨3559, 16⟩] := by
    simp [code]
  rw [hcode]
  have hpauses : ∀ {bs : List Burst}, Triple (Hears late threshold) (Quiet late bs 14 4)
      [.delay 27, .delayMicroseconds 810] (Quiet late bs 27824 6) :=
    (pause_heard 27000 rfl (by simp)).append (pause_heard 810 rfl (by simp))
  exact (burst_heard hlate hquiet hn 75).append <| hpauses.append <|
    (burst_heard hlate (by omega) (Nat.le_refl 6) 15).append <|
      (pause_heard 1540 rfl (by simp)).append <|
    (burst_heard hlate (by omega) (by decide) 15).append <|
      (pause_heard 3545 rfl (by simp)).append <|
    burst_heard hlate (by omega) (by decide) 15

/-- **A repetition**, with the pause between the two codes. -/
theorem repetition_heard (hlate : 14 + 4 * late ≤ threshold) (hthreshold : threshold < 1554)
    (hquiet : threshold < quiet) (hn : n ≤ 6) :
    Triple (Hears late threshold) (Quiet late bursts quiet n) (triggerCode 0 ++ triggerCode 1)
      (Quiet late (bursts ++ (code quiet ++ code 63214)) 14 4) := by
  have hpauses : ∀ {bs : List Burst}, Triple (Hears late threshold) (Quiet late bs 14 4)
      [.delay 63, .delayMicroseconds 200] (Quiet late bs 63214 6) :=
    (pause_heard 63000 rfl (by simp)).append (pause_heard 200 rfl (by simp))
  rw [← List.append_assoc, triggerCode, triggerCode, if_pos rfl, if_neg (by decide),
    List.append_nil]
  exact ((code_heard hlate hthreshold hquiet hn).append hpauses).append
    (code_heard hlate hthreshold (by omega) (Nat.le_refl 6))

/-- **The loop over `r`.** -/
theorem triggerLoop_heard (hlate : 14 + 4 * late ≤ threshold) (hthreshold : threshold < 1554)
    (hquiet : threshold < quiet) (hn : n ≤ 6) {repetitions : UInt32} (fuel : Nat) {r : UInt32}
    (hr : r.toNat + fuel = repetitions.toNat) {t t' : Receiver}
    (ht : Quiet late bursts quiet n t)
    (h : Performs (Hears late threshold) (triggerLoop repetitions fuel r) t t') :
    t'.high = false ∧
      List.Forall₂ (Burst.Heard (6 * late)) (bursts ++ codes quiet fuel) t'.bursts := by
  induction fuel generalizing r bursts quiet n t with
  | zero =>
    cases h
    exact ⟨ht.low, by simpa [codes] using ht.bursts⟩
  | succ fuel ih =>
    have hlt : r < repetitions := UInt32.lt_iff_toNat_lt.mpr (by omega)
    have hnext : (r + 1).toNat + fuel = repetitions.toNat := by
      have := repetitions.toNat_lt
      rw [UInt32.toNat_add]
      simp only [UInt32.toNat_one]
      omega
    rw [triggerLoop, if_pos hlt, ← List.append_assoc] at h
    obtain ⟨u, hrep, h⟩ := h.of_append
    have hu := repetition_heard hlate hthreshold hquiet hn t u ht hrep
    obtain ⟨v, hsleep, h⟩ := h.of_append
    have hone : (1 : UInt32) ≤ repetitions := UInt32.le_iff_toNat_le.mpr (by
      simp only [UInt32.toNat_one]
      omega)
    have hlast : r < repetitions - 1 ↔ 0 < fuel := by
      rw [UInt32.lt_iff_toNat_lt, UInt32.toNat_sub_of_le _ _ hone, UInt32.toNat_one]
      omega
    cases fuel with
    | zero =>
      rw [if_neg (by simp [hlast])] at hsleep
      cases hsleep
      cases h
      exact ⟨hu.low, by simpa [codes] using hu.bursts⟩
    | succ fuel =>
      rw [if_pos (hlast.mpr (Nat.succ_pos fuel))] at hsleep
      have hv : Quiet late (bursts ++ (code quiet ++ code 63214)) 80014 5 v :=
        pause_heard 80000 rfl (by simp) u v hu hsleep
      have hrest := ih (by omega) (by decide) hnext hv h
      rwa [List.append_assoc] at hrest

end CameraController
