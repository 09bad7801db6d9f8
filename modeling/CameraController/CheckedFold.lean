import Mathlib.Data.List.Induction
import Mathlib.Data.List.Infix
import Mathlib.Data.List.Forall2

/-! # Folds whose steps can fail

A fold over a list goes through when each of its steps does.  `Steps` describes one
step by what has been fed so far: `C` says when it goes through, `R` what the state
is then.  `Steps.exists_iff` says both of the whole fold. -/
namespace CheckedFold

variable {α σ ε : Type}

/-- `C` holds of what has been fed, behind every element. -/
def Throughout (C : List α → Prop) (l : List α) : Prop := ∀ p, p <+: l → p ≠ [] → C p

theorem throughout_nil (C : List α → Prop) : Throughout C [] := by
  intro p hp hne
  exact absurd (List.prefix_nil.mp hp) hne

theorem Throughout.of_prefix {C : List α → Prop} {l p : List α} (h : Throughout C l)
    (hp : p <+: l) : Throughout C p :=
  fun q hq => h q (hq.trans hp)

/-- What a list passes on to its prefixes holds throughout if it holds of all of it. -/
theorem throughout_iff_of_prefix {C : List α → Prop} (hnil : C [])
    (hC : ∀ {l p : List α}, p <+: l → C l → C p) {l : List α} : Throughout C l ↔ C l := by
  constructor
  · intro h
    by_cases hl : l = []
    · rw [hl]
      exact hnil
    · exact h l (List.prefix_refl l) hl
  · exact fun h p hp _ => hC hp h

theorem throughout_concat {C : List α → Prop} {l : List α} {x : α} :
    Throughout C (l ++ [x]) ↔ Throughout C l ∧ C (l ++ [x]) := by
  constructor
  · intro h
    exact ⟨h.of_prefix (List.prefix_append l [x]), h _ (List.prefix_refl _) (by simp)⟩
  · rintro ⟨hl, hlast⟩ p hp hne
    rcases List.prefix_concat_iff.mp hp with rfl | hp
    · exact hlast
    · exact hl p hp hne

/-- What comes first goes through. -/
theorem bind_eq_ok_iff {e : Except ε α} {f : α → Except ε σ} {s : σ} :
    (e >>= f) = .ok s ↔ ∃ a, e = .ok a ∧ f a = .ok s := by
  cases e with
  | error e =>
    constructor
    · intro h
      cases h
    · rintro ⟨a, ha, -⟩
      cases ha
  | ok a =>
    constructor
    · exact fun h => ⟨a, rfl, h⟩
    · rintro ⟨b, hb, h⟩
      cases hb
      exact h

theorem foldlM_concat_eq_ok_iff {step : σ → α → Except ε σ} {init t : σ} {l : List α} {x : α} :
    (l ++ [x]).foldlM step init = .ok t ↔
      ∃ s, l.foldlM step init = .ok s ∧ step s x = .ok t := by
  rw [List.foldlM_append, bind_eq_ok_iff]
  simp only [List.foldlM_cons, List.foldlM_nil, bind_pure]

theorem foldlM_ok_of_prefix {step : σ → α → Except ε σ} {init t : σ} {l p : List α}
    (hp : p <+: l) (h : l.foldlM step init = .ok t) : ∃ s, p.foldlM step init = .ok s := by
  obtain ⟨q, rfl⟩ := hp
  rw [List.foldlM_append, bind_eq_ok_iff] at h
  obtain ⟨s, hs, -⟩ := h
  exact ⟨s, hs⟩

/-- **Elements that are converted before they are fed** are a list to be fed. -/
theorem foldlM_convert_eq_ok_iff {β : Type} {convert : β → Except ε α}
    {step : σ → α → Except ε σ} {init t : σ} {l : List β} :
    l.foldlM (fun s b => convert b >>= step s) init = .ok t ↔
      ∃ xs, List.Forall₂ (fun b x => convert b = .ok x) l xs ∧ xs.foldlM step init = .ok t := by
  induction l generalizing init with
  | nil => simp
  | cons b l ih =>
    simp only [List.foldlM_cons, bind_eq_ok_iff, ih, List.forall₂_cons_left_iff]
    constructor
    · rintro ⟨s, ⟨x, hx, hs⟩, xs, hxs, ht⟩
      exact ⟨x :: xs, ⟨x, xs, hx, hxs, rfl⟩, bind_eq_ok_iff.mpr ⟨s, hs, ht⟩⟩
    · rintro ⟨-, ⟨x, xs, hx, hxs, rfl⟩, ht⟩
      obtain ⟨s, hs, ht⟩ := bind_eq_ok_iff.mp ht
      exact ⟨s, ⟨x, hx, hs⟩, xs, hxs, ht⟩

/-- What a step does to a state that fits what has been fed. -/
structure Steps (step : σ → α → Except ε σ) (R : List α → σ → Prop) (C : List α → Prop) : Prop where
  goes_iff {l : List α} {s : σ} (x : α) (hs : R l s) : (∃ t, step s x = .ok t) ↔ C (l ++ [x])
  keeps {l : List α} {s t : σ} (x : α) (hs : R l s) (h : step s x = .ok t) : R (l ++ [x]) t

namespace Steps

variable {step : σ → α → Except ε σ} {R : List α → σ → Prop} {C : List α → Prop}
  (h : Steps step R C) {init : σ} (hinit : R [] init)
include h hinit

/-- **What a fold leads to** fits the list. -/
theorem result {l : List α} {s : σ} (hs : l.foldlM step init = .ok s) : R l s := by
  induction l using List.reverseRecOn generalizing s with
  | nil => exact Except.ok.inj hs ▸ hinit
  | append_singleton l x ih =>
    obtain ⟨u, hu, hx⟩ := foldlM_concat_eq_ok_iff.mp hs
    exact h.keeps x (ih hu) hx

/-- **When a fold goes through**: its condition holds throughout. -/
theorem exists_ok_iff (l : List α) :
    (∃ s, l.foldlM step init = .ok s) ↔ Throughout C l := by
  induction l using List.reverseRecOn with
  | nil => exact iff_of_true ⟨init, rfl⟩ (throughout_nil C)
  | append_singleton l x ih =>
    rw [throughout_concat, ← ih]
    constructor
    · rintro ⟨t, ht⟩
      obtain ⟨s, hs, hx⟩ := foldlM_concat_eq_ok_iff.mp ht
      exact ⟨⟨s, hs⟩, (h.goes_iff x (h.result hinit hs)).mp ⟨t, hx⟩⟩
    · rintro ⟨⟨s, hs⟩, hC⟩
      obtain ⟨t, ht⟩ := (h.goes_iff x (h.result hinit hs)).mpr hC
      exact ⟨t, foldlM_concat_eq_ok_iff.mpr ⟨s, hs, ht⟩⟩

/-- It goes through with a result in `Q` exactly when the condition holds throughout
and `q` does, if that is what `Q` means of a state that fits the list. -/
theorem exists_iff {l : List α} {Q : σ → Prop} {q : Prop} (hQ : ∀ {s}, R l s → (Q s ↔ q)) :
    (∃ s, l.foldlM step init = .ok s ∧ Q s) ↔ Throughout C l ∧ q := by
  rw [← h.exists_ok_iff hinit]
  constructor
  · rintro ⟨s, hs, hq⟩
    exact ⟨⟨s, hs⟩, (hQ (h.result hinit hs)).mp hq⟩
  · rintro ⟨⟨s, hs⟩, hq⟩
    exact ⟨s, hs, (hQ (h.result hinit hs)).mpr hq⟩

end Steps

end CheckedFold
