import Mathlib.Data.List.Basic

/-! # Programs without branches

A program is a list of instructions, each of which may take a state to several others.
`Triple step P as Q` says that a program ends with `Q` whenever it begins with `P`; there is
a rule for each way to put programs together, a loop of a fixed length among them. -/
namespace StraightLine

variable {α σ : Type} (step : α → σ → σ → Prop)

/-- Where a program can lead. -/
inductive Performs : List α → σ → σ → Prop
  | nil (s : σ) : Performs [] s s
  | cons {a : α} {as : List α} {s t u : σ} (h : step a s t) (hrest : Performs as t u) :
      Performs (a :: as) s u

def Triple (P : σ → Prop) (as : List α) (Q : σ → Prop) : Prop :=
  ∀ s t, P s → Performs step as s t → Q t

variable {step}

/-- A program whose instructions never get stuck leads somewhere. -/
theorem exists_performs (h : ∀ a s, ∃ t, step a s t) (as : List α) (s : σ) :
    ∃ t, Performs step as s t := by
  induction as generalizing s with
  | nil => exact ⟨s, .nil s⟩
  | cons a as ih =>
    obtain ⟨t, ht⟩ := h a s
    obtain ⟨u, hu⟩ := ih t
    exact ⟨u, .cons ht hu⟩

theorem Performs.of_append {as bs : List α} {s u : σ} (h : Performs step (as ++ bs) s u) :
    ∃ t, Performs step as s t ∧ Performs step bs t u := by
  induction as generalizing s with
  | nil => exact ⟨s, .nil s, h⟩
  | cons a as ih =>
    cases h with
    | cons hstep hrest =>
      obtain ⟨t, has, hbs⟩ := ih hrest
      exact ⟨t, .cons hstep has, hbs⟩

namespace Triple

variable {P Q R : σ → Prop} {a : α} {as bs : List α}

theorem nil : Triple step P [] P := by
  intro s t hs h
  cases h
  exact hs

theorem cons (h : ∀ s t, P s → step a s t → Q t) (h' : Triple step Q as R) :
    Triple step P (a :: as) R := by
  intro s u hs hperforms
  cases hperforms with
  | cons hstep hrest => exact h' _ _ (h _ _ hs hstep) hrest

theorem append (h : Triple step P as Q) (h' : Triple step Q bs R) :
    Triple step P (as ++ bs) R := by
  intro s u hs hperforms
  obtain ⟨t, has, hbs⟩ := hperforms.of_append
  exact h' t u (h s t hs has) hbs

/-- A loop of `n` turns: `P i` holds after the first `i`. -/
theorem loop {P : Nat → σ → Prop} {n : Nat} (h : ∀ i < n, Triple step (P i) as (P (i + 1))) :
    Triple step (P 0) (List.replicate n as).flatten (P n) := by
  induction n with
  | zero => exact nil
  | succ n ih =>
    rw [List.replicate_succ', List.flatten_append, List.flatten_singleton]
    exact (ih fun i hi => h i (Nat.lt_succ_of_lt hi)).append (h n (Nat.lt_succ_self n))

end Triple
end StraightLine
