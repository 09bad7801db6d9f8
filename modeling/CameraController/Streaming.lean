import Mathlib.Data.List.Forall2

/-! # Stream transducers

A transducer reads a stream one element at a time and emits a list of outputs for
each.  Reading is compositional (`feed_append`), so how a stream is cut into
chunks is invisible to whoever reads it this way: it is what a bulk
implementation is compared with.

The outputs may be handed to a consumer that can fail, in the order they come
(`deliver`); a failure then stops everything after it, whichever way the stream
was cut (`deliver_append`). -/
namespace Streaming

variable {σ α ω ε β : Type}

/-- Read a stream: the state afterwards and everything emitted. -/
def feed (step : σ → α → σ × List ω) : σ → List α → σ × List ω
  | s, [] => (s, [])
  | s, a :: l =>
    ((feed step (step s a).1 l).1, (step s a).2 ++ (feed step (step s a).1 l).2)

variable (step : σ → α → σ × List ω)

@[simp] theorem feed_nil (s : σ) : feed step s [] = (s, []) := rfl

theorem feed_cons (s : σ) (a : α) (l : List α) :
    feed step s (a :: l) =
      ((feed step (step s a).1 l).1, (step s a).2 ++ (feed step (step s a).1 l).2) := rfl

/-- Reading two streams one after the other is reading their concatenation. -/
theorem feed_append (s : σ) (l m : List α) :
    feed step s (l ++ m) =
      ((feed step (feed step s l).1 m).1,
        (feed step s l).2 ++ (feed step (feed step s l).1 m).2) := by
  induction l generalizing s with
  | nil => rfl
  | cons a l ih => rw [List.cons_append, feed_cons, feed_cons, ih, List.append_assoc]

/-- What holds of the state and is kept by every element is kept by a stream. -/
theorem feed_invariant {P : σ → Prop} (hstep : ∀ s a, P s → P (step s a).1) {s : σ} (hs : P s)
    (l : List α) : P (feed step s l).1 := by
  induction l generalizing s with
  | nil => exact hs
  | cons a l ih => exact ih (hstep s a hs)

/-- What holds of everything a state with an invariant emits holds of everything
emitted on a stream. -/
theorem feed_forall {P : σ → Prop} {Q : ω → Prop} (hstep : ∀ s a, P s → P (step s a).1)
    (hemit : ∀ s a, P s → ∀ w ∈ (step s a).2, Q w) {s : σ} (hs : P s) (l : List α) :
    ∀ w ∈ (feed step s l).2, Q w := by
  induction l generalizing s with
  | nil => simp
  | cons a l ih =>
    rw [feed_cons, List.forall_mem_append]
    exact ⟨hemit s a hs, ih (hstep s a hs)⟩

/-- States that emit the same and stay related emit the same on a stream. -/
theorem feed_congr {R : σ → σ → Prop}
    (hstep : ∀ s t a, R s t → (step s a).2 = (step t a).2 ∧ R (step s a).1 (step t a).1)
    {s t : σ} (h : R s t) (l : List α) : (feed step s l).2 = (feed step t l).2 := by
  induction l generalizing s t with
  | nil => rfl
  | cons a l ih =>
    obtain ⟨hout, hnext⟩ := hstep s t a h
    rw [feed_cons, feed_cons, hout, ih hnext]

/-- `P` holds of every state on the way, the first and the last included. -/
def Throughout (P : σ → Prop) : σ → List α → Prop
  | s, [] => P s
  | s, a :: l => P s ∧ Throughout P (step s a).1 l

theorem Throughout.head {P : σ → Prop} {s : σ} {l : List α} (h : Throughout step P s l) :
    P s := by
  cases l with
  | nil => exact h
  | cons a l => exact h.1

/-- What holds all along a stream holds all along both its parts. -/
theorem throughout_append {P : σ → Prop} (s : σ) (l m : List α) :
    Throughout step P s (l ++ m) ↔
      Throughout step P s l ∧ Throughout step P (feed step s l).1 m := by
  induction l generalizing s with
  | nil => exact ⟨fun h => ⟨h.head, h⟩, And.right⟩
  | cons a l ih =>
    rw [List.cons_append, Throughout, Throughout, feed_cons, ih, and_assoc]

theorem Throughout.last {P : σ → Prop} {s : σ} {l : List α} (h : Throughout step P s l) :
    P (feed step s l).1 := by
  rw [← List.append_nil l, throughout_append] at h
  exact h.2

/-! ## Delivering what is emitted -/

/-- Hand the outputs to `handler` in order and collect its answers. -/
def deliver (handler : ω → Except ε β) (r : σ × List ω) : Except ε (σ × List β) :=
  (r.2.mapM handler).map fun answers => (r.1, answers)

variable (handler : ω → Except ε β)

/-- Outputs that are all answered have their answers in a list. -/
theorem exists_forall₂_iff {R : ω → β → Prop} {l : List ω} :
    (∃ answers, List.Forall₂ R l answers) ↔ ∀ w ∈ l, ∃ b, R w b := by
  induction l with
  | nil => simp
  | cons w l ih =>
    rw [List.forall_mem_cons, ← ih]
    constructor
    · rintro ⟨_, hl⟩
      cases hl with
      | cons hb hl => exact ⟨⟨_, hb⟩, _, hl⟩
    · rintro ⟨⟨b, hb⟩, answers, hl⟩
      exact ⟨b :: answers, .cons hb hl⟩

theorem mapM_eq_ok_iff {l : List ω} {answers : List β} :
    l.mapM handler = .ok answers ↔
      List.Forall₂ (fun w b => handler w = .ok b) l answers := by
  induction l generalizing answers with
  | nil => simp [pure, Except.pure, eq_comm]
  | cons w l ih =>
    rw [List.mapM_cons, List.forall₂_cons_left_iff]
    cases hw : handler w with
    | error e => simp [bind, Except.bind]
    | ok b =>
      cases hl : l.mapM handler with
      | error e => simp [hl, bind, Except.bind, ← ih]
      | ok rest => simp [hl, bind, Except.bind, pure, Except.pure, ← ih, eq_comm]

/-- **Delivery returns exactly when every output is answered**, and leaves the
state as it is. -/
theorem deliver_eq_ok_iff {r : σ × List ω} {v : σ × List β} :
    deliver handler r = .ok v ↔
      v.1 = r.1 ∧ List.Forall₂ (fun w b => handler w = .ok b) r.2 v.2 := by
  rw [← mapM_eq_ok_iff, deliver]
  cases r.2.mapM handler with
  | error e => simp [Except.map]
  | ok answers =>
    obtain ⟨s, l⟩ := v
    simp [Except.map, eq_comm]

theorem deliver_singleton (s : σ) (w : ω) :
    deliver handler (s, [w]) = (handler w).map fun b => (s, [b]) := by
  simp only [deliver, List.mapM_cons, List.mapM_nil]
  cases handler w <;> rfl

/-- Delivering a concatenation delivers its first part, then its second. -/
theorem deliver_append (s t : σ) (x y : List ω) :
    deliver handler (t, x ++ y) =
      (deliver handler (s, x)).bind fun r =>
        (deliver handler (t, y)).map fun r' => (r'.1, r.2 ++ r'.2) := by
  simp only [deliver, List.mapM_append, Except.map, Except.bind, bind]
  cases List.mapM handler x with
  | error e => rfl
  | ok a => cases List.mapM handler y <;> rfl

/-- A consumer that cannot fail answers every output. -/
theorem deliver_ok (h : ω → β) (r : σ × List ω) :
    deliver (ε := ε) (fun w => .ok (h w)) r = .ok (r.1, r.2.map h) := by
  obtain ⟨s, l⟩ := r
  have hmap : List.mapM (m := Except ε) (fun w => .ok (h w)) l = .ok (l.map h) := by
    induction l with
    | nil => rfl
    | cons w l ih => simp [List.mapM_cons, ih, bind, Except.bind, pure, Except.pure]
  simp [deliver, hmap, Except.map]

end Streaming
