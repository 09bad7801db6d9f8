import Mathlib.Logic.Function.Basic

/-! # A heap

Cells of one type, made by `new` and ended by `delete`.  No address is given out twice,
so an address that dangles stays dangling.  What the language leaves undefined is `none`:
to write to a cell that is not alive, or to delete one.

What a heap holds is a partial function on addresses (`read`), and every operation is an
update of it. -/

structure Heap (α : Type) where
  /-- The cells made so far, `none` once deleted. -/
  cells : List (Option α) := []
  deriving DecidableEq, Repr

namespace Heap

variable {α : Type} (h : Heap α) (p : Nat) (a : α)

/-- What is alive at an address. -/
def read : Option α := h.cells[p]?.join

/-- The address the next cell is given. -/
def next : Nat := h.cells.length

def new : Heap α := ⟨h.cells ++ [some a]⟩

def write : Option (Heap α) := if (h.read p).isSome then some ⟨h.cells.set p (some a)⟩ else none

def delete : Option (Heap α) := if (h.read p).isSome then some ⟨h.cells.set p none⟩ else none

/-- Nothing is alive. -/
def Empty : Prop := ∀ p, h.read p = none

/-- What is next is not alive yet. -/
theorem read_next : h.read h.next = none := by
  rw [read, next, List.getElem?_eq_none (Nat.le_refl _)]
  rfl

theorem next_new : (h.new a).next = h.next + 1 := List.length_append

theorem read_new : (h.new a).read = Function.update h.read h.next (some a) := by
  funext q
  unfold read new next
  rcases Nat.lt_trichotomy q h.cells.length with hq | rfl | hq
  · rw [Function.update_of_ne (Nat.ne_of_lt hq), List.getElem?_append_left hq]
  · rw [Function.update_self, List.getElem?_concat_length]
    rfl
  · rw [Function.update_of_ne (Nat.ne_of_gt hq), List.getElem?_eq_none (Nat.le_of_lt hq),
      List.getElem?_eq_none (by rw [List.length_append]; exact hq)]

variable {h p} {b : α}

theorem lt_length (hp : h.read p = some b) : p < h.cells.length := by
  by_contra hle
  rw [read, List.getElem?_eq_none (Nat.not_lt.mp hle)] at hp
  cases hp

/-- A cell that is alive was not made next. -/
theorem ne_next (hp : h.read p = some b) : p ≠ h.next := Nat.ne_of_lt (lt_length hp)

theorem read_set (hp : h.read p = some b) (c : Option α) :
    (⟨h.cells.set p c⟩ : Heap α).read = Function.update h.read p c := by
  funext q
  unfold read
  by_cases hq : q = p
  · obtain rfl := hq
    rw [Function.update_self, List.getElem?_set_self (lt_length hp)]
    rfl
  · rw [Function.update_of_ne hq, List.getElem?_set_ne (Ne.symm hq)]

/-- A cell that is alive can be written. -/
theorem exists_write (hp : h.read p = some b) (a : α) :
    ∃ h', h.write p a = some h' ∧ h'.read = Function.update h.read p (some a) ∧
      h'.next = h.next :=
  ⟨_, if_pos (by rw [hp]; rfl), read_set hp _, List.length_set⟩

/-- A cell that is alive can be deleted. -/
theorem exists_delete (hp : h.read p = some b) :
    ∃ h', h.delete p = some h' ∧ h'.read = Function.update h.read p none ∧ h'.next = h.next :=
  ⟨_, if_pos (by rw [hp]; rfl), read_set hp _, List.length_set⟩

/-! ## Updates -/

section Update
variable {f : Nat → Option α} {p q : Nat} {a x : α}

theorem update_some_iff :
    Function.update f p (some a) q = some x ↔ q = p ∧ x = a ∨ q ≠ p ∧ f q = some x := by
  by_cases hq : q = p
  · simp [hq, eq_comm]
  · simp [hq]

theorem update_none_iff : Function.update f p none q = some x ↔ q ≠ p ∧ f q = some x := by
  by_cases hq : q = p <;> simp [hq]

end Update

end Heap

/-! # Owners

Some cells own others: each owner names one part (`part`), which is alive as long as the
owner is, fits it, and has no other owner. -/

/-- **Each owner has its part, and each part one owner.** -/
structure Owns {α β : Type} (part : α → Nat) (Fits : α → β → Prop) (owners : Nat → Option α)
    (parts : Nat → Option β) : Prop where
  alive : ∀ {p a}, owners p = some a → ∃ b, parts (part a) = some b ∧ Fits a b
  single : ∀ {p q a b}, owners p = some a → owners q = some b → part a = part b → p = q
  owned : ∀ {r b}, parts r = some b → ∃ p a, owners p = some a ∧ part a = r

namespace Owns

open Function Heap

variable {α β : Type} {part : α → Nat} {Fits : α → β → Prop} {owners : Nat → Option α}
  {parts : Nat → Option β}

/-- An owner with its part. -/
def whole (part : α → Nat) (owners : Nat → Option α) (parts : Nat → Option β) (p : Nat) :
    Option (α × β) := do
  let a ← owners p
  let b ← parts (part a)
  return (a, b)

theorem empty : Owns part Fits (fun _ => none) (fun _ => none) where
  alive h := by cases h
  single h := by cases h
  owned h := by cases h

variable (h : Owns part Fits owners parts) {p r : Nat} {a : α} {b : β}
include h

theorem whole_eq_none_iff : whole part owners parts p = none ↔ owners p = none := by
  cases hp : owners p with
  | none => simp [whole, hp]
  | some a =>
    obtain ⟨b, hb, -⟩ := h.alive hp
    simp [whole, hp, hb]

/-- **A new owner** with a new part. -/
theorem put (hp : owners p = none) (hr : parts r = none) (hpart : part a = r) (hfits : Fits a b) :
    Owns part Fits (update owners p (some a)) (update parts r (some b)) ∧
      whole part (update owners p (some a)) (update parts r (some b)) =
        update (whole part owners parts) p (some (a, b)) := by
  have hother {q : Nat} {a' : α} (hq : owners q = some a') : part a' ≠ r := by
    obtain ⟨b', hb', -⟩ := h.alive hq
    rintro rfl
    exact Option.some_ne_none _ (hb'.symm.trans hr)
  refine ⟨⟨?_, ?_, ?_⟩, ?_⟩
  · intro q a' hq
    rcases update_some_iff.mp hq with ⟨rfl, rfl⟩ | ⟨-, hq⟩
    · exact ⟨b, by rw [hpart, update_self], hfits⟩
    · obtain ⟨b', hb', hfits'⟩ := h.alive hq
      exact ⟨b', by rw [update_of_ne (hother hq), hb'], hfits'⟩
  · intro q q' a₁ a₂ hq hq' hsame
    rcases update_some_iff.mp hq with ⟨rfl, rfl⟩ | ⟨-, hold⟩ <;>
      rcases update_some_iff.mp hq' with ⟨rfl, rfl⟩ | ⟨-, hold'⟩
    · rfl
    · exact absurd (hsame.symm.trans hpart) (hother hold')
    · exact absurd (hsame.trans hpart) (hother hold)
    · exact h.single hold hold' hsame
  · intro r' b' hr'
    rcases update_some_iff.mp hr' with ⟨rfl, rfl⟩ | ⟨-, hr'⟩
    · exact ⟨p, a, update_self .., hpart⟩
    · obtain ⟨q, a', hq, hsame⟩ := h.owned hr'
      have hqp : q ≠ p := by
        rintro rfl
        exact Option.some_ne_none _ (hq.symm.trans hp)
      exact ⟨q, a', by rw [update_of_ne hqp, hq], hsame⟩
  · funext q
    by_cases hqp : q = p
    · simp [whole, hqp, hpart]
    · rw [update_of_ne hqp, whole, whole, update_of_ne hqp]
      cases hq : owners q with
      | none => rfl
      | some a' => simp [update_of_ne (hother hq)]

/-- **An owner ends** with its part. -/
theorem drop (hp : owners p = some a) :
    Owns part Fits (update owners p none) (update parts (part a) none) ∧
      whole part (update owners p none) (update parts (part a) none) =
        update (whole part owners parts) p none := by
  have hother {q : Nat} {a' : α} (hqp : q ≠ p) (hq : owners q = some a') : part a' ≠ part a :=
    fun hsame => hqp (h.single hq hp hsame)
  refine ⟨⟨?_, ?_, ?_⟩, ?_⟩
  · intro q a' hq
    obtain ⟨hqp, hq⟩ := update_none_iff.mp hq
    obtain ⟨b', hb', hfits'⟩ := h.alive hq
    exact ⟨b', by rw [update_of_ne (hother hqp hq), hb'], hfits'⟩
  · intro q q' a₁ a₂ hq hq'
    exact h.single (update_none_iff.mp hq).2 (update_none_iff.mp hq').2
  · intro r' b' hr'
    obtain ⟨hne, hr'⟩ := update_none_iff.mp hr'
    obtain ⟨q, a', hq, hsame⟩ := h.owned hr'
    have hqp : q ≠ p := by
      rintro rfl
      obtain rfl := Option.some.inj (hp.symm.trans hq)
      exact hne hsame.symm
    exact ⟨q, a', by rw [update_of_ne hqp, hq], hsame⟩
  · funext q
    by_cases hqp : q = p
    · simp [whole, hqp]
    · rw [update_of_ne hqp, whole, whole, update_of_ne hqp]
      cases hq : owners q with
      | none => rfl
      | some a' => simp [update_of_ne (hother hqp hq)]

/-- **A part changes**, and no other owner sees it. -/
theorem store (hp : owners p = some a) (hfits : Fits a b) :
    Owns part Fits owners (update parts (part a) (some b)) ∧
      whole part owners (update parts (part a) (some b)) =
        update (whole part owners parts) p (some (a, b)) := by
  refine ⟨⟨?_, h.single, ?_⟩, ?_⟩
  · intro q a' hq
    by_cases hqp : q = p
    · obtain rfl := hqp
      obtain rfl := Option.some.inj (hp.symm.trans hq)
      exact ⟨b, update_self .., hfits⟩
    · obtain ⟨b', hb', hfits'⟩ := h.alive hq
      have hne : part a' ≠ part a := fun hsame => hqp (h.single hq hp hsame)
      exact ⟨b', by rw [update_of_ne hne, hb'], hfits'⟩
  · intro r' b' hr'
    rcases update_some_iff.mp hr' with ⟨rfl, -⟩ | ⟨-, hr'⟩
    · exact ⟨p, a, hp, rfl⟩
    · exact h.owned hr'
  · funext q
    by_cases hqp : q = p
    · simp [whole, hqp, hp]
    · rw [update_of_ne hqp, whole, whole]
      cases hq : owners q with
      | none => rfl
      | some a' =>
        have hne : part a' ≠ part a := fun hsame => hqp (h.single hq hp hsame)
        simp [update_of_ne hne]

end Owns
