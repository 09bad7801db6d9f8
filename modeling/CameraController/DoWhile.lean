import Mathlib.Order.Nat
import Mathlib.Data.Nat.Find

/-! # Loops that are left behind a turn

In a `do` loop the body runs before the condition is looked at.  Numbering its
turns, `done n` says that the loop is left behind turn `n` if it gets there.  A
loop then comes to its first such turn (`lastTurn_eq_some_iff`), and if there is
none it does not end. -/
namespace DoWhile

variable (done : Nat → Prop) [DecidablePred done]

/-- The last turn of a loop from turn `i` on, if it is one of the next `fuel`. -/
def lastTurn : Nat → Nat → Option Nat
  | 0, _ => none
  | fuel + 1, i => if done i then some i else lastTurn fuel (i + 1)

variable {done}

/-- **A loop ends with the first turn it can end with.** -/
theorem lastTurn_eq_some_iff {fuel i n : Nat} :
    lastTurn done fuel i = some n ↔
      i ≤ n ∧ n < i + fuel ∧ done n ∧ ∀ j, i ≤ j → j < n → ¬ done j := by
  induction fuel generalizing i with
  | zero =>
    refine iff_of_false (by simp [lastTurn]) ?_
    rintro ⟨hle, hlt, -⟩
    omega
  | succ fuel ih =>
    by_cases hi : done i
    · rw [lastTurn, if_pos hi, Option.some.injEq]
      constructor
      · rintro rfl
        exact ⟨Nat.le_refl i, by omega, hi, fun j _ _ => by omega⟩
      · rintro ⟨hle, -, -, hbefore⟩
        by_contra hne
        exact hbefore i (Nat.le_refl i) (by omega) hi
    · rw [lastTurn, if_neg hi, ih]
      constructor
      · rintro ⟨hle, hlt, hn, hbefore⟩
        refine ⟨by omega, by omega, hn, fun j hj hjn => ?_⟩
        rcases Nat.eq_or_lt_of_le hj with rfl | hlt
        · exact hi
        · exact hbefore j hlt hjn
      · rintro ⟨hle, hlt, hn, hbefore⟩
        have hne : i ≠ n := by
          rintro rfl
          exact hi hn
        exact ⟨by omega, by omega, hn, fun j hj => hbefore j (by omega)⟩

theorem lastTurn_of_first {n fuel : Nat} (hn : done n) (hbefore : ∀ j < n, ¬ done j)
    (hfuel : n < fuel) : lastTurn done fuel 0 = some n :=
  lastTurn_eq_some_iff.mpr ⟨Nat.zero_le n, by omega, hn, fun j _ => hbefore j⟩

/-- If some turn can be the last, there is a first such turn. -/
theorem exists_first {n : Nat} (hn : done n) : ∃ m ≤ n, done m ∧ ∀ j < m, ¬ done j :=
  ⟨Nat.find ⟨n, hn⟩, Nat.find_min' _ hn, Nat.find_spec _, fun _ => Nat.find_min _⟩

end DoWhile
