import Mathlib.Data.List.Rotate
import Mathlib.Data.List.DropRight

/-! # Rings and bounded queues

A ring of `N` cells is a list of length `N` read from a moving origin.  Reading
from origin `s` is `List.rotate s`, so the two halves of a read or a write that
runs over the end of the list become one statement about a prefix of the rotated
list (`rotate_take_contiguous`, `rotate_take_wrapped`, `rotate_splice`,
`rotate_splice_wrapped`).

A ring that overwrites its oldest cells implements a **drop-oldest queue**: what
is kept of `q` once `xs` arrives is the last `cap` elements of `q ++ xs`
(`push`).  Its newest `n` elements are the last `n` cells read from the write
position (`rtake`), which is all that `rtake_drop_append` needs to say.
-/
namespace RingBuffer

variable {α : Type}

/-! ## Reads -/

/-- A read that stays before the end of the list. -/
theorem rotate_take_contiguous {l : List α} {s n : Nat} (h : s + n ≤ l.length) :
    (l.rotate s).take n = (l.drop s).take n := by
  rw [List.rotate_eq_drop_append_take (by omega)]
  exact List.take_append_of_le_length (by rw [List.length_drop]; omega)

/-- A read that runs over the end of the list continues at its start. -/
theorem rotate_take_wrapped {l : List α} {s n : Nat} (hs : s ≤ l.length)
    (h : l.length ≤ s + n) (hn : n ≤ l.length) :
    (l.rotate s).take n = l.drop s ++ l.take (n - (l.length - s)) := by
  rw [List.rotate_eq_drop_append_take hs, List.take_append, List.length_drop,
    List.take_of_length_le (by rw [List.length_drop]; omega), List.take_take]
  congr 2
  omega

/-! ## Writes -/

/-- `l` with the cells from `off` on replaced by `xs`. -/
def splice (l : List α) (off : Nat) (xs : List α) : List α :=
  l.take off ++ xs ++ l.drop (off + xs.length)

theorem length_splice {l : List α} {off : Nat} {xs : List α} (h : off + xs.length ≤ l.length) :
    (splice l off xs).length = l.length := by
  simp only [splice, List.length_append, List.length_take, List.length_drop]
  omega

theorem take_splice {l : List α} {off : Nat} {xs : List α} (h : off ≤ l.length) :
    (splice l off xs).take off = l.take off := by
  rw [splice, List.append_assoc, List.take_append_of_le_length (by rw [List.length_take]; omega),
    List.take_take, Nat.min_self]

theorem drop_splice {l : List α} {off : Nat} {xs : List α} (h : off ≤ l.length) :
    (splice l off xs).drop off = xs ++ l.drop (off + xs.length) := by
  rw [splice, List.append_assoc, List.drop_append, List.length_take, Nat.min_eq_left h,
    Nat.sub_self, List.drop_zero, List.drop_of_length_le (by rw [List.length_take]; omega),
    List.nil_append]

/-- Read from its own origin, a write that stays before the end of the list
replaces a prefix. -/
theorem rotate_splice {l : List α} {s : Nat} {xs : List α} (h : s + xs.length ≤ l.length) :
    (splice l s xs).rotate s = xs ++ (l.rotate s).drop xs.length := by
  have hs : s ≤ l.length := by omega
  rw [List.rotate_eq_drop_append_take (by rw [length_splice h]; exact hs), drop_splice hs,
    take_splice hs, List.rotate_eq_drop_append_take hs, List.append_assoc, List.drop_append,
    List.drop_drop, List.length_drop, show xs.length - (l.length - s) = 0 by omega,
    List.drop_zero]

/-- Read from its own origin, a write in two parts, the first up to the end of
the list and the second from its start, replaces a prefix too. -/
theorem rotate_splice_wrapped {l : List α} {s : Nat} {xs ys : List α}
    (hx : s + xs.length = l.length) (hy : ys.length ≤ s) :
    (splice (splice l s xs) 0 ys).rotate s =
      (xs ++ ys) ++ (l.rotate s).drop (xs.length + ys.length) := by
  have hs : s ≤ l.length := by omega
  have hfirst : (splice l s xs).drop ys.length = (l.take s).drop ys.length ++ xs := by
    rw [splice, hx, List.drop_length, List.append_nil, List.drop_append, List.length_take,
      show ys.length - min s l.length = 0 by omega, List.drop_zero]
  have hfront : (ys ++ (l.take s).drop ys.length).length = s := by
    rw [List.length_append, List.length_drop, List.length_take]; omega
  have hturn := List.rotate_append_length_eq (ys ++ (l.take s).drop ys.length) xs
  have hwhole : splice (splice l s xs) 0 ys = (ys ++ (l.take s).drop ys.length) ++ xs := by
    rw [List.append_assoc, ← hfirst]
    simp [splice]
  rw [hfront] at hturn
  have hback : (l.rotate s).drop (xs.length + ys.length) = (l.take s).drop ys.length := by
    rw [List.rotate_eq_drop_append_take hs, List.drop_append, List.length_drop,
      List.drop_of_length_le (by rw [List.length_drop]; omega), List.nil_append,
      show xs.length + ys.length - (l.length - s) = ys.length by omega]
  rw [hwhole, hturn, hback, List.append_assoc]

/-! ## The last elements of a list -/

theorem length_rtake (l : List α) (n : Nat) : (l.rtake n).length = min n l.length := by
  rw [List.rtake, List.length_drop]; omega

theorem rtake_of_length_le {l : List α} {n : Nat} (h : l.length ≤ n) : l.rtake n = l := by
  rw [List.rtake, Nat.sub_eq_zero_of_le h, List.drop_zero]

theorem rtake_suffix (l : List α) (n : Nat) : l.rtake n <:+ l := List.drop_suffix _ _

/-- Taking the oldest `k` of the last `n` elements away leaves the last `n - k`. -/
theorem drop_rtake {l : List α} {n : Nat} (k : Nat) (h : n ≤ l.length) :
    (l.rtake n).drop k = l.rtake (n - k) := by
  by_cases hk : k ≤ n
  · rw [List.rtake, List.rtake, List.drop_drop]
    congr 1
    omega
  · rw [show n - k = 0 by omega, List.rtake_zero]
    exact List.drop_of_length_le (by rw [length_rtake]; omega)

/-- Dropping in front of the last `n` elements does not change them. -/
theorem rtake_append_of_length_le {l m : List α} {n : Nat} (h : n ≤ m.length) :
    (l ++ m).rtake n = m.rtake n := by
  rw [List.rtake, List.rtake, List.length_append, List.drop_append,
    List.drop_of_length_le (by omega), List.nil_append]
  congr 1
  omega

theorem rtake_length_add (l m : List α) (n : Nat) :
    (l ++ m).rtake (n + m.length) = l.rtake n ++ m := by
  rw [List.rtake, List.rtake, List.length_append, List.drop_append,
    show l.length + m.length - (n + m.length) = l.length - n by omega,
    show l.length - n - l.length = 0 by omega, List.drop_zero]

theorem rtake_rtake (l : List α) (m n : Nat) : (l.rtake m).rtake n = l.rtake (min m n) := by
  simp only [List.rtake, List.length_drop, List.drop_drop]
  congr 1
  omega

/-- The last `n` elements of `l ++ m` only need the last `n` of `l`. -/
theorem rtake_append_rtake (l m : List α) (n : Nat) :
    (l.rtake n ++ m).rtake n = (l ++ m).rtake n := by
  rw [← rtake_length_add, rtake_rtake, Nat.min_eq_right (Nat.le_add_right _ _)]

/-! ## Drop-oldest queues -/

/-- What a queue bounded by `cap` keeps of `q` once `xs` has arrived. -/
def push (cap : Nat) (q xs : List α) : List α := (q ++ xs).rtake cap

theorem push_of_length_le {cap : Nat} {q xs : List α} (h : q.length + xs.length ≤ cap) :
    push cap q xs = q ++ xs :=
  rtake_of_length_le (by rw [List.length_append]; exact h)

@[simp] theorem push_nil {cap : Nat} {q : List α} (h : q.length ≤ cap) : push cap q [] = q := by
  rw [push, List.append_nil, rtake_of_length_le h]

/-- Only the last `cap` elements of what arrives matter. -/
theorem push_rtake (cap : Nat) (q xs : List α) : push cap q (xs.rtake cap) = push cap q xs := by
  by_cases h : cap ≤ xs.length
  · rw [push, push, rtake_append_of_length_le h,
      rtake_append_of_length_le (by rw [length_rtake]; omega), rtake_rtake, Nat.min_self]
  · rw [rtake_of_length_le (by omega)]

/-- **The ring step.**  `l` is the ring read from the write position and its last
`n` cells are the queue.  Writing `xs` there and moving past it leaves the queue
with `xs` pushed as the last cells of the ring. -/
theorem rtake_drop_append {l : List α} {xs : List α} {n : Nat} (hn : n ≤ l.length)
    (hx : xs.length ≤ l.length) :
    (l.drop xs.length ++ xs).rtake (min l.length (n + xs.length)) =
      push l.length (l.rtake n) xs := by
  by_cases h : n + xs.length ≤ l.length
  · have hq : (l.rtake n).length + xs.length ≤ l.length := by rw [length_rtake]; omega
    rw [push_of_length_le hq, Nat.min_eq_right h, rtake_length_add]
    congr 1
    rw [List.rtake, List.rtake, List.length_drop, List.drop_drop]
    congr 1
    omega
  · have hlen : (l.drop xs.length ++ xs).length = l.length := by
      rw [List.length_append, List.length_drop]; omega
    rw [Nat.min_eq_left (by omega), rtake_of_length_le (Nat.le_of_eq hlen), push]
    conv_rhs => rw [show l.length = (l.length - xs.length) + xs.length by omega]
    rw [rtake_length_add, rtake_rtake, Nat.min_eq_right (by omega), List.rtake]
    congr 2
    omega

end RingBuffer
