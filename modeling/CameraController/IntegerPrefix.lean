import Mathlib.Data.List.TakeWhile
import Mathlib.Data.Int.Notation

/-! # Integers at the beginning of a text

`scan` reads an integer in base ten the way `strtol` does: blanks are skipped, one
sign may follow, and then as many digits are taken as there are.  What stands
behind them is left alone, whatever it is.

`Writes l n` says that the whole of `l` is such an integer, and `scan_eq_some_iff`
that `scan` finds it and nothing else in front of what cannot lengthen it. -/
namespace IntegerPrefix

/-- `isspace` in the C locale. -/
def isBlank (c : Char) : Bool := c.toNat == 32 || (9 ≤ c.toNat && c.toNat ≤ 13)

/-- How a sign is written, `true` for minus; it may be left out. -/
def signText : Option Bool → List Char
  | none => []
  | some false => ['+']
  | some true => ['-']

/-- The value of digits behind a sign. -/
def value (sign : Option Bool) (digits : List Char) : Int :=
  if sign = some true then -(Nat.ofDigitChars 10 digits 0 : Int) else Nat.ofDigitChars 10 digits 0

/-- The sign in front, and what follows it. -/
def readSign : List Char → Option Bool × List Char
  | '-' :: l => (some true, l)
  | '+' :: l => (some false, l)
  | l => (none, l)

/-- The integer in front and what follows it, `none` if there is no digit. -/
def scan (l : List Char) : Option (Int × List Char) :=
  let (sign, l) := readSign (l.dropWhile isBlank)
  let digits := l.takeWhile Char.isDigit
  if digits = [] then none else some (value sign digits, l.dropWhile Char.isDigit)

/-- All of `l` is an integer, with the value `n`. -/
def Writes (l : List Char) (n : Int) : Prop :=
  ∃ blanks sign digits, l = blanks ++ signText sign ++ digits ∧ (∀ c ∈ blanks, isBlank c = true) ∧
    digits ≠ [] ∧ (∀ c ∈ digits, c.isDigit = true) ∧ n = value sign digits

/-- No digit stands in front. -/
def NoDigit (l : List Char) : Prop := ∀ c ∈ l.head?, c.isDigit = false

/-! ## Blanks, signs and digits are different characters -/

theorem isDigit_iff {c : Char} : c.isDigit = true ↔ 48 ≤ c.toNat ∧ c.toNat ≤ 57 := by
  simp only [Char.isDigit, Bool.and_eq_true, decide_eq_true_eq, ge_iff_le]
  exact Iff.rfl

theorem not_isBlank_of_isDigit {c : Char} (h : c.isDigit = true) : isBlank c = false := by
  have := isDigit_iff.mp h
  simp only [isBlank, Bool.or_eq_false_iff, beq_eq_false_iff_ne, Bool.and_eq_false_iff,
    decide_eq_false_iff_not]
  omega

theorem readSign_signText (sign : Option Bool) {digits rest : List Char} (hne : digits ≠ [])
    (hdigits : ∀ c ∈ digits, c.isDigit = true) :
    readSign (signText sign ++ digits ++ rest) = (sign, digits ++ rest) := by
  obtain ⟨c, l, rfl⟩ := List.exists_cons_of_ne_nil hne
  have hc : c.isDigit = true := hdigits c (List.mem_cons_self ..)
  match sign with
  | some true => rfl
  | some false => rfl
  | none =>
    have hminus : c ≠ '-' := by rintro rfl; exact absurd hc (by decide)
    have hplus : c ≠ '+' := by rintro rfl; exact absurd hc (by decide)
    simp only [signText, List.nil_append, List.cons_append]
    unfold readSign
    split
    · rename_i h; exact absurd (List.cons.inj h).1 hminus
    · rename_i h; exact absurd (List.cons.inj h).1 hplus
    · rfl

theorem dropWhile_blanks {blanks digits rest : List Char} (sign : Option Bool)
    (hblanks : ∀ c ∈ blanks, isBlank c = true) (hne : digits ≠ [])
    (hdigits : ∀ c ∈ digits, c.isDigit = true) :
    (blanks ++ signText sign ++ digits ++ rest).dropWhile isBlank =
      signText sign ++ digits ++ rest := by
  obtain ⟨c, l, rfl⟩ := List.exists_cons_of_ne_nil hne
  have hc : isBlank c = false := not_isBlank_of_isDigit (hdigits c (List.mem_cons_self ..))
  rw [List.append_assoc, List.append_assoc, List.dropWhile_append_of_pos hblanks]
  match sign with
  | some true | some false => rfl
  | none => simp [signText, hc]

/-! ## What is scanned -/

theorem takeWhile_digits {digits rest : List Char} (hdigits : ∀ c ∈ digits, c.isDigit = true)
    (hrest : NoDigit rest) :
    (digits ++ rest).takeWhile Char.isDigit = digits ∧
      (digits ++ rest).dropWhile Char.isDigit = rest := by
  rw [List.takeWhile_append_of_pos hdigits, List.dropWhile_append_of_pos hdigits]
  match rest with
  | [] => simp
  | c :: rest =>
    have hc : c.isDigit = false := hrest c rfl
    simp [hc]

/-- An integer is scanned whole. -/
theorem scan_append {l rest : List Char} {n : Int} (h : Writes l n) (hrest : NoDigit rest) :
    scan (l ++ rest) = some (n, rest) := by
  obtain ⟨blanks, sign, digits, rfl, hblanks, hne, hdigits, rfl⟩ := h
  obtain ⟨htake, hdrop⟩ := takeWhile_digits hdigits hrest
  simp only [scan, dropWhile_blanks sign hblanks hne hdigits, readSign_signText sign hne hdigits,
    htake, hdrop, if_neg hne]

theorem readSign_eq (l : List Char) : l = signText (readSign l).1 ++ (readSign l).2 := by
  unfold readSign
  split <;> rfl

/-- **`scan` finds the integer in front**, and there is only one. -/
theorem scan_eq_some_iff {l rest : List Char} {n : Int} :
    scan l = some (n, rest) ↔ ∃ w, l = w ++ rest ∧ Writes w n ∧ NoDigit rest := by
  constructor
  · intro h
    simp only [scan] at h
    by_cases hne : (readSign (l.dropWhile isBlank)).2.takeWhile Char.isDigit = []
    · rw [if_pos hne] at h
      cases h
    · rw [if_neg hne, Option.some.injEq, Prod.mk.injEq] at h
      obtain ⟨rfl, rfl⟩ := h
      refine ⟨l.takeWhile isBlank ++ signText (readSign (l.dropWhile isBlank)).1 ++
        (readSign (l.dropWhile isBlank)).2.takeWhile Char.isDigit, ?_,
        ⟨_, _, _, rfl, fun _ => List.mem_takeWhile_imp, hne, fun _ => List.mem_takeWhile_imp, rfl⟩,
        ?_⟩
      · rw [List.append_assoc, List.takeWhile_append_dropWhile, List.append_assoc,
          ← readSign_eq, List.takeWhile_append_dropWhile]
      · intro c hc
        have hnot := List.head?_dropWhile_not Char.isDigit (readSign (l.dropWhile isBlank)).2
        rw [Option.mem_def.mp hc] at hnot
        simpa using hnot
  · rintro ⟨w, rfl, hw, hrest⟩
    exact scan_append hw hrest

/-- All of a text is an integer exactly when nothing is left of it. -/
theorem writes_iff {l : List Char} {n : Int} : Writes l n ↔ scan l = some (n, []) := by
  rw [scan_eq_some_iff]
  constructor
  · intro h
    exact ⟨l, (List.append_nil l).symm, h, fun c hc => by cases hc⟩
  · rintro ⟨w, rfl, hw, -⟩
    rwa [List.append_nil]

/-- A text is one integer only. -/
theorem Writes.unique {l : List Char} {n m : Int} (hn : Writes l n) (hm : Writes l m) : n = m := by
  have h := (writes_iff.mp hn).symm.trans (writes_iff.mp hm)
  exact (Prod.mk.inj (Option.some.inj h)).1

example : scan " -12.5".toList = some (-12, ".5".toList) := by decide

end IntegerPrefix
