import Mathlib.Algebra.Ring.Nat
import Mathlib.Data.List.Basic

/-! # Formatted texts

What `printf` makes of a format with the conversions `%d` and `%s`.  A format is cut
into its parts first (`parts`), and these are printed with the arguments (`print`).
Another conversion, an argument that is missing, or one of another kind is undefined
(`none`); arguments that are left over are ignored.

`sprintf_spec` says how long the text is, without saying what it is. -/
namespace Printf

inductive Conversion where
  | d
  | s
  deriving DecidableEq, Repr

/-- A part of a format: a character that stands for itself, or a conversion. -/
inductive Part where
  | literal (c : Char)
  | conversion (k : Conversion)
  deriving DecidableEq, Repr

inductive Argument where
  | int (n : Int)
  | str (s : String)
  deriving DecidableEq, Repr

namespace Argument

/-- What is printed for it. -/
def text : Argument → String
  | int n => n.repr
  | str s => s

/-- The conversion it is for. -/
def conversion : Argument → Conversion
  | int _ => .d
  | str _ => .s

end Argument

/-- The parts of a format, or of what is left of one behind a `%`. -/
def partsFrom : Bool → List Char → Option (List Part)
  | false, [] => some []
  | true, [] => none
  | false, c :: format =>
    if c = '%' then partsFrom true format else (partsFrom false format).map (.literal c :: ·)
  | true, c :: format =>
    if c = 'd' then (partsFrom false format).map (.conversion .d :: ·)
    else if c = 's' then (partsFrom false format).map (.conversion .s :: ·)
    else if c = '%' then (partsFrom false format).map (.literal '%' :: ·)
    else none

def parts (format : String) : Option (List Part) := partsFrom false format.toList

def print : List Part → List Argument → Option (List Char)
  | [], _ => some []
  | .literal c :: ps, args => (print ps args).map (c :: ·)
  | .conversion k :: ps, a :: args =>
    if a.conversion = k then (print ps args).map (a.text.toList ++ ·) else none
  | .conversion _ :: _, [] => none

def sprintf (format : String) (args : List Argument) : Option String :=
  (parts format).bind fun ps => (print ps args).map String.ofList

/-! ## How long the text is -/

/-- The conversions among the parts. -/
def conversions : List Part → List Conversion
  | [] => []
  | .literal _ :: ps => conversions ps
  | .conversion k :: ps => k :: conversions ps

/-- How many characters stand for themselves. -/
def literals : List Part → Nat
  | [] => 0
  | .literal _ :: ps => literals ps + 1
  | .conversion _ :: ps => literals ps

/-- The conversions of a format, and how many of its characters stand for themselves. -/
def layout (format : String) : Option (List Conversion × Nat) :=
  (parts format).map fun ps => (conversions ps, literals ps)

theorem layout_ofList (format : List Char) : layout (String.ofList format) =
    (partsFrom false format).map fun ps => (conversions ps, literals ps) := by
  rw [layout, parts, String.toList_ofList]

/-- How many characters the arguments bring. -/
def argumentLength : List Argument → Nat
  | [] => 0
  | a :: args => a.text.length + argumentLength args

@[simp] theorem argumentLength_nil : argumentLength [] = 0 := rfl

@[simp] theorem argumentLength_cons (a : Argument) (args : List Argument) :
    argumentLength (a :: args) = a.text.length + argumentLength args := rfl

/-- **Arguments that match the conversions** are printed, each in its place. -/
theorem print_spec : ∀ (ps : List Part) {args : List Argument},
    conversions ps = args.map Argument.conversion → ∃ cs, print ps args = some cs ∧
      cs.length = literals ps + argumentLength args
  | [], args, h => by
      obtain rfl : args = [] := List.map_eq_nil_iff.mp h.symm
      exact ⟨[], rfl, rfl⟩
  | .literal c :: ps, args, h => by
      obtain ⟨cs, hcs, hlength⟩ := print_spec ps h
      refine ⟨c :: cs, by rw [print, hcs]; rfl, ?_⟩
      rw [List.length_cons, hlength, literals]
      omega
  | .conversion k :: ps, args, h => by
      cases args with
      | nil => cases h
      | cons a args =>
        obtain ⟨ha, hargs⟩ := List.cons.inj h
        obtain ⟨cs, hcs, hlength⟩ := print_spec ps hargs
        refine ⟨a.text.toList ++ cs, by rw [print, if_pos ha.symm, hcs]; rfl, ?_⟩
        rw [List.length_append, String.length_toList, hlength, literals, argumentLength]
        omega

/-- **The text has the characters of the format and those of the arguments.** -/
theorem sprintf_spec {format : String} {args : List Argument} {n : Nat}
    (h : layout format = some (args.map Argument.conversion, n)) :
    ∃ text, sprintf format args = some text ∧ text.length = n + argumentLength args := by
  obtain ⟨ps, hps, hlayout⟩ := Option.map_eq_some_iff.mp h
  obtain ⟨hconversions, rfl⟩ := Prod.mk.inj hlayout
  obtain ⟨cs, hcs, hlength⟩ := print_spec ps hconversions
  refine ⟨String.ofList cs, ?_, by rw [String.length_ofList, hlength]⟩
  rw [sprintf, hps, Option.bind_some, hcs, Option.map_some]

/-- An integer of less than `k` digits has `k` characters at most. -/
theorem length_repr_le {n : Int} {k : Nat} (hk : 0 < k) (hn : n.natAbs < 10 ^ k) :
    n.repr.length ≤ k + 1 := by
  cases n with
  | ofNat m =>
    have hm : m.repr.length ≤ k := (Nat.length_repr_le_iff hk).mpr hn
    exact Nat.le_succ_of_le hm
  | negSucc m =>
    have hm : (m + 1).repr.length ≤ k := (Nat.length_repr_le_iff hk).mpr hn
    rw [show (Int.negSucc m).repr = "-" ++ (m + 1).repr from rfl, String.length_append]
    have hminus : "-".length = 1 := by decide
    omega

end Printf
