import Mathlib.Data.Rat.Cast.CharZero

/-! # JSON values

The part of `nlohmann::json` that reads a telecommand: the kinds of value, `at`
with a key, and `get` for an arithmetic type and for `bool`, with the exceptions
they throw.  A number is converted with `static_cast`, whatever its value: an
integer is reduced modulo the width of the target and a `double` is truncated.
What becomes of a `double` outside the target's range the language leaves
undefined; it is a parameter (`outside`).

The main result says when a conversion kept the number (`get_exact_iff`). -/
namespace CameraController

/-- A `double`, by its value. -/
inductive Double where
  | finite (value : ℚ)
  | infinite (negative : Bool)
  | nan

/-- A value of `nlohmann::json`.  `discarded` is what a parser callback drops. -/
inductive Json where
  | null
  | object (members : List (String × Json))
  | array (items : List Json)
  | string (text : String)
  | boolean (b : Bool)
  | numberInteger (n : Int64)
  | numberUnsigned (n : UInt64)
  | numberFloat (x : Double)
  | discarded

/-- An exception of the library: its class, its id and its text. -/
structure JsonException where
  name : String
  id : Nat
  message : String
  deriving DecidableEq, Repr

namespace JsonException

/-- `what()`. -/
def what (e : JsonException) : String :=
  "[json.exception." ++ e.name ++ "." ++ toString e.id ++ "] " ++ e.message

def typeError (id : Nat) (message : String) : JsonException := ⟨"type_error", id, message⟩

def outOfRange (id : Nat) (message : String) : JsonException := ⟨"out_of_range", id, message⟩

/-- A parse error at a byte of the text; byte 0 is one that is not known. -/
def parseError (id byte : Nat) (message : String) : JsonException :=
  ⟨"parse_error", id, "parse error" ++ (if byte ≠ 0 then " at " ++ toString byte else "") ++
    ": " ++ message⟩

end JsonException

/-! ## Integer types -/

/-- An integer type of the language: the values it has, and reduction to it. -/
structure IntegerType (α : Type) where
  ofInt : Int → α
  toInt : α → Int
  lo : Int
  hi : Int
  toInt_mem : ∀ a, lo ≤ toInt a ∧ toInt a ≤ hi
  toInt_ofInt : ∀ n, lo ≤ n → n ≤ hi → toInt (ofInt n) = n

/-- `uint8_t`. -/
def IntegerType.uint8 : IntegerType UInt8 where
  ofInt := UInt8.ofInt
  toInt b := b.toNat
  lo := 0
  hi := 255
  toInt_mem b := by have := b.toNat_lt; omega
  toInt_ofInt n h0 h1 := by
    obtain ⟨k, rfl⟩ := Int.eq_ofNat_of_zero_le h0
    have hk : k < 256 := by omega
    simp [UInt8.ofInt]
    omega

/-- `int`. -/
def IntegerType.int : IntegerType Int32 where
  ofInt := Int32.ofInt
  toInt := Int32.toInt
  lo := -2 ^ 31
  hi := 2 ^ 31 - 1
  toInt_mem n := by have := n.toInt_lt; have := n.le_toInt; omega
  toInt_ofInt n h0 h1 := Int32.toInt_ofInt_of_le (by omega) (by omega)

namespace IntegerType

variable {α : Type} (t : IntegerType α) (outside : Double → α)

/-- `static_cast` of a `double`: the part after the point is dropped, and what is
then outside the type becomes whatever `outside` says. -/
def ofDouble : Double → α
  | .finite q =>
    if t.lo ≤ q.num.tdiv q.den ∧ q.num.tdiv q.den ≤ t.hi then t.ofInt (q.num.tdiv q.den)
    else outside (.finite q)
  | x => outside x

/-- The numbers of the type. -/
def Has (q : ℚ) : Prop := ∃ a, q = t.toInt a

theorem has_intCast_iff (n : Int) : t.Has n ↔ t.lo ≤ n ∧ n ≤ t.hi := by
  constructor
  · rintro ⟨a, ha⟩
    rw [Int.cast_inj.mp ha]
    exact t.toInt_mem a
  · rintro ⟨hlo, hhi⟩
    exact ⟨t.ofInt n, by rw [t.toInt_ofInt n hlo hhi]⟩

/-- An integer survives reduction exactly when the type has it. -/
theorem ofInt_exact_iff (n : Int) : (n : ℚ) = t.toInt (t.ofInt n) ↔ t.Has n :=
  ⟨fun h => ⟨_, h⟩, fun h => by
    obtain ⟨hlo, hhi⟩ := (t.has_intCast_iff n).mp h
    rw [t.toInt_ofInt n hlo hhi]⟩

/-- A `double` survives truncation exactly when the type has it. -/
theorem ofDouble_exact_iff (q : ℚ) :
    q = t.toInt (t.ofDouble outside (.finite q)) ↔ t.Has q := by
  refine ⟨fun h => ⟨_, h⟩, ?_⟩
  rintro ⟨a, rfl⟩
  obtain ⟨hlo, hhi⟩ := t.toInt_mem a
  simp only [ofDouble, Rat.num_intCast, Rat.den_intCast, Nat.cast_one, Int.tdiv_one, hlo, hhi,
    and_self, if_true, t.toInt_ofInt _ hlo hhi]

end IntegerType

/-! ## Reading a value -/

namespace Json

/-- `type_name()`. -/
def typeName : Json → String
  | null => "null"
  | object _ => "object"
  | array _ => "array"
  | string _ => "string"
  | boolean _ => "boolean"
  | discarded => "discarded"
  | _ => "number"

/-- `at(key)`. -/
def atKey (j : Json) (key : String) : Except JsonException Json :=
  match j with
  | object members =>
    match members.lookup key with
    | some value => .ok value
    | none => .error (.outOfRange 403 ("key '" ++ key ++ "' not found"))
  | j => .error (.typeError 304 ("cannot use at() with " ++ j.typeName))

variable {α : Type} (t : IntegerType α) (outside : Double → α)

/-- `get` for an arithmetic type other than `bool`. -/
def get : Json → Except JsonException α
  | numberUnsigned n => .ok (t.ofInt n.toNat)
  | numberInteger n => .ok (t.ofInt n.toInt)
  | numberFloat x => .ok (t.ofDouble outside x)
  | boolean b => .ok (t.ofInt b.toInt)
  | j => .error (.typeError 302 ("type must be number, but is " ++ j.typeName))

/-- `get<bool>`. -/
def getBool : Json → Except JsonException Bool
  | boolean b => .ok b
  | j => .error (.typeError 302 ("type must be boolean, but is " ++ j.typeName))

/-- The value of a number. -/
def number? : Json → Option ℚ
  | numberUnsigned n => some n.toNat
  | numberInteger n => some n.toInt
  | numberFloat (.finite q) => some q
  | _ => none

/-- A number that the type has. -/
def Fits (j : Json) : Prop := ∃ q, j.number? = some q ∧ t.Has q

/-- **A conversion kept the number exactly when the value is a number of the
type.** -/
theorem get_exact_iff {j : Json} {a : α} (h : j.get t outside = .ok a) :
    j.number? = some (t.toInt a : ℚ) ↔ j.Fits t := by
  have hback : ∀ q : ℚ, j.number? = some q → ((q = t.toInt a) ↔ t.Has q) →
      (j.number? = some (t.toInt a : ℚ) ↔ j.Fits t) := by
    intro q hq hiff
    simp [Fits, hq, hiff]
  cases j with
  | numberUnsigned n =>
    obtain rfl := Except.ok.inj h
    exact hback _ rfl (by exact_mod_cast t.ofInt_exact_iff n.toNat)
  | numberInteger n =>
    obtain rfl := Except.ok.inj h
    exact hback _ rfl (t.ofInt_exact_iff n.toInt)
  | numberFloat x =>
    obtain rfl := Except.ok.inj h
    cases x with
    | finite q => exact hback q rfl (t.ofDouble_exact_iff outside q)
    | infinite negative => simp [Fits, number?]
    | nan => simp [Fits, number?]
  | boolean b => simp [Fits, number?]
  | null | object | array | string | discarded => simp [get] at h

/-- The kinds of value an arithmetic type is read from. -/
def IsArithmetic : Json → Prop
  | numberUnsigned _ => True
  | numberInteger _ => True
  | numberFloat _ => True
  | boolean _ => True
  | _ => False

theorem get_isOk_iff (j : Json) : (∃ a, j.get t outside = .ok a) ↔ j.IsArithmetic := by
  cases j <;> simp [get, IsArithmetic]

theorem getBool_eq_ok_iff {j : Json} {b : Bool} : j.getBool = .ok b ↔ j = boolean b := by
  cases j <;> simp [getBool]

theorem atKey_eq_ok_iff {j value : Json} {key : String} :
    j.atKey key = .ok value ↔ ∃ members, j = object members ∧ members.lookup key = some value := by
  cases j with
  | object members => cases h : members.lookup key <;> simp [atKey, h]
  | _ => simp [atKey]

end Json
end CameraController
