import Mathlib.Algebra.Group.Int.Defs
import Mathlib.Algebra.Group.Nat.Defs
import Mathlib.Data.List.Basic

/-!
# Decimal numerals

A numeral is a non-empty list of digits. `int32?` reads a text the way fixed-width integer types
do: an optional sign, a numeral, and nothing if the number does not fit. On a numeral that fits it
is the value (`int32?_of_digits`).
-/

/-- One or more decimal digits. -/
structure Numeral where
  digits : List Char
  nonempty : digits ≠ []
  isDigit : ∀ c ∈ digits, c.isDigit = true

namespace Numeral

def valueOf (cs : List Char) : Nat := Nat.ofDigitChars 10 cs 0

def value (n : Numeral) : Nat := valueOf n.digits

def ofNat (n : Nat) : Numeral where
  digits := Nat.toDigits 10 n
  nonempty := Nat.toDigits_ne_nil
  isDigit _ hc := Nat.isDigit_of_mem_toDigits (by decide) (by decide) hc

def length (n : Numeral) : Nat := n.digits.length

@[simp] theorem valueOf_nil : valueOf [] = 0 := Nat.ofDigitChars_nil

/-- The digits of a number stand for the number. -/
theorem valueOf_toDigits (n : Nat) : valueOf (Nat.toDigits 10 n) = n :=
  Nat.ofDigitChars_toDigits (by decide) (by decide)

/-- No two numbers are written alike. -/
theorem toString_injective {n m : Nat} (h : toString n = toString m) : n = m := by
  have hdigits : Nat.toDigits 10 n = Nat.toDigits 10 m := String.ofList_injective h
  rw [← valueOf_toDigits n, hdigits, valueOf_toDigits]

/-- A number does not start with a sign. -/
theorem toString_ne_minus (n : Nat) (s : String) : toString n ≠ "-" ++ s := by
  intro h
  have hdigits := congrArg String.toList h
  rw [String.toList_append] at hdigits
  have hmem : '-' ∈ Nat.toDigits 10 n := by
    have hlist : (toString n).toList = Nat.toDigits 10 n := String.toList_ofList
    rw [← hlist, hdigits]
    exact List.mem_append_left _ (by decide)
  have hdigit := Nat.isDigit_of_mem_toDigits (by decide) (by decide) hmem
  exact absurd hdigit (by decide)

/-- No two integers are written alike. -/
theorem toString_int_injective {n m : Int} (h : toString n = toString m) : n = m := by
  cases n with
  | ofNat n =>
      cases m with
      | ofNat m => exact congrArg Int.ofNat (toString_injective h)
      | negSucc m => exact absurd h (toString_ne_minus n _)
  | negSucc n =>
      cases m with
      | ofNat m => exact absurd h.symm (toString_ne_minus m _)
      | negSucc m =>
          have hsucc : toString (n + 1) = toString (m + 1) := (String.append_right_inj "-").mp h
          exact congrArg Int.negSucc (Nat.succ.inj (toString_injective hsucc))

/-- **Digits side by side.** -/
theorem valueOf_append (cs ds : List Char) :
    valueOf (cs ++ ds) = valueOf cs * 10 ^ ds.length + valueOf ds := by
  unfold valueOf
  rw [Nat.ofDigitChars_append, Nat.ofDigitChars_eq_ofDigitChars_zero, Nat.mul_comm]

/-- A digit is less than ten. -/
theorem valueOf_singleton_lt {c : Char} (h : c.isDigit = true) : valueOf [c] < 10 := by
  obtain ⟨hlow, hhigh⟩ := Char.isDigit_iff_toNat.mp h
  have hzero : '0'.toNat = 48 := by decide
  have hnine : '9'.toNat = 57 := by decide
  rw [valueOf, Nat.ofDigitChars_cons, Nat.ofDigitChars_nil]
  omega

/-- A number is bounded by its digits. -/
theorem valueOf_lt {cs : List Char} (h : ∀ c ∈ cs, c.isDigit = true) :
    valueOf cs < 10 ^ cs.length := by
  induction cs with
  | nil => simp
  | cons c cs ih =>
      have hhead := valueOf_singleton_lt (h c List.mem_cons_self)
      have hrest := ih fun d hd => h d (List.mem_cons_of_mem c hd)
      rw [← List.singleton_append, valueOf_append, List.length_append, List.length_singleton,
        Nat.add_comm 1, Nat.pow_succ]
      have hstep : (valueOf [c] + 1) * 10 ^ cs.length ≤ 10 * 10 ^ cs.length :=
        Nat.mul_le_mul_right _ hhead
      rw [Nat.add_mul, Nat.one_mul] at hstep
      omega

/-! ## Reading -/

/-- The digits of a text, if it has some and nothing else. -/
def nat? (cs : List Char) : Option Nat :=
  if cs ≠ [] ∧ cs.all Char.isDigit then some (valueOf cs) else none

/-- A text with an optional sign. -/
def int? : List Char → Option Int
  | '-' :: cs => (nat? cs).map fun n => -(n : Int)
  | '+' :: cs => (nat? cs).map fun n => (n : Int)
  | cs => (nat? cs).map fun n => (n : Int)

/-- A text that holds a number of 32 bits. -/
def int32? (cs : List Char) : Option Int32 :=
  (int? cs).bind fun n => if -2 ^ 31 ≤ n ∧ n < 2 ^ 31 then some (Int32.ofInt n) else none

theorem nat?_of_digits {cs : List Char} (hne : cs ≠ []) (hdigit : ∀ c ∈ cs, c.isDigit = true) :
    nat? cs = some (valueOf cs) :=
  if_pos ⟨hne, List.all_eq_true.mpr hdigit⟩

theorem int?_of_digits {cs : List Char} (hne : cs ≠ []) (hdigit : ∀ c ∈ cs, c.isDigit = true) :
    int? cs = some (valueOf cs : Int) := by
  have hnat := nat?_of_digits hne hdigit
  unfold int?
  split
  · exact absurd (hdigit '-' (by simp)) (by decide)
  · exact absurd (hdigit '+' (by simp)) (by decide)
  · rw [hnat]
    rfl

/-- **Digits that fit are read as their value.** -/
theorem int32?_of_digits {cs : List Char} (hne : cs ≠ []) (hdigit : ∀ c ∈ cs, c.isDigit = true)
    (hfit : valueOf cs < 2 ^ 31) : int32? cs = some (Int32.ofInt (valueOf cs)) := by
  rw [int32?, int?_of_digits hne hdigit, Option.bind_some, if_pos]
  omega

/-- Two numbers that fit are read as the same only if they are. -/
theorem ofInt_inj {n m : Nat} (hn : n < 2 ^ 31) (hm : m < 2 ^ 31) :
    Int32.ofInt n = Int32.ofInt m ↔ n = m := by
  constructor
  · intro h
    have hint := congrArg Int32.toInt h
    rw [Int32.toInt_ofInt_of_le (by omega) (by omega),
      Int32.toInt_ofInt_of_le (by omega) (by omega)] at hint
    omega
  · rintro rfl
    rfl

end Numeral
