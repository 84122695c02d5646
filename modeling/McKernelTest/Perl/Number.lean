import McKernelTest.Text.Search
import McKernelTest.Text.Shell
import Mathlib.Data.Nat.Log

/-!
# Integer arithmetic in Perl

A number is an integer of 64 bits, signed or unsigned, as long as the exact result of an
operation is one, and a double otherwise.  The doubles here are integers, rounded to the
nearest one with 53 significant bits.

`%d` converts a number to a signed integer, and a double is printed with 15 significant
digits.
-/

namespace McKernelTest.Perl

open Machine Text

/-! ## Doubles -/

/-- Round a quotient to the nearest integer, and to the even one in the middle. -/
def roundQuotient (number unit : Nat) : Nat :=
  if unit < 2 * (number % unit) ∨ unit = 2 * (number % unit) ∧ number / unit % 2 = 1 then
    number / unit + 1
  else
    number / unit

/-- The distance of the doubles around a number. -/
def ulp (number : Nat) : Nat :=
  2 ^ (Nat.log2 number - 52)

/-- The double that is nearest to a natural number. -/
def roundNat (number : Nat) : Nat :=
  roundQuotient number (ulp number) * ulp number

/-- The double that is nearest to an integer. -/
def roundNv : Int → Int
  | .ofNat number => roundNat number
  | .negSucc number => -roundNat (number + 1)

/-! ## Numbers -/

/-- An integer, or a double. -/
inductive Num where
  | int (value : Int)
  | nv (value : Int)
  deriving DecidableEq, Repr

/-- The integers that need no double. -/
def Fits (value : Int) : Prop :=
  -2 ^ 63 ≤ value ∧ value < 2 ^ 64

instance (value : Int) : Decidable (Fits value) :=
  inferInstanceAs (Decidable (_ ∧ _))

namespace Num

/-- The integer that an operand is used as.  A double counts as one if its integers are
exact. -/
def asInt? : Num → Option Int
  | int value => some value
  | nv value => if value.natAbs < 2 ^ 53 then some value else none

/-- The double that an operand is used as. -/
def asNv : Num → Int
  | int value => roundNv value
  | nv value => value

/-- A sum or a difference, given the operation.  A negative integer that is too large is
converted to a double at the end, other overflows are computed with doubles. -/
def additive (operation : Int → Int → Int) (left right : Num) : Num :=
  match left.asInt?, right.asInt? with
  | some a, some b =>
      if Fits (operation a b) then int (operation a b)
      else if (operation a b).natAbs < 2 ^ 64 then nv (roundNv (operation a b))
      else nv (roundNv (operation (roundNv a) (roundNv b)))
  | _, _ => nv (roundNv (operation left.asNv right.asNv))

/-- `+` -/
def add : Num → Num → Num :=
  additive (· + ·)

/-- `-` -/
def sub : Num → Num → Num :=
  additive (· - ·)

/-- `*` -/
def mul (left right : Num) : Num :=
  match left.asInt?, right.asInt? with
  | some a, some b => if Fits (a * b) then int (a * b) else nv (roundNv (left.asNv * right.asNv))
  | _, _ => nv (roundNv (left.asNv * right.asNv))

/-- The conversion to a signed integer. -/
def toIv : Num → Int
  | int value => toLong value
  | nv value =>
      if value < -2 ^ 63 then -2 ^ 63
      else if value < 2 ^ 64 then toLong value
      else -1

end Num

/-! ## Texts -/

/-- A number of at least 16 digits in the format `%.15g`. -/
def scientific (number : Nat) : List Char :=
  let exponent := (decimal number).length - 1
  let mantissa := roundQuotient number (10 ^ (exponent - 14))
  let exponent := if mantissa = 10 ^ 15 then exponent + 1 else exponent
  let digits := (decimal mantissa).rdropWhile (· = '0')
  digits.take 1 ++ (if digits.length ≤ 1 then [] else '.' :: digits.drop 1) ++ "e+".toList ++
    padZero 2 (decimal exponent)

/-- An integer in the format `%.15g`. -/
def nvText (value : Int) : List Char :=
  if value.natAbs < 10 ^ 15 then decimalInt value
  else (if value < 0 then ['-'] else []) ++ scientific value.natAbs

/-- The text of a number. -/
def Num.text : Num → List Char
  | .int value => decimalInt value
  | .nv value => nvText value

/-- The conversion `%d`. -/
def Num.format (number : Num) : List Char :=
  decimalInt number.toIv

/-- The integer at the beginning of a text. -/
def readInteger (text : List Char) : Int :=
  let (negative, unsigned) := readSign (text.dropWhile isSpace)
  let magnitude : Int := Nat.ofDigitChars 10 (unsigned.takeWhile Char.isDigit) 0
  if negative then -magnitude else magnitude

/-- The number at the beginning of a text that has neither a fraction nor an exponent. -/
def numify (text : List Char) : Num :=
  let value := readInteger text
  if Fits value then .int value else .nv (roundNv value)

/-! ## Rounding -/

section Rounding

theorem roundQuotient_error (number : Nat) {unit : Nat} (positive : 0 < unit) :
    2 * number ≤ 2 * (roundQuotient number unit * unit) + unit ∧
      2 * (roundQuotient number unit * unit) ≤ 2 * number + unit := by
  have division := Nat.div_add_mod number unit
  rw [Nat.mul_comm] at division
  have rest := Nat.mod_lt number positive
  rw [roundQuotient]
  split
  · rw [Nat.add_mul]
    omega
  · omega

theorem ulp_le {number bits : Nat} (small : number < 2 ^ (53 + bits)) : ulp number ≤ 2 ^ bits := by
  apply Nat.pow_le_pow_right (by decide)
  rcases Nat.eq_zero_or_pos number with rfl | positive
  · simp
  · have log := (Nat.log2_lt positive.ne').mpr small
    omega

theorem roundNat_error (bits : Nat) {number : Nat} (small : number < 2 ^ (53 + bits)) :
    2 * number ≤ 2 * roundNat number + 2 ^ bits ∧
      2 * roundNat number ≤ 2 * number + 2 ^ bits := by
  have distance := ulp_le small
  have error := roundQuotient_error number (Nat.two_pow_pos (Nat.log2 number - 52))
  rw [← ulp, ← roundNat] at error
  omega

/-- Rounding changes an integer by half the distance of the doubles at most. -/
theorem roundNv_error (bits : Nat) {value : Int} (small : value.natAbs < 2 ^ (53 + bits)) :
    2 * value ≤ 2 * roundNv value + (2 ^ bits : Nat) ∧
      2 * roundNv value ≤ 2 * value + (2 ^ bits : Nat) := by
  cases value with
  | ofNat number =>
      have error : 2 * number ≤ 2 * roundNat number + 2 ^ bits ∧
        2 * roundNat number ≤ 2 * number + 2 ^ bits := roundNat_error bits small
      rw [roundNv, Int.ofNat_eq_natCast]
      omega
  | negSucc number =>
      have error : 2 * (number + 1) ≤ 2 * roundNat (number + 1) + 2 ^ bits ∧
        2 * roundNat (number + 1) ≤ 2 * (number + 1) + 2 ^ bits := roundNat_error bits small
      rw [roundNv, Int.negSucc_eq]
      omega

/-- Small integers are doubles. -/
theorem roundNv_eq_self {value : Int} (small : value.natAbs < 2 ^ 53) : roundNv value = value := by
  have error := roundNv_error 0 small
  omega

end Rounding

/-! ## Arithmetic -/

namespace Num

variable {a b : Int}

theorem toIv_bounds (number : Num) : -2 ^ 63 ≤ number.toIv ∧ number.toIv < 2 ^ 63 := by
  have bounds (value : Int) : -2 ^ 63 ≤ toLong value ∧ toLong value < 2 ^ 63 := by
    have least : -((2 ^ 64 : Nat) / 2 : Int) ≤ toLong value := Int.le_bmod (by decide)
    have greatest : toLong value < ((2 ^ 64 : Nat) + 1) / 2 := Int.bmod_lt (by decide)
    omega
  cases number with
  | int value => exact bounds value
  | nv value =>
      rw [toIv]
      split
      · decide
      · split
        · exact bounds value
        · decide

theorem toIv_int (least : -2 ^ 63 ≤ a) (greatest : a < 2 ^ 63) : (int a).toIv = a :=
  toLong_eq_self least greatest

/-- The conversion does not make a negative double smaller. -/
theorem le_toIv_nv (negative : a < 0) : a ≤ (nv a).toIv := by
  rw [toIv]
  split
  · omega
  · rw [if_pos (by omega), toLong_eq_self (by omega) (by omega)]

theorem additive_int {operation : Int → Int → Int} (fits : Fits (operation a b)) :
    additive operation (int a) (int b) = int (operation a b) :=
  if_pos fits

theorem sub_int (fits : Fits (a - b)) : sub (int a) (int b) = int (a - b) :=
  additive_int fits

theorem add_int (fits : Fits (a + b)) : add (int a) (int b) = int (a + b) :=
  additive_int fits

theorem mul_int (fits : Fits (a * b)) : mul (int a) (int b) = int (a * b) :=
  if_pos fits

/-- A negative difference that is too large for an integer. -/
theorem sub_int_nv (large : ¬Fits (a - b)) (small : (a - b).natAbs < 2 ^ 64) :
    sub (int a) (int b) = nv (roundNv (a - b)) := by
  change (if Fits (a - b) then _ else if (a - b).natAbs < 2 ^ 64 then _ else _) = _
  rw [if_neg large, if_pos small]

/-- A sum with a large double. -/
theorem add_nv_int (large : 2 ^ 53 ≤ a.natAbs) :
    add (nv a) (int b) = nv (roundNv (a + roundNv b)) := by
  have noInt : asInt? (nv a) = none := if_neg large.not_gt
  rw [add, additive, noInt]
  rfl

end Num

/-! ## Reading and printing -/

theorem readInteger_decimalInt (value : Int) {rest : List Char}
    (stops : rest.takeWhile Char.isDigit = []) :
    readInteger (decimalInt value ++ rest) = value := by
  have digits (number : Nat) :
      Nat.ofDigitChars 10 ((decimal number ++ rest).takeWhile Char.isDigit) 0 = number := by
    rw [takeWhile_isDigit_decimal number stops, decimal, Nat.ofDigitChars_ten_toDigits]
  cases value with
  | ofNat number =>
      rw [readInteger, decimalInt, readSign_decimal]
      exact congrArg Int.ofNat (digits number)
  | negSucc number =>
      have sign : readSign ((decimalInt (.negSucc number) ++ rest).dropWhile isSpace) =
          (true, decimal (number + 1) ++ rest) := rfl
      rw [readInteger, sign]
      exact congrArg (fun magnitude : Nat => -(magnitude : Int)) (digits (number + 1))

/-- A printed integer is read back. -/
theorem numify_decimalInt {value : Int} (fits : Fits value) {rest : List Char}
    (stops : rest.takeWhile Char.isDigit = []) :
    numify (decimalInt value ++ rest) = .int value := by
  rw [numify, readInteger_decimalInt value stops]
  exact if_pos fits

theorem decimalInt_injective : Function.Injective decimalInt := by
  intro left right same
  have values := congrArg readInteger same
  have first : readInteger (decimalInt left ++ []) = left := readInteger_decimalInt left rfl
  have second : readInteger (decimalInt right ++ []) = right := readInteger_decimalInt right rfl
  rw [List.append_nil] at first second
  rwa [first, second] at values

theorem decimalInt_plain (value : Int) : PlainWord (decimalInt value) := by
  have digits (number : Nat) : ∀ character ∈ decimal number, isIfs character = false :=
    fun character member => (decimal_plain member).1
  cases value with
  | ofNat number => exact ⟨Nat.toDigits_ne_nil, digits number⟩
  | negSucc number =>
      refine ⟨List.cons_ne_nil _ _, fun character member => ?_⟩
      rcases List.mem_cons.mp member with rfl | later
      · decide
      · exact digits _ character later

theorem e_mem_scientific (number : Nat) : 'e' ∈ scientific number := by
  simp [scientific]

theorem nvText_plain (value : Int) : PlainWord (nvText value) := by
  have digits {number : Nat} {character : Char} (member : character ∈ decimal number) :
      isIfs character = false :=
    (decimal_plain member).1
  have trimmed {number : Nat} {character : Char}
      (member : character ∈ (decimal number).rdropWhile (· = '0')) : isIfs character = false :=
    digits ((List.rdropWhile_prefix _ _).subset member)
  have noIfs (number : Nat) : ∀ character ∈ scientific number, isIfs character = false := by
    intro character member
    simp only [scientific, padZero, List.mem_append, List.mem_replicate] at member
    rcases member with ((front | point) | mark) | zero | exponent
    · exact trimmed (List.mem_of_mem_take front)
    · split at point
      · cases point
      · rcases List.mem_cons.mp point with rfl | later
        · decide
        · exact trimmed (List.mem_of_mem_drop later)
    · have isMark : character = 'e' ∨ character = '+' := by simpa using mark
      rcases isMark with rfl | rfl <;> decide
    · rw [zero.2]
      decide
    · exact digits exponent
  rw [nvText]
  split
  · exact decimalInt_plain value
  · refine ⟨?_, fun character member => ?_⟩
    · exact List.ne_nil_of_mem (List.mem_append_right _ (e_mem_scientific _))
    · rcases List.mem_append.mp member with sign | number
      · split at sign
        · rw [List.mem_singleton.mp sign]
          decide
        · cases sign
      · exact noIfs _ character number

theorem Num.text_plain (number : Num) : PlainWord number.text := by
  cases number with
  | int value => exact decimalInt_plain value
  | nv value => exact nvText_plain value

theorem e_mem_nvText {value : Int} (large : 10 ^ 15 ≤ value.natAbs) : 'e' ∈ nvText value := by
  rw [nvText, if_neg large.not_gt]
  exact List.mem_append_right _ (e_mem_scientific _)

theorem e_notMem_decimalInt (value : Int) : 'e' ∉ decimalInt value := by
  have notDigit (number : Nat) : 'e' ∉ decimal number := by
    intro member
    cases (decimal_plain member).2.2
  cases value with
  | ofNat number => exact notDigit number
  | negSucc number =>
      intro member
      rcases List.mem_cons.mp member with same | later
      · cases same
      · exact notDigit _ later

end McKernelTest.Perl
