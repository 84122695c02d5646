import McKernelTest.Machine.Word
import Mathlib.Data.List.Basic
import Mathlib.Algebra.Group.Int.Defs
import Mathlib.Algebra.Group.Nat.Defs

/-!
# Reading decimal numerals

The conversions of the C library from texts to machine integers.  `atoi` is
`strtol` in base ten followed by the conversion from a 64-bit `long` to a
32-bit `int`.
-/

namespace McKernelTest.Text

/-- `isspace` in the C locale. -/
def isSpace (character : Char) : Bool :=
  character = ' ' || (9 ≤ character.toNat && character.toNat ≤ 13)

/-- `LONG_MAX`. -/
def longMax : Int := 2 ^ 63 - 1

/-- `LONG_MIN`. -/
def longMin : Int := -2 ^ 63

/-- Split an optional sign off a numeral; the flag says whether it is minus. -/
def readSign : List Char → Bool × List Char
  | '-' :: rest => (true, rest)
  | '+' :: rest => (false, rest)
  | text => (false, text)

/-- `strtol` in base ten: leading blanks, an optional sign, and as many digits
as there are, saturating at the ends of the type. -/
def strtol (text : List Char) : Int :=
  let (negative, digits) := readSign (text.dropWhile isSpace)
  let magnitude : Int := Nat.ofDigitChars 10 (digits.takeWhile Char.isDigit) 0
  if negative then max (-magnitude) longMin else min magnitude longMax

/-- `INT_MIN`. -/
def intMin : Int := -2 ^ 31

/-- `atoi`. -/
def atoi (text : List Char) : Int :=
  Machine.toInt (strtol text)

section Digits

variable {character : Char} {rest : List Char}

theorem isDigit_bounds (digit : character.isDigit = true) :
    48 ≤ character.toNat ∧ character.toNat ≤ 57 := by
  simpa [Char.isDigit, UInt32.le_iff_toNat_le] using digit

theorem isSpace_of_isDigit (digit : character.isDigit = true) : isSpace character = false := by
  have bounds := isDigit_bounds digit
  have noBlank : character ≠ ' ' := by
    rintro rfl
    simp at digit
  simp only [isSpace, noBlank, decide_false, Bool.false_or, Bool.and_eq_false_iff,
    decide_eq_false_iff_not]
  omega

/-- A numeral without a sign begins at once. -/
theorem readSign_of_isDigit (digit : character.isDigit = true) :
    readSign ((character :: rest).dropWhile isSpace) = (false, character :: rest) := by
  rw [List.dropWhile_cons_of_neg (by simp [isSpace_of_isDigit digit]), readSign]
  all_goals
    intro tail equal
    rw [(List.cons.inj equal).1] at digit
    simp at digit

end Digits

end McKernelTest.Text
