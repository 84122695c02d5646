import McKernelTest.Machine.Word
import McKernelTest.Text.Format
import McKernelTest.Text.Numeral
import Mathlib.Data.List.TakeWhile
import Mathlib.Data.Nat.Digits.Defs

/-!
# Reading numerals of any base

`strtoll` with base 0 chooses the base by the beginning of the numeral, as C does
for its constants, and saturates at the ends of the type.  What a number is at
the front of a text is separated from what the function makes of it.
-/

namespace McKernelTest.Text

/-! ## Digits -/

/-- The value of a digit in any base up to 36. -/
def digitValue (character : Char) : Option Nat :=
  if character.isDigit then some (character.toNat - '0'.toNat)
  else if character.isLower then some (character.toNat - 'a'.toNat + 10)
  else if character.isUpper then some (character.toNat - 'A'.toNat + 10)
  else none

/-- Whether a character is a digit of the base. -/
def isDigitIn (base : Nat) (character : Char) : Bool :=
  (digitValue character).any (· < base)

/-- The value of a sequence of digits. -/
def numeralValue (base : Nat) (digits : List Char) : Nat :=
  digits.foldl (fun value digit => base * value + (digitValue digit).getD 0) 0

/-! ## The number at the front of a text -/

/-- The base of a numeral, and the numeral without `0x`. -/
def readBase : List Char → Nat × List Char
  | '0' :: mark :: digit :: rest =>
      if (mark = 'x' ∨ mark = 'X') ∧ isDigitIn 16 digit then (16, digit :: rest)
      else (8, '0' :: mark :: digit :: rest)
  | '0' :: rest => (8, '0' :: rest)
  | text => (10, text)

/-- The number that follows blanks and a sign, with the text behind it. -/
def leadingNumber (text : List Char) : Option (Int × List Char) :=
  let (negative, unsigned) := readSign (text.dropWhile isSpace)
  let (base, numeral) := readBase unsigned
  let digits := numeral.takeWhile (isDigitIn base)
  if digits = [] then
    none
  else
    let magnitude : Int := numeralValue base digits
    some (if negative then -magnitude else magnitude, numeral.drop digits.length)

/-- What `strtoll` returns, how far it moves its end pointer, and whether it sets
`errno` to `ERANGE`. -/
structure Conversion where
  value : Int
  endptr : Nat
  erange : Bool

/-- `strtoll` with base 0.  Without a number the end pointer stays at the
beginning. -/
def strtoll (text : List Char) : Conversion :=
  match leadingNumber text with
  | none => ⟨0, 0, false⟩
  | some (value, rest) =>
      let endptr := text.length - rest.length
      if value > longMax then ⟨longMax, endptr, true⟩
      else if value < longMin then ⟨longMin, endptr, true⟩
      else ⟨value, endptr, false⟩

/-- A digit follows the blanks and the sign of a text. -/
def BeginsWithNumber (text : List Char) : Prop :=
  ∃ digit rest, (readSign (text.dropWhile isSpace)).2 = digit :: rest ∧ digit.isDigit = true

/-! ## Printed numbers -/

/-- The conversion `0x%lx`. -/
def hexadecimal (number : Nat) : List Char :=
  '0' :: 'x' :: Nat.toDigits 16 number

/-- The conversion `0%lo`. -/
def octal (number : Nat) : List Char :=
  '0' :: Nat.toDigits 8 number

/-- Printed numbers grow digit by digit. -/
theorem toDigits_induction (base : Nat) {motive : Nat → List Char → Prop} (large : 1 < base)
    (single : ∀ digit < base, motive digit [digit.digitChar])
    (snoc : ∀ number text, ∀ digit < base, 0 < number → motive number text →
      motive (base * number + digit) (text ++ [digit.digitChar]))
    (number : Nat) : motive number (Nat.toDigits base number) := by
  induction number using Nat.strong_induction_on with
  | _ number ih =>
      rcases Nat.lt_or_ge number base with small | more
      · rw [Nat.toDigits_of_lt_base small]
        exact single number small
      · have shorter : number / base < number :=
          Nat.div_lt_self (Nat.zero_lt_of_lt (large.trans_le more)) large
        have last := Nat.mod_lt number (Nat.zero_lt_of_lt large)
        have front := Nat.div_pos more (Nat.zero_lt_of_lt large)
        have extended := snoc _ _ _ last front (ih _ shorter)
        rwa [Nat.div_add_mod, ← Nat.toDigits_of_base_le large more] at extended

theorem digitValue_digitChar : ∀ digit < 16, digitValue digit.digitChar = some digit := by
  decide

section Printed

variable (base : Nat) (large : 1 < base) (small : base ≤ 16) (number : Nat)

include large small

theorem isDigitIn_toDigits :
    ∀ character ∈ Nat.toDigits base number, isDigitIn base character = true := by
  have digit_isDigitIn : ∀ digit < base, isDigitIn base digit.digitChar = true := by
    intro digit bound
    rw [isDigitIn, digitValue_digitChar digit (bound.trans_le small)]
    simpa using bound
  refine toDigits_induction base (motive := fun _ text => ∀ character ∈ text,
    isDigitIn base character = true) large ?_ ?_ number
  · intro digit bound character member
    rw [List.mem_singleton.mp member]
    exact digit_isDigitIn digit bound
  · intro _ text digit bound _ digits character member
    rcases List.mem_append.mp member with member | member
    · exact digits character member
    · rw [List.mem_singleton.mp member]
      exact digit_isDigitIn digit bound

theorem numeralValue_toDigits : numeralValue base (Nat.toDigits base number) = number := by
  refine toDigits_induction base
    (motive := fun number text => numeralValue base text = number) large ?_ ?_ number
  · intro digit bound
    simp [numeralValue, digitValue_digitChar digit (bound.trans_le small)]
  · intro number text digit bound _ value
    rw [numeralValue] at value
    simp [numeralValue, value, digitValue_digitChar digit (bound.trans_le small)]

end Printed

/-- A decimal numeral has no leading zeros. -/
theorem decimal_head {number : Nat} (zero : (decimal number).head? = some '0') : number = 0 := by
  have table : ∀ digit < 10, Nat.digitChar digit = '0' → digit = 0 := by decide
  have canonical := toDigits_induction 10
    (motive := fun number text => text ≠ [] ∧ (text.head? = some '0' → number = 0))
    (by decide) ?_ ?_ number
  · exact canonical.2 zero
  · intro digit bound
    refine ⟨by simp, fun zero => table digit bound ?_⟩
    simpa using zero
  · rintro number text digit bound positive ⟨nonempty, front⟩
    refine ⟨by simp, fun zero => ?_⟩
    rw [List.head?_append_of_ne_nil _ nonempty] at zero
    exact absurd (front zero) positive.ne'

/-! ## The number at the front of a printed number -/

/-- A numeral without a sign begins at once. -/
theorem leadingNumber_of_isDigit {character : Char} {rest : List Char}
    (digit : character.isDigit = true) :
    leadingNumber (character :: rest) =
      let (base, numeral) := readBase (character :: rest)
      let digits := numeral.takeWhile (isDigitIn base)
      if digits = [] then none
      else some ((numeralValue base digits : Int), numeral.drop digits.length) := by
  rw [leadingNumber, readSign_of_isDigit digit]
  rfl

/-- A numeral that consists of digits of its base is read to its end. -/
theorem leadingNumber_of_readBase {character : Char} {rest numeral : List Char} {base : Nat}
    (digit : character.isDigit = true) (isBase : readBase (character :: rest) = (base, numeral))
    (nonempty : numeral ≠ []) (digits : ∀ character ∈ numeral, isDigitIn base character = true) :
    leadingNumber (character :: rest) = some ((numeralValue base numeral : Int), []) := by
  have whole : numeral.takeWhile (isDigitIn base) = numeral :=
    List.takeWhile_eq_self_iff.mpr digits
  rw [leadingNumber_of_isDigit digit, isBase]
  simp [whole, nonempty]

theorem readBase_of_ne_zero {character : Char} {rest : List Char} (nonzero : character ≠ '0') :
    readBase (character :: rest) = (10, character :: rest) := by
  rw [readBase]
  · intro mark digit tail equal
    exact nonzero (List.cons.inj equal).1
  · intro tail equal
    exact nonzero (List.cons.inj equal).1

theorem readBase_hexadecimal {digit : Char} {rest : List Char} (isHex : isDigitIn 16 digit = true) :
    readBase ('0' :: 'x' :: digit :: rest) = (16, digit :: rest) := by
  simp [readBase, isHex]

theorem readBase_octal {rest : List Char}
    (digits : ∀ character ∈ rest, isDigitIn 8 character = true) :
    readBase ('0' :: rest) = (8, '0' :: rest) := by
  match rest with
  | [] => rfl
  | [_] => rfl
  | mark :: digit :: rest =>
      have isOctal := digits mark (by simp)
      have noMark : ¬(mark = 'x' ∨ mark = 'X') := by
        rintro (rfl | rfl) <;> revert isOctal <;> decide
      simp [readBase, noMark]

theorem leadingNumber_decimal (number : Nat) :
    leadingNumber (decimal number) = some ((number : Int), []) := by
  rcases Nat.eq_zero_or_pos number with rfl | positive
  · decide
  · have value := numeralValue_toDigits 10 (by decide) (by decide) number
    have digits := isDigitIn_toDigits 10 (by decide) (by decide) number
    obtain ⟨first, rest, text⟩ :=
      List.exists_cons_of_ne_nil (Nat.toDigits_ne_nil (n := number) (b := 10))
    have isDigit : first.isDigit = true :=
      Nat.isDigit_of_mem_toDigits (b := 10) (n := number) (by decide) (by decide) (by simp [text])
    have nonzero : first ≠ '0' := by
      rintro rfl
      have head : (decimal number).head? = some '0' := by rw [decimal, text, List.head?_cons]
      exact positive.ne' (decimal_head head)
    rw [text] at value digits
    rw [decimal, text,
      leadingNumber_of_readBase isDigit (readBase_of_ne_zero nonzero) (by simp) digits, value]

theorem leadingNumber_hexadecimal (number : Nat) :
    leadingNumber (hexadecimal number) = some ((number : Int), []) := by
  have value := numeralValue_toDigits 16 (by decide) (by decide) number
  have digits := isDigitIn_toDigits 16 (by decide) (by decide) number
  obtain ⟨first, rest, text⟩ :=
    List.exists_cons_of_ne_nil (Nat.toDigits_ne_nil (n := number) (b := 16))
  rw [text] at value digits
  rw [hexadecimal, text, leadingNumber_of_readBase (by decide)
    (readBase_hexadecimal (digits first (by simp))) (by simp) digits, value]

theorem leadingNumber_octal (number : Nat) :
    leadingNumber (octal number) = some ((number : Int), []) := by
  have value := numeralValue_toDigits 8 (by decide) (by decide) number
  have digits := isDigitIn_toDigits 8 (by decide) (by decide) number
  have withZero : ∀ character ∈ '0' :: Nat.toDigits 8 number, isDigitIn 8 character = true := by
    intro character member
    rcases List.mem_cons.mp member with rfl | member
    · decide
    · exact digits character member
  rw [octal, leadingNumber_of_readBase (by decide) (readBase_octal digits) (by simp) withZero]
  -- the leading zero does not count
  rw [show numeralValue 8 ('0' :: Nat.toDigits 8 number) = numeralValue 8 (Nat.toDigits 8 number)
    from rfl, value]

/-! ## Texts in general -/

theorem isDigitIn_ten {character : Char} (notDigit : character.isDigit = false) :
    isDigitIn 10 character = false := by
  rw [isDigitIn, digitValue]
  split
  · simp_all
  · split
    · simp
    · split <;> simp

theorem leadingNumber_eq_none {text : List Char} (noNumber : ¬BeginsWithNumber text) :
    leadingNumber text = none := by
  rcases sign : readSign (text.dropWhile isSpace) with ⟨negative, unsigned⟩
  rw [leadingNumber, sign]
  cases unsigned with
  | nil => rfl
  | cons first rest =>
      have notDigit : first.isDigit = false := by
        by_contra digit
        exact noNumber ⟨first, rest, by rw [sign], by simpa using digit⟩
      have nonzero : first ≠ '0' := by
        rintro rfl
        simp at notDigit
      simp [readBase_of_ne_zero nonzero, isDigitIn_ten notDigit]

theorem readSign_length_le (text : List Char) : (readSign text).2.length ≤ text.length := by
  unfold readSign
  split <;> simp

theorem readBase_length_le (text : List Char) : (readBase text).2.length ≤ text.length := by
  unfold readBase
  split
  · split <;> simp
  · exact Nat.le_refl _
  · exact Nat.le_refl _

/-- A number that has been read is not empty. -/
theorem length_lt_of_leadingNumber {text rest : List Char} {value : Int}
    (found : leadingNumber text = some (value, rest)) : rest.length < text.length := by
  have blanks := (List.dropWhile_suffix (l := text) isSpace).length_le
  have sign := readSign_length_le (text.dropWhile isSpace)
  have base := readBase_length_le (readSign (text.dropWhile isSpace)).2
  have digits := (List.takeWhile_prefix (l := (readBase (readSign (text.dropWhile isSpace)).2).2)
    (isDigitIn (readBase (readSign (text.dropWhile isSpace)).2).1)).length_le
  simp only [leadingNumber] at found
  rcases Option.ite_none_left_eq_some.mp found with ⟨nonempty, equal⟩
  have positive := List.length_pos_of_ne_nil nonempty
  have tail := (Prod.mk.inj (Option.some.inj equal)).2
  rw [← tail, List.length_drop]
  omega

/-! ## Unsigned numbers -/

/-- `strtoul` with base 0.  A number with a sign is negated in the type. -/
def strtoul (text : List Char) : Nat :=
  match leadingNumber text with
  | none => 0
  | some (value, _) => if 2 ^ 64 ≤ value.natAbs then 2 ^ 64 - 1 else Machine.toUlong value

end McKernelTest.Text
