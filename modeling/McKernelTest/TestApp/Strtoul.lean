import McKernelTest.Machine.Word
import McKernelTest.Text.Strtoll

/-!
# Numbers on the command line

`test_mck_strtoul` reads an `unsigned long` through `strtoll`.  The signed
conversion saturates at `2 ^ 63`, and the saturated result is taken for a failed
conversion, so the upper half of the type cannot be read.
-/

namespace McKernelTest.TestApp

open Text Machine

/-- `test_mck_strtoul`; a NULL pointer is `none`. -/
def testMckStrtoul (nptr : Option (List Char)) (defaultValue : Nat) : Nat :=
  match nptr with
  | none => defaultValue
  | some text =>
      let conversion := strtoll text
      let ret := toUlong conversion.value
      if ret = 0 ∧ conversion.endptr = 0 then
        defaultValue
      else if (ret = toUlong longMin ∨ ret = toUlong longMax) ∧ conversion.erange then
        defaultValue
      else
        ret

/-- The three ways of printing an `unsigned long`. -/
def renderings (number : Nat) : List (List Char) :=
  [decimal number, hexadecimal number, octal number]

/-- Reading undoes printing for a number and a default value; the default is what
comes back for a text without a number and for a number above the type. -/
structure UndoesPrinting (number defaultValue : Nat) : Prop where
  printed : ∀ text ∈ renderings number, testMckStrtoul (some text) defaultValue = number
  noNumber : ∀ text, ¬BeginsWithNumber text → testMckStrtoul (some text) defaultValue = defaultValue
  tooLarge : ∀ text value rest, leadingNumber text = some (value, rest) → 2 ^ 64 ≤ value →
    testMckStrtoul (some text) defaultValue = defaultValue

section

variable {text rest : List Char} {value : Int} (defaultValue : Nat)

/-- A text without a number. -/
theorem testMckStrtoul_none (noNumber : leadingNumber text = none) :
    testMckStrtoul (some text) defaultValue = defaultValue := by
  simp [testMckStrtoul, strtoll, noNumber, toUlong]

/-- A number that a `long long` can hold. -/
theorem testMckStrtoul_of_fits (number : leadingNumber text = some (value, rest))
    (least : longMin ≤ value) (greatest : value ≤ longMax) :
    testMckStrtoul (some text) defaultValue = toUlong value := by
  have moved := length_lt_of_leadingNumber number
  have endptr : text.length - rest.length ≠ 0 := by omega
  simp [testMckStrtoul, strtoll, number, least.not_gt, greatest.not_gt, endptr]

/-- A number above the range of `long long` is taken for a failure. -/
theorem testMckStrtoul_of_saturates (number : leadingNumber text = some (value, rest))
    (large : longMax < value) : testMckStrtoul (some text) defaultValue = defaultValue := by
  simp [testMckStrtoul, strtoll, number, large]

end

theorem leadingNumber_of_mem_renderings {number : Nat} {text : List Char}
    (rendering : text ∈ renderings number) : leadingNumber text = some ((number : Int), []) := by
  simp only [renderings, List.mem_cons, List.not_mem_nil, or_false] at rendering
  rcases rendering with rfl | rfl | rfl
  · exact leadingNumber_decimal number
  · exact leadingNumber_hexadecimal number
  · exact leadingNumber_octal number

/-- Reading undoes printing exactly below `2 ^ 63`, or where the default happens to
be the number itself. -/
theorem strtoul_undoes_printing_iff (number defaultValue : Nat) :
    UndoesPrinting number defaultValue ↔ number < 2 ^ 63 ∨ defaultValue = number := by
  constructor
  · intro undoes
    rcases Nat.lt_or_ge number (2 ^ 63) with small | large
    · exact Or.inl small
    · have saturates := testMckStrtoul_of_saturates defaultValue (leadingNumber_decimal number)
        (by rw [longMax]; omega)
      exact Or.inr (saturates.symm.trans (undoes.printed _ (by simp [renderings])))
  · intro condition
    refine ⟨fun text rendering => ?_, fun text noNumber => ?_,
      fun text value rest found above => ?_⟩
    · have found := leadingNumber_of_mem_renderings rendering
      rcases Nat.lt_or_ge number (2 ^ 63) with small | large
      · rw [testMckStrtoul_of_fits defaultValue found (by rw [longMin]; omega)
          (by rw [longMax]; omega), toUlong_natCast (by omega)]
      · rw [testMckStrtoul_of_saturates defaultValue found (by rw [longMax]; omega)]
        exact condition.resolve_left large.not_gt
    · exact testMckStrtoul_none defaultValue (leadingNumber_eq_none noNumber)
    · exact testMckStrtoul_of_saturates defaultValue found (by rw [longMax]; omega)

/-- The kernel address `0xffff880000000000` is read as the default value 0. -/
theorem kernel_address_not_read : ¬UndoesPrinting 0xffff880000000000 0 := by
  intro undoes
  have read : testMckStrtoul (some "0xffff880000000000".toList) 0 = 0 := by decide
  exact absurd (read.symm.trans (undoes.printed _ (by decide))) (by decide)

end McKernelTest.TestApp
